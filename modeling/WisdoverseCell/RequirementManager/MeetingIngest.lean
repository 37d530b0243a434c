import Mathlib.Data.List.Basic

/-!
# Meeting ingestion and the search index

`ingest_meeting` writes in a transaction that its caller commits, and adds the requirements to the vector index on the
way, before the questions, the marker of the meeting and the event.  What fails after that takes back the transaction
but not the index.
-/

namespace WisdoverseCell.RequirementManager.MeetingIngest

open List

/-! ### Extractions -/

structure ExtractedRequirement where
  title : String
  description : String
  category : String
  priority : String
  sourceQuote : Option String

structure ExtractedQuestion where
  question : String
  context : Option String

structure Extraction where
  requirements : List ExtractedRequirement
  openQuestions : List ExtractedQuestion

structure Requirement extends ExtractedRequirement where
  id : String
  sourceMeetingIds : List String

structure OpenQuestion extends ExtractedQuestion where
  requirementId : String

structure Document where
  id : String
  title : String
  description : String
  category : String
  meetingId : String
  priority : String
  deriving DecidableEq

def searchIndexDocument (meetingId : String) (r : Requirement) : Document :=
  ⟨r.id, r.title, r.description, r.category, meetingId, r.priority⟩

/-- The rows of the extracted requirements, with the ids that are generated for them. -/
def materialize (meetingId : String) (newId : Nat → String) (extraction : Extraction) : List Requirement :=
  extraction.requirements.mapIdx (fun i r => ⟨r, newId i, [meetingId]⟩)

/-- All questions go to the first requirement. -/
def materializeOpenQuestions (extraction : Extraction) : List Requirement → List OpenQuestion
  | [] => []
  | first :: _ => extraction.openQuestions.map (fun q => ⟨q, first.id⟩)

/-! ### Ingestion -/

inductive Effect
  | createMeeting (meetingId : String)
  | extract
  | createRequirements (requirements : List Requirement)
  | index (documents : List Document)
  | createQuestions (questions : List OpenQuestion)
  | markProcessed (meetingId : String)
  | stage (meetingId : String) (requirementIds : List String)
  | commit

def beforeIndexing (meetingId : String) (requirements : List Requirement) : List Effect :=
  [.createMeeting meetingId, .extract, .createRequirements requirements]

def afterIndexing (meetingId : String) (requirements : List Requirement) (questions : List OpenQuestion) :
    List Effect :=
  (if questions.isEmpty then [] else [.createQuestions questions]) ++
    [.markProcessed meetingId, .stage meetingId (requirements.map Requirement.id)]

/-- What `ingest_meeting` and the commit of its caller do, one after the other. -/
def ingestMeeting (meetingId : String) (newId : Nat → String) (extraction : Extraction) : List Effect :=
  let requirements := materialize meetingId newId extraction
  if requirements.isEmpty then [.createMeeting meetingId, .extract, .markProcessed meetingId, .commit]
  else beforeIndexing meetingId requirements ++ .index (requirements.map (searchIndexDocument meetingId)) ::
    (afterIndexing meetingId requirements (materializeOpenQuestions extraction requirements) ++ [.commit])

structure Db where
  /-- The meetings, with their `processed` marks. -/
  meetings : List (String × Bool)
  requirements : List Requirement
  questions : List OpenQuestion
  outbox : List (String × List String)

def Db.apply (db : Db) : Effect → Db
  | .createMeeting meetingId => { db with meetings := db.meetings ++ [(meetingId, false)] }
  | .createRequirements requirements => { db with requirements := db.requirements ++ requirements }
  | .createQuestions questions => { db with questions := db.questions ++ questions }
  | .markProcessed meetingId =>
    { db with meetings := db.meetings.map (fun m => if m.1 = meetingId then (m.1, true) else m) }
  | .stage meetingId ids => { db with outbox := db.outbox ++ [(meetingId, ids)] }
  | .extract | .index _ | .commit => db

structure World where
  db : Db
  index : List Document

/-- Run the effects; `tx` is the database as the transaction sees it.  A failure ends the ingestion, except for one of
the index, which is logged. -/
def run (fails : Effect → Bool) : Db → World → List Effect → World
  | _, w, [] => w
  | tx, w, .index documents :: rest =>
    run fails tx (if fails (.index documents) then w else { w with index := w.index ++ documents }) rest
  | tx, w, .commit :: rest => if fails .commit then w else run fails tx { w with db := tx } rest
  | tx, w, e :: rest => if fails e then w else run fails (tx.apply e) w rest

variable {fails : Effect → Bool} {w : World} {meetingId : String} {newId : Nat → String} {extraction : Extraction}

/-- The documents that come into the index are those of requirements that are committed in the end. -/
def OnlyCommitted (w w' : World) : Prop := ∀ d ∈ w'.index, d ∈ w.index ∨ ∃ r ∈ w'.db.requirements, r.id = d.id

/-- The generated ids are new. -/
def Fresh (newId : Nat → String) (w : World) : Prop :=
  ∀ i, (∀ d ∈ w.index, d.id ≠ newId i) ∧ ∀ r ∈ w.db.requirements, r.id ≠ newId i

private theorem run_commit {tx effects} (hs : ∀ e ∈ effects ++ [.commit], fails e = false)
    (hw : ∀ e ∈ effects, e matches .createQuestions _ | .markProcessed _ | .stage _ _) :
    (run fails tx w (effects ++ [.commit])).index = w.index ∧
      (run fails tx w (effects ++ [.commit])).db.requirements = tx.requirements := by
  induction effects generalizing tx with
  | nil => simp [run, hs .commit (by simp)]
  | cons e effects ih =>
    obtain ⟨he, hs⟩ := forall_mem_cons.1 hs
    obtain ⟨hm, hw⟩ := forall_mem_cons.1 hw
    have := @ih (tx.apply e) hs hw
    cases e with
    | createQuestions => simpa [run, he, Db.apply] using this
    | markProcessed => simpa [run, he, Db.apply] using this
    | stage => simpa [run, he, Db.apply] using this
    | _ => cases hm

/-- If one of the writes or the commit fails, nothing is committed. -/
private theorem run_fails {tx effects} (hf : ∃ e ∈ effects ++ [.commit], fails e = true)
    (hw : ∀ e ∈ effects, e matches .createQuestions _ | .markProcessed _ | .stage _ _) :
    run fails tx w (effects ++ [.commit]) = w := by
  induction effects generalizing tx with
  | nil =>
    obtain ⟨e, he, hf⟩ := hf
    obtain rfl := mem_singleton.1 he
    exact if_pos hf
  | cons e effects ih =>
    obtain ⟨hm, hw⟩ := forall_mem_cons.1 hw
    have hr : fails e = false → run fails (tx.apply e) w (effects ++ [.commit]) = w := by
      intro he
      obtain ⟨x, hx, hf⟩ := hf
      rcases mem_cons.1 hx with rfl | hx
      · rw [he] at hf
        cases hf
      · exact ih ⟨x, hx, hf⟩ hw
    cases e with
    | createQuestions | markProcessed | stage =>
      simp only [cons_append, run]
      split
      · rfl
      · rename_i he
        exact hr (eq_false_of_ne_true he)
    | _ => cases hm

/-- Documents that are in the index stay there, so what comes after them has to succeed. -/
private theorem onlyCommitted_indexed {requirements effects tx} (hid : Fresh newId w) (hne : requirements ≠ [])
    (hids : ∀ r ∈ requirements, ∃ i, r.id = newId i) (htx : ∀ r ∈ requirements, r ∈ tx.requirements)
    (hw : ∀ e ∈ effects, e matches .createQuestions _ | .markProcessed _ | .stage _ _) :
    OnlyCommitted w (run fails tx { w with index := w.index ++ requirements.map (searchIndexDocument meetingId) }
      (effects ++ [.commit])) ↔ ∀ e ∈ effects ++ [.commit], fails e = false := by
  constructor
  · intro h e he
    by_contra hf
    rw [run_fails ⟨e, he, by simpa using hf⟩ hw] at h
    obtain ⟨first, hfirst⟩ := exists_mem_of_ne_nil _ hne
    obtain ⟨i, hi⟩ := hids first hfirst
    rcases h _ (mem_append_right _ (mem_map_of_mem hfirst)) with hd | ⟨r, hr, hrd⟩
    · exact (hid i).1 _ hd hi
    · exact (hid i).2 r hr (hrd.trans hi)
  · intro hs d hd
    rw [(run_commit hs hw).1] at hd
    rw [(run_commit hs hw).2]
    rcases mem_append.1 hd with hd | hd
    · exact .inl hd
    · obtain ⟨r, hr, rfl⟩ := mem_map.1 hd
      exact .inr ⟨r, htx r hr, rfl⟩

/-- The documents that come into the index are those of committed requirements exactly if nothing fails after they were
indexed. -/
theorem index_onlyCommitted_iff (hid : Fresh newId w) :
    OnlyCommitted w (run fails w.db w (ingestMeeting meetingId newId extraction)) ↔
      ∀ requirements, requirements = materialize meetingId newId extraction → requirements ≠ [] →
        (∀ e ∈ beforeIndexing meetingId requirements, fails e = false) →
        fails (.index (requirements.map (searchIndexDocument meetingId))) = false →
        ∀ e ∈ afterIndexing meetingId requirements (materializeOpenQuestions extraction requirements) ++ [.commit],
          fails e = false := by
  have hids : ∀ r ∈ materialize meetingId newId extraction, ∃ i, r.id = newId i := by
    intro r hr
    obtain ⟨i, hi, rfl⟩ := mem_mapIdx.1 hr
    exact ⟨i, rfl⟩
  rw [forall_eq, ingestMeeting]
  generalize materialize meetingId newId extraction = requirements at hids ⊢
  have hw : ∀ e ∈ afterIndexing meetingId requirements (materializeOpenQuestions extraction requirements),
      e matches .createQuestions _ | .markProcessed _ | .stage _ _ := by
    unfold afterIndexing
    split <;> simp
  generalize afterIndexing meetingId requirements (materializeOpenQuestions extraction requirements) = after at hw ⊢
  have hkept {w' : World} (hi : w'.index = w.index) : OnlyCommitted w w' := fun d hd => .inl (hi ▸ hd)
  by_cases hne : requirements = []
  · subst hne
    refine iff_of_true (hkept ?_) (fun h => absurd rfl h)
    simp only [isEmpty_nil, if_true, run]
    split_ifs <;> rfl
  · rw [if_neg (by simpa using hne), forall_prop_of_true hne]
    simp only [beforeIndexing, cons_append, nil_append, run, forall_mem_cons]
    split_ifs with h₁ h₂ h₃ hi
    · simp [h₁, hkept]
    · simp [h₂, hkept]
    · simp [h₃, hkept]
    · -- the index refuses the documents
      refine iff_of_true (hkept ?_) (fun _ hn => by rw [hi] at hn; cases hn)
      by_cases hs : ∀ e ∈ after ++ [.commit], fails e = false
      · exact (run_commit hs hw).1
      · rw [run_fails (by simpa using hs) hw]
    · rw [onlyCommitted_indexed hid hne hids (fun r hr => mem_append_right _ hr) hw]
      simp [h₁, h₂, h₃, hi]

def exportMeeting : Extraction := ⟨[⟨"Export", "CSV export", "feature", "high", none⟩], []⟩

def emptyWorld : World := ⟨⟨[], [], [], []⟩, []⟩

/-- Neither the indexing nor the commit succeeds. -/
theorem index_onlyCommitted_iff_export : Fresh (fun _ => "req_1") emptyWorld ∧
    OnlyCommitted emptyWorld (run (fun e => e matches .index _ | .commit) emptyWorld.db emptyWorld
      (ingestMeeting "mtg_1" (fun _ => "req_1") exportMeeting)) := by
  have hid : Fresh (fun _ => "req_1") emptyWorld := fun _ => ⟨forall_mem_nil _, forall_mem_nil _⟩
  exact ⟨hid, (index_onlyCommitted_iff hid).2 (fun _ _ _ _ hi => nomatch hi)⟩

/-- The commit fails, and the document of a requirement that was never stored stays in the index. -/
theorem index_keeps_uncommitted :
    ∃ fails : Effect → Bool, ∃ w w', w' = run fails w.db w (ingestMeeting "mtg_1" (fun _ => "req_1") exportMeeting) ∧
      w'.index.map Document.id = ["req_1"] ∧ w'.db.requirements.map Requirement.id = [] ∧ ¬OnlyCommitted w w' := by
  refine ⟨fun e => e matches .commit, emptyWorld, _, rfl, rfl, rfl, fun h => ?_⟩
  rcases h _ mem_cons_self with h | ⟨_, h, -⟩ <;> cases h

end WisdoverseCell.RequirementManager.MeetingIngest
