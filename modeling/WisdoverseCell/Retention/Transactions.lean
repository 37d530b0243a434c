import WisdoverseCell.Library.Transition
import WisdoverseCell.Retention.KnowledgeStore
import WisdoverseCell.Retention.RetentionStore

/-!
# Concurrent transactions

Any number of clients append audit events, publish, revise and delete knowledge pointers and run retention on one store.
A step is one statement; a company's row is locked from the tombstone check of a publication to its commit, and during a
retention run.
-/

namespace WisdoverseCell.Retention

open List Option
open ControlPlane (Time Runtime Artifact)

variable {i : Nat}

/-! ### States -/

inductive AppendStage
  | live
  | again
  | insert
  deriving DecidableEq

/-- An append in progress; `late` notes that its key was recorded when it began. -/
structure Append where
  event : AuditEvent
  stage : AppendStage
  late : Bool

inductive KnowledgeTask
  | creating (record : KnowledgeRecord) (actorId : String)
  /-- Has the lock and has found no tombstone. -/
  | holding (record : KnowledgeRecord) (actorId : String)
  | revising (revised : KnowledgeRecord) (expectedVersion : Nat) (actorId : String)
  | deleting (deleted : KnowledgeRecord) (tombstone : KnowledgeTombstone) (actorId : String)

/-- A row that was inserted by an append, and the outbox event that was added with it. -/
structure Creation where
  event : AuditEvent
  outboxId : Option String

/-- What happened so far; no step reads it. -/
structure History where
  answers : List (AuditEvent × AuditEvent)
  created : List Creation
  revisions : List (String × Nat)
  issued : List (String × String)

structure Sys where
  db : Db
  clock : Time
  appends : List Append
  tasks : List KnowledgeTask
  history : History

inductive Act
  | tick (d : Nat)
  | createCompany (companyId : String)
  | createArtifact (artifact : Artifact)
  | createRole (role : ReaderRole)
  | beginAppend (principal : Option String) (event : AuditEvent)
  | continueAppend (i : Nat)
  | insertAppend (i : Nat) (outboxId : String)
  | abandonAppend (i : Nat)
  | markPublished (eventId : String)
  | markFailed (eventId error : String)
  | publish (call : PublishCall) (expectedVersion : Option Nat) (uuid : String)
  | lockCompany (i : Nat)
  | revise (call : PublishCall) (knowledgeId : String) (expectedVersion : Option Nat)
  | delete (knowledgeId companyId actorId : String)
  | commitTask (i : Nat) (principal : Option String) (auditEventId : String)
  | abandonTask (i : Nat)
  | retention (sampled : Time) (days : Nat) (command : RetentionCommand) (requestId : Option String) (locks : RowLocks)

/-! ### Appends -/

def keyRecorded (rt : Runtime) (db : Db) (e : AuditEvent) : Bool :=
  (lookRetained rt db e).isSome || (lookLive db e).isSome

def firstStage (e : AuditEvent) : AppendStage := if e.idempotencyKey = none then .insert else .live

def beginAppend (rt : Runtime) (s : Sys) (principal : Option String) (event : AuditEvent) : Option Sys :=
  match (event.byPrincipal principal).forAppend with
  | .error _ => none
  | .ok e =>
    match lookRetained rt s.db e with
    | some answer => some { s with history := { s.history with answers := s.history.answers ++ [(e, answer)] } }
    | none => some { s with appends := s.appends ++ [⟨e, firstStage e, keyRecorded rt s.db e⟩] }

def afterLookup (s : Sys) (i : Nat) (p : Append) (found : Option AuditEvent) (next : AppendStage) : Sys :=
  match found with
  | some answer => { s with
      appends := s.appends.eraseIdx i
      history := { s.history with answers := s.history.answers ++ [(p.event, answer)] } }
  | none => { s with appends := s.appends.set i { p with stage := next } }

def continueAppend (rt : Runtime) (s : Sys) (i : Nat) (p : Append) : Option Sys :=
  match p.stage with
  | .live => some (afterLookup s i p (lookLive s.db p.event) .again)
  | .again => some (afterLookup s i p (lookRetained rt s.db p.event) .insert)
  | .insert => none

def creationOf (e : AuditEvent) (outboxId : String) : Creation :=
  ⟨e, if auditEventCarriesDomainEvent e then some outboxId else none⟩

/-- Insert and commit; a constraint that fails ends the transaction. -/
def insertAppend (s : Sys) (i : Nat) (p : Append) (outboxId : String) : Option Sys :=
  if p.stage = .insert then
    match insertAuditEvent s.db p.event outboxId with
    | .error _ => some { s with appends := s.appends.eraseIdx i }
    | .ok db => some { s with
        db := db
        appends := s.appends.eraseIdx i
        history := { s.history with
          answers := s.history.answers ++ [(p.event, p.event)]
          created := s.history.created ++ [creationOf p.event outboxId] } }
  else none

/-! ### Knowledge tasks -/

def Sys.companyLocked (s : Sys) (companyId : String) : Bool :=
  s.tasks.any (fun
    | .holding record _ => record.companyId = companyId
    | .creating _ _ | .revising _ _ _ | .deleting _ _ _ => false)

def lockCompany (s : Sys) (i : Nat) : KnowledgeTask → Option Sys
  | .creating record actorId =>
    if s.companyLocked record.companyId then none
    else if knowledgeIdFree s.db record.knowledgeId then
      some { s with tasks := s.tasks.set i (.holding record actorId) }
    else some { s with tasks := s.tasks.eraseIdx i }
  | .holding _ _ | .revising _ _ _ | .deleting _ _ _ => none

def KnowledgeTask.write (db : Db) : KnowledgeTask → Except Refusal Db
  | .creating record _ => .error (.invalid record.knowledgeId)
  | .holding record _ => insertKnowledge db record
  | .revising revised expectedVersion _ => reviseKnowledge db revised expectedVersion
  | .deleting deleted tombstone _ => deleteKnowledge db deleted tombstone

def KnowledgeTask.audit (auditEventId : String) (now : Time) : KnowledgeTask → AuditEvent
  | .creating record actorId | .holding record actorId =>
    knowledgeAudit auditEventId record.companyId actorId "knowledge.published" record.knowledgeId
      (publishedDetail record) now
  | .revising revised _ actorId =>
    knowledgeAudit auditEventId revised.companyId actorId "knowledge.revised" revised.knowledgeId
      (publishedDetail revised) now
  | .deleting deleted tombstone actorId =>
    knowledgeAudit auditEventId deleted.companyId actorId "knowledge.deleted" deleted.knowledgeId
      (deletedDetail tombstone deleted) now

def KnowledgeTask.commit (rt : Runtime) (db : Db) (principal : Option String) (auditEventId : String) (now : Time)
    (task : KnowledgeTask) : Except Refusal Db := do
  let db₁ ← task.write db
  let (_, db₂) ← appendAuditEvent rt db₁ principal (task.audit auditEventId now) ""
  return db₂

def KnowledgeTask.revision : KnowledgeTask → List (String × Nat)
  | .revising revised expectedVersion _ => [(revised.knowledgeId, expectedVersion)]
  | .creating _ _ | .holding _ _ | .deleting _ _ _ => []

def commitTask (rt : Runtime) (s : Sys) (i : Nat) (principal : Option String) (auditEventId : String)
    (task : KnowledgeTask) : Sys :=
  match task.commit rt s.db principal auditEventId s.clock with
  | .error _ => { s with tasks := s.tasks.eraseIdx i }
  | .ok db => { s with
      db := db
      tasks := s.tasks.eraseIdx i
      history := { s.history with revisions := s.history.revisions ++ task.revision } }

/-! ### Steps -/

def Sys.start (s : Sys) (task : Except Refusal KnowledgeTask) : Option Sys :=
  match task with
  | .error _ => none
  | .ok task => some { s with tasks := s.tasks ++ [task] }

def startPublish (s : Sys) (call : PublishCall) (expectedVersion : Option Nat) (uuid : String) : Option Sys :=
  match planPublish s.db call expectedVersion uuid s.clock with
  | .error _ => none
  | .ok record => some { s with
      tasks := s.tasks ++ [.creating record call.actorId]
      history := { s.history with issued := s.history.issued ++ [(record.knowledgeId, record.companyId)] } }

def step (rt : Runtime) (s : Sys) : Act → Option Sys
  | .tick d => some { s with clock := s.clock + d }
  | .createCompany companyId =>
    (s.db.companies.insert companyId).map (fun companies => { s with db := { s.db with companies := companies } })
  | .createArtifact artifact =>
    (s.db.artifacts.insert artifact).map (fun artifacts => { s with db := { s.db with artifacts := artifacts } })
  | .createRole role => (s.db.roles.insert role).map (fun roles => { s with db := { s.db with roles := roles } })
  | .beginAppend principal event => beginAppend rt s principal event
  | .continueAppend i => s.appends[i]?.bind (continueAppend rt s i)
  | .insertAppend i outboxId => s.appends[i]?.bind (fun p => insertAppend s i p outboxId)
  | .abandonAppend i => some { s with appends := s.appends.eraseIdx i }
  | .markPublished eventId => some { s with db := markPublished s.clock s.db eventId }
  | .markFailed eventId error => some { s with db := markFailed s.db eventId error }
  | .publish call expectedVersion uuid => startPublish s call expectedVersion uuid
  | .lockCompany i => s.tasks[i]?.bind (lockCompany s i)
  | .revise call knowledgeId expectedVersion =>
    s.start ((planRevise s.db call knowledgeId expectedVersion s.clock).map (fun revised =>
      .revising revised (expectedVersion.getD 0) call.actorId))
  | .delete knowledgeId companyId actorId =>
    s.start ((planDelete s.db knowledgeId companyId actorId s.clock).map (fun (deleted, tombstone) =>
      .deleting deleted tombstone actorId))
  | .commitTask i principal auditEventId => s.tasks[i]?.map (commitTask rt s i principal auditEventId)
  | .abandonTask i => some { s with tasks := s.tasks.eraseIdx i }
  | .retention sampled days command requestId locks =>
    if sampled ≤ s.clock ∧ s.companyLocked command.companyId = false then
      (execute rt s.db days command requestId sampled locks).toOption.map (fun (_, db) => { s with db := db })
    else none

/-! ### Effects -/

structure SameRecords (db db' : Db) : Prop where
  auditEvents : db'.auditEvents = db.auditEvents
  auditTombstones : db'.auditTombstones = db.auditTombstones
  knowledge : db'.knowledge = db.knowledge
  knowledgeTombstones : db'.knowledgeTombstones = db.knowledgeTombstones

private theorem SameRecords.refl (db) : SameRecords db db := ⟨rfl, rfl, rfl, rfl⟩

/-- What the planning of a task makes sure of. -/
inductive Planned (s : Sys) (a : Act) : KnowledgeTask → History → Prop
  | creating {call expectedVersion uuid record} (hact : a = .publish call expectedVersion uuid)
      (hplan : planPublish s.db call expectedVersion uuid s.clock = .ok record) :
      Planned s a (.creating record call.actorId)
        { s.history with issued := s.history.issued ++ [(record.knowledgeId, record.companyId)] }
  | revising {revised expectedVersion actorId}
      (hversion : revised.version = expectedVersion + 1) (hdeleted : revised.deletedAt = none) :
      Planned s a (.revising revised expectedVersion actorId) s.history
  | deleting {deleted tombstone actorId}
      (hdeleted : deleted.deletedAt ≠ none) (hid : deleted.knowledgeId = tombstone.knowledgeId) :
      Planned s a (.deleting deleted tombstone actorId) s.history

variable {task : KnowledgeTask}

theorem Planned.history_eq {s a history} (h : Planned s a task history) :
    history.answers = s.history.answers ∧ history.created = s.history.created ∧
      history.revisions = s.history.revisions := by
  cases h <;> exact ⟨rfl, rfl, rfl⟩

inductive Effect (rt : Runtime) (s : Sys) (a : Act) (t : Sys) : Prop
  /-- Nothing to the records. -/
  | other (hdb : SameRecords s.db t.db) (happends : t.appends ⊆ s.appends) (htasks : t.tasks ⊆ s.tasks)
      (hhistory : t.history = s.history)
  /-- A lookup has found an earlier event. -/
  | answered {e answer} (hdb : t.db = s.db) (happends : t.appends ⊆ s.appends) (htasks : t.tasks = s.tasks)
      (hfound : lookRetained rt s.db e = some answer ∨ lookLive s.db e = some answer)
      (hhistory : t.history = { s.history with answers := s.history.answers ++ [(e, answer)] })
  /-- The first lookup has found none. -/
  | begun {e : _} (hdb : t.db = s.db) (hkey : e.idempotencyKey ≠ some "") (hnone : lookRetained rt s.db e = none)
      (happends : t.appends = s.appends ++ [⟨e, firstStage e, keyRecorded rt s.db e⟩]) (htasks : t.tasks = s.tasks)
      (hhistory : t.history = s.history)
  /-- The second one has found none. -/
  | notLive {p : _} (hdb : t.db = s.db) (hp : p ∈ s.appends) (hstage : p.stage = .live)
      (hnone : lookLive s.db p.event = none)
        (happends : ∀ q ∈ t.appends, q ∈ s.appends ∨ q = { p with stage := .again })
      (htasks : t.tasks = s.tasks) (hhistory : t.history = s.history)
  /-- The third one has found none. -/
  | notRetained {p : _} (hdb : t.db = s.db) (hp : p ∈ s.appends) (hstage : p.stage = .again)
      (hnone : lookRetained rt s.db p.event = none)
      (happends : ∀ q ∈ t.appends, q ∈ s.appends ∨ q = { p with stage := .insert }) (htasks : t.tasks = s.tasks)
      (hhistory : t.history = s.history)
  | inserted {i p outboxId} (hact : a = .insertAppend i outboxId)
      (hp : s.appends[i]? = some p) (hstage : p.stage = .insert)
      (hdb : insertAuditEvent s.db p.event outboxId = .ok t.db) (happends : t.appends ⊆ s.appends)
      (htasks : t.tasks = s.tasks) (hhistory : t.history = { s.history with
        answers := s.history.answers ++ [(p.event, p.event)]
        created := s.history.created ++ [creationOf p.event outboxId] })
  | planned {task : _} (hdb : t.db = s.db) (happends : t.appends = s.appends)
      (htasks : t.tasks = s.tasks ++ [task]) (hplanned : Planned s a task t.history)
  | locked {record actorId} (hdb : t.db = s.db) (happends : t.appends = s.appends)
      (htask : .creating record actorId ∈ s.tasks) (hfree : knowledgeIdFree s.db record.knowledgeId = true)
      (htasks : ∀ x ∈ t.tasks, x ∈ s.tasks ∨ x = .holding record actorId) (hhistory : t.history = s.history)
  | wrote {task db₁ e} (htask : task ∈ s.tasks) (hwrite : task.write s.db = .ok db₁)
      (hkey : e.idempotencyKey = none) (haudit : insertAuditEvent db₁ e "" = .ok t.db)
        (happends : t.appends = s.appends)
      (htasks : t.tasks ⊆ s.tasks)
      (hhistory : t.history = { s.history with revisions := s.history.revisions ++ task.revision })
  | purged {now cutoff command requestId locks receipt} (hfree : s.companyLocked command.companyId = false)
      (hdb : apply rt s.db command requestId now cutoff locks = .ok (receipt, t.db)) (happends : t.appends = s.appends)
      (htasks : t.tasks = s.tasks) (hhistory : t.history = s.history)

private theorem AuditEvent.forAppend_key {e e' : AuditEvent} (h : e.forAppend = .ok e') :
    e'.idempotencyKey ≠ some "" := by
  rw [(AuditEvent.forAppend_eq_ok h).1]
  intro he
  obtain ⟨v, -, hv⟩ := bind_eq_some_iff.1 he
  split at hv
  · cases hv
  · rename_i hne
    exact hne (some.inj hv)

section

variable {rt : Runtime} {s t : Sys} {a : Act}

private theorem beginAppend_effect {principal : Option String} {event}
    (h : beginAppend rt s principal event = some t) : Effect rt s a t := by
  unfold beginAppend at h
  split at h
  · cases h
  · rename_i e he
    split at h
    · rename_i answer hf
      cases h
      exact .answered rfl (Subset.refl _) rfl (.inl hf) rfl
    · rename_i hn
      cases h
      exact .begun rfl (AuditEvent.forAppend_key he) hn rfl rfl rfl

private theorem continueAppend_effect {p} (hp : p ∈ s.appends) (h : continueAppend rt s i p = some t) :
    Effect rt s a t := by
  unfold continueAppend at h
  split at h
  · rename_i hs
    cases h
    cases hf : lookLive s.db p.event with
    | some => exact .answered rfl (eraseIdx_subset) rfl (.inr hf) rfl
    | none => exact .notLive rfl hp hs hf (fun q hq => mem_or_eq_of_mem_set hq) rfl rfl
  · rename_i hs
    cases h
    cases hf : lookRetained rt s.db p.event with
    | some => exact .answered rfl (eraseIdx_subset) rfl (.inl hf) rfl
    | none => exact .notRetained rfl hp hs hf (fun q hq => mem_or_eq_of_mem_set hq) rfl rfl
  · cases h

private theorem insertAppend_effect {p outboxId} (hp : s.appends[i]? = some p)
    (h : insertAppend s i p outboxId = some t) : Effect rt s (.insertAppend i outboxId) t := by
  obtain ⟨hs, h⟩ := ite_none_right_eq_some.1 h
  split at h
  · cases h
    exact .other (.refl _) eraseIdx_subset (Subset.refl _) rfl
  · rename_i db hdb
    cases h
    exact .inserted rfl hp hs hdb eraseIdx_subset rfl rfl

private theorem lockCompany_effect (ht : task ∈ s.tasks) (h : lockCompany s i task = some t) : Effect rt s a t := by
  cases task with
  | creating =>
    obtain ⟨-, h⟩ := ite_none_left_eq_some.1 h
    split at h
    · rename_i hf
      cases h
      exact .locked rfl rfl ht hf (fun x hx => mem_or_eq_of_mem_set hx) rfl
    · cases h
      exact .other (.refl _) (Subset.refl _) eraseIdx_subset rfl
  | holding | revising | deleting => cases h

private theorem commitTask_effect {principal auditEventId} (ht : task ∈ s.tasks) :
    Effect rt s a (commitTask rt s i principal auditEventId task) := by
  unfold commitTask
  split
  · exact .other (.refl _) (Subset.refl _) eraseIdx_subset rfl
  · rename_i db hc
    simp only [KnowledgeTask.commit, eq_ok] at hc
    obtain ⟨db₁, hw, ⟨e, db₂⟩, ha, rfl⟩ := hc
    have hk : (task.audit auditEventId s.clock).idempotencyKey = none := by cases task <;> rfl
    obtain ⟨hn, had⟩ := appendAuditEvent_unkeyed hk ha
    exact .wrote ht hw hn had rfl eraseIdx_subset rfl

private theorem start_effect {task} (h : s.start task = some t)
    (hp : ∀ x, task = .ok x → Planned s a x s.history) : Effect rt s a t := by
  unfold Sys.start at h
  split at h
  · cases h
  · cases h
    exact .planned rfl rfl rfl (hp _ rfl)

/-- What a step does to the tables and to the tasks. -/
theorem step_effect (h : step rt s a = some t) : Effect rt s a t := by
  have ho {db : Db} (hdb : SameRecords s.db db) : Effect rt s a { s with db := db } :=
    .other hdb (Subset.refl _) (Subset.refl _) rfl
  cases a with
  | tick =>
    cases h
    exact .other (.refl _) (Subset.refl _) (Subset.refl _) rfl
  | createCompany =>
    obtain ⟨companies, -, rfl⟩ := map_eq_some_iff.1 h
    exact ho ⟨rfl, rfl, rfl, rfl⟩
  | createArtifact =>
    obtain ⟨artifacts, -, rfl⟩ := map_eq_some_iff.1 h
    exact ho ⟨rfl, rfl, rfl, rfl⟩
  | createRole =>
    obtain ⟨roles, -, rfl⟩ := map_eq_some_iff.1 h
    exact ho ⟨rfl, rfl, rfl, rfl⟩
  | beginAppend => exact beginAppend_effect h
  | continueAppend =>
    obtain ⟨p, hp, h⟩ := bind_eq_some_iff.1 h
    exact continueAppend_effect (mem_of_getElem? hp) h
  | insertAppend =>
    obtain ⟨p, hp, h⟩ := bind_eq_some_iff.1 h
    exact insertAppend_effect hp h
  | abandonAppend =>
    cases h
    exact .other (.refl _) eraseIdx_subset (Subset.refl _) rfl
  | markPublished =>
    cases h
    exact ho ⟨rfl, rfl, rfl, rfl⟩
  | markFailed =>
    cases h
    exact ho ⟨rfl, rfl, rfl, rfl⟩
  | publish =>
    simp only [step, startPublish] at h
    split at h
    · cases h
    · rename_i record hpl
      cases h
      exact .planned rfl rfl rfl (.creating rfl hpl)
  | lockCompany =>
    obtain ⟨task, ht, h⟩ := bind_eq_some_iff.1 h
    exact lockCompany_effect (mem_of_getElem? ht) h
  | revise call knowledgeId expectedVersion =>
    refine start_effect h (fun x hx => ?_)
    cases hpl : planRevise s.db call knowledgeId expectedVersion s.clock with
    | error => simp [hpl, Except.map] at hx
    | ok =>
      obtain ⟨expected, rfl, hv, hd⟩ := planRevise_eq_ok hpl
      rw [hpl] at hx
      cases hx
      exact .revising hv hd
  | delete knowledgeId companyId actorId =>
    refine start_effect h (fun x hx => ?_)
    cases hpl : planDelete s.db knowledgeId companyId actorId s.clock with
    | error => simp [hpl, Except.map] at hx
    | ok =>
      obtain ⟨hd, hid⟩ := planDelete_eq_ok hpl
      rw [hpl] at hx
      cases hx
      exact .deleting (by rw [hd]; simp) hid
  | commitTask =>
    obtain ⟨task, ht, rfl⟩ := map_eq_some_iff.1 h
    exact commitTask_effect (mem_of_getElem? ht)
  | abandonTask =>
    cases h
    exact .other (.refl _) (Subset.refl _) eraseIdx_subset rfl
  | retention =>
    obtain ⟨hf, h⟩ := ite_none_right_eq_some.1 h
    obtain ⟨⟨receipt, db⟩, he, rfl⟩ := map_eq_some_iff.1 h
    have hok := toOption_eq_some.1 he
    simp only [execute, eq_ok] at hok
    obtain ⟨-, -, -, -, ha⟩ := hok
    exact .purged hf.2 ha rfl rfl rfl

end

end WisdoverseCell.Retention
