import WisdoverseCell.Retention.PurgeFrame
import WisdoverseCell.Retention.Transactions

/-!
# The life of a knowledge pointer

A pointer that was deleted or purged has a tombstone, which keeps its id from being used again: the check for it is made
under the lock that a retention run needs.  Revisions ask for the version they have read.  Ids are random UUIDs,
generated for one company only (`UniqueIds`).
-/

namespace WisdoverseCell.Retention

open List Table
open ControlPlane (Time Runtime)

variable {p : KnowledgeRecord → Bool} {db db₁ db' : Db} {now : Time} {k k' record : KnowledgeRecord}
  {task : KnowledgeTask} {issued : List (String × String)} {revisions : List (String × Nat)}

/-! ### What a step does to pointers -/

/-- The owner, the company and the source of a pointer. -/
def KnowledgeRecord.SameOrigin (k k' : KnowledgeRecord) : Prop :=
  k'.companyId = k.companyId ∧ k'.sourceArtifactId = k.sourceArtifactId ∧ k'.sourceCompanyId = k.sourceCompanyId ∧
    k'.ownerActorId = k.ownerActorId

private theorem KnowledgeRecord.SameOrigin.trans {k''} (h : k.SameOrigin k') (h' : k'.SameOrigin k'') :
    k.SameOrigin k'' :=
  ⟨h'.1.trans h.1, h'.2.1.trans h.2.1, h'.2.2.1.trans h.2.2.1, h'.2.2.2.trans h.2.2.2⟩

def Db.Tombstoned (db : Db) (knowledgeId : String) : Prop :=
  ∃ x ∈ db.knowledgeTombstones, x.knowledgeId = knowledgeId

/-- The changes of the knowledge tables, with the revisions they are; a new row has an id that was issued. -/
inductive PointerChange (issued : List (String × String)) (db db' : Db) : List (String × Nat) → Prop
  | same (hknowledge : db'.knowledge = db.knowledge) (htombstones : db'.knowledgeTombstones = db.knowledgeTombstones) :
      PointerChange issued db db' []
  | created {record : KnowledgeRecord} (hins : db.knowledge.insert record = some db'.knowledge)
      (hnew : record.deletedAt = none) (hissued : (record.knowledgeId, record.companyId) ∈ issued)
      (hfree : ¬ db.Tombstoned record.knowledgeId)
      (htombstones : db'.knowledgeTombstones = db.knowledgeTombstones) : PointerChange issued db db' []
  | revised {record k : KnowledgeRecord} {version : Nat} (hversion : record.version = version + 1)
      (hdeleted : record.deletedAt = none) (hk : k ∈ db.knowledge) (hcurrent : record.current version k = true)
      (hknowledge : db'.knowledge = db.knowledge.update (record.current version) (fun k => k.revisedBy record)
        (fun k => k.revisedBy_knowledgeId record))
      (htombstones : db'.knowledgeTombstones = db.knowledgeTombstones) :
      PointerChange issued db db' [(record.knowledgeId, version)]
  | deleted {record k : KnowledgeRecord} {tombstone : KnowledgeTombstone} (hdeleted : record.deletedAt ≠ none)
      (hid : record.knowledgeId = tombstone.knowledgeId) (hk : k ∈ db.knowledge)
      (hcurrent : record.current record.version k = true)
      (hknowledge : db'.knowledge = db.knowledge.update (record.current record.version) (fun k =>
        { k with deletedAt := record.deletedAt, deletedByActorId := record.deletedByActorId }) (fun _ => rfl))
      (htombstones : db.knowledgeTombstones.insert tombstone = some db'.knowledgeTombstones) :
        PointerChange issued db db' []
  | purged {rows : List KnowledgeRecord} (hrows : ∀ r ∈ rows, r ∈ db.knowledge)
      (hknowledge : ∀ k, k ∈ db'.knowledge ↔ k ∈ db.knowledge ∧ ∀ r ∈ rows, r.knowledgeId ≠ k.knowledgeId)
      (hkept : ∀ x ∈ db.knowledgeTombstones, x ∈ db'.knowledgeTombstones)
      (hpurged : ∀ r ∈ rows, db'.Tombstoned r.knowledgeId)
      (hnew : ∀ x ∈ db'.knowledgeTombstones, x ∈ db.knowledgeTombstones ∨ ∃ r ∈ rows, r.knowledgeId = x.knowledgeId) :
      PointerChange issued db db' []

/-- The rows with a tombstone are the deleted ones. -/
def Db.PointersSound (db : Db) : Prop := ∀ k ∈ db.knowledge, k.deletedAt ≠ none ↔ db.Tombstoned k.knowledgeId

section

variable {issued : List (String × String)} {db db' : Db} {revisions : List (String × Nat)}

private theorem KnowledgeRecord.current_eq_true {version} (h : record.current version k = true) :
    k.knowledgeId = record.knowledgeId ∧ k.companyId = record.companyId ∧ k.version = version ∧ k.deletedAt = none :=
  of_decide_eq_true h

private theorem PointerChange.keeps_tombstones (h : PointerChange issued db db' revisions) {x : KnowledgeTombstone}
    (hx : x ∈ db.knowledgeTombstones) : x ∈ db'.knowledgeTombstones := by
  cases h with
  | same _ ht | created _ _ _ _ ht | revised _ _ _ _ _ ht => exact ht ▸ hx
  | deleted _ _ _ _ _ ht => exact (mem_insert ht).2 (.inl hx)
  | purged _ _ hk => exact hk x hx

private theorem PointerChange.keeps_tombstoned (h : PointerChange issued db db' revisions) {id : String}
    (hx : db.Tombstoned id) :
    db'.Tombstoned id := by
  obtain ⟨x, hx, hid⟩ := hx
  exact ⟨x, h.keeps_tombstones hx, hid⟩

private theorem tombstoned_congr (h : db'.knowledgeTombstones = db.knowledgeTombstones) (id) :
    db'.Tombstoned id ↔ db.Tombstoned id := by
  unfold Db.Tombstoned
  rw [h]

/-- What a change does to a row that stays. -/
structure RowFollows (revisions : List (String × Nat)) (db db' : Db) (k k' : KnowledgeRecord) : Prop where
  id : k'.knowledgeId = k.knowledgeId
  origin : k.SameOrigin k'
  /-- The version grows by one with a revision of the row and stays otherwise. -/
  version : (k'.version = k.version ∧ ∀ n, (k.knowledgeId, n) ∉ revisions) ∨
    (k'.version = k.version + 1 ∧ revisions = [(k.knowledgeId, k.version)])
  deleted : (k.deletedAt ≠ none ↔ db.Tombstoned k.knowledgeId) → (k'.deletedAt ≠ none ↔ db'.Tombstoned k.knowledgeId)

structure RowsFollow (issued : List (String × String)) (revisions : List (String × Nat)) (db db' : Db) : Prop where
  old : ∀ k ∈ db.knowledge, (∃ k' ∈ db'.knowledge, RowFollows revisions db db' k k') ∨ db'.Tombstoned k.knowledgeId
  new : ∀ k' ∈ db'.knowledge, (∃ k ∈ db.knowledge, RowFollows revisions db db' k k') ∨
    (¬ db.Tombstoned k'.knowledgeId ∧ (∀ k ∈ db.knowledge, k.knowledgeId ≠ k'.knowledgeId) ∧
      (k'.knowledgeId, k'.companyId) ∈ issued ∧ k'.deletedAt = none ∧ ¬ db'.Tombstoned k'.knowledgeId)

private theorem RowFollows.refl (hr : ∀ n, (k.knowledgeId, n) ∉ revisions)
    (ht : db'.Tombstoned k.knowledgeId ↔ db.Tombstoned k.knowledgeId) : RowFollows revisions db db' k k :=
  ⟨rfl, ⟨rfl, rfl, rfl, rfl⟩, .inl ⟨rfl, hr⟩, fun hs => hs.trans ht.symm⟩

private theorem RowsFollow.of_update {f hf} (hkn : db'.knowledge = db.knowledge.update p f hf)
    (hr : ∀ k ∈ db.knowledge, RowFollows revisions db db' k (if p k then f k else k)) :
    RowsFollow issued revisions db db' := by
  refine ⟨fun k hk => .inl ⟨_, hkn ▸ update_mem hf hk, hr k hk⟩, fun k' hk' => ?_⟩
  rw [hkn] at hk'
  obtain ⟨k, hk, rfl⟩ := of_mem_update hf hk'
  exact .inl ⟨k, hk, hr k hk⟩

private theorem PointerChange.rows (h : PointerChange issued db db' revisions) :
    RowsFollow issued revisions db db' := by
  cases h with
  | same hkn ht =>
    have hro (k : KnowledgeRecord) : RowFollows [] db db' k k := .refl (by simp) (tombstoned_congr ht _)
    exact ⟨fun k hk => .inl ⟨k, hkn ▸ hk, hro k⟩, fun k hk => .inl ⟨k, hkn ▸ hk, hro k⟩⟩
  | created hin hnw hi hf ht =>
    have hro (k : KnowledgeRecord) : RowFollows [] db db' k k := .refl (by simp) (tombstoned_congr ht _)
    refine ⟨fun k hk => .inl ⟨k, (mem_insert hin).2 (.inl hk), hro k⟩, fun k' hk' => ?_⟩
    rcases (mem_insert hin).1 hk' with hol | rfl
    · exact .inl ⟨k', hol, hro k'⟩
    · exact .inr ⟨hf, (insert_eq_some hin).2, hi, hnw, fun hx => hf ((tombstoned_congr ht _).1 hx)⟩
  | revised hv hd hk₀ hc₀ hkn ht =>
    refine .of_update hkn (fun k hk => ?_)
    split
    · rename_i hc
      obtain ⟨hid, -, rfl, hl⟩ := KnowledgeRecord.current_eq_true hc
      refine ⟨rfl, ⟨rfl, rfl, rfl, rfl⟩, .inr ⟨hv, by rw [hid]⟩, fun hs => ?_⟩
      -- the row was not deleted and is not deleted now
      rw [tombstoned_congr ht, ← hs]
      exact ⟨fun hne => absurd hd hne, fun hne => absurd hl hne⟩
    · rename_i ho
      refine .refl (fun n hn => ?_) (tombstoned_congr ht _)
      obtain ⟨hid, -⟩ := Prod.mk.inj (mem_singleton.1 hn)
      obtain rfl := eq_of_key_eq hk₀ hk ((KnowledgeRecord.current_eq_true hc₀).1.trans hid.symm)
      exact ho hc₀
  | @deleted record k₀ tombstone hd hid hk₀ hc₀ hkn ht =>
    have hnw : tombstone ∈ db'.knowledgeTombstones := (mem_insert ht).2 (.inr rfl)
    refine .of_update hkn (fun k hk => ?_)
    split
    · rename_i hc
      have hkd := (KnowledgeRecord.current_eq_true hc).1
      exact ⟨rfl, ⟨rfl, rfl, rfl, rfl⟩, .inl ⟨rfl, by simp⟩,
        fun _ => ⟨fun _ => ⟨tombstone, hnw, hid.symm.trans hkd.symm⟩, fun _ => hd⟩⟩
    · rename_i ho
      refine .refl (by simp) ⟨?_, fun ⟨x, hx, hxd⟩ => ⟨x, (mem_insert ht).2 (.inl hx), hxd⟩⟩
      rintro ⟨x, hx, hxd⟩
      rcases (mem_insert ht).1 hx with hol | rfl
      · exact ⟨x, hol, hxd⟩
      · have hkd := (KnowledgeRecord.current_eq_true hc₀).1.trans (hid.trans hxd)
        obtain rfl := eq_of_key_eq hk₀ hk hkd
        exact absurd hc₀ ho
  | @purged rows hrw hkn hkp hpr hnw =>
    have hro {k : KnowledgeRecord} (hnt : ∀ r ∈ rows, r.knowledgeId ≠ k.knowledgeId) : RowFollows [] db db' k k := by
      refine .refl (by simp) ⟨?_, fun ⟨x, hx, hxd⟩ => ⟨x, hkp x hx, hxd⟩⟩
      rintro ⟨x, hx, hxd⟩
      rcases hnw x hx with hol | ⟨r, hr, hrd⟩
      · exact ⟨x, hol, hxd⟩
      · exact absurd (hrd.trans hxd) (hnt r hr)
    refine ⟨fun k hk => ?_, fun k' hk' => ?_⟩
    · by_cases hp : ∃ r ∈ rows, r.knowledgeId = k.knowledgeId
      · obtain ⟨r, hr, hid⟩ := hp
        exact .inr (hid ▸ hpr r hr)
      · push Not at hp
        exact .inl ⟨k, (hkn k).2 ⟨hk, hp⟩, hro hp⟩
    · obtain ⟨hm, hnt⟩ := (hkn k').1 hk'
      exact .inl ⟨k', hm, hro hnt⟩

private theorem PointerChange.row_of_key (h : PointerChange issued db db' revisions) (hk : k ∈ db.knowledge)
    (hk' : k' ∈ db'.knowledge) (hid : k'.knowledgeId = k.knowledgeId) : RowFollows revisions db db' k k' := by
  rcases h.rows.new k' hk' with ⟨k₀, hk₀, hr⟩ | ⟨-, hn, -⟩
  · obtain rfl := eq_of_key_eq hk₀ hk (hr.id.symm.trans hid)
    exact hr
  · exact absurd hid.symm (hn k hk)

private theorem PointerChange.sound (h : PointerChange issued db db' revisions) (hs : db.PointersSound) :
    db'.PointersSound := by
  intro k' hk'
  rcases h.rows.new k' hk' with ⟨k, hk, hr⟩ | ⟨-, -, -, hl, hf⟩
  · rw [hr.id]
    exact hr.deleted (hs k hk)
  · exact ⟨fun hne => absurd hl hne, fun hx => absurd hx hf⟩

private theorem PointerChange.tombstoned (h : PointerChange issued db db' revisions) {id : String}
    (hid : db'.Tombstoned id) :
    db.Tombstoned id ∨ ∃ k ∈ db.knowledge, k.knowledgeId = id := by
  obtain ⟨x, hx, rfl⟩ := hid
  cases h with
  | same _ ht | created _ _ _ _ ht | revised _ _ _ _ _ ht => exact .inl ⟨x, ht ▸ hx, rfl⟩
  | @deleted record k tombstone _ hid hk hc _ ht =>
    rcases (mem_insert ht).1 hx with ho | rfl
    · exact .inl ⟨x, ho, rfl⟩
    · exact .inr ⟨k, hk, (KnowledgeRecord.current_eq_true hc).1.trans hid⟩
  | purged hrw _ _ _ hn =>
    rcases hn x hx with ho | ⟨r, hr, hid⟩
    · exact .inl ⟨x, ho, rfl⟩
    · exact .inr ⟨r, hrw r hr, hid⟩

private theorem PointerChange.revision (h : PointerChange issued db db' revisions) {id : String} {n : Nat}
    (hr : (id, n) ∈ revisions) :
    revisions = [(id, n)] ∧ ∃ k ∈ db.knowledge, ∃ k' ∈ db'.knowledge, k.knowledgeId = id ∧ k'.knowledgeId = id ∧
      k.version = n ∧ k'.version = n + 1 ∧ k.deletedAt = none := by
  cases h with
  | same | created | deleted | purged => exact absurd hr not_mem_nil
  | @revised record k version hv _ hk hc hkn =>
    obtain ⟨rfl, rfl⟩ := Prod.mk.inj (mem_singleton.1 hr)
    obtain ⟨hki, -, hkv, hkd⟩ := KnowledgeRecord.current_eq_true hc
    have hm := update_mem (p := record.current n) (fun x : KnowledgeRecord => x.revisedBy_knowledgeId record) hk
    rw [if_pos hc] at hm
    exact ⟨rfl, k, hk, k.revisedBy record, hkn ▸ hm, hki, hki, hkv, hv, hkd⟩

end

/-! ### Transactions -/

def TaskSound (s : Sys) : KnowledgeTask → Prop
  | .creating record _ =>
    record.deletedAt = none ∧ (record.knowledgeId, record.companyId) ∈ s.history.issued
  | .holding record _ =>
    record.deletedAt = none ∧ (record.knowledgeId, record.companyId) ∈ s.history.issued ∧
      (s.db.Tombstoned record.knowledgeId → ∃ k ∈ s.db.knowledge, k.knowledgeId = record.knowledgeId)
  | .revising revised expectedVersion _ => revised.version = expectedVersion + 1 ∧ revised.deletedAt = none
  | .deleting deleted tombstone _ => deleted.deletedAt ≠ none ∧ deleted.knowledgeId = tombstone.knowledgeId

structure KnowledgeSound (s : Sys) : Prop where
  pointers : s.db.PointersSound
  tasks : ∀ task ∈ s.tasks, TaskSound s task
  issued : ∀ k ∈ s.db.knowledge, (k.knowledgeId, k.companyId) ∈ s.history.issued
  company : ∀ p ∈ s.history.issued, ∀ q ∈ s.history.issued, p.1 = q.1 → p.2 = q.2
  /-- A version that was revised is past, or its pointer is gone. -/
  past : ∀ q ∈ s.history.revisions,
    (∃ k ∈ s.db.knowledge, k.knowledgeId = q.1 ∧ q.2 < k.version) ∨ s.db.Tombstoned q.1
  once : s.history.revisions.Nodup

def Act.newPointer (s : Sys) : Act → Option KnowledgeRecord
  | .publish call expectedVersion uuid => (planPublish s.db call expectedVersion uuid s.clock).toOption
  | _ => none

/-- The id of a new pointer has not been generated for another company. -/
def UniqueIds (s : Sys) (a : Act) : Prop :=
  ∀ record ∈ a.newPointer s, ∀ q ∈ s.history.issued, q.1 = record.knowledgeId → q.2 = record.companyId

instance (s : Sys) (a : Act) : Decidable (UniqueIds s a) :=
  inferInstanceAs (Decidable (∀ record ∈ a.newPointer s, ∀ q ∈ s.history.issued, q.1 = record.knowledgeId →
    q.2 = record.companyId))

section

variable {rt : Runtime} {s t : Sys} {a : Act}

private theorem exists_of_countP {rows : List KnowledgeRecord} (h : rows.countP p = 1) : ∃ k ∈ rows, p k = true :=
  countP_pos_iff.1 (by omega)

private theorem planPublish_deletedAt {call expectedVersion uuid}
    (h : planPublish db call expectedVersion uuid now = .ok record) : record.deletedAt = none := by
  simp only [planPublish, eq_ok] at h
  obtain ⟨artifact, -, -, -, -, -, h⟩ := h
  exact (KnowledgeRecord.validate_eq_ok h).2.2.2

private theorem write_pointerChange (hs : TaskSound s task) (h : task.write s.db = .ok db₁) :
    PointerChange s.history.issued s.db db₁ task.revision := by
  cases task with
  | creating => cases h
  | holding =>
    obtain ⟨hn, hi, hr⟩ := hs
    simp only [KnowledgeTask.write, insertKnowledge, eq_ok] at h
    obtain ⟨-, -, knowledge, hin, rfl⟩ := h
    refine .created hin hn hi (fun hx => ?_) rfl
    -- the row of an id with a tombstone takes its key
    obtain ⟨k, hk, hid⟩ := hr hx
    exact (insert_eq_some hin).2 k hk hid
  | revising revised =>
    simp only [KnowledgeTask.write, reviseKnowledge, eq_ok] at h
    obtain ⟨-, hc, rfl⟩ := h
    obtain ⟨k, hk, hcr⟩ := exists_of_countP hc
    exact .revised hs.1 hs.2 hk hcr rfl rfl
  | deleting deleted =>
    simp only [KnowledgeTask.write, deleteKnowledge, eq_ok] at h
    obtain ⟨-, hc, tombstones, hin, rfl⟩ := h
    obtain ⟨k, hk, hcr⟩ := exists_of_countP hc
    exact .deleted hs.1 hs.2 hk hcr rfl hin

private theorem PointerChange.of_eq {db₂ : Db} (h : PointerChange issued db db₁ revisions)
    (hkw : db₂.knowledge = db₁.knowledge) (htm : db₂.knowledgeTombstones = db₁.knowledgeTombstones) :
    PointerChange issued db db₂ revisions := by
  cases h with
  | same hk ht => exact .same (hkw.trans hk) (htm.trans ht)
  | created hin hn hi hf ht => exact .created (hkw ▸ hin) hn hi hf (htm.trans ht)
  | revised hv hd hk hc hkn ht =>
    exact .revised hv hd hk hc (hkw.trans hkn) (htm.trans ht)
  | deleted hd hid hk hc hkn ht =>
    exact .deleted hd hid hk hc (hkw.trans hkn) (htm ▸ ht)
  | purged hrw hkn hkp hp hn =>
    refine .purged hrw (fun k => by rw [hkw]; exact hkn k) (fun x hx => htm ▸ hkp x hx)
      (fun r hr => (tombstoned_congr htm _).2 (hp r hr)) (fun x hx => hn x (htm ▸ hx))

private theorem Applied.pointerChange (issued) {command : RetentionCommand}
    {requestId : Option String} {cutoff : Time} {locks : RowLocks} {receipt : RetentionReceipt}
    (h : Applied rt db command requestId now cutoff locks receipt db') :
    PointerChange issued db db' [] ∧ ∀ k ∈ db.knowledge, k.companyId ≠ command.companyId → k ∈ db'.knowledge := by
  have hkp := h.keepsProtected
  refine ⟨?_, fun k hk ho => hkp.knowledge k hk (.inr ho)⟩
  cases h with
  | dryRun | replayed => exact .same rfl rfl
  | @purged id receipt db₁ db₂ runs hd hid ha hkw =>
    have hkn : db₁.knowledge = db.knowledge := by rw [ha.rest]
    have hg : db₁.knowledgeTombstones = db.knowledgeTombstones := by rw [ha.rest]
    have hrw (k : KnowledgeRecord) := hkw.knowledge k
    rw [hkn] at hrw
    exact .purged (fun r hr => (mem_expiredKnowledge hr).1) hrw (fun x hx => hkw.kept x (hg ▸ hx))
      hkw.purged (fun x hx => hg ▸ hkw.new x hx)

private theorem insertAuditEvent_knowledge {e outboxId} (h : insertAuditEvent db e outboxId = .ok db') :
    db'.knowledge = db.knowledge ∧ db'.knowledgeTombstones = db.knowledgeTombstones := by
  obtain ⟨events, outbox, -, -, rfl⟩ := insertAuditEvent_eq_ok h
  exact ⟨rfl, rfl⟩

private theorem effect_pointerChange (hs : KnowledgeSound s) (he : Effect rt s a t) :
    ∃ revisions, PointerChange s.history.issued s.db t.db revisions ∧
      t.history.revisions = s.history.revisions ++ revisions := by
  have hsm (hdb : t.db = s.db) (hh : t.history.revisions = s.history.revisions) :
      ∃ revisions, PointerChange s.history.issued s.db t.db revisions ∧
        t.history.revisions = s.history.revisions ++ revisions :=
    ⟨[], .same (by rw [hdb]) (by rw [hdb]), by rw [hh, append_nil]⟩
  cases he with
  | other hdb _ _ hh => exact ⟨[], .same hdb.knowledge hdb.knowledgeTombstones, by simp [hh]⟩
  | answered hdb _ _ _ hh => exact hsm hdb (by rw [hh])
  | begun hdb _ _ _ _ hh => exact hsm hdb (by rw [hh])
  | notLive hdb _ _ _ _ _ hh => exact hsm hdb (by rw [hh])
  | notRetained hdb _ _ _ _ _ hh => exact hsm hdb (by rw [hh])
  | inserted _ _ _ hdb _ _ hh =>
    obtain ⟨hk, htm⟩ := insertAuditEvent_knowledge hdb
    exact ⟨[], .same hk htm, by simp [hh]⟩
  | planned hdb _ _ hp => exact hsm hdb hp.history_eq.2.2
  | locked hdb _ _ _ _ hh => exact hsm hdb (by rw [hh])
  | @wrote task db₁ e ht hw _ ha _ _ hh =>
    obtain ⟨hk, htm⟩ := insertAuditEvent_knowledge ha
    exact ⟨task.revision, (write_pointerChange (hs.tasks task ht) hw).of_eq hk htm, by rw [hh]⟩
  | purged _ hdb _ _ hh =>
    exact ⟨[], ((applied_of_apply hdb).pointerChange s.history.issued).1, by simp [hh]⟩

private theorem write_keeps_rows (h : task.write s.db = .ok db₁) (hk : k ∈ s.db.knowledge) :
    ∃ k' ∈ db₁.knowledge, k'.knowledgeId = k.knowledgeId := by
  cases task with
  | creating => cases h
  | holding =>
    simp only [KnowledgeTask.write, insertKnowledge, eq_ok] at h
    obtain ⟨-, -, knowledge, hi, rfl⟩ := h
    exact ⟨k, (mem_insert hi).2 (.inl hk), rfl⟩
  | revising revised =>
    simp only [KnowledgeTask.write, reviseKnowledge, eq_ok] at h
    obtain ⟨-, -, rfl⟩ := h
    refine ⟨_, update_mem (fun x : KnowledgeRecord => x.revisedBy_knowledgeId revised) hk, ?_⟩
    split <;> rfl
  | deleting =>
    simp only [KnowledgeTask.write, deleteKnowledge, eq_ok] at h
    obtain ⟨-, -, tombstones, -, rfl⟩ := h
    refine ⟨_, update_mem (by intro; rfl) hk, ?_⟩
    split <;> rfl

/-- A row whose id is held by a publication is not removed: a retention run of its company waits for the lock. -/
theorem effect_keeps_held (hs : KnowledgeSound s) (he : Effect rt s a t) {actorId : String}
    (hh : .holding record actorId ∈ s.tasks) (hk : k ∈ s.db.knowledge) (hid : k.knowledgeId = record.knowledgeId) :
    ∃ k' ∈ t.db.knowledge, k'.knowledgeId = record.knowledgeId := by
  have hsm (hkn : t.db.knowledge = s.db.knowledge) : ∃ k' ∈ t.db.knowledge, k'.knowledgeId = record.knowledgeId :=
    ⟨k, hkn ▸ hk, hid⟩
  cases he with
  | other hdb => exact hsm hdb.knowledge
  | answered hdb | begun hdb | notLive hdb | notRetained hdb | planned hdb | locked hdb => exact hsm (by rw [hdb])
  | inserted _ _ _ hdb => exact hsm (insertAuditEvent_knowledge hdb).1
  | wrote _ hw _ ha =>
    obtain ⟨k', hk', hid'⟩ := write_keeps_rows hw hk
    exact ⟨k', (insertAuditEvent_knowledge ha).1 ▸ hk', hid'.trans hid⟩
  | purged hf hdb =>
    obtain ⟨-, hkp⟩ := (applied_of_apply hdb).pointerChange s.history.issued
    refine ⟨k, hkp k hk (fun hc => ?_), hid⟩
    -- the row is of the company whose lock is held
    have hi : (record.knowledgeId, record.companyId) ∈ s.history.issued := (hs.tasks _ hh).2.1
    have hsc : k.companyId = record.companyId := hs.company _ (hs.issued k hk) _ hi hid
    have hl : s.companyLocked record.companyId = true := any_eq_true.2 ⟨_, hh, decide_eq_true rfl⟩
    rw [← hsc, hc, hf] at hl
    cases hl

private theorem effect_issued_subset (he : Effect rt s a t) : s.history.issued ⊆ t.history.issued := by
  cases he with
  | planned _ _ _ hp =>
    generalize t.history = history at hp
    cases hp with
    | creating => exact subset_append_left _ _
    | revising | deleting => exact Subset.refl _
  | other _ _ _ hh | answered _ _ _ _ hh | begun _ _ _ _ _ hh | notLive _ _ _ _ _ _ hh
  | notRetained _ _ _ _ _ _ hh | inserted _ _ _ _ _ _ hh | locked _ _ _ _ _ hh
  | wrote _ _ _ _ _ _ hh | purged _ _ _ _ hh =>
    rw [hh]
    exact Subset.refl _

private theorem effect_task (he : Effect rt s a t) (ht : task ∈ t.tasks) :
    task ∈ s.tasks ∨ Planned s a task t.history ∨ ∃ record actorId, task = .holding record actorId ∧
      .creating record actorId ∈ s.tasks ∧ t.db = s.db ∧ ¬ s.db.Tombstoned record.knowledgeId := by
  cases he with
  | other _ _ hts | wrote _ _ _ _ _ hts => exact .inl (hts ht)
  | answered _ _ hts | begun _ _ _ _ hts | notLive _ _ _ _ _ hts | notRetained _ _ _ _ _ hts
  | inserted _ _ _ _ _ hts | purged _ _ _ hts => exact .inl (hts ▸ ht)
  | planned _ _ hts hp =>
    rw [hts] at ht
    rcases mem_concat.1 ht with ht | hl
    · exact .inl ht
    · exact .inr (.inl (hl ▸ hp))
  | @locked record actorId hdb _ hc hf hts =>
    rcases hts task ht with ho | rfl
    · exact .inl ho
    · refine .inr (.inr ⟨record, actorId, rfl, hc, hdb, ?_⟩)
      rintro ⟨x, hx, hid⟩
      exact get_eq_none.1 (Option.isNone_iff_eq_none.1 hf) x hx hid

private theorem effect_tasksSound (hs : KnowledgeSound s) (he : Effect rt s a t) :
    ∀ task ∈ t.tasks, TaskSound t task := by
  obtain ⟨revisions, hc, -⟩ := effect_pointerChange hs he
  have hi := effect_issued_subset he
  intro task ht
  rcases effect_task he ht with ho | hp | ⟨record, actorId, rfl, hcr, hdb, hf⟩
  · have hts := hs.tasks task ho
    cases task with
    | creating => exact ⟨hts.1, hi hts.2⟩
    | holding record =>
      refine ⟨hts.1, hi hts.2.1, fun hx => ?_⟩
      obtain ⟨k, hk, hid⟩ : ∃ k ∈ s.db.knowledge, k.knowledgeId = record.knowledgeId := by
        rcases hc.tombstoned hx with hb | hr
        · exact hts.2.2 hb
        · exact hr
      exact effect_keeps_held hs he ho hk hid
    | revising => exact hts
    | deleting => exact hts
  · generalize hh : t.history = history at hp
    cases hp with
    | creating ha hpl =>
      refine ⟨planPublish_deletedAt hpl, ?_⟩
      rw [hh]
      exact mem_append_right _ (mem_singleton_self _)
    | revising hv hd => exact ⟨hv, hd⟩
    | deleting hd hid => exact ⟨hd, hid⟩
  · have hcs := hs.tasks _ hcr
    exact ⟨hcs.1, hi hcs.2, fun hx => absurd (hdb ▸ hx) hf⟩

private theorem effect_company (hs : KnowledgeSound s) (hok : UniqueIds s a) (he : Effect rt s a t) :
    ∀ p ∈ t.history.issued, ∀ q ∈ t.history.issued, p.1 = q.1 → p.2 = q.2 := by
  have hsm (h : t.history.issued = s.history.issued) :
      ∀ p ∈ t.history.issued, ∀ q ∈ t.history.issued, p.1 = q.1 → p.2 = q.2 := by
    rw [h]
    exact hs.company
  cases he with
  | planned _ _ _ hpl =>
    generalize t.history = history at hpl hsm ⊢
    cases hpl with
    | creating ha hpn =>
      subst ha
      have hn := hok _ (toOption_eq_some.2 hpn)
      intro p hp q hq hid
      rcases mem_concat.1 hp with hp | rfl <;> rcases mem_concat.1 hq with hq | rfl
      · exact hs.company p hp q hq hid
      · exact hn p hp hid
      · exact (hn q hq hid.symm).symm
      · rfl
    | revising | deleting => exact hsm rfl
  | other _ _ _ hh | answered _ _ _ _ hh | begun _ _ _ _ _ hh | notLive _ _ _ _ _ _ hh
  | notRetained _ _ _ _ _ _ hh | inserted _ _ _ _ _ _ hh | locked _ _ _ _ _ hh
  | wrote _ _ _ _ _ _ hh | purged _ _ _ _ hh => exact hsm (by rw [hh])

private theorem PointerChange.past (h : PointerChange issued db db' revisions) {q : String × Nat}
    (hq : (∃ k ∈ db.knowledge, k.knowledgeId = q.1 ∧ q.2 < k.version) ∨ db.Tombstoned q.1) :
    (∃ k ∈ db'.knowledge, k.knowledgeId = q.1 ∧ q.2 < k.version) ∨ db'.Tombstoned q.1 := by
  rcases hq with ⟨k, hk, hid, hlt⟩ | hx
  · rcases h.rows.old k hk with ⟨k', hk', hr⟩ | hx
    · refine .inl ⟨k', hk', hr.id.trans hid, ?_⟩
      rcases hr.version with ⟨hv, -⟩ | ⟨hv, -⟩ <;> omega
    · exact .inr (hid ▸ hx)
  · exact .inr (h.keeps_tombstoned hx)

private theorem effect_knowledgeSound (hok : UniqueIds s a) (hs : KnowledgeSound s) (he : Effect rt s a t) :
    KnowledgeSound t := by
  obtain ⟨revisions, hc, hrv⟩ := effect_pointerChange hs he
  have hi := effect_issued_subset he
  refine ⟨hc.sound hs.pointers, effect_tasksSound hs he, fun k' hk' => ?_, effect_company hs hok he, fun q hq => ?_, ?_⟩
  · rcases hc.rows.new k' hk' with ⟨k, hk, hrw⟩ | ⟨-, -, hn, -⟩
    · rw [hrw.id, hrw.origin.1]
      exact hi (hs.issued k hk)
    · exact hi hn
  · rw [hrv] at hq
    rcases mem_append.1 hq with ho | hn
    · exact hc.past (hs.past q ho)
    · obtain ⟨-, k, -, k', hk', -, hid', -, hv, -⟩ := hc.revision hn
      exact .inl ⟨k', hk', hid', by omega⟩
  · rw [hrv, nodup_append]
    refine ⟨hs.once, ?_, fun q hq r hr hqr => ?_⟩
    · cases hr : revisions with
      | nil => exact nodup_nil
      | cons r =>
        have hm : (r.1, r.2) ∈ revisions := hr ▸ mem_cons_self
        obtain ⟨hsn, -⟩ := hc.revision hm
        rw [← hr, hsn]
        exact nodup_singleton _
    · -- the version that is revised is the row's, so it was not revised before
      subst hqr
      obtain ⟨-, k, hk, -, -, hid, -, hv, -, hd⟩ := hc.revision hr
      rcases hs.past q hq with ⟨k₀, hk₀, hid₀, hlt⟩ | hx
      · obtain rfl := eq_of_key_eq hk hk₀ (hid.trans hid₀.symm)
        omega
      · exact (hs.pointers k hk).2 (hid ▸ hx) hd

end

/-! ### Runs -/

/-- From one state to a later one: ids with a tombstone keep it and get no new row, and rows keep their origin. -/
structure Db.PointersFollow (db db' : Db) : Prop where
  tombstoned : ∀ id, db.Tombstoned id → db'.Tombstoned id
  row_or_tombstoned : ∀ k ∈ db.knowledge, (∃ k' ∈ db'.knowledge, k'.knowledgeId = k.knowledgeId) ∨
    db'.Tombstoned k.knowledgeId
  old : ∀ k' ∈ db'.knowledge, db.Tombstoned k'.knowledgeId → ∃ k ∈ db.knowledge, k.knowledgeId = k'.knowledgeId
  origin : ∀ k ∈ db.knowledge, ∀ k' ∈ db'.knowledge, k'.knowledgeId = k.knowledgeId → k.SameOrigin k'

section

variable {rt : Runtime} {s t u v : Sys} {a : Act}

private theorem PointerChange.follow (h : PointerChange issued db db' revisions) : db.PointersFollow db' := by
  refine ⟨fun id hx => h.keeps_tombstoned hx, fun k hk => ?_, fun k' hk' hx => ?_, fun k hk k' hk' hid => ?_⟩
  · exact (h.rows.old k hk).imp_left (fun ⟨k', hk', hr⟩ => ⟨k', hk', hr.id⟩)
  · rcases h.rows.new k' hk' with ⟨k, hk, hr⟩ | ⟨hf, -⟩
    · exact ⟨k, hk, hr.id.symm⟩
    · exact absurd hx hf
  · exact (h.row_of_key hk hk' hid).origin

private theorem Db.PointersFollow.trans {db''} (h : db.PointersFollow db') (h' : db'.PointersFollow db'') :
    db.PointersFollow db'' := by
  refine ⟨fun id hx => h'.tombstoned id (h.tombstoned id hx), fun k hk => ?_, fun k'' hk'' hx => ?_,
    fun k hk k'' hk'' hid => ?_⟩
  · rcases h.row_or_tombstoned k hk with ⟨k', hk', hid'⟩ | hx
    · rcases h'.row_or_tombstoned k' hk' with ⟨k'', hk'', hid''⟩ | hx
      · exact .inl ⟨k'', hk'', hid''.trans hid'⟩
      · exact .inr (hid' ▸ hx)
    · exact .inr (h'.tombstoned _ hx)
  · obtain ⟨k', hk', hid'⟩ := h'.old k'' hk'' (h.tombstoned _ hx)
    obtain ⟨k, hk, hid⟩ := h.old k' hk' (hid' ▸ hx)
    exact ⟨k, hk, hid.trans hid'⟩
  · -- in between the row is there: a tombstone would keep its id from coming back
    have hb : ∃ k' ∈ db'.knowledge, k'.knowledgeId = k.knowledgeId := by
      rcases h.row_or_tombstoned k hk with hr | hx
      · exact hr
      · obtain ⟨k', hk', hid'⟩ := h'.old k'' hk'' (hid ▸ hx)
        exact ⟨k', hk', hid'.trans hid⟩
    obtain ⟨k', hk', hid'⟩ := hb
    exact (h.origin k hk k' hk' hid').trans (h'.origin k' hk' k'' hk'' (hid.trans hid'.symm))

private theorem run_knowledgeSound (hs : KnowledgeSound s) (hr : Run (Steps (step rt)) UniqueIds s t) :
    KnowledgeSound t ∧ s.db.PointersFollow t.db := by
  refine hr.invariant (I := fun t => KnowledgeSound t ∧ s.db.PointersFollow t.db)
    ⟨hs, (@PointerChange.same [] s.db s.db rfl rfl).follow⟩ ?_
  rintro t a u ⟨hsn, hf⟩ hok hst
  have he := step_effect hst
  obtain ⟨revisions, hc, -⟩ := effect_pointerChange hsn he
  exact ⟨effect_knowledgeSound hok hsn he, hf.trans hc.follow⟩

end

/-! ### A pointer from publication to deletion -/

def oneArtifact : Sys :=
  ⟨{ Db.empty with
      companies := ⟨["a"], nodup_singleton _⟩
      artifacts := ⟨[⟨"doc", "a", none, none, none, none, none, []⟩], nodup_singleton _⟩ }, 0, [], [], ⟨[], [], [], []⟩⟩

private theorem oneArtifact_sound : KnowledgeSound oneArtifact where
  pointers := fun k hk => absurd hk (not_mem_empty k)
  tasks := fun _ hx => absurd hx not_mem_nil
  issued := fun k hk => absurd hk (not_mem_empty k)
  company := fun _ hp => absurd hp not_mem_nil
  past := fun _ hq => absurd hq not_mem_nil
  once := nodup_nil

def publishDoc : PublishCall := ⟨"a", "doc", "owner", [], none⟩

def publishedTwiceRevised : List Act :=
  [.publish publishDoc none "1", .lockCompany 0, .commitTask 0 none "audit-1", .revise publishDoc "knw_1" (some 1),
    .revise publishDoc "knw_1" (some 1)]

end WisdoverseCell.Retention
