import WisdoverseCell.Retention.AuditEventStore

/-!
# Physical retention

`apply` deletes a batch of old audit events and of expired knowledge pointers of one company, leaves a tombstone for
each, and stores its receipt under the request id.  Rows that other transactions hold are skipped (`RowLocks`); the
company row is locked for the whole transaction, so a run of `apply` is one step.
-/

namespace WisdoverseCell.Retention

open List Table
open ControlPlane (Time Runtime Artifact seconds)

variable {command : RetentionCommand} {cutoff now : Time} {db db' : Db} {k : KnowledgeRecord}

/-! ### Selection -/

def Db.pending (db : Db) (auditEventId : String) : Bool :=
  db.outbox.rows.any (fun o => o.correlationId = some auditEventId ∧ o.status ≠ .published)

def evidencePin (artifact : Artifact) (auditEventId : String) : Bool :=
  match artifact.metadata.lookup "evidence" with
  | some (.obj evidence) =>
    match evidence.lookup "audit_events" with
    | some (.arr ids) => ids.any (· = .str auditEventId)
    | _ => false
  | _ => false

def Db.pinned (db : Db) (companyId auditEventId : String) : Bool :=
  db.artifacts.rows.any (fun a => a.companyId = companyId ∧ evidencePin a auditEventId = true)

structure RowLocks where
  auditEvents : List String
  knowledge : List String

def Db.purgeable (db : Db) (companyId : String) (cutoff : Time) (e : AuditEvent) : Bool :=
  e.companyId = companyId ∧ e.createdAt < cutoff ∧ db.pending e.auditEventId = false ∧
    db.pinned companyId e.auditEventId = false

def retentionCandidates (db : Db) (command : RetentionCommand) (cutoff : Time) (locks : RowLocks) : List AuditEvent :=
  ((db.auditEvents.table.rows.filter (fun e =>
    db.purgeable command.companyId cutoff e ∧ e.auditEventId ∉ locks.auditEvents)).insertionSort
      (fun a b => a.createdAt < b.createdAt ∨ (a.createdAt = b.createdAt ∧ a.auditEventId ≤ b.auditEventId))).take
    command.batchSize

def KnowledgeRecord.expired (k : KnowledgeRecord) (now cutoff : Time) : Bool :=
  k.retentionUntil.any (· < now) ∨ k.deletedAt.any (· < cutoff)

def expiredKnowledge (db : Db) (command : RetentionCommand) (now cutoff : Time) (locks : RowLocks) :
    List KnowledgeRecord :=
  ((db.knowledge.rows.filter (fun k =>
    k.companyId = command.companyId ∧ k.expired now cutoff ∧ k.knowledgeId ∉ locks.knowledge)).insertionSort
      (fun a b => a.knowledgeId ≤ b.knowledgeId)).take command.batchSize

variable {locks : RowLocks}

/-- Only delivered events of the company before the cutoff are purged. -/
theorem mem_retentionCandidates {e} (h : e ∈ retentionCandidates db command cutoff locks) :
    e ∈ db.auditEvents ∧ e.companyId = command.companyId ∧ e.createdAt < cutoff ∧ db.pending e.auditEventId = false ∧
      db.pinned command.companyId e.auditEventId = false := by
  have hs := mem_of_mem_take h
  rw [mem_insertionSort, List.mem_filter, decide_eq_true_iff] at hs
  obtain ⟨hm, hp, -⟩ := hs
  exact ⟨hm, of_decide_eq_true hp⟩

theorem mem_expiredKnowledge (h : k ∈ expiredKnowledge db command now cutoff locks) :
    k ∈ db.knowledge ∧ k.companyId = command.companyId ∧ k.expired now cutoff = true := by
  have hs := mem_of_mem_take h
  rw [mem_insertionSort, List.mem_filter, decide_eq_true_iff] at hs
  obtain ⟨hm, hc, he, -⟩ := hs
  exact ⟨hm, hc, he⟩

theorem KnowledgeRecord.not_accessible_of_expired (h : k.expired now cutoff = true) : k.isAccessible now = false := by
  unfold expired at h
  unfold isAccessible
  rcases of_decide_eq_true h with hrt | hdl
  · obtain ⟨retention, hr, hlt⟩ := (Option.any_eq_true _ _).1 hrt
    have hle : ¬ now < retention := Nat.lt_asymm (of_decide_eq_true hlt)
    simp [hr, hle]
  · obtain ⟨deleted, hd, -⟩ := (Option.any_eq_true _ _).1 hdl
    simp [hd]

/-! ### Purging -/

def compactReceipt (rt : Runtime) (e : AuditEvent) : AuditEvent :=
  { e with
    actorId := "retention"
    detail := [("retention_tombstone", .bool true), ("detail_sha256", .str (detailDigest rt e.detail))]
    idempotencyKey := none }

/-- A row's empty idempotency key counts as none. -/
def auditTombstone (rt : Runtime) (now : Time) (companyId : String) (e : AuditEvent) : AuditTombstone where
  auditEventId := e.auditEventId
  companyId := companyId
  idempotencyHash := (e.idempotencyKey.filter (· ≠ "")).map (idempotencyDigest rt companyId)
  receipt := compactReceipt rt e
  purgedAt := now

def OutboxEvent.published (o : OutboxEvent) (auditEventId : String) : Bool :=
  o.correlationId = some auditEventId ∧ o.status = .published

def purgeAuditEvent (rt : Runtime) (now : Time) (companyId : String) (outboxCount : Nat) (db : Db) (row : AuditEvent) :
    Option (Nat × Db) :=
  (db.auditTombstones.insert (auditTombstone rt now companyId row)).map (fun tombstones =>
    (outboxCount + db.outbox.rows.countP (fun o => o.published row.auditEventId), { db with
      auditTombstones := tombstones
      outbox := db.outbox.filter (fun o => !o.published row.auditEventId)
      auditEvents := db.auditEvents.filter (fun e => e.auditEventId ≠ row.auditEventId) }))

def purgeAuditEvents (rt : Runtime) (now : Time) (companyId : String) (outboxCount : Nat) (db : Db) :
    List AuditEvent → Option (Nat × Db)
  | [] => some (outboxCount, db)
  | row :: rows => (purgeAuditEvent rt now companyId outboxCount db row).bind (fun (count, db') =>
      purgeAuditEvents rt now companyId count db' rows)

/-- A pointer that was deleted has its tombstone already. -/
def purgeKnowledgeRow (now : Time) (companyId : String) (db : Db) (row : KnowledgeRecord) : Db :=
  let tombstones :=
    (db.knowledgeTombstones.insert ⟨row.knowledgeId, companyId, "retention", row.version, now⟩).getD
      db.knowledgeTombstones
  { db with knowledgeTombstones := tombstones, knowledge := db.knowledge.erase row.knowledgeId }

def purgeKnowledge (now : Time) (companyId : String) (db : Db) (rows : List KnowledgeRecord) : Db :=
  rows.foldl (purgeKnowledgeRow now companyId) db

/-! ### What purging does -/

structure AuditsPurged (rt : Runtime) (now : Time) (companyId : String) (rows : List AuditEvent) (db db' : Db) :
    Prop where
  events : ∀ e, e ∈ db'.auditEvents ↔ e ∈ db.auditEvents ∧ ∀ r ∈ rows, r.auditEventId ≠ e.auditEventId
  tombstones : ∀ t, t ∈ db'.auditTombstones ↔
    t ∈ db.auditTombstones ∨ ∃ r ∈ rows, t = auditTombstone rt now companyId r
  outbox : ∀ o, o ∈ db'.outbox ↔ o ∈ db.outbox ∧ ∀ r ∈ rows, o.published r.auditEventId = false
  rest : db' = { db with
    auditEvents := db'.auditEvents
    auditTombstones := db'.auditTombstones
    outbox := db'.outbox }

theorem auditsPurged_of_eq_some {rt companyId count count' rows}
    (h : purgeAuditEvents rt now companyId count db rows = some (count', db')) :
    AuditsPurged rt now companyId rows db db' := by
  induction rows generalizing count db with
  | nil =>
    cases h
    exact ⟨by simp, by simp, by simp, rfl⟩
  | cons row rows ih =>
    obtain ⟨⟨count₁, db₁⟩, hrw, h⟩ := Option.bind_eq_some_iff.1 h
    obtain ⟨tombstones, hi, hp⟩ := Option.map_eq_some_iff.1 hrw
    obtain ⟨rfl, rfl⟩ := Prod.mk.inj hp
    obtain ⟨he, ht, ho, hr⟩ := ih h
    refine ⟨fun e => ?_, fun t => ?_, fun o => ?_, ?_⟩
    · rw [he, Indexed.mem_filter, forall_mem_cons, decide_eq_true_iff, and_assoc]
      exact and_congr_right fun _ => and_congr_left fun _ => ne_comm
    · rw [ht, Indexed.mem_insert hi, exists_mem_cons_iff, or_assoc]
    · rw [ho, Table.mem_filter, forall_mem_cons, Bool.not_eq_true', and_assoc]
    · rw [hr]

/-- What purging knowledge pointers leaves. -/
structure KnowledgePurged (rows : List KnowledgeRecord) (db db' : Db) : Prop where
  knowledge : ∀ k, k ∈ db'.knowledge ↔ k ∈ db.knowledge ∧ ∀ r ∈ rows, r.knowledgeId ≠ k.knowledgeId
  kept : ∀ t ∈ db.knowledgeTombstones, t ∈ db'.knowledgeTombstones
  purged : ∀ r ∈ rows, ∃ t ∈ db'.knowledgeTombstones, t.knowledgeId = r.knowledgeId
  new : ∀ t ∈ db'.knowledgeTombstones, t ∈ db.knowledgeTombstones ∨ ∃ r ∈ rows, r.knowledgeId = t.knowledgeId
  rest : db' = { db with knowledge := db'.knowledge, knowledgeTombstones := db'.knowledgeTombstones }

private theorem purgeKnowledgeRow_purged (now) (companyId) (db) (row) :
    KnowledgePurged [row] db (purgeKnowledgeRow now companyId db row) := by
  have hk : ∀ k, k ∈ db.knowledge.erase row.knowledgeId ↔
      k ∈ db.knowledge ∧ ∀ r ∈ [row], r.knowledgeId ≠ k.knowledgeId := by
    intro k
    rw [mem_erase, forall_mem_singleton, ne_comm]
  unfold purgeKnowledgeRow
  cases hi : db.knowledgeTombstones.insert ⟨row.knowledgeId, companyId, "retention", row.version, now⟩ with
  | none =>
    -- the tombstone is refused because there is one already
    have htk : ∃ t ∈ db.knowledgeTombstones, t.knowledgeId = row.knowledgeId := by
      by_contra hn
      push Not at hn
      obtain ⟨t', ht'⟩ := insert_isSome (t := db.knowledgeTombstones)
        (a := ⟨row.knowledgeId, companyId, "retention", row.version, now⟩) (get_eq_none.2 hn)
      exact absurd (hi.symm.trans ht') (by simp)
    exact ⟨hk, fun t ht => ht, fun r hr => mem_singleton.1 hr ▸ htk, fun t ht => .inl ht, rfl⟩
  | some =>
    refine ⟨hk, fun t ht => (mem_insert hi).2 (.inl ht), fun r hr => ?_, fun t ht => ?_, rfl⟩
    · obtain rfl := mem_singleton.1 hr
      exact ⟨_, (mem_insert hi).2 (.inr rfl), rfl⟩
    · rcases (mem_insert hi).1 ht with ho | rfl
      · exact .inl ho
      · exact .inr ⟨row, mem_singleton_self row, rfl⟩

private theorem KnowledgePurged.append {rows rows' db''} (h : KnowledgePurged rows db db')
    (h' : KnowledgePurged rows' db' db'') : KnowledgePurged (rows ++ rows') db db'' := by
  refine ⟨fun k => ?_, fun t ht => h'.kept t (h.kept t ht), fun r hr => ?_, fun t ht => ?_, ?_⟩
  · rw [h'.knowledge, h.knowledge, forall_mem_append, and_assoc]
  · rcases mem_append.1 hr with hr | hr
    · obtain ⟨t, ht, hid⟩ := h.purged r hr
      exact ⟨t, h'.kept t ht, hid⟩
    · exact h'.purged r hr
  · rcases h'.new t ht with ht | ⟨r, hr, hid⟩
    · rcases h.new t ht with ht | ⟨r, hr, hid⟩
      · exact .inl ht
      · exact .inr ⟨r, mem_append_left _ hr, hid⟩
    · exact .inr ⟨r, mem_append_right _ hr, hid⟩
  · rw [h'.rest, h.rest]

theorem purgeKnowledge_purged (now) (companyId) (db) (rows) :
    KnowledgePurged rows db (purgeKnowledge now companyId db rows) := by
  induction rows generalizing db with
  | nil => exact ⟨by simp [purgeKnowledge], fun _ ht => ht, by simp, fun _ ht => .inl ht, rfl⟩
  | cons row rows ih =>
    have hr := purgeKnowledgeRow_purged now companyId db row
    exact hr.append (ih (purgeKnowledgeRow now companyId db row))

/-! ### Apply -/

def retentionReceipt (command : RetentionCommand) (cutoff : Time) (candidates : List AuditEvent)
    (knowledge : List KnowledgeRecord) (outboxCount : Nat) : RetentionReceipt where
  companyId := command.companyId
  dryRun := command.dryRun
  auditCutoff := cutoff
  eligibleAuditEvents := candidates.length
  purgedAuditEvents := if command.dryRun then 0 else candidates.length
  purgedPublishedOutboxEvents := outboxCount
  expiredKnowledge := knowledge.length
  purgedKnowledge := if command.dryRun then 0 else knowledge.length

/-- `apply`: one purge, or the stored receipt of its request id. -/
def apply (rt : Runtime) (db : Db) (command : RetentionCommand) (requestId : Option String) (now cutoff : Time)
    (locks : RowLocks) : Except Refusal (RetentionReceipt × Db) := do
  ensure ((db.companies.get command.companyId).isSome = true) (.invalid "retention_company_not_found")
  let candidates := retentionCandidates db command cutoff locks
  let knowledge := expiredKnowledge db command now cutoff locks
  if command.dryRun then return (retentionReceipt command cutoff candidates knowledge 0, db)
  else
    let requestId ← require requestId .integrityError
    match db.retentionRuns.get (command.companyId, requestId) with
    | some previous =>
      ensure (previous.commandHash = command.digest rt) (.invalid "retention_request_conflict")
      return (previous.receipt, db)
    | none =>
      let (outboxCount, db₁) ← require (purgeAuditEvents rt now command.companyId 0 db candidates) .integrityError
      let db₂ := purgeKnowledge now command.companyId db₁ knowledge
      let receipt := retentionReceipt command cutoff candidates knowledge outboxCount
      let runs ← require (db₂.retentionRuns.insert ⟨command.companyId, requestId, command.digest rt, receipt, now⟩)
        .integrityError
      return (receipt, { db₂ with retentionRuns := runs })

/-- `RetentionUseCase.execute` with a policy of `days` days. -/
def execute (rt : Runtime) (db : Db) (days : Nat) (command : RetentionCommand) (requestId : Option String) (now : Time)
    (locks : RowLocks) : Except Refusal (RetentionReceipt × Db) := do
  ensure (90 ≤ days ∧ days ≤ 3650) (.invalid "retention_policy_out_of_bounds")
  ensure (command.dryRun = true ∨ requestId.any (fun id => id ≠ "" ∧ id.length ≤ 48))
    (.invalid "retention_idempotency_key_required")
  apply rt db command requestId now (now - seconds (days * 86400)) locks

end WisdoverseCell.Retention
