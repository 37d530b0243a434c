import WisdoverseCell.ControlPlane.Models
import WisdoverseCell.Library.Indexed
import WisdoverseCell.Library.JsonText

/-!
# Audit events, knowledge pointers and retention

The tables that physical retention works on: the audit log with its outbox, the tombstones of purged events, the
knowledge pointers with their tombstones, and the receipts of retention runs.  Unique constraints are part of the table
types (`Indexed`).
-/

namespace WisdoverseCell.Retention

open List Option Json
open ControlPlane (Time Runtime Artifact seconds)

variable {company company' key : String} {rt : Runtime}

inductive Refusal
  | invalid (message : String)
  | integrityError

/-! ### The audit log -/

structure AuditEvent where
  auditEventId : String
  companyId : String
  action : String
  targetType : String
  targetId : String
  actorType : String
  actorId : String
  traceId : Option String
  runId : Option String
  workItemId : Option String
  idempotencyKey : Option String
  detail : JsonObj
  createdAt : Time
  deriving DecidableEq

/-- The column pair of `uq_control_audit_idempotency`. -/
def AuditEvent.dedupe (e : AuditEvent) : Option (String × String) := e.idempotencyKey.map (e.companyId, ·)

private theorem map_pair_eq_some {o} :
    o.map (fun k => (company, k)) = some (company', key) ↔ company = company' ∧ o = some key := by
  rw [map_eq_some_iff]
  constructor
  · rintro ⟨k, hk, hp⟩
    obtain ⟨rfl, rfl⟩ := Prod.mk.inj hp
    exact ⟨rfl, hk⟩
  · rintro ⟨rfl, hk⟩
    exact ⟨key, hk, rfl⟩

theorem AuditEvent.dedupe_eq_some {e : AuditEvent} :
    e.dedupe = some (company, key) ↔ e.companyId = company ∧ e.idempotencyKey = some key := map_pair_eq_some

inductive OutboxStatus
  | pending
  | published
  deriving DecidableEq

structure OutboxEvent where
  eventId : String
  eventType : String
  sourceAgent : String
  payload : JsonObj
  schemaVersion : String
  traceId : Option String
  correlationId : Option String
  retryCount : Nat
  status : OutboxStatus
  attempts : Nat
  lastError : Option String
  createdAt : Time
  publishedAt : Option Time

/-- `AuditRetentionTombstoneTable`: what is left of a purged audit event. -/
structure AuditTombstone where
  auditEventId : String
  companyId : String
  idempotencyHash : Option String
  receipt : AuditEvent
  purgedAt : Time

/-- The column pair of `uq_control_audit_retention_key`. -/
def AuditTombstone.dedupe (t : AuditTombstone) : Option (String × String) := t.idempotencyHash.map (t.companyId, ·)

theorem AuditTombstone.dedupe_eq_some {t : AuditTombstone} {hash} :
    t.dedupe = some (company, hash) ↔ t.companyId = company ∧ t.idempotencyHash = some hash := map_pair_eq_some

/-! ### Knowledge pointers -/

structure KnowledgeRecord where
  knowledgeId : String
  companyId : String
  sourceArtifactId : String
  sourceCompanyId : String
  ownerActorId : String
  readerRoleIds : List String
  version : Nat
  retentionUntil : Option Time
  createdAt : Time
  updatedAt : Time
  deletedAt : Option Time
  deletedByActorId : Option String

structure KnowledgeTombstone where
  knowledgeId : String
  companyId : String
  actorId : String
  version : Nat
  deletedAt : Time

def KnowledgeRecord.isAccessible (k : KnowledgeRecord) (now : Time) : Bool :=
  k.deletedAt = none ∧ k.retentionUntil.all (fun retention => now < retention)

/-- The columns of an agent role that a reader check looks at. -/
structure ReaderRole where
  roleId : String
  companyId : String

/-! ### Retention commands -/

structure RetentionCommand where
  companyId : String
  batchSize : Nat
  dryRun : Bool
  company_length : 1 ≤ companyId.length ∧ companyId.length ≤ 48
  batch_range : 1 ≤ batchSize ∧ batchSize ≤ 1000

structure RetentionReceipt where
  companyId : String
  dryRun : Bool
  auditCutoff : Time
  eligibleAuditEvents : Nat
  purgedAuditEvents : Nat
  purgedPublishedOutboxEvents : Nat
  expiredKnowledge : Nat
  purgedKnowledge : Nat
  deriving DecidableEq

structure RetentionRun where
  companyId : String
  requestId : String
  commandHash : String
  receipt : RetentionReceipt
  createdAt : Time

structure Db where
  companies : Table (id : String → String)
  artifacts : Table Artifact.artifactId
  roles : Table ReaderRole.roleId
  auditEvents : Indexed AuditEvent.auditEventId AuditEvent.dedupe
  outbox : Table OutboxEvent.eventId
  auditTombstones : Indexed AuditTombstone.auditEventId AuditTombstone.dedupe
  knowledge : Table KnowledgeRecord.knowledgeId
  knowledgeTombstones : Table KnowledgeTombstone.knowledgeId
  retentionRuns : Table (fun r : RetentionRun => (r.companyId, r.requestId))

def Db.empty : Db where
  companies := .empty
  artifacts := .empty
  roles := .empty
  auditEvents := .empty
  outbox := .empty
  auditTombstones := .empty
  knowledge := .empty
  knowledgeTombstones := .empty
  retentionRuns := .empty

/-! ### Digests -/

/-- `json.dumps(value, separators=(",", ":"))`. -/
def keyStyle : Style := ⟨[','], [':'], true, true⟩

/-- `json.dumps(value, sort_keys=True)`. -/
def recordStyle : Style := ⟨[',', ' '], [':', ' '], true, true⟩

def digest (rt : Runtime) (style : Style) (value : Json) : String :=
  rt.sha256 (String.ofList (text style rt.floatText value))

def idempotencyDigest (rt : Runtime) (companyId key : String) : String :=
  digest rt keyStyle (.arr [.str companyId, .str key])

def RetentionCommand.digest (rt : Runtime) (c : RetentionCommand) : String :=
  Retention.digest rt recordStyle (obj [("company_id", .str c.companyId), ("batch_size", .int c.batchSize),
    ("dry_run", .bool c.dryRun)]).sortKeys

def detailDigest (rt : Runtime) (detail : JsonObj) : String := digest rt recordStyle (obj detail).sortKeys

theorem idempotencyDigest_inj (hs : Function.Injective rt.sha256) {key'}
    (h : idempotencyDigest rt company key = idempotencyDigest rt company' key') : company = company' ∧ key = key' := by
  have ht := String.ofList_injective (hs h)
  simp only [Json.text, Json.texts, Json.join, keyStyle, append_assoc, append_cancel_left_eq] at ht
  obtain ⟨hc, hr⟩ := Json.stringText_inj ht
  obtain ⟨hk, -⟩ := Json.stringText_inj (append_cancel_left hr)
  exact ⟨hc, hk⟩

theorem RetentionCommand.digest_inj (hsh : Function.Injective rt.sha256) {c c' : RetentionCommand}
    (h : c.digest rt = c'.digest rt) : c = c' := by
  have hs (company : String) (batch : Nat) (dry : Bool) :
      (obj [("company_id", .str company), ("batch_size", .int batch), ("dry_run", .bool dry)]).sortKeys =
        .obj [("batch_size", .int batch), ("company_id", .str company), ("dry_run", .bool dry)] := by
    have hbt : ¬ "company_id" ≤ "batch_size" := by decide
    have hd : "company_id" ≤ "dry_run" := by decide
    have hb' : "batch_size" ≤ "dry_run" := by decide
    simp [sortKeys, sortKeysObj, hbt, hd, hb']
  have htx (company : String) (batch : Nat) (dry : Json) : text recordStyle rt.floatText
      (.obj [("batch_size", .int batch), ("company_id", .str company), ("dry_run", dry)]) =
        ['{'] ++ ((stringText true "batch_size" ++ [':', ' '] ++ intText batch) ++ [',', ' '] ++
          ((stringText true "company_id" ++ [':', ' '] ++ stringText true company) ++ [',', ' '] ++
            (stringText true "dry_run" ++ [':', ' '] ++ text recordStyle rt.floatText dry))) ++ ['}'] := rfl
  have hbl (b b' : Bool) (hb : text recordStyle rt.floatText (.bool b) =
      text recordStyle rt.floatText (.bool b')) : b = b' := by
    cases b <;> cases b'
    · rfl
    · exact absurd (cons.inj hb).1 (by decide)
    · exact absurd (cons.inj hb).1 (by decide)
    · rfl
  have hst (r : List Char) : Stops ([',', ' '] ++ r) := fun x hx => some.inj hx ▸ rfl
  have ht := String.ofList_injective (hsh h)
  rw [hs, hs, htx, htx] at ht
  simp only [append_assoc, append_cancel_left_eq] at ht
  -- the text is read member by member
  obtain ⟨hn, hr⟩ := number_inj (numeric_intText _) (numeric_intText _) (hst _) (hst _) ht
  have hbt : c.batchSize = c'.batchSize := by exact_mod_cast intText_inj hn
  simp only [append_cancel_left_eq] at hr
  obtain ⟨hc, hr⟩ := stringText_inj hr
  simp only [append_cancel_left_eq, append_cancel_right_eq] at hr
  have hd := hbl c.dryRun c'.dryRun hr
  cases c
  cases c'
  simp_all

end WisdoverseCell.Retention
