import WisdoverseCell.Library.Checked
import WisdoverseCell.Library.Text
import WisdoverseCell.Retention.Records

/-!
# Appending audit events

`append_audit_event` looks for an earlier event with the same key among the tombstones, among the live rows and once
more among the tombstones, and inserts a row if it finds none.  These are separate statements of the caller's
transaction (`AppendStage`); `appendAuditEvent` is their sequence.
-/

namespace WisdoverseCell.Retention

open Option Text
open ControlPlane (Time Runtime)

variable {e e' : AuditEvent} {db db' : Db} {outboxId : String}

/-! ### Normalisation -/

def cleanMetadataKey (value : String) : Except Refusal String :=
  let key := strip value
  if key = "" then .error (.invalid "metadata_key_required") else .ok key

mutual

def freezeMetadataValue : Json → Except Refusal Json
  | .obj kvs => (freezeMetadataMapping [] kvs).map .obj
  | .arr xs => (freezeMetadataValues xs).map .arr
  | .null => .ok .null
  | .bool b => .ok (.bool b)
  | .int n => .ok (.int n)
  | .float q => .ok (.float q)
  | .nonFinite x => .ok (.nonFinite x)
  | .str s => .ok (.str s)

def freezeMetadataValues : List Json → Except Refusal (List Json)
  | [] => .ok []
  | x :: xs => do
    let y ← freezeMetadataValue x
    let ys ← freezeMetadataValues xs
    return y :: ys

def freezeMetadataMapping (frozen : JsonObj) : List (String × Json) → Except Refusal JsonObj
  | [] => .ok frozen
  | (k, v) :: kvs => do
    let key ← cleanMetadataKey k
    let value ← freezeMetadataValue v
    freezeMetadataMapping (JsonObj.set frozen key value) kvs

end

def cleanAuditDetail (detail : JsonObj) : Except Refusal JsonObj := freezeMetadataMapping [] detail

def cleanAuditText (value fieldName : String) : Except Refusal String :=
  let cleaned := strip value
  if cleaned = "" then .error (.invalid (fieldName ++ "_required")) else .ok cleaned

def cleanOptionalAuditText (value : Option String) : Option String :=
  value.bind (fun v => if strip v = "" then none else some (strip v))

def cleanAuditActorType (value : String) : String := if strip value = "" then "system" else strip value

/-- Texts are stripped, and one that must not be blank is refused. -/
def AuditEvent.forAppend (e : AuditEvent) : Except Refusal AuditEvent := do
  let auditEventId ← cleanAuditText e.auditEventId "audit_event_id"
  let companyId ← cleanAuditText e.companyId "company_id"
  let action ← cleanAuditText e.action "action"
  let targetType ← cleanAuditText e.targetType "target_type"
  let targetId ← cleanAuditText e.targetId "target_id"
  let detail ← cleanAuditDetail e.detail
  return { e with
    auditEventId := auditEventId
    companyId := companyId
    action := action
    targetType := targetType
    targetId := targetId
    actorType := cleanAuditActorType e.actorType
    actorId := strip e.actorId
    traceId := cleanOptionalAuditText e.traceId
    runId := cleanOptionalAuditText e.runId
    workItemId := cleanOptionalAuditText e.workItemId
    idempotencyKey := cleanOptionalAuditText e.idempotencyKey
    detail := detail }

def AuditEvent.byPrincipal (e : AuditEvent) (principal : Option String) : AuditEvent :=
  match principal with
  | some actorId => if e.actorType = "user" ∨ e.actorType = "operator" then { e with actorId := actorId } else e
  | none => e

/-! ### The outbox -/

def auditEventCarriesDomainEvent (e : AuditEvent) : Bool := (e.detail.lookup "domain_event").any Json.truthy

def validEventPart : List Char → Bool
  | [] => false
  | c :: cs =>
    let stable (c : Char) : Bool := c.isLower || c.isDigit
    stable c && cs.all (fun c => stable c || c = '_' || c = '-')

/-- The naming contract of event types: domain, then action, separated by dots. -/
def validEventType (eventType : String) : Bool :=
  let parts := eventType.toList.splitOn '.'
  2 ≤ parts.length && parts.all validEventPart

def outboxPayload (e : AuditEvent) (detail : JsonObj) : JsonObj :=
  [("audit_event_id", .str e.auditEventId), ("company_id", .str e.companyId), ("target_type", .str e.targetType),
    ("target_id", .str e.targetId), ("actor_type", .str e.actorType), ("actor_id", .str e.actorId),
    ("domain_event", (detail.lookup "domain_event").getD (.str e.action)), ("detail", .obj detail)] ++
    (e.runId.filter (· ≠ "")).toList.map (fun runId => ("run_id", .str runId)) ++
    (e.workItemId.filter (· ≠ "")).toList.map (fun workItemId => ("work_item_id", .str workItemId))

/-- `outbox_event_from_audit_event`, as the row that `add` stores. -/
def outboxEventFromAuditEvent (eventId : String) (e : AuditEvent) : Except Refusal OutboxEvent := do
  let detail ← cleanAuditDetail e.detail
  let payload := outboxPayload e detail
  ensure (validEventType e.action = true) (.invalid "event_type must use \x7bdomain\x7d.\x7baction\x7d naming")
  ensure ((Json.obj payload).isFinite = true) (.invalid "payload must contain only finite JSON numbers")
  return {
    eventId := eventId
    eventType := e.action
    sourceAgent := "control-plane"
    payload := payload
    schemaVersion := "1.0"
    traceId := e.traceId
    correlationId := some e.auditEventId
    retryCount := 0
    status := .pending
    attempts := 0
    lastError := none
    createdAt := e.createdAt
    publishedAt := none }

private theorem outboxEventFromAuditEvent_eq_ok {eventId o} (h : outboxEventFromAuditEvent eventId e = .ok o) :
    o.eventId = eventId ∧ o.correlationId = some e.auditEventId ∧ o.status = .pending := by
  simp only [outboxEventFromAuditEvent, eq_ok] at h
  obtain ⟨detail, -, -, -, -, -, rfl⟩ := h
  exact ⟨rfl, rfl, rfl⟩

def markPublished (now : Time) (db : Db) (eventId : String) : Db :=
  { db with
    outbox := db.outbox.update (fun o => o.eventId = eventId) (fun o => { o with
      status := .published
      attempts := o.attempts + 1
      publishedAt := some now
      lastError := none }) (fun _ => rfl) }

def markFailed (db : Db) (eventId error : String) : Db :=
  { db with
    outbox := db.outbox.update (fun o => o.eventId = eventId) (fun o => { o with
      status := .pending
      attempts := o.attempts + 1
      lastError := some (String.ofList (error.toList.take 1000)) }) (fun _ => rfl) }

/-! ### Append -/

/-- `_get_retained_audit`: the receipt of a purged event, with the key it was asked for. -/
def getRetainedAudit (rt : Runtime) (db : Db) (companyId key : String) : Option AuditEvent :=
  (db.auditTombstones.find (companyId, idempotencyDigest rt companyId key)).map (fun row =>
    { row.receipt with idempotencyKey := some key })

def getAuditByIdempotency (db : Db) (companyId key : String) : Option AuditEvent := db.auditEvents.find (companyId, key)

/-- The lookups of a normalised event; an event without a key has no earlier one. -/
def lookRetained (rt : Runtime) (db : Db) (e : AuditEvent) : Option AuditEvent :=
  e.idempotencyKey.bind (getRetainedAudit rt db e.companyId)

def lookLive (db : Db) (e : AuditEvent) : Option AuditEvent :=
  e.idempotencyKey.bind (getAuditByIdempotency db e.companyId)

def insertAuditEvent (db : Db) (e : AuditEvent) (outboxId : String) : Except Refusal Db := do
  ensure ((db.companies.get e.companyId).isSome = true) .integrityError
  let events ← require (db.auditEvents.insert e) .integrityError
  if auditEventCarriesDomainEvent e then
    let o ← outboxEventFromAuditEvent outboxId e
    let outbox ← require (db.outbox.insert o) .integrityError
    return { db with auditEvents := events, outbox := outbox }
  else return { db with auditEvents := events }

def OutboxAdds (e : AuditEvent) (outbox outbox' : Table OutboxEvent.eventId) : Prop :=
  outbox' = outbox ∨
    ∃ o, outbox.insert o = some outbox' ∧ o.correlationId = some e.auditEventId ∧ o.status = .pending

/-- An event is inserted together with its outbox row. -/
theorem insertAuditEvent_eq_ok (h : insertAuditEvent db e outboxId = .ok db') :
    ∃ events outbox, db.auditEvents.insert e = some events ∧ OutboxAdds e db.outbox outbox ∧
      db' = { db with auditEvents := events, outbox := outbox } := by
  simp only [insertAuditEvent, eq_ok] at h
  obtain ⟨-, -, events, he, h⟩ := h
  split at h
  · simp only [eq_ok] at h
    obtain ⟨o, ho, outbox, hot, rfl⟩ := h
    obtain ⟨-, hc, hs⟩ := outboxEventFromAuditEvent_eq_ok ho
    exact ⟨events, outbox, he, .inr ⟨o, hot, hc, hs⟩, rfl⟩
  · obtain rfl := pure_eq_ok.1 h
    exact ⟨events, db.outbox, he, .inl rfl, rfl⟩

/-- `append_audit_event` without interference. -/
def appendAuditEvent (rt : Runtime) (db : Db) (principal : Option String) (e : AuditEvent) (outboxId : String) :
    Except Refusal (AuditEvent × Db) := do
  let e ← (e.byPrincipal principal).forAppend
  match (lookRetained rt db e).or ((lookLive db e).or (lookRetained rt db e)) with
  | some earlier => return (earlier, db)
  | none =>
    let db' ← insertAuditEvent db e outboxId
    return (e, db')

theorem AuditEvent.forAppend_eq_ok (h : e.forAppend = .ok e') :
    e'.idempotencyKey = cleanOptionalAuditText e.idempotencyKey ∧ e'.createdAt = e.createdAt := by
  simp only [forAppend, eq_ok] at h
  obtain ⟨-, -, -, -, -, -, -, -, -, -, -, -, rfl⟩ := h
  exact ⟨rfl, rfl⟩

theorem appendAuditEvent_unkeyed {rt principal} (hk : e.idempotencyKey = none)
    (h : appendAuditEvent rt db principal e outboxId = .ok (e', db')) :
    e'.idempotencyKey = none ∧ insertAuditEvent db e' outboxId = .ok db' := by
  simp only [appendAuditEvent, bind_eq_ok] at h
  obtain ⟨e₁, he₁, h⟩ := h
  have hby : (e.byPrincipal principal).idempotencyKey = none := by
    unfold AuditEvent.byPrincipal
    split
    · split <;> exact hk
    · exact hk
  have hn : e₁.idempotencyKey = none := by
    rw [(AuditEvent.forAppend_eq_ok he₁).1, hby]
    rfl
  simp only [lookRetained, lookLive, hn, bind_none, or_none, eq_ok] at h
  obtain ⟨db₁, hdb₁, hp⟩ := h
  obtain ⟨rfl, rfl⟩ := Prod.mk.inj hp
  exact ⟨hn, hdb₁⟩

end WisdoverseCell.Retention
