import WisdoverseCell.Retention.AuditEventStore

/-!
# Knowledge pointers

Publishing, revising and deleting a knowledge pointer each read the store, compute the new record and write it under a
condition on the row.  The two halves are separate statements, so each operation is a planning function and a writing
function.
-/

namespace WisdoverseCell.Retention

open Text

open ControlPlane (Time Runtime)

variable {k k' : KnowledgeRecord} {now : Time} {db : Db} {knowledgeId : String}

/-! ### Records -/

def validText (value : String) (maxLength : Nat) : Bool := 1 ≤ value.length && value.length ≤ maxLength

def cleanRoles (values : List String) : Except Refusal (List String) := do
  let roles := values.map strip
  ensure (roles.length ≤ 100) (.invalid "reader_role_ids")
  ensure (roles.Nodup ∧ "" ∉ roles) (.invalid "reader roles must be non-empty unique IDs")
  ensure (∀ role ∈ roles, role.length ≤ 64) (.invalid "reader role ID is too long")
  return roles

/-- `KnowledgeRecord.model_validate`: texts are stripped, then checked. -/
def KnowledgeRecord.validate (k : KnowledgeRecord) : Except Refusal KnowledgeRecord := do
  ensure (validText (strip k.knowledgeId) 64 = true) (.invalid "knowledge_id")
  ensure (validText (strip k.companyId) 48 = true) (.invalid "company_id")
  ensure (validText (strip k.sourceArtifactId) 48 = true) (.invalid "source_artifact_id")
  ensure (validText (strip k.sourceCompanyId) 48 = true) (.invalid "source_company_id")
  ensure (validText (strip k.ownerActorId) 128 = true) (.invalid "owner_actor_id")
  let roles ← cleanRoles k.readerRoleIds
  ensure (1 ≤ k.version) (.invalid "version")
  ensure (∀ actor ∈ k.deletedByActorId, (strip actor).length ≤ 128) (.invalid "deleted_by_actor_id")
  ensure (k.deletedAt = none ↔ k.deletedByActorId = none)
    (.invalid "delete timestamp and actor must be supplied together")
  return { k with
    knowledgeId := strip k.knowledgeId
    companyId := strip k.companyId
    sourceArtifactId := strip k.sourceArtifactId
    sourceCompanyId := strip k.sourceCompanyId
    ownerActorId := strip k.ownerActorId
    readerRoleIds := roles
    deletedByActorId := k.deletedByActorId.map strip }

theorem KnowledgeRecord.validate_eq_ok (h : k.validate = .ok k') :
    k'.knowledgeId = strip k.knowledgeId ∧ k'.companyId = strip k.companyId ∧ k'.version = k.version ∧
      k'.deletedAt = k.deletedAt := by
  simp only [validate, eq_ok] at h
  obtain ⟨-, -, -, -, -, -, -, -, -, -, roles, -, -, -, -, -, -, -, rfl⟩ := h
  exact ⟨rfl, rfl, rfl, rfl⟩

def KnowledgeRecord.revise (k : KnowledgeRecord) (expectedVersion : Nat) (readerRoleIds : List String)
    (retentionUntil : Option Time) (now : Time) : Except Refusal KnowledgeRecord := do
  ensure (k.isAccessible now = true) (.invalid "knowledge_not_accessible")
  ensure (expectedVersion = k.version) (.invalid "knowledge_version_conflict")
  { k with
    readerRoleIds := readerRoleIds
    retentionUntil := retentionUntil
    version := k.version + 1
    updatedAt := now }.validate

def KnowledgeRecord.tombstone (k : KnowledgeRecord) (actorId : String) (now : Time) :
    Except Refusal KnowledgeRecord := do
  ensure (k.isAccessible now = true) (.invalid "knowledge_not_accessible")
  ensure (actorId = k.ownerActorId) (.invalid "knowledge_owner_required")
  { k with deletedAt := some now, deletedByActorId := some actorId }.validate

/-! ### Planning -/

def Db.getKnowledge (db : Db) (knowledgeId companyId : String) : Option KnowledgeRecord :=
  (db.knowledge.get knowledgeId).filter (fun k => k.companyId = companyId)

def Db.companyHasRoles (db : Db) (companyId : String) (roleIds : List String) : Bool :=
  roleIds.all (fun id => (db.roles.get id).any (fun role => role.companyId = companyId))

/-- The request of `publish_knowledge`; a request that names a pointer revises it. -/
structure PublishCall where
  companyId : String
  sourceArtifactId : String
  actorId : String
  readerRoleIds : List String
  retentionUntil : Option Time

def sourceArtifact (db : Db) (call : PublishCall) : Except Refusal ControlPlane.Artifact := do
  let artifact ← require (db.artifacts.get call.sourceArtifactId) (.invalid call.sourceArtifactId)
  ensure (artifact.companyId = call.companyId) (.invalid call.sourceArtifactId)
  return artifact

/-- `publish_knowledge` of a new pointer, up to the creation of its row. -/
def planPublish (db : Db) (call : PublishCall) (expectedVersion : Option Nat) (uuid : String) (now : Time) :
    Except Refusal KnowledgeRecord := do
  let artifact ← sourceArtifact db call
  ensure (expectedVersion = none ∨ expectedVersion = some 0) (.invalid "new knowledge must start at version 1")
  ensure (db.companyHasRoles call.companyId call.readerRoleIds = true) (.invalid "reader_role_company_mismatch")
  KnowledgeRecord.validate {
    knowledgeId := "knw_" ++ uuid
    companyId := call.companyId
    sourceArtifactId := call.sourceArtifactId
    sourceCompanyId := artifact.companyId
    ownerActorId := call.actorId
    readerRoleIds := call.readerRoleIds
    version := 1
    retentionUntil := call.retentionUntil
    createdAt := now
    updatedAt := now
    deletedAt := none
    deletedByActorId := none }

/-- `publish_knowledge` of the next version of a pointer, up to the write. -/
def planRevise (db : Db) (call : PublishCall) (knowledgeId : String) (expectedVersion : Option Nat) (now : Time) :
    Except Refusal KnowledgeRecord := do
  let artifact ← sourceArtifact db call
  let expected ← require expectedVersion (.invalid "expected_version_required")
  let current ← require (db.getKnowledge knowledgeId call.companyId) (.invalid knowledgeId)
  ensure (current.ownerActorId = call.actorId) (.invalid knowledgeId)
  ensure (current.sourceArtifactId = call.sourceArtifactId ∧ current.sourceCompanyId = artifact.companyId)
    (.invalid knowledgeId)
  ensure (db.companyHasRoles call.companyId call.readerRoleIds = true) (.invalid "reader_role_company_mismatch")
  current.revise expected call.readerRoleIds call.retentionUntil now

def planDelete (db : Db) (knowledgeId companyId actorId : String) (now : Time) :
    Except Refusal (KnowledgeRecord × KnowledgeTombstone) := do
  let record ← require (db.getKnowledge knowledgeId companyId) (.invalid knowledgeId)
  let deleted ← record.tombstone actorId now
  return (deleted, ⟨strip record.knowledgeId, strip companyId, strip actorId, record.version, now⟩)

private theorem revise_eq_ok {expected roles retention}
    (h : k.revise expected roles retention now = .ok k') : k'.version = expected + 1 ∧ k'.deletedAt = none := by
  simp only [KnowledgeRecord.revise, eq_ok] at h
  obtain ⟨-, ha, -, rfl, h⟩ := h
  obtain ⟨-, -, hv, hd⟩ := KnowledgeRecord.validate_eq_ok h
  exact ⟨hv, hd.trans (of_decide_eq_true ha).1⟩

theorem planRevise_eq_ok {call expectedVersion revised}
    (h : planRevise db call knowledgeId expectedVersion now = .ok revised) :
    ∃ expected, expectedVersion = some expected ∧ revised.version = expected + 1 ∧ revised.deletedAt = none := by
  simp only [planRevise, eq_ok] at h
  obtain ⟨artifact, -, expected, he, current, -, -, -, -, -, -, -, h⟩ := h
  exact ⟨expected, he, revise_eq_ok h⟩

theorem planDelete_eq_ok {companyId actorId deleted tombstone}
    (h : planDelete db knowledgeId companyId actorId now = .ok (deleted, tombstone)) :
    deleted.deletedAt = some now ∧ deleted.knowledgeId = tombstone.knowledgeId := by
  simp only [planDelete, KnowledgeRecord.tombstone, eq_ok] at h
  obtain ⟨record, -, deleted', ⟨-, -, -, -, h⟩, hp⟩ := h
  obtain ⟨rfl, rfl⟩ := Prod.mk.inj hp
  obtain ⟨hid, -, -, hd⟩ := KnowledgeRecord.validate_eq_ok h
  exact ⟨hd, hid⟩

/-! ### Writing -/

/-- The check of `create_knowledge`, under the lock of the company's row. -/
def knowledgeIdFree (db : Db) (knowledgeId : String) : Bool := (db.knowledgeTombstones.get knowledgeId).isNone

/-- The insert of `create_knowledge`. -/
def insertKnowledge (db : Db) (record : KnowledgeRecord) : Except Refusal Db := do
  ensure ((db.companies.get record.companyId).isSome ∧
    (db.artifacts.get record.sourceArtifactId).isSome) .integrityError
  let knowledge ← require (db.knowledge.insert record) .integrityError
  return { db with knowledge := knowledge }

def KnowledgeRecord.current (record : KnowledgeRecord) (version : Nat) (k : KnowledgeRecord) : Bool :=
  k.knowledgeId = record.knowledgeId ∧ k.companyId = record.companyId ∧ k.version = version ∧ k.deletedAt = none

def KnowledgeRecord.revisedBy (k record : KnowledgeRecord) : KnowledgeRecord :=
  { k with
    readerRoleIds := record.readerRoleIds
    version := record.version
    retentionUntil := record.retentionUntil
    updatedAt := record.updatedAt
    deletedAt := record.deletedAt
    deletedByActorId := record.deletedByActorId }

theorem KnowledgeRecord.revisedBy_knowledgeId (k record : KnowledgeRecord) :
    (k.revisedBy record).knowledgeId = k.knowledgeId := rfl

def reviseKnowledge (db : Db) (record : KnowledgeRecord) (expectedVersion : Nat) : Except Refusal Db := do
  ensure (db.knowledge.rows.countP (record.current expectedVersion) = 1) (.invalid record.knowledgeId)
  return { db with
    knowledge := db.knowledge.update (record.current expectedVersion) (fun k => k.revisedBy record)
      (fun k => k.revisedBy_knowledgeId record) }

def deleteKnowledge (db : Db) (record : KnowledgeRecord) (tombstone : KnowledgeTombstone) : Except Refusal Db := do
  ensure (db.knowledge.rows.countP (record.current record.version) = 1) (.invalid record.knowledgeId)
  let tombstones ← require (db.knowledgeTombstones.insert tombstone) .integrityError
  return { db with
    knowledge := db.knowledge.update (record.current record.version) (fun k =>
      { k with deletedAt := record.deletedAt, deletedByActorId := record.deletedByActorId }) (fun _ => rfl)
    knowledgeTombstones := tombstones }

def knowledgeAudit (auditEventId companyId actorId action knowledgeId : String) (detail : JsonObj) (now : Time) :
    AuditEvent where
  auditEventId := auditEventId
  companyId := companyId
  action := action
  targetType := "knowledge"
  targetId := knowledgeId
  actorType := "operator"
  actorId := actorId
  traceId := none
  runId := none
  workItemId := none
  idempotencyKey := none
  detail := detail
  createdAt := now

def publishedDetail (record : KnowledgeRecord) : JsonObj :=
  [("version", .int record.version), ("source_artifact_id", .str record.sourceArtifactId),
    ("reader_role_count", .int record.readerRoleIds.length)]

def deletedDetail (tombstone : KnowledgeTombstone) (record : KnowledgeRecord) : JsonObj :=
  [("version", .int tombstone.version), ("source_artifact_id", .str record.sourceArtifactId)]

end WisdoverseCell.Retention
