import WisdoverseCell.ControlPlane.ExecutionPolicy
import WisdoverseCell.Library.Checked

/-!
# The review of outcomes

A review accepts or rejects an artifact of the latest run of a work item and writes or erases the link to the
acceptance in the item's metadata.  `requireAccepted` is the check that completion of the item has to pass.
-/

namespace WisdoverseCell.ControlPlane

open Table

def Db.setWorkItem (db : Db) (workItemId : String) (f : WorkItem → WorkItem)
    (hf : ∀ w, (f w).workItemId = w.workItemId) : Db :=
  { db with workItems := db.workItems.update (fun w => w.workItemId = workItemId) f hf }

theorem Db.get_setWorkItem {db : Db} {workItemId : String} {f w}
    (hf : ∀ w, (f w).workItemId = w.workItemId) (h : db.workItems.get workItemId = some w) :
    (db.setWorkItem workItemId f hf).workItems.get workItemId = some (f w) :=
  get_update_of hf h (decide_eq_true (get_eq_some.1 h).2)

/-! ### Evidence -/

/-- `json.dumps(value, ensure_ascii=False, sort_keys=True)`. -/
def evidenceStyle : Json.Style := ⟨[',', ' '], [':', ' '], false, true⟩

def hashEvidence (rt : Runtime) (value : Json) : String :=
  rt.sha256 (String.ofList (Json.text evidenceStyle rt.floatText value.sortKeys))

/-- `order_by(started_at.desc(), run_id.desc()).limit(1)`. -/
def latestRun (runs : List AgentRun) : Option AgentRun :=
  runs.foldl (fun best r =>
    match best with
    | none => some r
    | some b => if b.startedAt < r.startedAt ∨ (b.startedAt = r.startedAt ∧ b.runId < r.runId) then some r else some b)
    none

def Db.latestWorkRun (db : Db) (companyId workItemId : String) : Option AgentRun :=
  latestRun (db.agentRuns.rows.filter (fun r => r.companyId = companyId ∧ r.workItemId = some workItemId))

def lookupObj (o : JsonObj) (k : String) : JsonObj :=
  match o.lookup k with
  | some (.obj kvs) => kvs
  | _ => []

def AgentRun.output (run : AgentRun) : JsonObj :=
  match run.outputEvents.getLast? with
  | some event => lookupObj (lookupObj event "payload") "output"
  | none => []

def Artifact.evidence (artifact : Artifact) : Option Json :=
  match artifact.metadata.lookup "evidence" with
  | none | some .null => none
  | some value => some value

def requirePayloadIntegrity (rt : Runtime) (evidence : Option Json) (run : AgentRun) : Except Failure Unit :=
  match evidence with
  | none => .ok ()
  | some (.obj kvs) =>
    let expected := [("input_payload_hash", hashEvidence rt (.obj run.inputEvent)),
      ("output_payload_hash", hashEvidence rt (.obj [("output_events", .arr (run.outputEvents.map .obj))]))]
    if expected.any (fun kv => JsonObj.has kvs kv.1 && kvs.lookup kv.1 ≠ some (.str kv.2)) then
      .error (.denied ⟨"artifact_evidence_integrity_failed", 409⟩)
    else .ok ()
  | some _ => .error .typeError

def Db.linkedAcceptance (db : Db) (work : WorkItem) : Option OutcomeAcceptance :=
  match (work.metadata.lookup "acceptance_id").getD (.str "") with
  | .str acceptanceId => db.acceptances.get acceptanceId
  | _ => none

/-- `require_accepted`: the work item's acceptance is of its latest run and of the artifact as it was reviewed. -/
def requireAccepted (rt : Runtime) (db : Db) (work : WorkItem) : Except Failure Unit := do
  let missing := Failure.denied ⟨"accepted_artifact_required", 409⟩
  let acceptance ← require (db.linkedAcceptance work) missing
  let artifact ← require (db.artifacts.get acceptance.artifactId) missing
  ensure (acceptance.verdict = .accepted ∧ acceptance.companyId = work.companyId ∧
    acceptance.workItemId = work.workItemId ∧ acceptance.artifactHash = artifact.contentHash ∧
    (db.latestWorkRun work.companyId work.workItemId).map AgentRun.runId = some acceptance.runId) missing
  let run ← require (db.agentRuns.get acceptance.runId) missing
  ensure (∀ e ∈ artifact.evidence, some (hashEvidence rt e) = artifact.contentHash)
    (Failure.denied ⟨"artifact_evidence_integrity_failed", 409⟩)
  requirePayloadIntegrity rt artifact.evidence run

/-! ### Review -/

structure ReviewRequest where
  companyId : String
  workItemId : String
  artifactId : String
  actorId : String
  verdict : Verdict
  reason : String
  uuid : String

def ReviewRequest.acceptanceId (r : ReviewRequest) : String := "acc_" ++ r.uuid

def validateOutcome (work : WorkItem) (run : AgentRun) (artifact : Artifact) (reason : String) :
    Except ExecutionDenied Unit := do
  ensure (Text.strip reason ≠ "") ⟨"acceptance_reason_and_verdict_required", 400⟩
  ensure (work.status ≠ .completed ∧ work.status ≠ .cancelled) ⟨"work_item_closed", 409⟩
  ensure (artifact.companyId = work.companyId ∧ artifact.workItemId = some work.workItemId ∧
    artifact.runId = some run.runId ∧ run.workItemId = some work.workItemId ∧ run.companyId = work.companyId)
    ⟨"acceptance_evidence_link_mismatch", 400⟩
  ensure (run.status = .succeeded ∧ artifact.contentHash.any (fun h => h ≠ ""))
    ⟨"acceptance_successful_evidence_required", 400⟩
  ensure (run.output.lookup "status" ≠ some (.str "recorded") ∧ run.output ≠ [])
    ⟨"recorded_run_is_not_business_output", 400⟩

def requireEvidence (rt : Runtime) (artifact : Artifact) (run : AgentRun) : Except Failure Unit :=
  let broken := Failure.denied ⟨"artifact_evidence_integrity_failed", 400⟩
  match artifact.evidence with
  | none => .ok ()
  | some (.obj kvs) =>
    ensure (some (hashEvidence rt (.obj kvs)) = artifact.contentHash ∧ kvs.lookup "run_id" = some (.str run.runId) ∧
      kvs.lookup "status" = some (.str "succeeded")) broken
  | some value => if some (hashEvidence rt value) = artifact.contentHash then .error .typeError else .error broken

def reviewedMetadata (metadata : JsonObj) (r : ReviewRequest) : JsonObj :=
  match r.verdict with
  | .accepted =>
    JsonObj.set (JsonObj.set metadata "accepted_artifact_id" (.str r.artifactId)) "acceptance_id" (.str r.acceptanceId)
  | .rejected => JsonObj.pop (JsonObj.pop metadata "accepted_artifact_id") "acceptance_id"

/-- `review`: an outcome is accepted or sent back. -/
def review (rt : Runtime) (now : Time) (db : Db) (r : ReviewRequest) : Except Failure Db := do
  let work ← require (db.workItems.get r.workItemId) (Failure.denied ⟨"work_item_not_found", 404⟩)
  ensure (work.companyId = r.companyId) (Failure.denied ⟨"work_item_not_found", 404⟩)
  let artifact ← require (db.artifacts.get r.artifactId) (Failure.denied ⟨"artifact_not_found", 404⟩)
  ensure (artifact.runId.any (fun id => id ≠ "")) (Failure.denied ⟨"artifact_not_found", 404⟩)
  let run ← require (db.latestWorkRun r.companyId r.workItemId) (Failure.denied ⟨"acceptance_run_required", 400⟩)
  (validateOutcome work run artifact r.reason).mapError Failure.denied
  requireEvidence rt artifact run
  requirePayloadIntegrity rt artifact.evidence run
  let acceptances ← require (db.acceptances.insert
    { acceptanceId := r.acceptanceId
      companyId := r.companyId
      workItemId := r.workItemId
      artifactId := r.artifactId
      runId := run.runId
      artifactHash := artifact.contentHash
      verdict := r.verdict
      actorId := r.actorId
      reason := Text.strip r.reason
      createdAt := now }) Failure.integrityError
  return ({ db with acceptances := acceptances }.setWorkItem r.workItemId
      (fun w => { w with metadata := reviewedMetadata w.metadata r }) (fun _ => rfl)).appendAudit
    ⟨r.companyId, "outcome." ++ r.verdict.value, "artifact", r.artifactId, "operator", r.actorId, some run.runId,
      some r.workItemId⟩

/-- What a review writes. -/
theorem review_eq_ok {rt now db db' r} (h : review rt now db r = .ok db') :
    ∃ acceptances audits, db' = { db with
      acceptances := acceptances
      workItems := db.workItems.update (fun w => w.workItemId = r.workItemId)
        (fun w => { w with metadata := reviewedMetadata w.metadata r }) (fun _ => rfl)
      auditEvents := audits } := by
  simp only [review, eq_ok] at h
  obtain ⟨work, -, -, -, artifact, -, -, -, run, -, -, -, -, -, -, -, acceptances, -, rfl⟩ := h
  exact ⟨acceptances, _, rfl⟩

end WisdoverseCell.ControlPlane
