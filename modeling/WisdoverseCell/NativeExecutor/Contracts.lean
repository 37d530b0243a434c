import WisdoverseCell.ControlPlane.ExecutionPolicy
import WisdoverseCell.Library.Checked

/-!
# Requests and responses of the native executor

The wire contracts carry the bounds that their validation checks.  A response is dumped to JSON when its receipt is
stored and validated again when the receipt is replayed; `modelValidate_modelDump` says that this gives the response
back.
-/

namespace WisdoverseCell.NativeExecutor

open Json

open ControlPlane (Runtime compactStyle optionalText)

structure Refusal where
  code : String
  statusCode : Nat

/-! ### Requests -/

def bounded (most : Nat) (text : String) : Prop := 1 ≤ text.length ∧ text.length ≤ most

instance (most : Nat) (text : String) : Decidable (bounded most text) := inferInstanceAs (Decidable (_ ∧ _))

structure ExecutorRequest where
  companyId : String
  action : String
  agentId : String
  runId : String
  traceId : Option String
  goalId : Option String
  workItemId : Option String
  input : JsonObj
  maxCostUsd : ℚ
  companyId_bounded : bounded 48 companyId
  action_bounded : bounded 64 action
  agentId_bounded : bounded 64 agentId
  runId_bounded : bounded 48 runId
  traceId_bounded : ∀ text ∈ traceId, bounded 96 text
  goalId_bounded : ∀ text ∈ goalId, bounded 48 text
  workItemId_bounded : ∀ text ∈ workItemId, bounded 48 text
  input_finite : (obj input).isFinite = true
  maxCostUsd_nonneg : 0 ≤ maxCostUsd
  maxCostUsd_le : maxCostUsd ≤ 1000000

def ExecutorRequest.modelDump (r : ExecutorRequest) : Json :=
  .obj [("schema_version", .str "1.0"), ("company_id", .str r.companyId), ("action", .str r.action),
    ("agent_id", .str r.agentId), ("run_id", .str r.runId), ("trace_id", optionalText r.traceId),
    ("goal_id", optionalText r.goalId), ("work_item_id", optionalText r.workItemId), ("input", .obj r.input),
    ("max_cost_usd", .float r.maxCostUsd)]

private theorem isFinite_optionalText (text) : (optionalText text).isFinite = true := by
  cases text <;> rfl

/-- A request always has a JSON text, since its input has one. -/
theorem ExecutorRequest.isFinite_modelDump (r : ExecutorRequest) : r.modelDump.isFinite = true := by
  simp only [modelDump, isFinite, isFiniteObj, isFinite_optionalText, Bool.true_and, Bool.and_true]
  exact r.input_finite

/-- `json.dumps(request, sort_keys=True, separators=(",", ":"), allow_nan=False)`. -/
def ExecutorRequest.text (rt : Runtime) (r : ExecutorRequest) : String :=
  (r.modelDump.dumps compactStyle rt.floatText).get (by simp [dumps, r.isFinite_modelDump])

def requestDigest (rt : Runtime) (r : ExecutorRequest) : String := rt.sha256 (r.text rt)

/-! ### Responses -/

inductive ResponseStatus
  | succeeded
  | failed
  | accepted
  | recorded
  deriving DecidableEq

namespace ResponseStatus

def text : ResponseStatus → String
  | succeeded => "succeeded"
  | failed => "failed"
  | accepted => "accepted"
  | recorded => "recorded"

def ofText (s : String) : Option ResponseStatus :=
  [succeeded, failed, accepted, recorded].find? (fun status => status.text = s)

private theorem ofText_text (status) : ofText status.text = some status := by
  cases status <;> decide

end ResponseStatus

structure ExecutorResponse where
  status : ResponseStatus
  summary : String
  costUsd : ℚ
  costIsEstimate : Bool
  output : JsonObj
  artifactReferences : List String
  summary_length : summary.length ≤ 20000
  costUsd_nonneg : 0 ≤ costUsd
  costUsd_le : costUsd ≤ 1000000
  artifactReferences_length : artifactReferences.length ≤ 100

namespace ExecutorResponse

def modelDump (r : ExecutorResponse) : Json :=
  .obj [("schema_version", .str "1.0"), ("status", .str r.status.text), ("summary", .str r.summary),
    ("cost_usd", .float r.costUsd), ("cost_is_estimate", .bool r.costIsEstimate), ("output", .obj r.output),
    ("artifact_references", .arr (r.artifactReferences.map .str))]

def fields : List String :=
  ["schema_version", "status", "summary", "cost_usd", "cost_is_estimate", "output", "artifact_references"]

def strOf : Json → Option String
  | .str s => some s
  | .null | .bool _ | .int _ | .float _ | .nonFinite _ | .arr _ | .obj _ => none

def numberOf : Json → Option ℚ
  | .float q => some q
  | .int n => some n
  | .null | .bool _ | .nonFinite _ | .str _ | .arr _ | .obj _ => none

def boolOf : Json → Option Bool
  | .bool b => some b
  | .null | .int _ | .float _ | .nonFinite _ | .str _ | .arr _ | .obj _ => none

def objOf : Json → Option JsonObj
  | .obj o => some o
  | .null | .bool _ | .int _ | .float _ | .nonFinite _ | .str _ | .arr _ => none

def textsOf : Json → Option (List String)
  | .arr xs => xs.mapM strOf
  | .null | .bool _ | .int _ | .float _ | .nonFinite _ | .str _ | .obj _ => none

def ofFields (status : ResponseStatus) (summary : String) (costUsd : ℚ) (costIsEstimate : Bool) (output : JsonObj)
    (artifactReferences : List String) : Option ExecutorResponse :=
  if h : summary.length ≤ 20000 ∧ 0 ≤ costUsd ∧ costUsd ≤ 1000000 ∧ artifactReferences.length ≤ 100 then
    some ⟨status, summary, costUsd, costIsEstimate, output, artifactReferences, h.1, h.2.1, h.2.2.1, h.2.2.2⟩
  else none

def modelValidate (j : Json) : Option ExecutorResponse := do
  let o ← objOf j
  guard (o.all (fun kv => kv.1 ∈ fields))
  guard (o.lookup "schema_version" = some (.str "1.0"))
  let status ← (o.lookup "status").bind strOf |>.bind ResponseStatus.ofText
  let summary ← (o.lookup "summary").bind strOf
  let costUsd ← (o.lookup "cost_usd").bind numberOf
  let costIsEstimate ← boolOf ((o.lookup "cost_is_estimate").getD (.bool false))
  let output ← objOf ((o.lookup "output").getD (.obj []))
  let artifactReferences ← textsOf ((o.lookup "artifact_references").getD (.arr []))
  ofFields status summary costUsd costIsEstimate output artifactReferences

private theorem textsOf_map_str (texts) : textsOf (.arr (texts.map .str)) = some texts := by
  induction texts with
  | nil => rfl
  | cons text texts ih =>
    simp only [textsOf] at ih ⊢
    simp [strOf, ih]

private theorem ofFields_self (r) :
    ofFields r.status r.summary r.costUsd r.costIsEstimate r.output r.artifactReferences = some r :=
  dif_pos ⟨r.summary_length, r.costUsd_nonneg, r.costUsd_le, r.artifactReferences_length⟩

/-- A request survives its JSON form. -/
theorem modelValidate_modelDump (r) : modelValidate r.modelDump = some r := by
  simp [modelValidate, modelDump, objOf, fields, strOf, numberOf, boolOf, ResponseStatus.ofText_text, textsOf_map_str,
    ofFields_self, List.lookup_cons, guard]

end ExecutorResponse

/-! ### From the result of a handler to the response -/

/-- What the handler returned; `foreign` is an object with a value that has no JSON text. -/
inductive HandlerResult
  | object (result : JsonObj)
  | foreign
  | other

/-- `json.dumps(value, ensure_ascii=False, separators=(",", ":"), allow_nan=False)`. -/
def outputStyle : Style := ⟨[','], [':'], false, false⟩

def maxExecutorBytes : Nat := 1000000

def resultFailed (result : JsonObj) : Option Bool :=
  if (result.lookup "error").any truthy then some true
  else
    match (result.lookup "status").getD .null with
    | .str s => some (s = "error" ∨ s = "failed")
    | .arr _ | .obj _ => none
    | .null | .bool _ | .int _ | .float _ | .nonFinite _ => some false

structure Executor where
  runtimeId : String
  companyId : String
  allowedActions : List String

/-- The receipt that goes with the request to the handler and with the response to the caller. -/
def executorContext (rt : Runtime) (executor : Executor) (r : ExecutorRequest) : JsonObj :=
  [("runtime_id", .str executor.runtimeId), ("company_id", .str r.companyId), ("agent_id", .str r.agentId),
    ("run_id", .str r.runId), ("goal_id", optionalText r.goalId), ("work_item_id", optionalText r.workItemId),
    ("trace_id", optionalText r.traceId), ("request_hash", .str (requestDigest rt r))]

def responseOf (rt : Runtime) (executor : Executor) (r : ExecutorRequest) (failed : Bool) (result : JsonObj) :
    ExecutorResponse where
  status := if failed then .failed else .recorded
  summary :=
    if failed then "Native request failed."
    else "Native request recorded; business outcome acceptance is separate."
  costUsd := r.maxCostUsd
  costIsEstimate := true
  output := [("native_result", .obj result), ("executor_receipt", .obj (executorContext rt executor r))]
  artifactReferences := []
  summary_length := by cases failed <;> decide
  costUsd_nonneg := r.maxCostUsd_nonneg
  costUsd_le := r.maxCostUsd_le
  artifactReferences_length := by decide

def encodable (rt : Runtime) (response : ExecutorResponse) : Bool :=
  response.modelDump.isFinite &&
    (String.ofList (text outputStyle rt.floatText response.modelDump)).utf8ByteSize ≤ maxExecutorBytes

def buildResponse (rt : Runtime) (executor : Executor) (r : ExecutorRequest) : HandlerResult → Option ExecutorResponse
  | .foreign | .other => none
  | .object result => do
    let failed ← resultFailed result
    let response := responseOf rt executor r failed result
    guard (encodable rt response)
    pure response

theorem buildResponse_status {rt executor r result response} (h : buildResponse rt executor r result = some response) :
    response.status = .recorded ∨ response.status = .failed := by
  cases result with
  | object =>
    simp only [buildResponse, Option.bind_eq_bind, Option.bind_eq_some_iff, Option.pure_def, Option.some.injEq] at h
    obtain ⟨failed, -, -, -, rfl⟩ := h
    cases failed
    · exact .inl rfl
    · exact .inr rfl
  | foreign => cases h
  | other => cases h

end WisdoverseCell.NativeExecutor
