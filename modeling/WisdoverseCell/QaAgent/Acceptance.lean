import WisdoverseCell.Library.Checked
import WisdoverseCell.Library.Json

/-!
# Acceptance runs of the QA agent

From the report of the runner to what is stored: the verdict, the checked result, the aggregate with its lifecycle and
its own checks, and the events that a completed run gives rise to.
-/

namespace WisdoverseCell.QaAgent

inductive QaError
  | raised
  | invalidVerdict
  | invalidRun (message : String)

/-- The text of a value and `int` of a text. -/
structure QaRuntime where
  str : Json → String
  parseInt : String → Option Int

/-! ### Verdicts -/

inductive Gate
  | pass
  | fail
  | error
  deriving DecidableEq

def Gate.text : Gate → String
  | .pass => "PASS"
  | .fail => "FAIL"
  | .error => "ERROR"

def Gate.ofText (s : String) : Option Gate := [Gate.pass, .fail, .error].find? (fun g => g.text = s)

inductive L1Status
  | pass
  | warn
  | error

def L1Status.text : L1Status → String
  | .pass => "PASS"
  | .warn => "WARN"
  | .error => "ERROR"

def L1Status.ofText (s : String) : Option L1Status := [L1Status.pass, .warn, .error].find? (fun l => l.text = s)

/-- `AcceptanceVerdict`; the only status of the third level is `INFO`. -/
structure Verdict where
  l0Gate : Gate
  l1Status : L1Status
  l0FailureCount : Nat
  l1WarningCount : Nat

def Verdict.isBlocking (v : Verdict) : Bool := v.l0Gate = .fail

def summaryText (rt : QaRuntime) (summary : JsonObj) (name default : String) : String :=
  ((summary.lookup name).map rt.str).getD default

/-- `int(summary.get(name, 0) or 0)`. -/
def summaryInt (rt : QaRuntime) (summary : JsonObj) (name : String) : Except QaError Int :=
  match summary.lookup name with
  | none => .ok 0
  | some v => if v.truthy then require (v.toInt rt.parseInt) .raised else .ok 0

def count (n : Int) : Except QaError Nat := require n.toNat? .invalidVerdict

def Verdict.fromSummary (rt : QaRuntime) (summary : JsonObj) : Except QaError Verdict := do
  let l0Failures ← summaryInt rt summary "l0_failures"
  let l1Warnings ← summaryInt rt summary "l1_warnings"
  let l0Gate ← require (Gate.ofText (summaryText rt summary "l0_gate" "ERROR")) .invalidVerdict
  let l1Status ← require (L1Status.ofText (summaryText rt summary "l1_check" "ERROR")) .invalidVerdict
  ensure (summaryText rt summary "l2_report" "INFO" = "INFO") .invalidVerdict
  let l0FailureCount ← count l0Failures
  let l1WarningCount ← count l1Warnings
  return ⟨l0Gate, l1Status, l0FailureCount, l1WarningCount⟩

/-! ### Results -/

inductive FindingLevel
  | l0
  | l1
  | l2
  deriving DecidableEq

inductive FindingStatus
  | pass
  | fail
  | warn
  | info
  | skip
  deriving DecidableEq

def FindingLevel.ofText : String → Option FindingLevel
  | "L0" => some .l0
  | "L1" => some .l1
  | "L2" => some .l2
  | _ => none

def FindingStatus.ofText : String → Option FindingStatus
  | "PASS" => some .pass
  | "FAIL" => some .fail
  | "WARN" => some .warn
  | "INFO" => some .info
  | "SKIP" => some .skip
  | _ => none

structure Finding where
  level : FindingLevel
  category : String
  check : String
  status : FindingStatus
  details : Option String
  file : Option String
  line : Option Int
  severity : String
  isBlocking : Bool

def isBlockingFinding (level : FindingLevel) (status : FindingStatus) : Bool := level = .l0 && status = .fail

/-- `derive_severity`; a finding without a level or a status has none of its own. -/
def deriveSeverity (level : Option FindingLevel) (status : Option FindingStatus) : String :=
  match level, status with
  | some .l0, some .fail => "critical"
  | some .l1, some .warn => "medium"
  | some .l2, some .info => "info"
  | _, _ => "low"

def strictText (finding : JsonObj) (name default : String) : Except QaError String :=
  match finding.lookup name with
  | none => .ok default
  | some (.str s) => .ok s
  | some _ => .error .raised

def optionalText (finding : JsonObj) (name : String) : Except QaError (Option String) :=
  match finding.lookup name with
  | none | some .null => .ok none
  | some (.str s) => .ok (some s)
  | some _ => .error .raised

def optionalInt (finding : JsonObj) (name : String) : Except QaError (Option Int) :=
  match finding.lookup name with
  | none | some .null => .ok none
  | some (.int n) => .ok (some n)
  | some _ => .error .raised

def Finding.ofReport (finding : JsonObj) : Except QaError Finding := do
  let levelText ← strictText finding "level" "L0"
  let level ← require (FindingLevel.ofText levelText) .raised
  let category ← strictText finding "category" ""
  let check ← strictText finding "check" ""
  let statusText ← strictText finding "status" "SKIP"
  let status ← require (FindingStatus.ofText statusText) .raised
  let details ← optionalText finding "details"
  let file ← optionalText finding "file"
  let line ← optionalInt finding "line"
  let severity := deriveSeverity ((finding.lookup "level").map (fun _ => level))
    ((finding.lookup "status").map (fun _ => status))
  return ⟨level, category, check, status, details, file, line, severity, isBlockingFinding level status⟩

structure Report where
  summary : JsonObj
  results : List JsonObj
  exitCode : Int
  durationSeconds : ℚ

structure RunRequest where
  agentName : String
  level : String
  commitSha : Option String
  mrIid : Option Int
  gitlabProjectId : Option Int
  trigger : String
  /-- What `QARunRequest` checks. -/
  agentName_ne : agentName ≠ ""
  level_mem : level ∈ ["l0", "l1", "l2", "all"]
  trigger_mem : trigger ∈ ["event", "manual", "api", "scheduled"]

structure ExecutionResult where
  verdict : Verdict
  totalChecks : Nat
  findings : List Finding
  exitCode : Int
  durationSeconds : ℚ
  duration_nonneg : 0 ≤ durationSeconds
  reportMarkdown : Option String

def totalChecksOf (summary : JsonObj) : Except QaError Nat :=
  match summary.lookup "total_checks" with
  | none => .ok 0
  | some (.int n) => require n.toNat? .raised
  | some _ => .error .raised

def runChecks (rt : QaRuntime) (report : Report) (reportMarkdown : Option String) : Except QaError ExecutionResult := do
  let verdict ← Verdict.fromSummary rt report.summary
  let totalChecks ← totalChecksOf report.summary
  let findings ← report.results.mapM Finding.ofReport
  if h : 0 ≤ report.durationSeconds then
    return ⟨verdict, totalChecks, findings, report.exitCode, report.durationSeconds, h, reportMarkdown⟩
  else throw .raised

/-! ### The aggregate -/

inductive RunStatus
  | requested
  | running
  | completed
  deriving DecidableEq

structure AcceptanceRun where
  runId : String
  request : RunRequest
  status : RunStatus
  verdict : Option Verdict
  totalChecks : Nat

/-- `_validate_run_identity`; the target is `agents/` with the name of the agent. -/
def validateRunIdentity (runId agentName trigger level : String) : Except QaError Unit := do
  ensure (runId ≠ "") (.invalidRun "acceptance run requires run_id")
  ensure (agentName ≠ "") (.invalidRun "acceptance run requires agent_name")
  ensure (trigger ≠ "") (.invalidRun "acceptance run requires trigger")
  ensure (level ≠ "") (.invalidRun "acceptance run requires level")

namespace AcceptanceRun

def requested (runId : String) (request : RunRequest) : Except QaError AcceptanceRun := do
  validateRunIdentity runId request.agentName request.trigger request.level
  return ⟨runId, request, .requested, none, 0⟩

def start (run : AcceptanceRun) : Except QaError AcceptanceRun := do
  ensure (run.status = .requested) (.invalidRun "only requested runs can start")
  return { run with status := .running }

def recordCompletion (rt : QaRuntime) (run : AcceptanceRun) (summary : JsonObj) (durationSeconds : ℚ) :
    Except QaError AcceptanceRun := do
  ensure (run.status = .running) (.invalidRun "only running runs can complete")
  let verdict ← Verdict.fromSummary rt summary
  let totalChecks ← summaryInt rt summary "total_checks"
  validateRunIdentity run.runId run.request.agentName "completion" "completion"
  ensure (0 ≤ durationSeconds) (.invalidRun "duration_seconds must be non-negative")
  let total ← require totalChecks.toNat? (.invalidRun "total_checks must be non-negative")
  ensure (verdict.l0FailureCount + verdict.l1WarningCount ≤ total)
    (.invalidRun "failure and warning counts cannot exceed total_checks")
  return { run with status := .completed, verdict := some verdict, totalChecks := total }

def build (rt : QaRuntime) (runId : String) (request : RunRequest) (summary : JsonObj) (durationSeconds : ℚ) :
    Except QaError AcceptanceRun := do
  let run ← requested runId request
  let run ← run.start
  run.recordCompletion rt summary durationSeconds

def isBlocking (run : AcceptanceRun) : Bool := run.verdict.any Verdict.isBlocking

end AcceptanceRun

inductive QaEventType
  | acceptanceCompleted
  | gateFailed
  deriving DecidableEq

structure QaEvent where
  eventId : String
  eventType : QaEventType
  runId : String
  traceId : Option String

/-- `build_acceptance_events_from_run`, with the ids that are generated for the two events. -/
def AcceptanceRun.events (run : AcceptanceRun) (completedId gateFailedId : String) (traceId : Option String) :
    List QaEvent :=
  ⟨completedId, .acceptanceCompleted, run.runId, traceId⟩ ::
    (if run.isBlocking then [⟨gateFailedId, .gateFailed, run.runId, traceId⟩] else [])

end WisdoverseCell.QaAgent
