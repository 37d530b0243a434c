import WisdoverseCell.ControlPlane.OperatorAuth

/-!
# The routes of the control plane

One handler per route, with its method, its path template, where it takes the company it works for from, and the scope
it requires for that company itself, if it does.  `handlerCompany` is the company a handler works for, independently of
the company its request was authorized for.
-/

namespace WisdoverseCell.ControlPlane

/-! ### Where a handler takes its company from -/

inductive BodyField
  /-- optional, of 1 to 48 characters -/
  | optional
  /-- the same, after any value has been turned into text and stripped -/
  | cleaned
  /-- optional, without bounds -/
  | unbounded
  /-- required, of 1 to 48 characters -/
  | required
  deriving DecidableEq

inductive QueryField
  | optional
  /-- optional, of 1 to 48 characters -/
  | bounded
  | required
  /-- required, of 1 to 48 characters -/
  | requiredBounded
  deriving DecidableEq

inductive CompanySource
  /-- the path parameter `company_id` -/
  | path
  | query (field : QueryField)
  /-- the required query parameter, stripped and refused when nothing is left -/
  | auditExport
  /-- the query parameter or the default, stripped -/
  | operatingMetrics
  | body (field : BodyField)
  /-- the handler works on a stored record, whatever its company -/
  | record (resource : Resource)
  /-- the handler names no company: it lists them or creates one -/
  | directory
  deriving DecidableEq

def boundedText (s : String) : Option String := if 1 ≤ s.length ∧ s.length ≤ 48 then some s else none

def BodyField.read (rt : Runtime) (field : BodyField) (body : Option Json) : Option (Option String) :=
  match body with
  | some (.obj kvs) =>
    match field, kvs.lookup "company_id" with
    | .required, some (.str s) => (boundedText s).map some
    | .required, _ => none
    | _, none | _, some .null => some none
    | .optional, some (.str s) => (boundedText s).map some
    | .unbounded, some (.str s) => some (some s)
    | .cleaned, some v =>
      let s := Text.strip (rt.str v)
      if s = "" then some none else (boundedText s).map some
    | _, some _ => none
  | _ => none

def resolveCompany (defaultCompany : String) (companyId : Option String) : String :=
  match companyId with
  | some c => if c ≠ "" then c else defaultCompany
  | none => defaultCompany

def QueryField.company (defaultCompany : String) (field : QueryField) (value : Option String) : Option String :=
  match field, value with
  | .optional, v => some (resolveCompany defaultCompany v)
  | .bounded, none => some (resolveCompany defaultCompany none)
  | .bounded, some s | .requiredBounded, some s => (boundedText s).map (fun c => resolveCompany defaultCompany (some c))
  | .required, v => v
  | .requiredBounded, none => none

/-! ### Handlers -/

inductive Segment
  | lit (text : String)
  | param (name : String)
  deriving DecidableEq

structure Route where
  method : Method
  template : List Segment
  source : CompanySource
  /-- the scope the handler itself requires for its company -/
  guard : Option String

def Route.path (route : Route) (pathParams : List (String × String)) : String :=
  "/api/v1/control-plane" ++ String.join (route.template.map (fun
    | .lit text => "/" ++ text
    | .param name => "/" ++ (pathParams.lookup name).getD ""))

inductive Handler
  | exportCompanyTemplate
  | importCompanyTemplate
  | exportAudit
  | applyRetention
  | getOperatingMetrics
  | getOperatingMetricsPrometheus
  | controlExecution
  | recoverExecution
  | reconcileRelease
  | recoverExpiredRelease
  | release
  | publishKnowledge
  | reviseKnowledge
  | readKnowledge
  | deleteKnowledge
  | createEvaluation
  | listEvaluations
  | listCompanies
  | createCompany
  | getCompany
  | updateCompany
  | listGoals
  | createGoal
  | getGoal
  | updateGoalStatus
  | listWorkItems
  | createWorkItem
  | getWorkItem
  | updateWorkItemStatus
  | runWorkItem
  | retryWorkItem
  | reassignWorkItem
  | acceptWorkItem
  | blockWorkItem
  | closeWorkItem
  | getWorkItemActivity
  | listDecisions
  | createDecision
  | getDecision
  | updateDecisionStatus
  | listArtifacts
  | createArtifact
  | getArtifact
  | listEvolutionProposals
  | createEvolutionProposal
  | getEvolutionProposal
  | updateEvolutionProposalStatus
  | listRuns
  | getRun
  | listAgents
  | createAgent
  | getAgent
  | updateAgent
  | getAgentPromptConfig
  | updateAgentPromptConfig
  | updateAgentStatus
  | wakeAgent
  | runHeartbeatSchedulerOnce
  | listApprovals
  | approve
  | reject
  | listBudgetPolicies
  | createBudgetPolicy
  | getBudgetPolicy
  | updateBudgetPolicy
  | listBudgetUsage
  | listAuditEvents
  | getTimeline

def queryRoute (method : Method) (template : List Segment) : Route := ⟨method, template, .query .optional, none⟩

def bodyRoute (method : Method) (template : List Segment) : Route := ⟨method, template, .body .optional, none⟩

def companyPath : List Segment := [.lit "companies", .param "company_id"]

def proposalPath : List Segment := [.lit "evolution-proposals", .param "proposal_id"]

def knowledgePath : List Segment := [.lit "knowledge", .param "knowledge_id"]

def workItemPath : List Segment := [.lit "work-items", .param "work_item_id"]

def agentPath : List Segment := [.lit "agents", .param "agent_id"]

def budgetPath : List Segment := [.lit "budgets", .lit "policies"]

namespace Handler

/-- The method, path and gate of every handler, as the routers declare them. -/
def route : Handler → Route
  | exportCompanyTemplate => ⟨.get, companyPath ++ [.lit "template"], .path, none⟩
  | importCompanyTemplate => ⟨.post, [.lit "company-templates", .lit "import"], .directory, none⟩
  | exportAudit => ⟨.get, [.lit "audit-export"], .auditExport, some "audit:export"⟩
  | applyRetention => ⟨.post, [.lit "retention"], .body .required, some "audit:retention"⟩
  | getOperatingMetrics => ⟨.get, [.lit "operating-metrics"], .operatingMetrics, some "control-plane:read"⟩
  | getOperatingMetricsPrometheus =>
    ⟨.get, [.lit "operating-metrics", .lit "prometheus"], .operatingMetrics, some "control-plane:read"⟩
  | controlExecution =>
    ⟨.post, [.lit "executions", .param "run_id", .lit "control"], .body .required, some "execution:control"⟩
  | recoverExecution =>
    ⟨.post, [.lit "executions", .param "run_id", .lit "recover"], .body .required, some "execution:recover"⟩
  | reconcileRelease =>
    ⟨.post, proposalPath ++ [.lit "release", .lit "reconcile"], .query .required, some "evolution:release"⟩
  | recoverExpiredRelease =>
    ⟨.post, proposalPath ++ [.lit "release", .lit "recover"], .query .required, some "evolution:release"⟩
  | release => ⟨.post, proposalPath ++ [.lit "release"], .body .required, some "evolution:release"⟩
  | publishKnowledge => ⟨.post, [.lit "knowledge"], .body .required, some "knowledge:write"⟩
  | reviseKnowledge => ⟨.post, knowledgePath ++ [.lit "publish"], .body .required, some "knowledge:write"⟩
  | readKnowledge => ⟨.get, knowledgePath, .query .requiredBounded, some "knowledge:read"⟩
  | deleteKnowledge => ⟨.delete, knowledgePath, .query .requiredBounded, some "knowledge:delete"⟩
  | createEvaluation => ⟨.post, proposalPath ++ [.lit "evaluations"], .body .required, none⟩
  | listEvaluations => ⟨.get, proposalPath ++ [.lit "evaluations"], .query .bounded, none⟩
  | listCompanies => ⟨.get, [.lit "companies"], .directory, none⟩
  | createCompany => ⟨.post, [.lit "companies"], .directory, none⟩
  | getCompany => ⟨.get, companyPath, .path, none⟩
  | updateCompany => ⟨.patch, companyPath, .path, none⟩
  | listGoals => queryRoute .get [.lit "goals"]
  | createGoal => bodyRoute .post [.lit "goals"]
  | getGoal => queryRoute .get [.lit "goals", .param "goal_id"]
  | updateGoalStatus => queryRoute .patch [.lit "goals", .param "goal_id", .lit "status"]
  | listWorkItems => queryRoute .get [.lit "work-items"]
  | createWorkItem => bodyRoute .post [.lit "work-items"]
  | getWorkItem => queryRoute .get workItemPath
  | updateWorkItemStatus => queryRoute .patch (workItemPath ++ [.lit "status"])
  | runWorkItem => ⟨.post, workItemPath ++ [.lit "run"], .body .cleaned, none⟩
  | retryWorkItem => ⟨.post, workItemPath ++ [.lit "retry"], .body .cleaned, none⟩
  | reassignWorkItem => ⟨.post, workItemPath ++ [.lit "reassign"], .body .cleaned, none⟩
  | acceptWorkItem => ⟨.post, workItemPath ++ [.lit "accept"], .body .unbounded, none⟩
  | blockWorkItem => ⟨.post, workItemPath ++ [.lit "block"], .body .cleaned, none⟩
  | closeWorkItem => ⟨.post, workItemPath ++ [.lit "close"], .body .cleaned, none⟩
  | getWorkItemActivity => queryRoute .get (workItemPath ++ [.lit "activity"])
  | listDecisions => queryRoute .get [.lit "decisions"]
  | createDecision => bodyRoute .post [.lit "decisions"]
  | getDecision => queryRoute .get [.lit "decisions", .param "decision_id"]
  | updateDecisionStatus => queryRoute .patch [.lit "decisions", .param "decision_id", .lit "status"]
  | listArtifacts => queryRoute .get [.lit "artifacts"]
  | createArtifact => bodyRoute .post [.lit "artifacts"]
  | getArtifact => queryRoute .get [.lit "artifacts", .param "artifact_id"]
  | listEvolutionProposals => queryRoute .get [.lit "evolution-proposals"]
  | createEvolutionProposal => bodyRoute .post [.lit "evolution-proposals"]
  | getEvolutionProposal => queryRoute .get proposalPath
  | updateEvolutionProposalStatus => queryRoute .patch (proposalPath ++ [.lit "status"])
  | listRuns => queryRoute .get [.lit "runs"]
  | getRun => ⟨.get, [.lit "runs", .param "run_id"], .record .run, none⟩
  | listAgents => queryRoute .get [.lit "agents"]
  | createAgent => bodyRoute .post [.lit "agents"]
  | getAgent => queryRoute .get agentPath
  | updateAgent => bodyRoute .put agentPath
  | getAgentPromptConfig => queryRoute .get (agentPath ++ [.lit "prompt-config"])
  | updateAgentPromptConfig => queryRoute .put (agentPath ++ [.lit "prompt-config"])
  | updateAgentStatus => queryRoute .patch (agentPath ++ [.lit "status"])
  | wakeAgent => bodyRoute .post (agentPath ++ [.lit "wake"])
  | runHeartbeatSchedulerOnce => bodyRoute .post [.lit "scheduler", .lit "heartbeats", .lit "run-once"]
  | listApprovals => queryRoute .get [.lit "approvals"]
  | approve => ⟨.post, [.lit "approvals", .param "approval_id", .lit "approve"], .record .approval, none⟩
  | reject => ⟨.post, [.lit "approvals", .param "approval_id", .lit "reject"], .record .approval, none⟩
  | listBudgetPolicies => queryRoute .get budgetPath
  | createBudgetPolicy => bodyRoute .post budgetPath
  | getBudgetPolicy => queryRoute .get (budgetPath ++ [.param "budget_id"])
  | updateBudgetPolicy => queryRoute .patch (budgetPath ++ [.param "budget_id"])
  | listBudgetUsage => queryRoute .get [.lit "budgets", .lit "usage"]
  | listAuditEvents => queryRoute .get [.lit "audit-events"]
  | getTimeline => queryRoute .get [.lit "timeline"]

/-- The company the handler works for; `none` when the request does not reach it or it names none. -/
def company (rt : Runtime) (defaultCompany : String) (owners : Owners) (h : Handler) (r : Request) : Option String :=
  if r.valid then
    match h.route.source with
    | .path => r.pathParams.lookup "company_id"
    | .query field => field.company defaultCompany (r.query "company_id")
    | .auditExport =>
      (QueryField.requiredBounded.company defaultCompany (r.query "company_id")).bind (fun c =>
        if Text.strip c = "" then none else some (Text.strip c))
    | .operatingMetrics => (QueryField.bounded.company defaultCompany (r.query "company_id")).map Text.strip
    | .body field => (field.read rt r.body).map (resolveCompany defaultCompany)
    | .record resource => r.owner owners resource
    | .directory => none
  else none

def checkCompany (rt : Runtime) (defaultCompany : String) (owners : Owners) (h : Handler) (r : Request)
    (p : OperatorPrincipal) : Except ApiError Unit :=
  match h.route.guard, h.company rt defaultCompany owners r with
  | some action, some companyId => p.require action companyId
  | _, _ => .ok ()

def authorize (rt : Runtime) (defaultCompany : String) (owners : Owners) (h : Handler) (r : Request)
    (p : OperatorPrincipal) : Except ApiError Unit := do
  authorizeControlPlaneRequest rt defaultCompany h.route.method (h.route.path r.pathParams) r p
  authorizeResource owners h.route.method (h.route.path r.pathParams) r p
  h.checkCompany rt defaultCompany owners r p

end Handler

end WisdoverseCell.ControlPlane
