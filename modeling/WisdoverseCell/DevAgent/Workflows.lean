import WisdoverseCell.ControlPlane.Dispatch

/-!
# Delivery tasks and their workflows

The plan of a high-risk task waits for an approval of the control plane, whose id is logged with the plan; every other
plan is submitted to AgentForge at once.  `approve_workflow` resolves the approval that the request names, else the
logged one.  `requested`, `submissions` and `planned` are histories.
-/

namespace WisdoverseCell.DevAgent

open ControlPlane (ApprovalStatus Db requestApproval resolveApproval)

open ControlPlane (ApprovalRequest Time)

/-! ### Tasks -/

inductive TaskStatus
  | pending
  | planning
  | awaitingApproval
  | executing
  | securityScanning
  | mrCreating
  | mrCreated
  | qaTriggered
  | reviewing
  | completed
  | failed
  | expired
  deriving DecidableEq

def TaskStatus.validTransitions : TaskStatus → List TaskStatus
  | .pending => [.planning, .expired, .failed]
  | .planning => [.awaitingApproval, .executing, .failed]
  | .awaitingApproval => [.executing, .failed]
  | .executing => [.securityScanning, .failed]
  | .securityScanning => [.mrCreating, .failed]
  | .mrCreating => [.mrCreated, .failed]
  | .mrCreated => [.qaTriggered, .failed]
  | .qaTriggered => [.reviewing, .failed]
  | .reviewing => [.completed, .failed]
  | .completed => []
  | .failed => [.planning]
  | .expired => []

def canTransition (current target : TaskStatus) : Bool := target ∈ current.validTransitions

def TaskStatus.inProgress : TaskStatus → Bool
  | .planning | .awaitingApproval | .executing | .securityScanning | .mrCreating | .mrCreated | .qaTriggered
  | .reviewing => true
  | .pending | .completed | .failed | .expired => false

inductive RiskLevel
  | low
  | medium
  | high
  | critical
  deriving DecidableEq

def rejectsAutomaticDelivery (risk : RiskLevel) : Bool := risk = .critical

def requiresWorkflowApproval (risk : RiskLevel) : Bool := risk = .high

structure DevTask where
  id : String
  wpId : Int
  taskTitle : Option String
  riskLevel : Option RiskLevel
  status : TaskStatus
  retryCount : Nat
  workflowId : Option String

/-! ### Plans and logs -/

inductive NodeType
  | agentTask
  | humanReview
  deriving DecidableEq

structure WorkflowNode where
  name : String
  type : NodeType
  dependsOn : List String
  config : JsonObj
  deriving DecidableEq

structure WorkflowPlan where
  name : String
  description : String
  nodes : List WorkflowNode
  deriving DecidableEq

structure SanitizedTask where
  title : String
  description : String
  estimatedHours : Rat
  wpId : Int := 0
  parentStory : String := ""
  relatedFiles : List String := []
  riskLevel : RiskLevel := .medium
  deriving DecidableEq

/-- What a workflow log holds: the input of a task when it is accepted, or its plan. -/
inductive WorkflowJson
  | taskInput (task : SanitizedTask)
  | plan (plan : WorkflowPlan) (controlPlaneApprovalId : Option String)
  deriving DecidableEq

def WorkflowJson.approvalId : WorkflowJson → Option String
  | .taskInput _ => none
  | .plan _ approvalId => approvalId

structure WorkflowLog where
  taskId : String
  workflowJson : WorkflowJson
  deriving DecidableEq

/-- `route` is the tool router and `violations` the validator; `forge` says whether there is a client for AgentForge. -/
structure Config where
  agentforgeProjectId : String
  maxConcurrentWorkflows : Nat
  companyId : String
  controlPlaneEnabled : Bool
  approvalEnforced : Bool
  forge : Bool
  route : WorkflowNode → String
  violations : WorkflowPlan → List String

variable (cfg : Config)

def Config.approvalEnabled : Bool := cfg.controlPlaneEnabled || cfg.approvalEnforced

def WorkflowNode.configure (node : WorkflowNode) (key value : String) : WorkflowNode :=
  { node with config := JsonObj.set node.config key (.str value) }

def injectProjectId (plan : WorkflowPlan) : WorkflowPlan :=
  let projectId := Text.strip cfg.agentforgeProjectId
  if projectId = "" then plan
  else { plan with nodes := plan.nodes.map (fun node => node.configure "projectId" projectId) }

def routeNodes (plan : WorkflowPlan) : WorkflowPlan :=
  { plan with nodes := plan.nodes.map (fun node => node.configure "cliTool" (cfg.route node)) }

/-! ### States -/

structure Requested where
  approvalId : String
  taskId : String
  plan : WorkflowPlan
  deriving DecidableEq

structure Submission where
  taskId : String
  riskLevel : Option RiskLevel
  plan : WorkflowPlan
  releasedBy : Option String
  deriving DecidableEq

/-- A call of `plan_and_execute`, with the input that the planner gets. -/
structure PlanCall where
  taskId : String
  input : SanitizedTask
  deriving DecidableEq

structure Sys where
  tasks : Table DevTask.id
  logs : List WorkflowLog
  plane : Db
  requested : List Requested
  submissions : List Submission
  planned : List PlanCall

def DevTask.moved (task : DevTask) (status : TaskStatus) (retryCount : Option Nat) (workflowId : Option String) :
    DevTask :=
  { task with
    status := status
    retryCount := retryCount.getD task.retryCount
    workflowId := workflowId.or task.workflowId }

theorem DevTask.moved_id (task : DevTask) (status : TaskStatus) (retryCount workflowId) :
    (task.moved status retryCount workflowId).id = task.id := rfl

def updateStatus (tasks : Table DevTask.id) (taskId : String) (status : TaskStatus) (retryCount : Option Nat)
    (workflowId : Option String) : Option (Table DevTask.id) :=
  match tasks.get taskId with
  | none => none
  | some task =>
    if canTransition task.status status then
      some (tasks.modify taskId (fun task => task.moved status retryCount workflowId)
        (fun task => task.moved_id status retryCount workflowId))
    else none

def Sys.setStatus (s : Sys) (taskId : String) (status : TaskStatus) (retryCount : Option Nat)
    (workflowId : Option String) : Sys :=
  { s with tasks := (updateStatus s.tasks taskId status retryCount workflowId).getD s.tasks }

def Sys.addLog (s : Sys) (taskId : String) (json : WorkflowJson) : Sys := { s with logs := s.logs ++ [⟨taskId, json⟩] }

def Sys.planFrom (s : Sys) (taskId : String) (input : SanitizedTask) : Sys :=
  { s with planned := s.planned ++ [⟨taskId, input⟩] }

/-- `get_by_task_id`: the one log of a task, if any; more than one is an error (`none`). -/
def getByTaskId (s : Sys) (taskId : String) : Option (Option WorkflowLog) :=
  match s.logs.filter (fun log => log.taskId = taskId) with
  | [] => some none
  | [log] => some (some log)
  | _ :: _ :: _ => none

/-! ### Execution -/

inductive ForgeReply
  | started (workflowId : String)
  | failed
  | raised

def executeWorkflow (s : Sys) (task : DevTask) (plan : WorkflowPlan) (releasedBy : Option String)
    (reply : ForgeReply) : Sys :=
  if cfg.forge then
    let s := { s with
      submissions := s.submissions ++ [⟨task.id, task.riskLevel, injectProjectId cfg plan, releasedBy⟩] }
    match reply with
    | .started workflowId => s.setStatus task.id .executing none (some workflowId)
    | .failed => s.setStatus task.id .failed none none
    | .raised => s
  else s

def approvalRecord (approvalId taskId : String) (wpId : Int) : ApprovalRequest where
  approvalId := approvalId
  companyId := cfg.companyId
  status := .pending
  requestedBy := "agent:dev-agent"
  sourceAgentId := "dev-agent"
  proposedAction := "Start high-risk AgentForge workflow for WP#" ++ toString wpId
  affectedResources := ["dev_task:" ++ taskId, "openproject:wp:" ++ toString wpId, "agentforge:workflow"]
  runId := none
  workItemId := none
  goalId := none
  resolvedBy := none
  resolvedAt := none
  expiresAt := none
  metadata := []

/-- `newId` is the id that the control plane gives the approval, `none` if the request fails, which is an error if
approvals are enforced. -/
def requestWorkflowApproval (s : Sys) (sanitized : SanitizedTask) (taskId : String) (plan : WorkflowPlan)
    (newId : Option String) : Option (Sys × Option String) :=
  if cfg.approvalEnabled then
    match newId.bind (fun id => (requestApproval s.plane (approvalRecord cfg id taskId sanitized.wpId)).map
        (fun plane => (id, plane))) with
    | some (id, plane) =>
      some ({ s with plane := plane, requested := s.requested ++ [⟨id, taskId, plan⟩] }, some id)
    | none => if cfg.approvalEnforced then none else some (s, none)
  else some (s, none)

structure PlanReply where
  planned : Option WorkflowPlan
  approvalId : Option String
  forge : ForgeReply

def planAndExecute (s : Sys) (sanitized : SanitizedTask) (task : DevTask) (risk : RiskLevel)
    (reply : PlanReply) : Sys :=
  let s := (s.setStatus task.id .planning none none).planFrom task.id sanitized
  match reply.planned with
  | none => s.setStatus task.id .failed none none
  | some plan =>
    let plan := injectProjectId cfg plan
    if cfg.violations plan ≠ [] then s.setStatus task.id .failed none none
    else
      let plan := routeNodes cfg plan
      if requiresWorkflowApproval risk then
        match requestWorkflowApproval cfg s sanitized task.id plan reply.approvalId with
        | none => s
        | some (s, approvalId) =>
          (s.addLog task.id (.plan plan approvalId)).setStatus task.id .awaitingApproval none none
      else executeWorkflow cfg (s.addLog task.id (.plan plan none)) task plan none reply.forge

def countActiveWorkflows (tasks : Table DevTask.id) : Nat := tasks.rows.countP (fun task => task.status.inProgress)

def processSingleTask (s : Sys) (id : String) (sanitized : SanitizedTask) (reply : PlanReply) :
    Option Sys :=
  if rejectsAutomaticDelivery sanitized.riskLevel ∨ s.tasks.rows.any (fun task => task.wpId = sanitized.wpId) then none
  else
    let task : DevTask := ⟨id, sanitized.wpId, some sanitized.title, some sanitized.riskLevel, .pending, 0, none⟩
    (s.tasks.insert task).map (fun tasks =>
      let s := ({ s with tasks := tasks } : Sys).addLog id (.taskInput sanitized)
      if countActiveWorkflows tasks < cfg.maxConcurrentWorkflows then
        planAndExecute cfg s sanitized task sanitized.riskLevel reply
      else s)

/-- The input that was logged, else what is left of it in the row of the task. -/
def DevTask.input (task : DevTask) (log : Option WorkflowLog) : SanitizedTask :=
  match log.map WorkflowLog.workflowJson with
  | some (.taskInput sanitized) => sanitized
  | some (.plan _ _) | none =>
    { title := task.taskTitle.getD "", description := "", estimatedHours := 8, wpId := task.wpId
      riskLevel := task.riskLevel.getD .medium }

/-- `_start_pending_task`, for a queued task or a planned retry.  How many of them the scheduler starts at a time is
left open. -/
def startPendingTask (s : Sys) (taskId : String) (reply : PlanReply) : Option Sys := do
  let task ← s.tasks.get taskId
  let log ← getByTaskId s taskId
  let sanitized := task.input log
  if task.status = .pending ∨ (task.status = .planning ∧ 0 < task.retryCount) then
    some (planAndExecute cfg s sanitized task sanitized.riskLevel reply)
  else none

/-! ### Requests -/

def approve (now : Time) (s : Sys) (approvalId resolvedBy : String) : Option Sys := do
  let existing ← s.plane.approvals.get approvalId
  if existing.expiresAt.any (fun expiresAt => expiresAt ≤ now) then none
  else
    (resolveApproval now s.plane approvalId .approved resolvedBy).map (fun plane => { s with plane := plane })

def approveForSensitiveAction (now : Time) (s : Sys) (approvalId : Option String) (resolvedBy : String) :
    Option (Sys × Option String) :=
  if cfg.approvalEnabled then
    match approvalId with
    | none => if cfg.approvalEnforced then none else some (s, none)
    | some id => (approve now s id resolvedBy).map (fun s => (s, some id))
  else some (s, none)

structure ApproveRequest where
  taskId : String
  approvalId : Option String
  approvedBy : Option String
  operator : Option String
  deriving DecidableEq

def given : Option String → Option String
  | some "" | none => none
  | some s => some s

theorem given_eq_some {o id} (h : given o = some id) : o = some id := by
  unfold given at h
  split at h
  · cases h
  · cases h
  · exact h

def findTask (s : Sys) (taskId : String) : Option DevTask := (given (some taskId)).bind s.tasks.get

def ApproveRequest.resolves (request : ApproveRequest) (log : WorkflowLog) : Option String :=
  (given request.approvalId).or (given log.workflowJson.approvalId)

def awaitingLog (s : Sys) (taskId : String) : Option (DevTask × WorkflowLog) := do
  let task ← findTask s taskId
  if task.status = .awaitingApproval then
    let log ← getByTaskId s taskId
    log.map (fun log => (task, log))
  else none

def approveWorkflow (now : Time) (s : Sys) (request : ApproveRequest) (reply : ForgeReply) :
    Option Sys := do
  let (task, log) ← awaitingLog s request.taskId
  let approvalId := request.resolves log
  let approvedBy := (given request.approvedBy).or (given request.operator)
  if approvalId.isSome ∧ approvedBy.isNone then none
  else do
    let (s, releasedBy) ← approveForSensitiveAction cfg now s approvalId (approvedBy.getD "api")
    match log.workflowJson with
    -- no plan: the approval is resolved, but the request fails
    | .taskInput _ => some s
    | .plan plan _ => some (executeWorkflow cfg s task plan releasedBy reply)

def retryTask (s : Sys) (taskId : String) : Option Sys := do
  let task ← findTask s taskId
  if task.status = .failed then
    (updateStatus s.tasks taskId .planning (some (task.retryCount + 1)) none).map
      (fun tasks => { s with tasks := tasks })
  else none

def cancelWorkflow (s : Sys) (taskId : String) : Option Sys := do
  let task ← findTask s taskId
  (updateStatus s.tasks task.id .failed none none).map (fun tasks => { s with tasks := tasks })

/-! ### Steps -/

inductive Act
  | taskReady (id : String) (sanitized : SanitizedTask) (reply : PlanReply)
  | startTask (taskId : String) (reply : PlanReply)
  | approveWorkflow (now : Time) (request : ApproveRequest) (reply : ForgeReply)
  | retryTask (taskId : String)
  | cancelWorkflow (taskId : String)
  /-- The status updates of the poller, the result collector and the expiry of stale tasks. -/
  | progress (taskId : String) (status : TaskStatus)
  /-- An approval that is asked for by anyone else. -/
  | requestApproval (approval : ApprovalRequest)
  | resolveApproval (now : Time) (approvalId : String) (status : ApprovalStatus) (resolvedBy : String)

def TaskStatus.later : TaskStatus → Bool
  | .securityScanning | .mrCreating | .mrCreated | .qaTriggered | .reviewing | .completed | .failed | .expired => true
  | .pending | .planning | .awaitingApproval | .executing => false

def step (s : Sys) : Act → Option Sys
  | .taskReady id sanitized reply => processSingleTask cfg s id sanitized reply
  | .startTask taskId reply => startPendingTask cfg s taskId reply
  | .approveWorkflow now request reply => approveWorkflow cfg now s request reply
  | .retryTask taskId => retryTask s taskId
  | .cancelWorkflow taskId => cancelWorkflow s taskId
  | .progress taskId status =>
    if status.later then (updateStatus s.tasks taskId status none none).map (fun tasks => { s with tasks := tasks })
    else none
  | .requestApproval approval =>
    (requestApproval s.plane approval).map (fun plane => { s with plane := plane })
  | .resolveApproval now approvalId status resolvedBy =>
    (resolveApproval now s.plane approvalId status resolvedBy).map (fun plane => { s with plane := plane })

end WisdoverseCell.DevAgent
