import WisdoverseCell.DevAgent.Workflows
import WisdoverseCell.Library.Sessions

/-!
# The transactions of the dev agent

Intake, reconciliation, expiry, the requests of operators and the handling of QA results, each as a program of one
transaction: every query is a read of what is committed then.  The task and the attempt in a `qa.run-requested` event
are histories.
-/

namespace WisdoverseCell.DevAgent.Transactions

open ControlPlane (Time seconds)

/-! ### Data -/

structure TaskRow where
  id : String
  wpId : Int
  taskTitle : Option String
  riskLevel : Option RiskLevel
  status : TaskStatus
  retryCount : Nat
  workflowId : Option String
  mrIid : Option Nat
  workflowStartedAt : Option Time
  lastPolledAt : Option Time
  createdAt : Time
  deriving DecidableEq

/-- A request to test the result of an attempt; the attempts of a task are counted by its retries. -/
structure QaRequest where
  taskId : String
  attempt : Nat
  mrIid : Option Nat
  deriving DecidableEq

structure QaResult where
  mrIid : Option Nat
  passed : Bool
  request : Option QaRequest
  deriving DecidableEq

inductive DevEvent
  | workflowCreated (taskId workflowId : String)
  | qaRunRequested (request : QaRequest)
  | mrCreated (wpId : Int) (branch : String)
  deriving DecidableEq

structure DevDb where
  tasks : Table TaskRow.id
  logs : List WorkflowLog
  outbox : List DevEvent

structure TaskChange where
  status : Option TaskStatus := none
  retryCount : Option Nat := none
  workflowId : Option String := none
  workflowStartedAt : Option Time := none
  mrIid : Option (Option Nat) := none
  lastPolledAt : Option Time := none

def TaskChange.write (change : TaskChange) (row : TaskRow) : TaskRow :=
  { row with
    status := change.status.getD row.status
    retryCount := change.retryCount.getD row.retryCount
    workflowId := change.workflowId.or row.workflowId
    workflowStartedAt := change.workflowStartedAt.or row.workflowStartedAt
    mrIid := change.mrIid.getD row.mrIid
    lastPolledAt := change.lastPolledAt.or row.lastPolledAt }

theorem TaskChange.write_id (change : TaskChange) (row) : (change.write row).id = row.id := rfl

inductive Update
  | insertTask (row : TaskRow)
  | setTask (id : String) (change : TaskChange)
  | addLog (log : WorkflowLog)
  | addEvent (event : DevEvent)

inductive Lock
  | task (id : String)
  | workPackage (wpId : Int)
  | reconcile
  deriving DecidableEq

def DevDb.apply (db : DevDb) : Update → DevDb
  | .insertTask row => { db with tasks := (db.tasks.insert row).getD db.tasks }
  | .setTask id change => { db with tasks := db.tasks.modify id change.write change.write_id }
  | .addLog log => { db with logs := db.logs ++ [log] }
  | .addEvent event => { db with outbox := db.outbox ++ [event] }

def Update.locks : Update → List Lock
  | .insertTask row => [.workPackage row.wpId, .task row.id]
  | .setTask id _ => [.task id]
  | .addLog _ | .addEvent _ => []

/-! ### Queries -/

def TaskStatus.active : TaskStatus → Bool
  | .executing | .securityScanning | .mrCreating | .mrCreated | .qaTriggered | .reviewing => true
  | .pending | .planning | .awaitingApproval | .completed | .failed | .expired => false

def DevDb.listActiveTasks (db : DevDb) : List TaskRow := db.tasks.rows.filter (fun row => TaskStatus.active row.status)

def DevDb.oldest (db : DevDb) (status : TaskStatus) (limit : Nat) : List TaskRow :=
  ((db.tasks.rows.filter (fun row => row.status = status)).insertionSort
    (fun a b => a.createdAt ≤ b.createdAt)).take limit

def DevDb.listPendingTasks (db : DevDb) (limit : Nat) : List TaskRow := db.oldest .pending limit

def DevDb.listPlanningTasks (db : DevDb) (limit : Nat) : List TaskRow := db.oldest .planning limit

def DevDb.countActiveWorkflows (db : DevDb) : Nat := db.tasks.rows.countP (fun row => row.status.inProgress)

def DevDb.logsOf (db : DevDb) (taskId : String) : List WorkflowLog := db.logs.filter (fun log => log.taskId = taskId)

/-! ### The world -/

/-- Exceptions: `ForgeClientError`, `ApprovalRequiredError` and all others. -/
inductive Fault
  | forge
  | approvalRequired
  | other
  deriving DecidableEq

inductive Call
  | plan (taskId : String) (sanitized : SanitizedTask)
  | requestApproval (taskId : String) (sanitized : SanitizedTask) (plan : WorkflowPlan)
  | approve (approvalId : Option String) (resolvedBy : String)
  | createWorkflow (taskId : String) (plan : WorkflowPlan)
  | runWorkflow (taskId workflowId : String)
  | getStatus (workflowId : String)
  | scan (workspacePath : String)
  | checkExistingMr (sourceBranch : String)
  | createMr (sourceBranch : String)

def Call.Reply : Call → Type
  | .plan _ _ => Except Fault (Option WorkflowPlan)
  | .requestApproval _ _ _ => Except Fault (Option String)
  | .approve _ _ => Except Fault (Option String)
  | .createWorkflow _ _ => Except Fault String
  | .runWorkflow _ _ => Except Fault Unit
  | .getStatus _ => Except Fault (Option String)
  | .scan _ => Except Fault Bool
  | .checkExistingMr _ => Except Fault (Option (Option Nat))
  | .createMr _ => Except Fault (Option Nat)

abbrev Dev (α : Type) := Prog DevDb Update Call Call.Reply Fault α

structure Settings extends Config where
  gitlab : Bool

/-! ### Repositories -/

def writeTask (id : String) (change : TaskChange) : Dev Unit := Prog.update (.setTask id change)

def createLog (taskId : String) (json : WorkflowJson) : Dev Unit := Prog.update (.addLog ⟨taskId, json⟩)

def stage (events : List DevEvent) : Dev Unit := Prog.forEach (fun event => Prog.update (.addEvent event)) events

def newTask (now : Time) (id : String) (sanitized : SanitizedTask) : TaskRow where
  id := id
  wpId := sanitized.wpId
  taskTitle := some sanitized.title
  riskLevel := some sanitized.riskLevel
  status := .pending
  retryCount := 0
  workflowId := none
  mrIid := none
  workflowStartedAt := none
  lastPolledAt := none
  createdAt := now

def DevDb.hasWorkPackage (db : DevDb) (wpId : Int) : Bool := db.tasks.rows.any (fun row => row.wpId = wpId)

/-- `create_task`: nothing happens if there is a task for the work package.  The row that is read back is the new one,
as work packages are unique. -/
def createTask (row : TaskRow) : Dev (Option TaskRow) :=
  .write
    (fun db => if db.hasWorkPackage row.wpId || (db.tasks.get row.id).isSome then none else some (.insertTask row))
    (fun db =>
      if db.hasWorkPackage row.wpId then .done none
      else if (db.tasks.get row.id).isSome then .raise .other
      else .done (some row))

/-- `update_status`: read, check, write. -/
def updateStatus (taskId : String) (status : TaskStatus) (change : TaskChange) : Dev Bool := do
  let db ← Prog.get
  match db.tasks.get taskId with
  | none => return false
  | some task =>
    if canTransition task.status status then do
      writeTask taskId { change with status := some status }
      return true
    else return false

def markPolled (taskId : String) (polledAt : Time) : Dev Unit := do
  let db ← Prog.get
  match db.tasks.get taskId with
  | none => return ()
  | some _ => writeTask taskId { lastPolledAt := some polledAt }

/-- `get_by_task_id` fails if there is more than one log. -/
def getByTaskId (taskId : String) : Dev (Option WorkflowLog) := do
  let db ← Prog.get
  match db.logsOf taskId with
  | [] => return none
  | [log] => return some log
  | _ :: _ :: _ => .raise .other

def countActiveWorkflows : Dev Nat := do
  let db ← Prog.get
  return db.countActiveWorkflows

def ask {α : Type} (c : Call) (h : c.Reply = Except Fault α) : Dev α := .call c (fun r => Prog.ofExcept (cast h r))

/-! ### Planning and execution -/

variable (cfg : Settings)

def executeWorkflow (now : Time) (plan : WorkflowPlan) (task : TaskRow) : Dev (List DevEvent) :=
  if cfg.forge then
    Prog.catching
      (do
        let workflowId ← ask (.createWorkflow task.id (injectProjectId cfg.toConfig plan)) rfl
        let _ ← ask (.runWorkflow task.id workflowId) rfl
        let _ ← updateStatus task.id .executing { workflowId := some workflowId, workflowStartedAt := some now }
        return [.workflowCreated task.id workflowId])
      (fun fault =>
        match fault with
        | .forge => do
          let _ ← updateStatus task.id .failed {}
          return []
        | .approvalRequired | .other => .raise fault)
  else return []

def requestWorkflowApproval (sanitized : SanitizedTask) (taskId : String) (plan : WorkflowPlan) :
    Dev (Option String) :=
  Prog.catching (ask (.requestApproval taskId sanitized plan) rfl)
    (fun fault => if cfg.approvalEnforced then .raise fault else return none)

/-- `plan_and_execute`: plan, ask for approval or execute at once. -/
def planAndExecute (now : Time) (sanitized : SanitizedTask) (task : TaskRow) (risk : RiskLevel) :
    Dev (List DevEvent) := do
  let _ ← updateStatus task.id .planning {}
  let planned ← ask (.plan task.id sanitized) rfl
  match planned with
  | none => do
    let _ ← updateStatus task.id .failed {}
    return []
  | some plan =>
    if cfg.violations (injectProjectId cfg.toConfig plan) ≠ [] then do
      let _ ← updateStatus task.id .failed {}
      return []
    else if requiresWorkflowApproval risk then do
      let approvalId ← requestWorkflowApproval cfg sanitized task.id
        (routeNodes cfg.toConfig (injectProjectId cfg.toConfig plan))
      createLog task.id (.plan (routeNodes cfg.toConfig (injectProjectId cfg.toConfig plan)) approvalId)
      let _ ← updateStatus task.id .awaitingApproval {}
      return []
    else do
      createLog task.id (.plan (routeNodes cfg.toConfig (injectProjectId cfg.toConfig plan)) none)
      executeWorkflow cfg now (routeNodes cfg.toConfig (injectProjectId cfg.toConfig plan)) task

def processSingleTask (now : Time) (id : String) (sanitized : SanitizedTask) :
    Dev (List DevEvent) := do
  let created ← createTask (newTask now id sanitized)
  match created with
  | none => return []
  | some task => do
    createLog task.id (.taskInput sanitized)
    let activeCount ← countActiveWorkflows
    if activeCount < cfg.maxConcurrentWorkflows then planAndExecute cfg now sanitized task sanitized.riskLevel
    else return []

structure ReadyTask where
  id : String
  sanitized : SanitizedTask
  deriving DecidableEq

def intakeTask (now : Time) (ready : ReadyTask) : Dev Unit :=
  Prog.catching
    (do
      let _ ← processSingleTask cfg now ready.id ready.sanitized
      return ())
    (fun _ => return ())

def handleTasksReady (now : Time) (tasks : List ReadyTask) : Dev Unit := do
  Prog.forEach (intakeTask cfg now) (tasks.filter (fun ready => !rejectsAutomaticDelivery ready.sanitized.riskLevel))
  Prog.save

/-! ### Result collection -/

def sourceBranch (task : TaskRow) : String := "dev/wp-" ++ toString task.wpId

def mergeRequest (task : TaskRow) : Dev (Option Nat) := do
  let existing ← ask (.checkExistingMr (sourceBranch task)) rfl
  match existing with
  | some mr => return mr
  | none => ask (.createMr (sourceBranch task)) rfl

def createMergeRequest (task : TaskRow) : Dev (Option (Option Nat)) :=
  Prog.catching
    (do
      let mr ← mergeRequest task
      let _ ← updateStatus task.id .mrCreated { mrIid := some mr }
      return some mr)
    (fun _ => do
      let _ ← updateStatus task.id .failed {}
      return none)

/-- `handle_completion`: reuse or create the merge request, then ask for the tests. -/
def handleCompletion (task : TaskRow) (workspacePath : String) : Dev (List DevEvent) := do
  let _ ← getByTaskId task.id
  let _ ← updateStatus task.id .securityScanning {}
  let passed ← ask (.scan workspacePath) rfl
  if passed then do
    let _ ← updateStatus task.id .mrCreating {}
    let created ← createMergeRequest task
    match created with
    | none => return []
    | some mr => do
      let _ ← updateStatus task.id .qaTriggered {}
      let _ ← updateStatus task.id .reviewing {}
      return [.qaRunRequested ⟨task.id, task.retryCount, mr⟩, .mrCreated task.wpId (sourceBranch task)]
  else do
    let _ ← updateStatus task.id .failed {}
    return []

/-! ### Reconciliation -/

/-- How long to wait between two polls of a workflow; `none` after six hours. -/
def pollInterval (elapsed : Time) : Option Time :=
  if elapsed < seconds 600 then some (seconds 30)
  else if elapsed < seconds 7200 then some (seconds 120)
  else if elapsed < seconds 21600 then some (seconds 300)
  else none

def pollWorkflow (task : TaskRow) (workflowId : String) : Dev Unit :=
  if cfg.forge then do
    let completed ← ask (.getStatus workflowId) rfl
    match completed with
    | none => return ()
    | some workspacePath =>
      if cfg.gitlab then do
        let events ← handleCompletion task workspacePath
        stage events
      else do
        let _ ← updateStatus task.id .securityScanning {}
        return ()
  else return ()

def pollTask (now : Time) (task : TaskRow) : Dev Unit :=
  match given task.workflowId, task.workflowStartedAt with
  | some workflowId, some startedAt =>
    if task.status = .executing then
      match pollInterval (now - startedAt) with
      | none => do
        let _ ← updateStatus task.id .failed {}
        return ()
      | some interval =>
        if now - task.lastPolledAt.getD startedAt < interval then return ()
        else do
          markPolled task.id now
          Prog.catching (pollWorkflow cfg task workflowId) (fun _ => return ())
    else return ()
  | _, _ => return ()

def taskInput (task : TaskRow) (log : Option WorkflowLog) : SanitizedTask :=
  match log.map WorkflowLog.workflowJson with
  | some (.taskInput sanitized) => sanitized
  | some (.plan _ _) | none =>
    { title := task.taskTitle.getD "", description := "", estimatedHours := 8, wpId := task.wpId
      riskLevel := task.riskLevel.getD .medium }

def startPendingTask (now : Time) (task : TaskRow) : Dev (List DevEvent) := do
  let log ← getByTaskId task.id
  planAndExecute cfg now (taskInput task log) task (taskInput task log).riskLevel

def startTask (now : Time) (task : TaskRow) : Dev Unit :=
  Prog.catching
    (do
      let events ← startPendingTask cfg now task
      stage events)
    (fun _ => return ())

def startPending (now : Time) : Dev Unit := do
  let activeCount ← countActiveWorkflows
  if activeCount < cfg.maxConcurrentWorkflows then do
    let db ← Prog.get
    Prog.forEach (startTask cfg now) (db.listPendingTasks (cfg.maxConcurrentWorkflows - activeCount))
  else return ()

def restartTask (now : Time) (task : TaskRow) : Dev Unit :=
  if 0 < task.retryCount then startTask cfg now task else return ()

def restartPlanning (now : Time) : Dev Unit := do
  let activeCount ← countActiveWorkflows
  if activeCount < cfg.maxConcurrentWorkflows then do
    let db ← Prog.get
    Prog.forEach (restartTask cfg now) (db.listPlanningTasks (cfg.maxConcurrentWorkflows - activeCount))
  else return ()

def pollActive (now : Time) : Dev Unit := do
  let db ← Prog.get
  Prog.forEach (pollTask cfg now) db.listActiveTasks

def reconcile (now : Time) : Dev Unit := do
  pollActive cfg now
  startPending cfg now
  restartPlanning cfg now
  Prog.save

/-! ### Expiry and requests -/

def expireTask (task : TaskRow) : Dev Unit :=
  if canTransition task.status .expired then writeTask task.id { status := some .expired } else return ()

def expireStale (now : Time) : Dev Unit := do
  let db ← Prog.get
  Prog.forEach expireTask
    (db.tasks.rows.filter (fun row => row.status = .pending ∧ row.createdAt + seconds 86400 < now))
  Prog.save

def DevDb.findTask (db : DevDb) (taskId : String) : Option TaskRow := (given (some taskId)).bind db.tasks.get

def retryTask (taskId : String) : Dev Unit := do
  let db ← Prog.get
  match db.findTask taskId with
  | none => Prog.save
  | some task =>
    if task.status = .failed then do
      let _ ← updateStatus taskId .planning { retryCount := some (task.retryCount + 1) }
      Prog.save
    else Prog.save

def cancelWorkflow (taskId : String) : Dev Unit :=
  match given (some taskId) with
  | none => Prog.save
  | some taskId => do
    let _ ← updateStatus taskId .failed {}
    Prog.save

def approveLogged (now : Time) (request : ApproveRequest) (task : TaskRow) (log : WorkflowLog) :
    Dev Unit :=
  let approvalId := request.resolves log
  let approvedBy := (given request.approvedBy).or (given request.operator)
  if approvalId.isSome ∧ approvedBy.isNone then return ()
  else do
    let granted ← Prog.catching
      (do
        let _ ← ask (.approve approvalId (approvedBy.getD "api")) rfl
        return true)
      (fun fault => if fault = .approvalRequired then return false else .raise fault)
    if granted then
      match log.workflowJson with
      | .taskInput _ => .raise .other
      | .plan plan _ => do
        let _ ← executeWorkflow cfg now plan task
        return ()
    else return ()

def approveWorkflow (now : Time) (request : ApproveRequest) : Dev Unit := do
  let db ← Prog.get
  match db.findTask request.taskId with
  | none => Prog.save
  | some task =>
    if task.status = .awaitingApproval then do
      let log ← getByTaskId request.taskId
      match log with
      | none => Prog.save
      | some log => do
        approveLogged cfg now request task log
        Prog.save
    else Prog.save

def decideTask (task : TaskRow) (result : QaResult) : Dev Unit := do
  let _ ← getByTaskId task.id
  if result.passed then do
    let _ ← updateStatus task.id .completed {}
    return ()
  else if task.retryCount < 1 then do
    let _ ← updateStatus task.id .failed {}
    let _ ← updateStatus task.id .planning { retryCount := some (task.retryCount + 1) }
    return ()
  else do
    let _ ← updateStatus task.id .failed {}
    return ()

/-- A result without its merge request, or for a task that is not in review, is ignored; two tasks with the merge
request are an error. -/
def handleQaResult (result : QaResult) : Dev Unit :=
  match result.mrIid with
  | none => return ()
  | some mr => do
    let db ← Prog.get
    match db.tasks.rows.filter (fun row => row.mrIid = some mr) with
    | [] => return ()
    | [task] =>
      if task.status = .reviewing ∧ cfg.gitlab then do
        decideTask task result
        Prog.save
      else return ()
    | _ :: _ :: _ => .raise .other

/-! ### The agent -/

inductive Request
  | tasksReady (now : Time) (tasks : List ReadyTask)
  | reconcile (now : Time)
  | expireStale (now : Time)
  | retryTask (taskId : String)
  | cancelWorkflow (taskId : String)
  | approveWorkflow (now : Time) (request : ApproveRequest)
  | qaResult (result : QaResult)
  deriving DecidableEq

def program : Request → Dev Unit
  | .tasksReady now tasks => handleTasksReady cfg now tasks
  | .reconcile now => reconcile cfg now
  | .expireStale now => expireStale now
  | .retryTask taskId => retryTask taskId
  | .cancelWorkflow taskId => cancelWorkflow taskId
  | .approveWorkflow now request => approveWorkflow cfg now request
  | .qaResult result => handleQaResult cfg result

def admits (db : DevDb) : Request → Bool
  | .qaResult result => result.request.all (fun q => q.mrIid = result.mrIid ∧ .qaRunRequested q ∈ db.outbox)
  | _ => true

def devAgent : Server DevDb Update Lock Call Call.Reply Fault Request where
  apply := DevDb.apply
  locks := Update.locks
  program := program cfg
  holds
    | .reconcile _ => [.reconcile]
    | _ => []
  admits := admits

abbrev DevSession := Session DevDb Update Call Call.Reply Fault Request

abbrev DevSessions := Sessions DevDb Update Call Call.Reply Fault Request

/-! ### A small agent -/

def DevDb.empty : DevDb := ⟨Table.empty, [], []⟩

def noSessions (db : DevDb) : DevSessions := ⟨db, [], []⟩

def smallAgent (maxConcurrentWorkflows : Nat) : Settings :=
  { agentforgeProjectId := "", maxConcurrentWorkflows := maxConcurrentWorkflows, companyId := "cmp_1",
    controlPlaneEnabled := false, approvalEnforced := false, forge := true, route := fun _ => "codex",
    violations := fun _ => [], gitlab := true }

def readyTask (id : String) (wpId : Int) (riskLevel : RiskLevel) : ReadyTask :=
  ⟨id, { title := "Add endpoint", description := "", estimatedHours := 8, wpId := wpId, riskLevel := riskLevel }⟩

def succeeds : (c : Call) → c.Reply
  | .plan _ _ => .ok (some ⟨"endpoint", "", []⟩)
  | .requestApproval _ _ _ => .ok none
  | .approve _ _ => .ok none
  | .createWorkflow _ _ => .ok "wf_1"
  | .runWorkflow _ _ => .ok ()
  | .getStatus _ => .ok (some ".")
  | .scan _ => .ok true
  | .checkExistingMr _ => .ok none
  | .createMr _ => .ok (some 7)

def findsNoPlan : (c : Call) → c.Reply
  | .plan _ _ => .ok none
  | c => succeeds c

def goesOn (i n : Nat) (reply : (c : Call) → c.Reply) : List (SessionAct Call Call.Reply Request) :=
  List.replicate n (.next i reply)

def twoTasks : List (SessionAct Call Call.Reply Request) :=
  .start (.tasksReady 0 [readyTask "dev_1" 1 .low, readyTask "dev_2" 2 .low]) :: goesOn 0 15 succeeds ++ [.stop 0]

def planningFails : List (SessionAct Call Call.Reply Request) :=
  .start (.tasksReady 0 [readyTask "dev_1" 1 .low]) :: goesOn 0 9 findsNoPlan ++ [.stop 0]

def retries (id : String) : List (SessionAct Call Call.Reply Request) :=
  .start (.retryTask id) :: goesOn 0 4 succeeds ++ [.stop 0]

end WisdoverseCell.DevAgent.Transactions
