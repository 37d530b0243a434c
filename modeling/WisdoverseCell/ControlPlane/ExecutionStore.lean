import WisdoverseCell.ControlPlane.AgentRunStore

/-!
# The dispatch ledger

`claim`, `settle`, `markUncertain` and `recover`, each one locked transaction: a failure leaves the database as it was,
except that a refused claim commits the marks it made (`ClaimRefusal.denied` carries the database as committed).
-/

namespace WisdoverseCell.ControlPlane

def Db.setLease (db : Db) (executionId : String) (f : ExecutionLease → ExecutionLease)
    (hf : ∀ l, (f l).executionId = l.executionId) : Db :=
  { db with leases := db.leases.update (fun l => l.executionId = executionId) f hf }

def transitionWork (clock : Time) (db : Db) (work : WorkItem) (state : WorkItemStatus) (actorId : String) :
    Except Failure Db := do
  let status ← work.transitionTo state
  return work.auditTransition state "operator" actorId
    (db.setWorkItem work.workItemId (fun w => { w with status := status, updatedAt := clock }) (fun _ => rfl))

/-! ### Claim: the bound intent -/

structure ClaimRequest where
  runId : String
  payload : JsonObj
  workItemId : Option String
  goalId : Option String
  actorId : String
  idempotencyKey : String
  ownerId : String
  approvalId : String

def ClaimRequest.work (req : ClaimRequest) : Option String := req.workItemId.filter (fun id => id ≠ "")

def ClaimRequest.resource (req : ClaimRequest) (agent : AgentRole) : String :=
  match req.work with
  | some workItemId => workResource workItemId
  | none => agentResource agent.agentId

/-- What a claim binds: the role as stored, its cost ceiling, the digest of the intent and the ids derived from it. -/
structure BoundIntent where
  current : AgentRole
  ceilingUsd : ℚ≥0
  digest : String
  executionId : String
  resource : String

def executionIdOf (rt : Runtime) (companyId idempotencyKey : String) : String :=
  rt.sha256 (companyId ++ ":" ++ idempotencyKey)

variable (rt : Runtime)

def boundDigest (digest idempotencyKey actorId : String) : String :=
  rt.sha256 (digest ++ ":" ++ idempotencyKey ++ ":" ++ actorId)

/-- The intent of a claim, hashed with its key and actor. -/
def bindIntent (db : Db) (agent : AgentRole) (req : ClaimRequest) :
    Except ExecutionDenied BoundIntent := do
  let _ ← require (db.companies.get agent.companyId) ⟨"company_not_found", 404⟩
  let current ← require (db.agentRoles.get (agent.companyId, agent.agentId)) ⟨"agent_not_found", 404⟩
  let ceiling ← authorizeAdapter rt current
  let digest ← intentHash rt current req.payload req.workItemId
  let given ← intentHash rt agent req.payload req.workItemId
  ensure (digest = given) ⟨"execution_configuration_changed", 409⟩
  return {
    current := current
    ceilingUsd := ceiling
    digest := boundDigest rt digest req.idempotencyKey req.actorId
    executionId := executionIdOf rt agent.companyId req.idempotencyKey
    resource := req.resource agent }

/-! ### Claim: refusals -/

/-- How a claim fails: denied, with the database as committed, or by an exception that commits nothing. -/
inductive ClaimRefusal
  | denied (d : ExecutionDenied) (db : Db)
  | failed (f : Failure)

/-- How a claim succeeds: a ticket with the writes that commit together with the run, or the ticket of an execution
that ended before. -/
inductive ClaimGrant
  | fresh (ticket : ExecutionTicket) (db : Db)
  | replay (ticket : ExecutionTicket)

def markAbandoned (now : Time) (db : Db) (lease : ExecutionLease) : Db :=
  if lease.state = .running ∧ lease.expiresAt ≤ now then
    (db.setLease lease.executionId (fun l => { l with state := .recoveryRequired }) (fun _ => rfl)).auditExecution
      lease.companyId lease.resourceId "execution.recovery_required" "system"
  else db

def refuseHeld (now : Time) (db : Db) (lease : ExecutionLease) : ClaimRefusal :=
  let reason :=
    if lease.state = .recoveryRequired ∨ (lease.state = .running ∧ lease.expiresAt ≤ now) then
      "execution_recovery_required"
    else "execution_in_progress"
  .denied ⟨reason, 409⟩ (markAbandoned now db lease)

def claimExisting (now : Time) (db : Db) (intent : BoundIntent) (existing : ExecutionLease) :
    Except ClaimRefusal ClaimGrant :=
  if existing.intentHash ≠ intent.digest then .error (.denied ⟨"idempotency_key_conflict", 409⟩ db)
  else if existing.state.terminal then
    .ok (.replay ⟨intent.executionId, existing.runId, existing.ownerId, intent.ceilingUsd, true⟩)
  else .error (refuseHeld now db existing)

/-! ### Claim: heartbeat and work item -/

/-- `int(raw)` where it does not raise. -/
def intOf : Json → Option Int
  | .bool b => some (if b then 1 else 0)
  | .int n => some n
  | .float q => some (q.num.tdiv q.den)
  | .str s => rt.parseInt s
  | .null | .nonFinite _ | .arr _ | .obj _ => none

def heartbeatIntervalSeconds (config : JsonObj) : Int :=
  max ((intOf rt ((config.lookup "heartbeat_interval_seconds").getD (.int 300))).getD 300) 60

def heartbeatElapsed (now : Time) (db : Db) (agent : AgentRole) (current : AgentRole) : Bool :=
  match latestRun (db.agentRuns.rows.filter (fun r => r.companyId = agent.companyId ∧ r.agentId = agent.agentId)) with
  | none => true
  | some latest =>
    heartbeatIntervalSeconds rt current.adapterConfig * 1000000 ≤
      (now : Int) - ((latest.completedAt.getD latest.startedAt : Time) : Int)

def dependencyAccepted (db : Db) (work : WorkItem) (dependencyId : String) : Bool :=
  match db.workItems.get dependencyId with
  | some dependency => dependency.companyId = work.companyId ∧ dependency.status = .completed
  | none => false

def claimWork (db : Db) (companyId : String) (work : Option String) : Except ExecutionDenied (Option WorkItem) :=
  match work with
  | none => .ok none
  | some workItemId => do
    let work ← require (db.workItems.get workItemId) ⟨"work_item_not_found", 404⟩
    ensure (work.companyId = companyId) ⟨"work_item_not_found", 404⟩
    ensure (work.status ≠ .completed ∧ work.status ≠ .cancelled) ⟨"work_item_closed", 409⟩
    ensure (∀ d ∈ work.dependencies, dependencyAccepted db work d) ⟨"work_item_dependency_not_accepted", 403⟩
    return some work

/-! ### Claim: approval -/

def requiresApproval (current : AgentRole) (work : Option WorkItem) : Bool :=
  work.any WorkItem.approvalRequired || current.escalationPolicy.lookup "approval_required" = some (.bool true)

def validApprovals (now : Time) (db : Db) (agent : AgentRole) (digest : String) : List ApprovalRequest :=
  db.approvals.rows.filter (fun a => a.companyId = agent.companyId ∧ a.sourceAgentId = agent.agentId ∧
    a.metadata.lookup "execution_intent_hash" = some (.str digest) ∧ a.expiresAt.any (fun t => now < t))

def ApprovalRequest.usable (a : ApprovalRequest) : Bool :=
  a.status = .approved && !((a.metadata.lookup "consumed_execution_id").getD .null).truthy

def newApproval (now : Time) (agent : AgentRole) (req : ClaimRequest) (intent : BoundIntent) : ApprovalRequest where
  approvalId := req.approvalId
  companyId := agent.companyId
  status := .pending
  requestedBy := req.actorId
  sourceAgentId := agent.agentId
  proposedAction := "Execute " ++ intent.resource ++ " using " ++ agent.adapterType
  affectedResources := [intent.resource]
  runId := none
  workItemId := req.workItemId
  goalId := req.goalId
  resolvedBy := none
  resolvedAt := none
  expiresAt := some (now + seconds (24 * 3600))
  metadata := [("execution_intent_hash", .str intent.digest), ("execution_key", .str req.idempotencyKey),
    ("reviewed_adapter_type", .str agent.adapterType)]

def transitionClaimed (clock : Time) (db : Db) (work : Option WorkItem) (state : WorkItemStatus) (actorId : String) :
    Except Failure Db :=
  match work with
  | none => .ok db
  | some w => transitionWork clock db w state actorId

def refuseForApproval (now clock : Time) (db : Db) (agent : AgentRole) (req : ClaimRequest) (intent : BoundIntent)
    (work : Option WorkItem) : ClaimRefusal :=
  let approvals :=
    if (validApprovals now db agent intent.digest).any (fun a => a.status = .pending) then some db.approvals
    else db.approvals.insert (newApproval now agent req intent)
  match approvals with
  | none => .failed .integrityError
  | some approvals =>
    match transitionClaimed clock { db with approvals := approvals } work .awaitingApproval req.actorId with
    | .error f => .failed f
    | .ok db' =>
      .denied ⟨"execution_approval_required", 403⟩
        (db'.auditExecution agent.companyId intent.resource "execution.approval_required" req.actorId)

def claimApproval (now clock : Time) (db : Db) (agent : AgentRole) (req : ClaimRequest) (intent : BoundIntent)
    (work : Option WorkItem) : Except ClaimRefusal (Option ApprovalRequest) :=
  if requiresApproval intent.current work then
    match (validApprovals now db agent intent.digest).find? ApprovalRequest.usable with
    | some approved => .ok (some approved)
    | none => .error (refuseForApproval now clock db agent req intent work)
  else .ok none

/-! ### Claim: budgets -/

def BudgetPolicy.applies (p : BudgetPolicy) (agent current : AgentRole) (req : ClaimRequest) : Bool :=
  p.scope = .company ∨ (p.scope = .agent ∧ p.scopeId = some agent.agentId) ∨
    (p.scope = .workItem ∧ p.scopeId = req.workItemId) ∨ (p.scope = .goal ∧ p.scopeId = req.goalId) ∨
    some p.budgetId = current.budgetPolicyId

def selectedPolicies (db : Db) (agent current : AgentRole) (req : ClaimRequest) : List BudgetPolicy :=
  (((db.budgetPolicies.rows.filter (fun p => p.companyId = agent.companyId ∧ p.status = "active")).insertionSort
    (fun p q => p.budgetId ≤ q.budgetId)).filter (fun p => p.applies agent current req))

def Db.consumed (db : Db) (budgetId : String) (start : Time) : ℚ≥0 :=
  ((db.budgetUsage.filter (fun u => u.budgetId = budgetId ∧ start ≤ u.createdAt)).map BudgetUsage.costUsd).sum

def Db.reserved (db : Db) (budgetId : String) : ℚ≥0 :=
  ((db.reservations.rows.filter (fun r => r.budgetId = budgetId ∧ r.state = .reserved)).map
    ExecutionReservation.amountUsd).sum

def adapterModel (config : JsonObj) : String :=
  match config.lookup "model" with
  | some v => if v.truthy then rt.str v else targetModel
  | none => targetModel
where
  targetModel : String :=
    match config.lookup "target_model" with
    | some v => if v.truthy then rt.str v else ""
    | none => ""

def checkPolicy (now : Time) (db : Db) (intent : BoundIntent) (p : BudgetPolicy) :
    Except ExecutionDenied Unit := do
  ensure (p.modelAllowlist = [] ∨ adapterModel rt intent.current.adapterConfig ∈ p.modelAllowlist)
    ⟨"execution_model_not_allowed", 403⟩
  ensure (db.consumed p.budgetId (periodStart p.period now) + db.reserved p.budgetId + intent.ceilingUsd ≤ p.limitUsd)
    ⟨"execution_budget_exceeded", 403⟩

def claimBudgets (now : Time) (db : Db) (agent : AgentRole) (req : ClaimRequest)
    (intent : BoundIntent) : Except ExecutionDenied (List BudgetPolicy) := do
  let selected := selectedPolicies db agent intent.current req
  ensure (0 < intent.ceilingUsd → selected ≠ []) ⟨"execution_budget_required", 403⟩
  ensure (∀ b ∈ intent.current.budgetPolicyId, b ≠ "" → b ∈ selected.map BudgetPolicy.budgetId)
    ⟨"execution_budget_inactive", 403⟩
  checkEach (checkPolicy rt now db intent) selected
  return selected

/-! ### Claim: the grant -/

def newLease (now : Time) (agent : AgentRole) (req : ClaimRequest) (intent : BoundIntent) : ExecutionLease where
  executionId := intent.executionId
  companyId := agent.companyId
  resourceId := intent.resource
  intentHash := intent.digest
  runId := req.runId
  ownerId := req.ownerId
  state := .running
  controlAction := .resume
  expiresAt := now + seconds 1000
  createdAt := now

def newReservation (now : Time) (intent : BoundIntent) (p : BudgetPolicy) : ExecutionReservation where
  executionId := intent.executionId
  budgetId := p.budgetId
  amountUsd := intent.ceilingUsd
  state := .reserved
  createdAt := now

def WorkItem.withoutAcceptance (w : WorkItem) : WorkItem :=
  { w with metadata := JsonObj.pop (JsonObj.pop w.metadata "acceptance_id") "accepted_artifact_id" }

theorem WorkItem.withoutAcceptance_workItemId (w : WorkItem) : w.withoutAcceptance.workItemId = w.workItemId := rfl

def startClaimed (clock : Time) (db : Db) (work : Option WorkItem) (actorId : String) : Except Failure Db :=
  match work with
  | none => .ok db
  | some w => do
    let db' ← transitionWork clock db w .running actorId
    return db'.setWorkItem w.workItemId WorkItem.withoutAcceptance WorkItem.withoutAcceptance_workItemId

def consumeApproval (db : Db) (approved : Option ApprovalRequest) (executionId runId : String) :
    Table ApprovalRequest.approvalId :=
  match approved with
  | none => db.approvals
  | some a => db.approvals.update (fun b => b.approvalId = a.approvalId)
      (fun b => { b with
        metadata := JsonObj.set b.metadata "consumed_execution_id" (.str executionId)
        runId := some runId })
      (fun _ => rfl)

/-- What a claim writes once all checks have passed. -/
def grantClaim (now clock : Time) (db : Db) (agent : AgentRole) (req : ClaimRequest) (intent : BoundIntent)
    (work : Option WorkItem) (approved : Option ApprovalRequest) (policies : List BudgetPolicy) :
    Except ClaimRefusal ClaimGrant := do
  let integrityError := ClaimRefusal.failed .integrityError
  -- the lease table has a unique index on the run id besides its primary key
  ensure (∀ l ∈ db.leases.rows, l.runId ≠ req.runId) integrityError
  let leases ← require (db.leases.insert (newLease now agent req intent)) integrityError
  let reservations ← require (db.reservations.insertAll (policies.map (newReservation now intent))) integrityError
  let db' ← (startClaimed clock { db with
    leases := leases
    reservations := reservations
    approvals := consumeApproval db approved intent.executionId req.runId } work req.actorId).mapError
      ClaimRefusal.failed
  return .fresh ⟨intent.executionId, req.runId, req.ownerId, intent.ceilingUsd, false⟩
    (db'.auditExecution agent.companyId intent.resource "execution.claimed" req.actorId)

def claimFree (now clock : Time) (db : Db) (agent : AgentRole) (req : ClaimRequest)
    (intent : BoundIntent) : Except ClaimRefusal ClaimGrant := do
  ensure (req.payload.lookup "trigger" = some (.str "heartbeat") →
    heartbeatElapsed rt now db agent intent.current = true) (.denied ⟨"heartbeat_interval_not_elapsed", 409⟩ db)
  let work ← (claimWork db agent.companyId req.work).mapError (ClaimRefusal.denied · db)
  let approved ← claimApproval now clock db agent req intent work
  let policies ← (claimBudgets rt now db agent req intent).mapError (ClaimRefusal.denied · db)
  grantClaim now clock db agent req intent work approved policies

/-- `_claim`; `now` is the time sampled before the company lock, `clock` the time of the writes. -/
def claimLocked (now clock : Time) (db : Db) (agent : AgentRole) (req : ClaimRequest) :
    Except ClaimRefusal ClaimGrant := do
  let intent ← (bindIntent rt db agent req).mapError (ClaimRefusal.denied · db)
  match db.leases.get intent.executionId with
  | some existing => claimExisting now db intent existing
  | none =>
    match db.activeLease agent.companyId intent.resource with
    | some active => .error (refuseHeld now db active)
    | none => claimFree rt now clock db agent req intent

def claim (now clock : Time) (db : Db) (agent : AgentRole) (req : ClaimRequest) :
    Except ClaimRefusal ClaimGrant :=
  match claimLocked rt now clock db agent req with
  | .error (.denied d db') =>
    if (db'.companies.get agent.companyId).isSome then
      .error (.denied d (db'.auditExecution agent.companyId (req.resource agent) "execution.denied" req.actorId))
    else .error (.denied d db')
  | result => result

/-! ### Settlement, uncertainty and control -/

def Db.reservationsOf (db : Db) (executionId : String) : List ExecutionReservation :=
  db.reservations.rows.filter (fun r => r.executionId = executionId)

def chargeFor (now : Time) (lease : ExecutionLease) (ticket : ExecutionTicket) (cost : ℚ≥0) (failed estimated : Bool)
    (r : ExecutionReservation) : BudgetUsage where
  companyId := lease.companyId
  budgetId := r.budgetId
  costUsd := cost
  runId := some ticket.runId
  executionId := some ticket.executionId
  failedAttempt := failed
  chargedCeiling := estimated
  createdAt := now

/-- `settle`: charge the run, end the lease and its reservations. -/
def settle (now : Time) (db : Db) (ticket : ExecutionTicket) (cost : ℚ≥0) (failed estimated : Bool) :
    Except ExecutionDenied Db := do
  let lease ← require (db.leases.get ticket.executionId) ⟨"execution_owner_lost", 409⟩
  ensure (lease.ownerId = ticket.ownerId ∧ lease.state = .running) ⟨"execution_owner_lost", 409⟩
  ensure (∀ r ∈ db.reservationsOf ticket.executionId, r.state = .reserved) ⟨"execution_already_settled", 409⟩
  let run ← require (db.agentRuns.get ticket.runId) ⟨"execution_run_not_found", 409⟩
  ensure (run.companyId = lease.companyId) ⟨"execution_run_not_found", 409⟩
  return { db with
    leases := db.leases.update (fun l => l.executionId = ticket.executionId)
      (fun l => { l with state := if failed then .failed else .succeeded }) (fun _ => rfl)
    reservations := db.reservations.update (fun r => r.executionId = ticket.executionId)
      (fun r => { r with state := .settled }) (fun _ => rfl)
    budgetUsage := db.budgetUsage ++
      (db.reservationsOf ticket.executionId).map (chargeFor now lease ticket cost failed estimated)
    agentRuns := db.agentRuns.update (fun r => r.runId = ticket.runId)
      (fun r => { r with
        costUsd := cost
        metadata := JsonObj.set r.metadata "cost_is_estimate" (.bool estimated) }) (fun _ => rfl) }

/-- `mark_uncertain`: only the owner is checked, not the state of the lease. -/
def markUncertain (now : Time) (db : Db) (ticket : ExecutionTicket) : Except ExecutionDenied Db := do
  let lease ← require (db.leases.get ticket.executionId) ⟨"execution_owner_lost", 409⟩
  ensure (lease.ownerId = ticket.ownerId) ⟨"execution_owner_lost", 409⟩
  return (db.setLease ticket.executionId (fun l => { l with state := .recoveryRequired, expiresAt := now })
    (fun _ => rfl)).auditExecution lease.companyId lease.resourceId "execution.effects_uncertain" "system"

def Db.leaseOfRun (db : Db) (companyId runId : String) : Option ExecutionLease :=
  db.leases.rows.find? (fun l => l.companyId = companyId ∧ l.runId = runId)

theorem Db.mem_of_leaseOfRun {db : Db} {companyId runId : String} {l}
    (h : db.leaseOfRun companyId runId = some l) : l ∈ db.leases ∧ l.companyId = companyId ∧ l.runId = runId := by
  unfold Db.leaseOfRun at h
  have hp := List.find?_some h
  rw [decide_eq_true_eq] at hp
  exact ⟨List.mem_of_find?_eq_some h, hp⟩

def requestControl (db : Db) (companyId runId : String) (action : ControlAction) (actorId : String) :
    Except ExecutionDenied Db := do
  let lease ← require (db.leaseOfRun companyId runId) ⟨"execution_not_found", 404⟩
  let run ← require (db.agentRuns.get runId) ⟨"execution_not_found", 404⟩
  let agent ← require (db.agentRoles.get (companyId, run.agentId)) ⟨"agent_not_found", 404⟩
  ensure (lease.state = .running) ⟨"execution_not_running", 409⟩
  ensure (agent.adapterType = "process") ⟨"executor_control_not_supported", 409⟩
  return (db.setLease lease.executionId (fun l => { l with controlAction := action }) (fun _ => rfl)).auditExecution
    companyId lease.resourceId ("execution." ++ action.value ++ "_requested") actorId

/-! ### Recovery -/

def recoveryContext (agent : AgentRole) (run : AgentRun) (actorId : String) : WakeupContext where
  agent := agent
  runId := run.runId
  actorId := actorId
  traceId := run.traceId
  goalId := run.goalId
  workItemId := run.workItemId
  trigger := "operator_reconciliation"

def failAbandonedRun (now : Time) (db : Db) (companyId runId actorId : String) (ids : EvidenceIds) :
    Except Failure Db :=
  match db.agentRuns.get runId with
  | none => .ok db
  | some run =>
    if run.status = .running then do
      let agent ← require (db.agentRoles.get (companyId, run.agentId))
        (Failure.denied ⟨"recovery_agent_required", 409⟩)
      failAgentWakeupRun rt now db (recoveryContext agent run actorId) run.inputEvent
        "operator_reconciled_abandoned_execution" "external_effects_reviewed" false ids
    else .ok db

def heldWork (db : Db) (lease : ExecutionLease) : Option WorkItem :=
  (Text.removeStart "work:" lease.resourceId).bind db.workItems.get

def failHeldWork (now : Time) (db : Db) (lease : ExecutionLease) (actorId : String) : Except Failure Db :=
  match heldWork db lease with
  | none => .ok db
  | some work => transitionWork now db work .failed actorId

def Db.reservedCeiling (db : Db) (executionId : String) : ℚ≥0 :=
  ((db.reservationsOf executionId).map ExecutionReservation.amountUsd).foldl max 0

def recoveryTicket (db : Db) (lease : ExecutionLease) : ExecutionTicket :=
  ⟨lease.executionId, lease.runId, lease.ownerId, db.reservedCeiling lease.executionId, false⟩

def ExecutionLease.resumed (l : ExecutionLease) : ExecutionLease := { l with state := .running }

theorem ExecutionLease.resumed_executionId (l : ExecutionLease) : l.resumed.executionId = l.executionId := rfl

def resumedDb (db : Db) (lease : ExecutionLease) : Db :=
  db.setLease lease.executionId ExecutionLease.resumed ExecutionLease.resumed_executionId

def recover (now : Time) (db : Db) (companyId runId actorId : String) (ids : EvidenceIds) :
    Except Failure Db := do
  let lease ← require (db.leaseOfRun companyId runId) (Failure.denied ⟨"execution_not_found", 404⟩)
  ensure (lease.state.active = true ∧ lease.expiresAt ≤ now) (Failure.denied ⟨"execution_not_abandoned", 409⟩)
  let db₁ ← (settle now (resumedDb db lease) (recoveryTicket db lease) (db.reservedCeiling lease.executionId) true
    true).mapError Failure.denied
  let db₂ ← failAbandonedRun rt now db₁ companyId runId actorId ids
  let db₃ ← failHeldWork now db₂ lease actorId
  return db₃.auditExecution companyId lease.resourceId "execution.reconciled" actorId

end WisdoverseCell.ControlPlane
