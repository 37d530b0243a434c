import WisdoverseCell.ControlPlane.AgentRunner
import WisdoverseCell.ControlPlane.Ledger

/-!
# The dispatch system

The database shared by runners, operators and other clients, the clock, and the wakeups whose executor has been
called.  A step is one committed transaction or an advance of the clock; a runner may come back with its ticket at any
later time, any number of times.
-/

namespace WisdoverseCell.ControlPlane

structure Attempt where
  companyId : String
  workItemId : String
  resolvedAgentId : String

structure HeldWakeup where
  ticket : ExecutionTicket
  ctx : WakeupContext
  inputEvent : JsonObj
  attempt : Option Attempt

structure Sys where
  db : Db
  clock : Time
  held : List HeldWakeup

def Sys.snapshot (s : Sys) : Snapshot := ⟨s.db, s.clock⟩

inductive Act
  | tick (d : Nat)
  | wake (sampled : Time) (agent : AgentRole) (call : WakeupCall) (attempt : Option Attempt)
  | finish (i : Nat) (outcome : AdapterOutcome) (ids : EvidenceIds)
  | settle (i : Nat) (cost : ℚ≥0) (failed estimated : Bool)
  | markUncertain (i : Nat)
  | recover (companyId runId actorId : String) (ids : EvidenceIds)
  | updateStatus (u : StatusUpdate)
  | requestControl (companyId runId : String) (action : ControlAction) (actorId : String)
  | requestApproval (a : ApprovalRequest)
  | resolveApproval (approvalId : String) (status : ApprovalStatus) (resolvedBy : String)
  | review (r : ReviewRequest)
  | createWorkItem (work : WorkItem)
  | createArtifact (artifact : Artifact)
  | putAgentRole (role : AgentRole)
  | createCompany (companyId : String)
  | createBudgetPolicy (policy : BudgetPolicy)
  | updateBudgetPolicy (budgetId : String) (limit : Option ℚ≥0) (status : Option String)
      (modelAllowlist : Option (List String))
  | recordUsage (usage : BudgetUsage)

/-! ### Registry transactions -/

/-- `request_approval`, called for other actions than executions: the request is pending and no execution has consumed
it. -/
def requestApproval (db : Db) (a : ApprovalRequest) : Option Db :=
  if a.status = .pending ∧ JsonObj.has a.metadata "consumed_execution_id" = false then
    (db.approvals.insert a).map (fun approvals => { db with approvals := approvals })
  else none

def resolveApproval (now : Time) (db : Db) (approvalId : String) (status : ApprovalStatus) (resolvedBy : String) :
    Option Db :=
  match db.approvals.get approvalId with
  | some a =>
    if a.status = .pending then
      some { db with
        approvals := db.approvals.update (fun b => b.approvalId = approvalId) (fun b =>
          { b with status := status, resolvedBy := some resolvedBy, resolvedAt := some now }) (fun _ => rfl) }
    else none
  | none => none

def putAgentRole (db : Db) (role : AgentRole) : Option Db :=
  match db.agentRoles.get (role.companyId, role.agentId) with
  | none => (db.agentRoles.insert role).map (fun roles => { db with agentRoles := roles })
  | some _ => some { db with
      agentRoles := db.agentRoles.update (fun r => r.companyId = role.companyId ∧ r.agentId = role.agentId)
        (fun r => { role with companyId := r.companyId, agentId := r.agentId }) (fun _ => rfl) }

/-- What the route `POST /work-items` refuses besides: a completed item, and the metadata a review writes. -/
def createAllowed (work : WorkItem) : Bool :=
  work.status ≠ .completed ∧ JsonObj.has work.metadata "accepted_artifact_id" = false ∧
    JsonObj.has work.metadata "acceptance_id" = false

def createWorkItem (db : Db) (work : WorkItem) : Option Db :=
  if createAllowed work = true ∧
      work.dependencies.all (fun d => (db.workItems.get d).any (fun v => v.companyId = work.companyId)) then
    let companies := (db.companies.insert work.companyId).getD db.companies
    (db.workItems.insert work).map (fun items => { db with workItems := items, companies := companies }.appendAudit
      ⟨work.companyId, "work_item.created", "work_item", work.workItemId, "user", "", none, some work.workItemId⟩)
  else none

def BudgetPolicy.edited (p : BudgetPolicy) (limit : Option ℚ≥0) (status : Option String)
    (modelAllowlist : Option (List String)) : BudgetPolicy :=
  { p with
    limitUsd := limit.getD p.limitUsd
    status := status.getD p.status
    modelAllowlist := modelAllowlist.getD p.modelAllowlist }

theorem BudgetPolicy.edited_budgetId (p : BudgetPolicy) (limit : Option ℚ≥0) (status modelAllowlist) :
    (p.edited limit status modelAllowlist).budgetId = p.budgetId := rfl

/-! ### Steps -/

def recordFor (rt : Runtime) (now : Time) (db : Db) (attempt : Option Attempt) (actorId : String)
    (answer : Except AgentWakeupError AgentWakeupResult) : Except Failure Db :=
  match attempt with
  | none => .ok db
  | some a => recordAttempt rt now db a.companyId a.workItemId a.resolvedAgentId actorId answer

def stepWake (rt : Runtime) (s : Sys) (sampled : Time) (agent : AgentRole) (call : WakeupCall)
    (attempt : Option Attempt) : Option Sys :=
  match startWakeup rt sampled s.clock s.db agent call with
  | .failed _ => none
  | .running ticket db => some { s with
      db := db
      held := s.held ++ [⟨ticket, call.context agent,
        wakeupInputEvent (call.context agent) call.payload call.eventId, attempt⟩] }
  | .replayed result =>
    match recordFor rt s.clock s.db attempt call.actorId (.ok result) with
    | .error _ => none
    | .ok db => some { s with db := db }
  | .refused e db =>
    match recordFor rt s.clock db attempt call.actorId (.error e) with
    | .error _ => some { s with db := db }
    | .ok db' => some { s with db := db' }

def stepFinish (rt : Runtime) (s : Sys) (h : HeldWakeup) (outcome : AdapterOutcome) (ids : EvidenceIds) : Option Sys :=
  match finishWakeup rt s.clock s.db h.ticket h.ctx h.inputEvent outcome ids with
  | .error _ => none
  | .ok (answer, db) =>
    match recordFor rt s.clock db h.attempt h.ctx.actorId answer with
    | .error _ => none
    | .ok db' => some { s with db := db' }

def Sys.commit {ε : Type} (s : Sys) (result : Except ε Db) : Option Sys :=
  match result with
  | .error _ => none
  | .ok db => some { s with db := db }

def step (rt : Runtime) (s : Sys) : Act → Option Sys
  | .tick d => some { s with clock := s.clock + d }
  | .wake sampled agent call attempt => if sampled ≤ s.clock then stepWake rt s sampled agent call attempt else none
  | .finish i outcome ids => s.held[i]?.bind (fun h => stepFinish rt s h outcome ids)
  | .settle i cost failed estimated =>
    s.held[i]?.bind (fun h => s.commit (settle s.clock s.db h.ticket cost failed estimated))
  | .markUncertain i => s.held[i]?.bind (fun h => s.commit (markUncertain s.clock s.db h.ticket))
  | .recover companyId runId actorId ids => s.commit (recover rt s.clock s.db companyId runId actorId ids)
  | .updateStatus u => s.commit (updateWorkItemStatusWithAudit rt s.clock s.db u)
  | .requestControl companyId runId action actorId => s.commit (requestControl s.db companyId runId action actorId)
  | .requestApproval a => (requestApproval s.db a).map (fun db => { s with db := db })
  | .resolveApproval approvalId status resolvedBy =>
    (resolveApproval s.clock s.db approvalId status resolvedBy).map (fun db => { s with db := db })
  | .review r => s.commit (review rt s.clock s.db r)
  | .createWorkItem work => (createWorkItem s.db work).map (fun db => { s with db := db })
  | .createArtifact artifact =>
    (s.db.artifacts.insert artifact).map (fun artifacts => { s with db := { s.db with artifacts := artifacts } })
  | .putAgentRole role => (putAgentRole s.db role).map (fun db => { s with db := db })
  | .createCompany companyId =>
    (s.db.companies.insert companyId).map (fun companies => { s with db := { s.db with companies := companies } })
  | .createBudgetPolicy policy =>
    (s.db.budgetPolicies.insert policy).map (fun policies => { s with db := { s.db with budgetPolicies := policies } })
  | .updateBudgetPolicy budgetId limit status modelAllowlist => some { s with db := { s.db with
      budgetPolicies := s.db.budgetPolicies.update (fun p => p.budgetId = budgetId)
        (fun p => p.edited limit status modelAllowlist) (fun p => p.edited_budgetId limit status modelAllowlist) } }
  | .recordUsage usage =>
    if usage.executionId = none then some { s with db := { s.db with budgetUsage := s.db.budgetUsage ++ [usage] } }
    else none

end WisdoverseCell.ControlPlane
