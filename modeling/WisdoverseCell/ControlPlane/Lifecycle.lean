import WisdoverseCell.ControlPlane.Models
import WisdoverseCell.Library.Text

/-!
# Lifecycles of work items, agent runs and agent roles

One transition table per aggregate; a transition outside the table raises an error with the aggregate's name and
both states.  A work item asked for the status it already has stays as it is; an agent run is not.
-/

namespace WisdoverseCell.ControlPlane

/-- `ExecutionDenied`: the reason and the HTTP status it is answered with. -/
structure ExecutionDenied where
  reason : String
  statusCode : Nat
  deriving DecidableEq

inductive Failure
  | denied (d : ExecutionDenied)
  | invalidWorkItemTransition (message : String)
  | invalidAgentRunTransition (message : String)
  | invalidApprovalTransition (message : String)
  | workItemNotFound (workItemId : String)
  | integrityError
  | typeError
  deriving DecidableEq

/-! ### State machines -/

structure StateMachine (σ : Type) where
  allowedTargets : σ → List σ
  name : σ → String

namespace StateMachine

variable {σ : Type} [DecidableEq σ]

def canTransition (m : StateMachine σ) (current target : σ) : Bool := target ∈ m.allowedTargets current

def isTerminal (m : StateMachine σ) (state : σ) : Bool := (m.allowedTargets state).isEmpty

def ensureCanTransition (m : StateMachine σ) (subject : String) (current target : σ) : Except String Unit :=
  if m.canTransition current target then .ok ()
  else .error (subject ++ ": illegal transition " ++ m.name current ++ " -> " ++ m.name target)

end StateMachine

def workItemMachine : StateMachine WorkItemStatus where
  name := WorkItemStatus.value
  allowedTargets
    | .queued => [.ready, .running, .blocked, .awaitingApproval, .completed, .failed, .cancelled]
    | .ready => [.running, .blocked, .awaitingApproval, .completed, .failed, .cancelled]
    | .running => [.blocked, .awaitingApproval, .completed, .failed, .cancelled]
    | .blocked => [.ready, .running, .awaitingApproval, .completed, .failed, .cancelled]
    | .awaitingApproval => [.ready, .running, .blocked, .completed, .failed, .cancelled]
    | .completed => [.ready, .running, .blocked, .awaitingApproval, .failed, .cancelled]
    | .failed => [.running, .awaitingApproval, .cancelled]
    | .cancelled => []

def agentRunMachine : StateMachine AgentRunStatus where
  name := AgentRunStatus.value
  allowedTargets
    | .pending => [.running, .cancelled, .failed]
    | .running => [.succeeded, .failed, .cancelled, .timedOut]
    | .succeeded | .failed | .cancelled | .timedOut => []

/-! ### Work items -/

def WorkItem.transitionTo (w : WorkItem) (target : WorkItemStatus) : Except Failure WorkItemStatus :=
  if target = w.status then .ok w.status
  else
    match workItemMachine.ensureCanTransition ("WorkItem " ++ w.workItemId) w.status target with
    | .ok _ => .ok target
    | .error message => .error (.invalidWorkItemTransition message)

def WorkItem.mayBecome (w : WorkItem) (target : WorkItemStatus) : Bool :=
  target = w.status || workItemMachine.canTransition w.status target

theorem WorkItem.transitionTo_eq_ok {w : WorkItem} {target s} :
    w.transitionTo target = .ok s ↔ s = target ∧ w.mayBecome target = true := by
  unfold WorkItem.transitionTo WorkItem.mayBecome StateMachine.ensureCanTransition
  by_cases h : target = w.status
  · simp [h, eq_comm]
  · by_cases hc : workItemMachine.canTransition w.status target = true
    · simp [h, hc, eq_comm]
    · simp [h, hc]

def WorkItem.auditTransition (w : WorkItem) (target : WorkItemStatus) (actorType actorId : String) (db : Db) : Db :=
  { db with auditEvents :=
      if target = w.status then db.auditEvents
      else db.auditEvents ++
        [⟨w.companyId, "work_item.updated", "work_item", w.workItemId, actorType, actorId, none, some w.workItemId⟩] }

/-! ### Agent runs -/

/-- `AgentRun.transition_to`: unlike a work item, a run may not be moved to the status it has. -/
def AgentRun.transitionTo (r : AgentRun) (target : AgentRunStatus) : Except Failure AgentRunStatus :=
  match agentRunMachine.ensureCanTransition ("AgentRun " ++ r.runId) r.status target with
  | .ok _ => .ok target
  | .error message => .error (.invalidAgentRunTransition message)

theorem AgentRun.transitionTo_eq_ok {r : AgentRun} {target s} :
    r.transitionTo target = .ok s ↔ s = target ∧ agentRunMachine.canTransition r.status target = true := by
  unfold AgentRun.transitionTo StateMachine.ensureCanTransition
  by_cases hc : agentRunMachine.canTransition r.status target = true
  · simp [hc, eq_comm]
  · simp [hc]

def agentRunAction : AgentRunStatus → String
  | .running => "agent_run.started"
  | .succeeded => "agent_run.succeeded"
  | .failed => "agent_run.failed"
  | status => "agent_run." ++ status.value

inductive AgentRoleStatus
  | active
  | paused
  | disabled
  | inactive
  | retired
  | terminated
  deriving DecidableEq

def agentRoleStatus (value : String) : Option AgentRoleStatus :=
  match Text.lower (Text.strip value) with
  | "active" => some .active
  | "paused" => some .paused
  | "disabled" => some .disabled
  | "inactive" => some .inactive
  | "retired" => some .retired
  | "terminated" => some .terminated
  | _ => none

end WisdoverseCell.ControlPlane
