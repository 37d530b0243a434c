import Mathlib.Data.NNRat.Defs
import WisdoverseCell.Library.Json
import WisdoverseCell.Library.Table

/-!
# The control-plane records and the ledger database

Amounts of money are non-negative rationals, times are microseconds since 0001-01-01T00:00:00Z.  Primary keys and unique
constraints are part of the table types (`Table`) or checked by the write that could break them.
-/

namespace WisdoverseCell.ControlPlane

abbrev Time := Nat

instance five_atLeastTwo : Nat.AtLeastTwo 5 := ⟨by decide⟩

instance ten_atLeastTwo : Nat.AtLeastTwo 10 := ⟨by decide⟩

def seconds (n : Nat) : Time := n * 1000000

inductive WorkItemStatus
  | queued
  | ready
  | running
  | blocked
  | awaitingApproval
  | completed
  | failed
  | cancelled
  deriving DecidableEq

def WorkItemStatus.value : WorkItemStatus → String
  | .queued => "queued"
  | .ready => "ready"
  | .running => "running"
  | .blocked => "blocked"
  | .awaitingApproval => "awaiting_approval"
  | .completed => "completed"
  | .failed => "failed"
  | .cancelled => "cancelled"

inductive WorkItemPriority
  | low
  | medium
  | high
  | critical

def WorkItemPriority.value : WorkItemPriority → String
  | .low => "low"
  | .medium => "medium"
  | .high => "high"
  | .critical => "critical"

inductive AgentRunStatus
  | pending
  | running
  | succeeded
  | failed
  | cancelled
  | timedOut
  deriving DecidableEq

def AgentRunStatus.value : AgentRunStatus → String
  | .pending => "pending"
  | .running => "running"
  | .succeeded => "succeeded"
  | .failed => "failed"
  | .cancelled => "cancelled"
  | .timedOut => "timed_out"

inductive ApprovalStatus
  | pending
  | approved
  | rejected
  | expired
  | cancelled
  deriving DecidableEq

inductive BudgetScope
  | company
  | goal
  | agent
  | workItem
  deriving DecidableEq

inductive BudgetPeriod
  | daily
  | monthly
  | quarterly
  | total
  deriving DecidableEq

inductive LeaseState
  | running
  | recoveryRequired
  | succeeded
  | failed
  deriving DecidableEq

inductive ReservationState
  | reserved
  | settled
  deriving DecidableEq

inductive ControlAction
  | pause
  | resume
  | terminate
  deriving DecidableEq

def ControlAction.value : ControlAction → String
  | .pause => "pause"
  | .resume => "resume"
  | .terminate => "terminate"

inductive Verdict
  | accepted
  | rejected
  deriving DecidableEq

def Verdict.value : Verdict → String
  | .accepted => "accepted"
  | .rejected => "rejected"

structure AgentRole where
  companyId : String
  agentId : String
  adapterType : String
  adapterConfig : JsonObj
  permissions : List String
  budgetPolicyId : Option String
  escalationPolicy : JsonObj
  status : String
  deriving DecidableEq

structure WorkItem where
  workItemId : String
  companyId : String
  title : String
  description : String
  status : WorkItemStatus
  priority : WorkItemPriority
  goalId : Option String
  ownerAgentId : Option String
  ownerUserId : Option String
  source : String
  externalRef : Option String
  dependencies : List String
  approvalRequired : Bool
  metadata : JsonObj
  updatedAt : Time

structure AgentRun where
  runId : String
  companyId : String
  agentId : String
  status : AgentRunStatus
  traceId : Option String
  goalId : Option String
  workItemId : Option String
  triggerEventId : Option String
  inputEvent : JsonObj
  outputEvents : List JsonObj
  startedAt : Time
  completedAt : Option Time
  errorCategory : Option String
  errorMessage : Option String
  lastSuccessfulStep : Option String
  costUsd : ℚ≥0
  metadata : JsonObj

structure ApprovalRequest where
  approvalId : String
  companyId : String
  status : ApprovalStatus
  requestedBy : String
  sourceAgentId : String
  proposedAction : String
  affectedResources : List String
  runId : Option String
  workItemId : Option String
  goalId : Option String
  resolvedBy : Option String
  resolvedAt : Option Time
  expiresAt : Option Time
  metadata : JsonObj

structure Artifact where
  artifactId : String
  companyId : String
  contentHash : Option String
  runId : Option String
  workItemId : Option String
  goalId : Option String
  createdByAgentId : Option String
  metadata : JsonObj

structure OutcomeAcceptance where
  acceptanceId : String
  companyId : String
  workItemId : String
  artifactId : String
  runId : String
  artifactHash : Option String
  verdict : Verdict
  actorId : String
  reason : String
  createdAt : Time

structure BudgetPolicy where
  budgetId : String
  companyId : String
  scope : BudgetScope
  period : BudgetPeriod
  limitUsd : ℚ≥0
  scopeId : Option String
  status : String
  modelAllowlist : List String
  deriving DecidableEq

/-- A usage row; `executionId`, `failedAttempt` and `chargedCeiling` are the metadata entries written by `settle`. -/
structure BudgetUsage where
  companyId : String
  budgetId : String
  costUsd : ℚ≥0
  runId : Option String
  executionId : Option String
  failedAttempt : Bool
  chargedCeiling : Bool
  createdAt : Time

structure ExecutionLease where
  executionId : String
  companyId : String
  resourceId : String
  intentHash : String
  runId : String
  ownerId : String
  state : LeaseState
  controlAction : ControlAction
  expiresAt : Time
  createdAt : Time
  deriving DecidableEq

structure ExecutionReservation where
  executionId : String
  budgetId : String
  amountUsd : ℚ≥0
  state : ReservationState
  createdAt : Time

structure AuditEvent where
  companyId : String
  action : String
  targetType : String
  targetId : String
  actorType : String
  actorId : String
  runId : Option String
  workItemId : Option String

structure ExecutionTicket where
  executionId : String
  runId : String
  ownerId : String
  ceilingUsd : ℚ≥0
  replay : Bool

/-! ### The database -/

structure Db where
  companies : Table (id : String → String)
  agentRoles : Table (fun r : AgentRole => (r.companyId, r.agentId))
  workItems : Table WorkItem.workItemId
  agentRuns : Table AgentRun.runId
  leases : Table ExecutionLease.executionId
  reservations : Table (fun r : ExecutionReservation => (r.executionId, r.budgetId))
  budgetPolicies : Table BudgetPolicy.budgetId
  budgetUsage : List BudgetUsage
  approvals : Table ApprovalRequest.approvalId
  artifacts : Table Artifact.artifactId
  acceptances : Table OutcomeAcceptance.acceptanceId
  auditEvents : List AuditEvent

namespace Db

def empty : Db where
  companies := .empty
  agentRoles := .empty
  workItems := .empty
  agentRuns := .empty
  leases := .empty
  reservations := .empty
  budgetPolicies := .empty
  budgetUsage := []
  approvals := .empty
  artifacts := .empty
  acceptances := .empty
  auditEvents := []

def appendAudit (db : Db) (event : AuditEvent) : Db := { db with auditEvents := db.auditEvents ++ [event] }

def auditExecution (db : Db) (companyId resource action actorId : String) : Db :=
  db.appendAudit ⟨companyId, action, "execution", resource, "operator", actorId, none, none⟩

end Db

def LeaseState.active : LeaseState → Bool
  | .running | .recoveryRequired => true
  | .succeeded | .failed => false

def LeaseState.terminal (s : LeaseState) : Bool := !s.active

/-- SHA-256, the texts of a finite float and of a list or dictionary, and the readings of a string as a decimal (`some
none` for a non-finite one) and as an integer. -/
structure Runtime where
  sha256 : String → String
  floatText : ℚ → String
  reprText : Json → String
  parseDecimal : String → Option (Option ℚ)
  parseInt : String → Option Int

def Runtime.str (rt : Runtime) : Json → String
  | .null => "None"
  | .bool true => "True"
  | .bool false => "False"
  | .int n => String.ofList (Json.intText n)
  | .float q => rt.floatText q
  | .nonFinite .nan => "nan"
  | .nonFinite .infinity => "inf"
  | .nonFinite .negInfinity => "-inf"
  | .str s => s
  | .arr xs => rt.reprText (.arr xs)
  | .obj kvs => rt.reprText (.obj kvs)

end WisdoverseCell.ControlPlane
