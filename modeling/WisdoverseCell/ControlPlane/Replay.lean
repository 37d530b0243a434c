import WisdoverseCell.ControlPlane.Recoverability

/-!
# Replays

A call whose idempotency key belongs to an execution that ended is answered from the stored run, without calling the
executor.  The answer still goes through the use case that writes the work item's status; `replay_unchanged_iff` says
exactly when that leaves the records alone.
-/

namespace WisdoverseCell.ControlPlane

open Option Table

variable {call : WorkRunCall} {db : Db} {rt : Runtime}

/-! ### Calls that find an ended execution -/

structure Addressed (db : Db) (call : WorkRunCall) (work : WorkItem) (agent : AgentRole) : Prop where
  work_eq : db.workItems.get call.workItemId = some work
  company : work.companyId = call.companyId
  resolved : resolvedAgent call.agentId work ≠ ""
  agent_eq : db.agentRoles.get (call.companyId, resolvedAgent call.agentId work) = some agent

/-- What a repeated call finds: its work item and agent, the intent it binds and the execution that ended. -/
structure Replay where
  work : WorkItem
  agent : AgentRole
  intent : BoundIntent
  lease : ExecutionLease

/-- The ended execution of the call's idempotency key, if it was bound to the intent the call binds. -/
def replayOf (rt : Runtime) (db : Db) (call : WorkRunCall) : Option Replay := do
  let work ← db.workItems.get call.workItemId
  guard (work.companyId = call.companyId ∧ resolvedAgent call.agentId work ≠ "")
  let agent ← db.agentRoles.get (call.companyId, resolvedAgent call.agentId work)
  let intent ← (bindIntent rt db agent (call.wakeupCall work).claimRequest).toOption
  let lease ← db.leases.get intent.executionId
  guard (lease.intentHash = intent.digest ∧ lease.state.terminal = true)
  return ⟨work, agent, intent, lease⟩

theorem toOption_eq_some {ε α : Type} {x : Except ε α} {a} : x.toOption = some a ↔ x = .ok a := by
  cases x <;> simp [Except.toOption]

variable {r : Replay}

/-- What it takes for a call to be a replay. -/
theorem replayOf_eq_some : replayOf rt db call = some r ↔ Addressed db call r.work r.agent ∧
      bindIntent rt db r.agent (call.wakeupCall r.work).claimRequest = .ok r.intent ∧
      db.leases.get r.intent.executionId = some r.lease ∧ r.lease.intentHash = r.intent.digest ∧
      r.lease.state.terminal = true := by
  simp only [replayOf, bind_eq_bind, bind_eq_some_iff, guard_eq_some', toOption_eq_some, pure_def, some.injEq]
  constructor
  · rintro ⟨work, hw, -, ⟨hc, hr⟩, agent, ha, intent, hb, lease, hl, -, he, rfl⟩
    exact ⟨⟨hw, hc, hr, ha⟩, hb, hl, he⟩
  · rintro ⟨⟨hw, hc, hr, ha⟩, hb, hl, he⟩
    exact ⟨_, hw, (), ⟨hc, hr⟩, _, ha, _, hb, _, hl, (), he, rfl⟩

private theorem agentRoleStatus_of_authorized {agent ceiling} (h : authorizeAdapter rt agent = .ok ceiling) :
    agentRoleStatus agent.status = some .active := by
  unfold authorizeAdapter at h
  split at h
  · cases h
  · rename_i hs
    rw [not_not.1 hs]
    decide

def Replay.ticket (r : Replay) : ExecutionTicket :=
  ⟨r.intent.executionId, r.lease.runId, r.lease.ownerId, r.intent.ceilingUsd, true⟩

private theorem claim_of_replayOf (h : replayOf rt db call = some r) (now clock) :
    claim rt now clock db r.agent (call.wakeupCall r.work).claimRequest = .ok (.replay r.ticket) := by
  obtain ⟨-, hb, hl, hd, he⟩ := replayOf_eq_some.1 h
  have hlc : claimLocked rt now clock db r.agent (call.wakeupCall r.work).claimRequest = .ok (.replay r.ticket) := by
    rw [claimLocked, hb]
    simp only [Except.mapError, bind, Except.bind, hl]
    simp only [claimExisting, hd, he, ne_eq, not_true_eq_false, if_false, if_true]
    rfl
  rw [claim, hlc]

private theorem startWakeup_of_replayOf (h : replayOf rt db call = some r) (now clock) :
    startWakeup rt now clock db r.agent (call.wakeupCall r.work) = replayAnswer db r.ticket := by
  obtain ⟨⟨-, -, -, ha⟩, hb, -⟩ := replayOf_eq_some.1 h
  obtain ⟨-, hcr, hc, -⟩ := bindIntent_eq_ok hb
  have hk := (get_eq_some.1 ha).2
  rw [get_of_mem (get_eq_some.1 ha).1] at hcr
  rw [← some.inj hcr] at hc
  rw [startWakeup, agentRoleStatus_of_authorized hc]
  dsimp only
  rw [claim_of_replayOf h]

/-! ### What a replay writes -/

def Replay.status (r : Replay) (db : Db) : WorkItemStatus :=
  if (db.agentRuns.get r.lease.runId).any (fun run => run.status = .succeeded) then .blocked else .failed

def Replay.update (r : Replay) (db : Db) (call : WorkRunCall) : StatusUpdate :=
  ⟨call.companyId, call.workItemId, r.status db, some (resolvedAgent call.agentId r.work), none, call.actorId⟩

def Replay.answer (r : Replay) (db : Db) : Except AgentWakeupError AgentWakeupResult :=
  match db.agentRuns.get r.lease.runId with
  | none => .error ⟨"execution_recovery_required", 409, "wakeup_error"⟩
  | some run =>
    if run.status ≠ .succeeded then .error ⟨"previous_attempt_failed", 409, "wakeup_error"⟩
    else .ok ⟨r.lease.runId, run.output, none⟩

private theorem Replay.attemptStatus_answer (r : Replay) (db) :
    attemptStatus db (r.answer db) = some (r.status db) := by
  unfold Replay.answer
  cases hr : db.agentRuns.get r.lease.runId with
  | none => simp [attemptStatus, Replay.status, hr]
  | some run =>
    by_cases hs : run.status = .succeeded
    · simp [attemptStatus, workItemStatusFromRun, Replay.status, hr, hs]
    · simp [attemptStatus, Replay.status, hr, hs]

section

variable {rt : Runtime} {times : CallTimes} {db : Db} {call : WorkRunCall} {outcome : AdapterOutcome}
  {ids : EvidenceIds}
  {r : Replay}

private theorem runWorkItemWithAgent_of_replayOf (h : replayOf rt db call = some r) :
    runWorkItemWithAgent rt times db call outcome ids =
      concludeAttempt rt times.finished db db call (resolvedAgent call.agentId r.work) (r.answer db) := by
  obtain ⟨⟨hw, hc, hr, ha⟩, -⟩ := replayOf_eq_some.1 h
  rw [runWorkItemWithAgent, hw]
  simp only [hc, hr, ha, startWakeup_of_replayOf h, ne_eq, not_true_eq_false, if_false]
  unfold replayAnswer Replay.answer
  cases hrn : db.agentRuns.get r.lease.runId with
  | none => simp only [Replay.ticket, hrn]
  | some run =>
    simp only [Replay.ticket, hrn]
    by_cases hs : run.status = .succeeded <;> simp [hs]

private theorem replay_eq (h : replayOf rt db call = some r) : runWorkItemWithAgent rt times db call outcome ids =
    match updateWorkItemStatusWithAudit rt times.finished db (r.update db call) with
    | .error f => (.error (.failure f), db)
    | .ok db' => (answerOf (r.answer db), db') := by
  rw [runWorkItemWithAgent_of_replayOf h, concludeAttempt, recordAttempt, r.attemptStatus_answer]
  rfl

/-- The answer of a replay whose status update goes through. -/
theorem replay_of_update {db'} (h : replayOf rt db call = some r)
    (hu : updateWorkItemStatusWithAudit rt times.finished db (r.update db call) = .ok db') :
    runWorkItemWithAgent rt times db call outcome ids = (answerOf (r.answer db), db') := by
  rw [replay_eq h, hu]

private theorem replay_of_refused {f} (h : replayOf rt db call = some r)
    (hu : updateWorkItemStatusWithAudit rt times.finished db (r.update db call) = .error f) :
    runWorkItemWithAgent rt times db call outcome ids = (.error (.failure f), db) := by
  rw [replay_eq h, hu]

end

structure Db.SameRecords (db db' : Db) : Prop where
  workItems : db'.workItems = db.workItems
  leases : db'.leases = db.leases
  reservations : db'.reservations = db.reservations
  budgetUsage : db'.budgetUsage = db.budgetUsage
  approvals : db'.approvals = db.approvals
  agentRuns : db'.agentRuns = db.agentRuns

private theorem Replay.status_ne_completed (r : Replay) (db) : r.status db ≠ .completed := by
  unfold Replay.status
  split <;> decide

theorem Replay.update_succeeds (rt : Runtime) (now) (hw : db.workItems.get call.workItemId = some r.work)
    (hc : r.work.companyId = call.companyId) (hm : r.work.mayBecome (r.status db) = true)
    (hf : db.activeLease call.companyId (workResource call.workItemId) = none) :
    ∃ db', updateWorkItemStatusWithAudit rt now db (r.update db call) = .ok db' :=
  ⟨_, updateWorkItemStatusWithAudit_eq_ok.2 ⟨r.work, hw, hc, hm, hf,
    fun hs => absurd hs (r.status_ne_completed db), rfl⟩⟩

private theorem withStatus_eq_self_iff {w : WorkItem} {status : WorkItemStatus} {agentId now} :
    w.withStatus status (some agentId) none now = w ↔
      w.status = status ∧ w.ownerAgentId = some agentId ∧ w.updatedAt = now := by
  cases w
  simp [WorkItem.withStatus, eq_comm]

/-- A replay leaves the records alone exactly when the lifecycle does not allow the status of its old run, or another
execution holds the work item, or the work item is just as the replay writes it. -/
theorem replay_unchanged_iff {rt : Runtime} {times : CallTimes} {db : Db} {call : WorkRunCall}
    {outcome : AdapterOutcome} {ids : EvidenceIds} {r : Replay} (h : replayOf rt db call = some r) :
    db.SameRecords (runWorkItemWithAgent rt times db call outcome ids).2 ↔
      r.work.mayBecome (r.status db) = false ∨ db.activeLease call.companyId (workResource call.workItemId) ≠ none ∨
        (r.work.status = r.status db ∧ r.work.ownerAgentId = some (resolvedAgent call.agentId r.work) ∧
          r.work.updatedAt = times.finished) := by
  obtain ⟨⟨hwr, hc, -⟩, -⟩ := replayOf_eq_some.1 h
  cases hu : updateWorkItemStatusWithAudit rt times.finished db (r.update db call) with
  | error =>
    rw [replay_of_refused h hu]
    refine iff_of_true ⟨rfl, rfl, rfl, rfl, rfl, rfl⟩ ?_
    by_contra hcn
    push Not at hcn
    obtain ⟨hm, hf, -⟩ := hcn
    obtain ⟨db', hok⟩ := r.update_succeeds rt times.finished hwr hc (Bool.eq_true_of_not_eq_false hm) hf
    exact absurd (hu.symm.trans hok) (by simp)
  | ok =>
    rw [replay_of_update h hu]
    obtain ⟨w, hw, -, hm, hf, -, rfl⟩ := updateWorkItemStatusWithAudit_eq_ok.1 hu
    obtain rfl := some.inj (hwr.symm.trans hw)
    have hm' : r.work.mayBecome (r.status db) = true := hm
    have hf' : db.activeLease call.companyId (workResource call.workItemId) = none := hf
    rw [hm', hf', ← withStatus_eq_self_iff]
    simp only [Bool.true_eq_false, ne_eq, not_true_eq_false, false_or]
    constructor
    · intro hsm
      have hg := Db.get_setWorkItem (fun w => w.withStatus_workItemId (r.status db)
        (some (resolvedAgent call.agentId r.work)) none times.finished) hwr
      have hi := congrArg (get · call.workItemId) hsm.workItems
      exact some.inj (hg.symm.trans (hi.trans hwr))
    · intro hs
      refine ⟨update_eq_self (by intro; rfl) (fun w hmm hid => ?_), rfl, rfl, rfl, rfl, rfl⟩
      obtain rfl : w = r.work := eq_of_key_eq hmm (get_eq_some.1 hwr).1
        ((of_decide_eq_true hid).trans (get_eq_some.1 hwr).2.symm)
      exact hs

/-! ### An old key after a newer one -/

def ownedTask : WorkItem := { codingTask with ownerAgentId := some "coder" }

def ownedTaskSys : Sys := ⟨{ oneAgentDb with workItems := ⟨[ownedTask], List.nodup_singleton _⟩ }, 0, []⟩

private theorem ownedTaskSys_initial : ownedTaskSys.Initial := ⟨rfl, rfl, fun _ hu => absurd hu List.not_mem_nil, rfl⟩

def taskCall (key : String) (agentId : Option String) : WorkRunCall where
  companyId := "c"
  workItemId := "w"
  agentId := agentId
  input := []
  actorId := "operator"
  traceId := none
  idempotencyKey := some key
  runId := "run-" ++ key
  eventId := "event-" ++ key
  ownerId := "owner-" ++ key
  approvalId := "approval-" ++ key

def taskWake (key : String) : Act :=
  .wake 0 httpAgent ((taskCall key none).wakeupCall ownedTask) (some ⟨"c", "w", "coder"⟩)

def failedThenRetried : List Act :=
  [taskWake "k1", .finish 0 (.exception "RuntimeError" "connection reset") (evidenceIds "first"), taskWake "k2"]

def retrySucceeds : Act := .finish 1 (.output [("cost_usd", .int 1)]) (evidenceIds "second")

/-- While the task is retried, the replay of an old key changes nothing. -/
theorem replay_unchanged_during_retry : ∃ s, Run (Steps (step plainRuntime)) Always ownedTaskSys s ∧ s.db.SameRecords
      (runWorkItemWithAgent plainRuntime ⟨0, 0, 0⟩ s.db (taskCall "k1" none) (.output [])
        (evidenceIds "replay")).2 := by
  refine exists_run_with failedThenRetried (fun s => (replayOf plainRuntime s.db (taskCall "k1" none)).isSome ∧
    (s.db.activeLease "c" (workResource "w")).isSome) (by decide +kernel) (fun s _ ht => ?_)
  obtain ⟨r, hr⟩ := isSome_iff_exists.1 ht.1
  exact (replay_unchanged_iff hr).2 (.inr (.inl (isSome_iff_ne_none.1 ht.2)))

/-- The second attempt succeeds and its output awaits acceptance; repeating the first request fails the item. -/
theorem stale_replay_fails_item : ownedTaskSys.Initial ∧ ∃ s, Run (Steps (step plainRuntime)) Always ownedTaskSys s ∧
      (∃ r, replayOf plainRuntime s.db (taskCall "k1" none) = some r ∧ r.work.status = .blocked) ∧
      ((runWorkItemWithAgent plainRuntime ⟨0, 0, 0⟩ s.db (taskCall "k1" none) (.output [])
        (evidenceIds "replay")).2.workItems.get "w").map WorkItem.status = some .failed :=
  ⟨ownedTaskSys_initial, exists_run_exec (failedThenRetried ++ [retrySucceeds]) (by decide +kernel)⟩

end WisdoverseCell.ControlPlane
