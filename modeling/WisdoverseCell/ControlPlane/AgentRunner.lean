import WisdoverseCell.ControlPlane.ExecutionEffects

/-!
# The runner and the work-item use case

A wakeup is two transactions around the executor call: `startWakeup` claims the execution and stores a RUNNING run,
`finishWakeup` settles what the executor reported and closes the run.  `run_work_item_with_agent` wraps both and
writes the outcome to the work item.
-/

namespace WisdoverseCell.ControlPlane

variable {agent : AgentRole} {clock now : Time} {db db' : Db} {rt : Runtime} {ticket : ExecutionTicket}

structure AgentWakeupError where
  detail : String
  statusCode : Nat
  errorCategory : String
  deriving DecidableEq

structure AgentWakeupResult where
  runId : String
  output : JsonObj
  evidenceArtifactId : Option String

structure WakeupCall where
  payload : JsonObj
  actorId : String
  traceId : Option String
  goalId : Option String
  workItemId : Option String
  trigger : String
  idempotencyKey : Option String
  runId : String
  eventId : String
  ownerId : String
  approvalId : String

namespace WakeupCall

def key (call : WakeupCall) : String :=
  match call.idempotencyKey with
  | some k => if k = "" then call.runId else k
  | none => call.runId

def claimRequest (call : WakeupCall) : ClaimRequest where
  runId := call.runId
  payload := call.payload
  workItemId := call.workItemId
  goalId := call.goalId
  actorId := call.actorId
  idempotencyKey := call.key
  ownerId := call.ownerId
  approvalId := call.approvalId

def context (call : WakeupCall) (agent : AgentRole) : WakeupContext where
  agent := agent
  runId := call.runId
  actorId := call.actorId
  traceId := call.traceId
  goalId := call.goalId
  workItemId := call.workItemId
  trigger := call.trigger

end WakeupCall

/-! ### Before the executor -/

/-- How a wakeup stands when the executor would be called; `refused` carries the database as committed. -/
inductive WakeupStart
  | running (ticket : ExecutionTicket) (db : Db)
  | replayed (result : AgentWakeupResult)
  | refused (e : AgentWakeupError) (db : Db)
  | failed (f : Failure)

def replayAnswer (db : Db) (ticket : ExecutionTicket) : WakeupStart :=
  match db.agentRuns.get ticket.runId with
  | none => .refused ⟨"execution_recovery_required", 409, "wakeup_error"⟩ db
  | some run =>
    if run.status ≠ .succeeded then .refused ⟨"previous_attempt_failed", 409, "wakeup_error"⟩ db
    else .replayed ⟨ticket.runId, run.output, none⟩

/-- `wake` up to the checkpoint before the executor call. -/
def startWakeup (rt : Runtime) (now clock : Time) (db : Db) (agent : AgentRole) (call : WakeupCall) : WakeupStart :=
  match agentRoleStatus agent.status with
  | none => .refused ⟨"invalid_agent_status", 409, "invalid_agent_status"⟩ db
  | some .active =>
    match claim rt now clock db agent call.claimRequest with
    | .error (.denied d db') => .refused ⟨d.reason, d.statusCode, "execution_denied"⟩ db'
    | .error (.failed f) => .failed f
    | .ok (.replay ticket) => replayAnswer db ticket
    | .ok (.fresh ticket db') =>
      match startAgentWakeupRun clock db' (call.context agent) call.payload call.eventId with
      | none => .failed .integrityError
      | some db'' => .running ticket db''
  | some _ => .refused ⟨"agent_not_runnable", 409, "wakeup_error"⟩ db

variable {call : WakeupCall} {result : AgentWakeupResult}

/-- A replay is answered from the ended lease and its run. -/
theorem startWakeup_eq_replayed (h : startWakeup rt now clock db agent call = .replayed result) :
    ∃ intent lease run, bindIntent rt db agent call.claimRequest = .ok intent ∧
      db.leases.get intent.executionId = some lease ∧ lease.intentHash = intent.digest ∧
      lease.state.terminal = true ∧ result.runId = lease.runId ∧
      db.agentRuns.get lease.runId = some run ∧ run.status = .succeeded := by
  unfold startWakeup at h
  split at h
  · cases h
  · split at h
    · cases h
    · cases h
    · rename_i ticket hc
      obtain ⟨intent, lease, hb, hl, hd, he, hr⟩ := claim_eq_replay hc
      unfold replayAnswer at h
      split at h
      · cases h
      · rename_i run hg
        split at h
        · cases h
        · rename_i hs
          obtain rfl := WakeupStart.replayed.inj h
          exact ⟨intent, lease, run, hb, hl, hd, he, hr, hr ▸ hg, not_not.1 hs⟩
    · split at h <;> exact absurd h (by simp)
  · cases h

/-- A refusal writes nothing but what a denied claim does. -/
theorem startWakeup_eq_refused {e} (h : startWakeup rt now clock db agent call = .refused e db') :
    db' = db ∨ ∃ d, claim rt now clock db agent call.claimRequest = .error (.denied d db') := by
  unfold startWakeup at h
  split at h
  · exact .inl (WakeupStart.refused.inj h).2.symm
  · split at h
    · rename_i d _ hc
      obtain ⟨-, rfl⟩ := WakeupStart.refused.inj h
      exact .inr ⟨d, hc⟩
    · cases h
    · unfold replayAnswer at h
      split at h
      · exact .inl (WakeupStart.refused.inj h).2.symm
      · split at h
        · exact .inl (WakeupStart.refused.inj h).2.symm
        · cases h
    · split at h <;> cases h
  · exact .inl (WakeupStart.refused.inj h).2.symm

/-- A wakeup that runs has claimed afresh and started its run. -/
theorem startWakeup_eq_running (h : startWakeup rt now clock db agent call = .running ticket db') :
    ∃ db₁, claim rt now clock db agent call.claimRequest = .ok (.fresh ticket db₁) ∧
      startAgentWakeupRun clock db₁ (call.context agent) call.payload call.eventId = some db' := by
  unfold startWakeup at h
  split at h
  · cases h
  · split at h
    · cases h
    · cases h
    · unfold replayAnswer at h
      split at h
      · cases h
      · split at h <;> exact absurd h (by simp)
    · rename_i ticket' db₁ hc
      split at h
      · cases h
      · rename_i db₂ hs
        obtain ⟨rfl, rfl⟩ := WakeupStart.running.inj h
        exact ⟨db₁, hc, hs⟩
  · cases h

/-! ### After the executor -/

inductive AdapterOutcome
  | output (o : JsonObj)
  | wakeupError (e : AgentWakeupError)
  | exception (typeName message : String)

def isEstimate (output : JsonObj) : Bool :=
  !(JsonObj.has output "cost_usd") || output.lookup "cost_is_estimate" = some (.bool true)

def reportedCost (rt : Runtime) (ticket : ExecutionTicket) (output : JsonObj) : Except ExecutionDenied ℚ≥0 := do
  let cost ← match output.lookup "cost_usd" with
    | some value => boundedCost rt value
    | none => boundedAmount ticket.ceilingUsd
  return if isEstimate output then max cost ticket.ceilingUsd else cost

def failAttempt (rt : Runtime) (now : Time) (db : Db) (ticket : ExecutionTicket) (ctx : WakeupContext)
    (inputEvent : JsonObj) (category message : String) (ids : EvidenceIds) : Except Failure Db := do
  let db' ← (settle now db ticket ticket.ceilingUsd true true).mapError Failure.denied
  failAgentWakeupRun rt now db' ctx inputEvent category message (category = "cancelled") ids

/-- `wake` after the executor call: the answer and the database to commit. -/
def finishWakeup (rt : Runtime) (now : Time) (db : Db) (ticket : ExecutionTicket) (ctx : WakeupContext)
    (inputEvent : JsonObj) (outcome : AdapterOutcome) (ids : EvidenceIds) :
    Except Failure (Except AgentWakeupError AgentWakeupResult × Db) :=
  match outcome with
  | .output output =>
    match reportedCost rt ticket output with
    | .error d => do
      let db' ← failAttempt rt now db ticket ctx inputEvent "ExecutionDenied" d.reason ids
      return (.error ⟨"agent_wakeup_failed", 502, "ExecutionDenied"⟩, db')
    | .ok cost => do
      let exceeded : Bool := ticket.ceilingUsd < cost
      let db₁ ← (settle now db ticket cost exceeded (isEstimate output)).mapError Failure.denied
      if exceeded then
        let db₂ ← failAgentWakeupRun rt now db₁ ctx inputEvent "executor_contract" "executor_cost_ceiling_exceeded"
          false ids
        return (.error ⟨"executor_cost_ceiling_exceeded", 502, "executor_contract"⟩, db₂)
      else
        let db₂ ← completeAgentWakeupRun rt now db₁ ctx inputEvent output ids
        return (.ok ⟨ctx.runId, output, some ids.artifactId⟩, db₂)
  | .wakeupError e =>
    if e.errorCategory = "uncertain_effects" then do
      let db' ← (markUncertain now db ticket).mapError Failure.denied
      return (.error e, db')
    else do
      let db' ← failAttempt rt now db ticket ctx inputEvent e.errorCategory e.detail ids
      return (.error e, db')
  | .exception typeName message => do
    let db' ← failAttempt rt now db ticket ctx inputEvent typeName message ids
    return (.error ⟨"agent_wakeup_failed", 502, typeName⟩, db')

/-- What the outcome makes of the attempt: the run is closed after a settlement, unless the effects are uncertain. -/
inductive Finished (rt : Runtime) (now : Time) (db : Db) (ticket : ExecutionTicket) (ctx : WakeupContext)
    (inputEvent : JsonObj) (ids : EvidenceIds) : AdapterOutcome → Except AgentWakeupError AgentWakeupResult → Db → Prop
  | failed {outcome e category message db'}
      (h : failAttempt rt now db ticket ctx inputEvent category message ids = .ok db') :
      Finished rt now db ticket ctx inputEvent ids outcome (.error e) db'
  | uncertain {e db'} (he : e.errorCategory = "uncertain_effects") (h : markUncertain now db ticket = .ok db') :
      Finished rt now db ticket ctx inputEvent ids (.wakeupError e) (.error e) db'
  | closed {output cost db₁ c answer db'} (hc : reportedCost rt ticket output = .ok cost)
      (hs : settle now db ticket cost (ticket.ceilingUsd < cost) (isEstimate output) = .ok db₁)
      (h : closeAgentWakeupRun rt now db₁ ctx inputEvent c ids = .ok db')
      (ha : ∀ result, answer = .ok result → ¬ ticket.ceilingUsd < cost ∧
        completeAgentWakeupRun rt now db₁ ctx inputEvent output ids = .ok db' ∧ result.runId = ctx.runId) :
      Finished rt now db ticket ctx inputEvent ids (.output output) answer db'

theorem finished {ctx inputEvent outcome ids answer}
    (h : finishWakeup rt now db ticket ctx inputEvent outcome ids = .ok (answer, db')) :
    Finished rt now db ticket ctx inputEvent ids outcome answer db' := by
  cases outcome with
  | output output =>
    simp only [finishWakeup] at h
    split at h
    · simp only [eq_ok, Prod.mk.injEq] at h
      obtain ⟨_, hf, rfl, rfl⟩ := h
      exact .failed hf
    · rename_i cost hcs
      simp only [eq_ok] at h
      obtain ⟨db₁, hs, h⟩ := h
      split at h <;> simp only [eq_ok, Prod.mk.injEq] at h <;> obtain ⟨_, hc, rfl, rfl⟩ := h
      · exact .closed hcs hs hc (fun _ => nofun)
      · rename_i he _
        refine .closed hcs hs hc ?_
        rintro _ ⟨⟩
        exact ⟨mt decide_eq_true he, hc, rfl⟩
  | wakeupError =>
    simp only [finishWakeup] at h
    split at h <;> simp only [eq_ok, Prod.mk.injEq] at h <;> obtain ⟨_, hf, rfl, rfl⟩ := h
    · exact .uncertain ‹_› hf
    · exact .failed hf
  | exception =>
    simp only [finishWakeup, eq_ok, Prod.mk.injEq] at h
    obtain ⟨_, hf, rfl, rfl⟩ := h
    exact .failed hf

/-- A result is returned only after the settlement. -/
theorem finishWakeup_eq_result {ctx inputEvent outcome ids}
    (h : finishWakeup rt now db ticket ctx inputEvent outcome ids = .ok (.ok result, db')) :
    ∃ output cost db₁, settle now db ticket cost false (isEstimate output) = .ok db₁ ∧
      completeAgentWakeupRun rt now db₁ ctx inputEvent output ids = .ok db' ∧ result.runId = ctx.runId := by
  cases finished h with
  | @closed output cost db₁ _ _ _ _ hs _ ha =>
    obtain ⟨hc, hcm, hid⟩ := ha result rfl
    rw [decide_eq_false hc] at hs
    exact ⟨output, cost, db₁, hs, hcm, hid⟩

/-! ### Running a work item -/

/-- `_work_item_status_from_run`: a successful output still awaits acceptance. -/
def workItemStatusFromRun (run : Option AgentRun) : WorkItemStatus :=
  match run with
  | none => .running
  | some run =>
    match run.status with
    | .succeeded => .blocked
    | .failed => .failed
    | .cancelled => .cancelled
    | .pending | .running | .timedOut => .running

def attemptStatus (db : Db) (answer : Except AgentWakeupError AgentWakeupResult) : Option WorkItemStatus :=
  match answer with
  | .ok result => some (workItemStatusFromRun (db.agentRuns.get result.runId))
  | .error e =>
    if e.errorCategory = "execution_denied" ∨ e.errorCategory = "uncertain_effects" then none
    else some (if e.errorCategory = "cancelled" then .cancelled else .failed)

structure WorkRunCall where
  companyId : String
  workItemId : String
  agentId : Option String
  input : JsonObj
  actorId : String
  traceId : Option String
  idempotencyKey : Option String
  runId : String
  eventId : String
  ownerId : String
  approvalId : String

def recordAttempt (rt : Runtime) (now : Time) (db : Db) (companyId workItemId resolvedAgentId actorId : String)
    (answer : Except AgentWakeupError AgentWakeupResult) : Except Failure Db :=
  match attemptStatus db answer with
  | none => .ok db
  | some status =>
    updateWorkItemStatusWithAudit rt now db ⟨companyId, workItemId, status, some resolvedAgentId, none, actorId⟩

def resolvedAgent (agentId : Option String) (work : WorkItem) : String :=
  Text.strip ((agentId.filter (fun s => s ≠ "")).getD (work.ownerAgentId.getD ""))

def workItemPayload (work : WorkItem) (input : JsonObj) : JsonObj :=
  JsonObj.set input "work_item" (.obj [("work_item_id", .str work.workItemId), ("company_id", .str work.companyId),
    ("title", .str work.title), ("description", .str work.description), ("priority", .str work.priority.value),
    ("goal_id", optionalText work.goalId), ("owner_agent_id", optionalText work.ownerAgentId),
    ("owner_user_id", optionalText work.ownerUserId), ("source", .str work.source),
    ("external_ref", optionalText work.externalRef), ("dependencies", .arr (work.dependencies.map .str)),
    ("approval_required", .bool work.approvalRequired), ("metadata", .obj work.metadata)])

def WorkRunCall.wakeupCall (call : WorkRunCall) (work : WorkItem) : WakeupCall where
  payload := workItemPayload work call.input
  actorId := call.actorId
  traceId := call.traceId
  goalId := work.goalId
  workItemId := some work.workItemId
  trigger := "manual_wakeup"
  idempotencyKey := call.idempotencyKey
  runId := call.runId
  eventId := call.eventId
  ownerId := call.ownerId
  approvalId := call.approvalId

inductive WorkRunError
  | workItemNotFound
  | agentRequired
  | agentNotFound
  | wakeup (e : AgentWakeupError)
  | failure (f : Failure)
  deriving DecidableEq

/-- The times of one call: sampled by the claim, of its writes, and of the second transaction. -/
structure CallTimes where
  sampled : Time
  claimed : Time
  finished : Time

def answerOf (answer : Except AgentWakeupError AgentWakeupResult) : Except WorkRunError AgentWakeupResult :=
  answer.mapError WorkRunError.wakeup

/-- Write the answer to the work item and return it; an exception on the way undoes the writes since `base`. -/
def concludeAttempt (rt : Runtime) (now : Time) (base db : Db) (call : WorkRunCall) (resolvedAgentId : String)
    (answer : Except AgentWakeupError AgentWakeupResult) : Except WorkRunError AgentWakeupResult × Db :=
  match recordAttempt rt now db call.companyId call.workItemId resolvedAgentId call.actorId answer with
  | .error f => (.error (.failure f), base)
  | .ok db' => (answerOf answer, db')

/-- `run_work_item_with_agent` with the executor's outcome given, and the database once the request has ended. -/
def runWorkItemWithAgent (rt : Runtime) (times : CallTimes) (db : Db) (call : WorkRunCall) (outcome : AdapterOutcome)
    (ids : EvidenceIds) : Except WorkRunError AgentWakeupResult × Db :=
  match db.workItems.get call.workItemId with
  | none => (.error .workItemNotFound, db)
  | some work =>
    if work.companyId ≠ call.companyId then (.error .workItemNotFound, db)
    else if resolvedAgent call.agentId work = "" then (.error .agentRequired, db)
    else
      match db.agentRoles.get (call.companyId, resolvedAgent call.agentId work) with
      | none => (.error .agentNotFound, db)
      | some agent =>
        let resolved := resolvedAgent call.agentId work
        let wakeup := call.wakeupCall work
        match startWakeup rt times.sampled times.claimed db agent wakeup with
        | .failed f => (.error (.failure f), db)
        | .replayed result => concludeAttempt rt times.finished db db call resolved (.ok result)
        | .refused e db' => concludeAttempt rt times.finished db' db' call resolved (.error e)
        | .running ticket db₁ =>
          match finishWakeup rt times.finished db₁ ticket (wakeup.context agent)
            (wakeupInputEvent (wakeup.context agent) wakeup.payload wakeup.eventId) outcome ids with
          | .error f => (.error (.failure f), db₁)
          | .ok (answer, db₂) => concludeAttempt rt times.finished db₁ db₂ call resolved answer

end WisdoverseCell.ControlPlane
