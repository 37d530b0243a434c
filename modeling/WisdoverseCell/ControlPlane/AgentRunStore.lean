import WisdoverseCell.ControlPlane.WorkItemStore

/-!
# Wakeup runs: start, completion and evidence

A wakeup run is created RUNNING together with its input event, and closed once, through the run lifecycle, with a
completion event, an audit row and an evidence artifact whose hash binds the stored input and output.
-/

namespace WisdoverseCell.ControlPlane

structure WakeupContext where
  agent : AgentRole
  runId : String
  actorId : String
  traceId : Option String
  goalId : Option String
  workItemId : Option String
  trigger : String

/-- Identifiers generated while a run is closed, and the ids the store lists for the run's evidence. -/
structure EvidenceIds where
  eventId : String
  artifactId : String
  approvals : List String
  budgetUsage : List String
  auditEvents : List String

/-! ### Start -/

def wakeupInputEvent (ctx : WakeupContext) (payload : JsonObj) (eventId : String) : JsonObj :=
  [("event_id", .str eventId), ("event_type", .str "agent.wakeup-requested"), ("source_agent", .str ctx.actorId),
    ("payload", .obj [("company_id", .str ctx.agent.companyId), ("agent_id", .str ctx.agent.agentId),
      ("run_id", .str ctx.runId), ("actor_id", .str ctx.actorId), ("input", .obj payload),
      ("trace_id", optionalText ctx.traceId), ("goal_id", optionalText ctx.goalId),
      ("work_item_id", optionalText ctx.workItemId)]),
    ("metadata", .obj [("trace_id", optionalText ctx.traceId)])]

def startedRun (now : Time) (ctx : WakeupContext) (payload : JsonObj) (eventId : String) : AgentRun where
  runId := ctx.runId
  companyId := ctx.agent.companyId
  agentId := ctx.agent.agentId
  status := .running
  traceId := ctx.traceId
  goalId := ctx.goalId
  workItemId := ctx.workItemId
  triggerEventId := some eventId
  inputEvent := wakeupInputEvent ctx payload eventId
  outputEvents := []
  startedAt := now
  completedAt := none
  errorCategory := none
  errorMessage := none
  lastSuccessfulStep := none
  costUsd := 0
  metadata := []

def startAgentWakeupRun (now : Time) (db : Db) (ctx : WakeupContext) (payload : JsonObj) (eventId : String) :
    Option Db :=
  (db.agentRuns.insert (startedRun now ctx payload eventId)).map (fun runs =>
    { db with agentRuns := runs }.appendAudit
      ⟨ctx.agent.companyId, "agent_run.started", "agent_run", ctx.runId, "user", ctx.actorId, some ctx.runId,
        ctx.workItemId⟩)

/-! ### Completion -/

structure Completion where
  status : AgentRunStatus
  output : JsonObj
  outputSummary : Json
  errorCategory : Option String
  errorMessage : Option String

def completionEvent (ctx : WakeupContext) (c : Completion) (eventId : String) : JsonObj :=
  let optional (key : String) (value : Option String) : JsonObj :=
    match value with
    | some s => if s = "" then [] else [(key, .str s)]
    | none => []
  [("event_type", .str "agent.wakeup-completed"), ("source_agent", .str ctx.agent.agentId),
    ("payload", .obj ([("company_id", .str ctx.agent.companyId), ("agent_id", .str ctx.agent.agentId),
      ("run_id", .str ctx.runId), ("trace_id", optionalText ctx.traceId), ("goal_id", optionalText ctx.goalId),
      ("work_item_id", optionalText ctx.workItemId), ("status", .str c.status.value), ("output", .obj c.output)] ++
      optional "error_category" c.errorCategory ++ optional "error_message" c.errorMessage)),
    ("metadata", .obj [("trace_id", optionalText ctx.traceId)]), ("event_id", .str eventId)]

def runEvidence (rt : Runtime) (ctx : WakeupContext) (inputEvent : JsonObj) (c : Completion) (ids : EvidenceIds) :
    JsonObj :=
  let event := completionEvent ctx c ids.eventId
  [("schema_version", .str "1.0"), ("run_id", .str ctx.runId), ("company_id", .str ctx.agent.companyId),
    ("agent_id", .str ctx.agent.agentId), ("status", .str c.status.value), ("trigger", .str ctx.trigger),
    ("actor_type", .str "user"), ("actor_id", .str ctx.actorId), ("trace_id", optionalText ctx.traceId),
    ("goal_id", optionalText ctx.goalId), ("work_item_id", optionalText ctx.workItemId),
    ("adapter_type", .str (if ctx.agent.adapterType = "" then "builtin" else ctx.agent.adapterType)),
    ("input_payload_hash", .str (hashEvidence rt (.obj inputEvent))),
    ("output_payload_hash", .str (hashEvidence rt (.obj [("output_events", .arr [.obj event])]))),
    ("events", .obj [("input_event_id", (inputEvent.lookup "event_id").getD .null),
      ("input_event_type", (inputEvent.lookup "event_type").getD .null),
      ("output_event_ids", .arr [.str ids.eventId]), ("output_event_types", .arr [.str "agent.wakeup-completed"])]),
    ("approvals", .arr (ids.approvals.map .str)), ("budget_usage", .arr (ids.budgetUsage.map .str)),
    ("audit_events", .arr (ids.auditEvents.map .str)), ("output_summary", c.outputSummary),
    ("error_category", optionalText c.errorCategory), ("error_message", optionalText c.errorMessage)]

def evidenceArtifact (rt : Runtime) (ctx : WakeupContext) (inputEvent : JsonObj) (c : Completion)
    (ids : EvidenceIds) : Artifact where
  artifactId := ids.artifactId
  companyId := ctx.agent.companyId
  contentHash := some (hashEvidence rt (.obj (runEvidence rt ctx inputEvent c ids)))
  runId := some ctx.runId
  workItemId := ctx.workItemId
  goalId := ctx.goalId
  createdByAgentId := some ctx.agent.agentId
  metadata := [("evidence", .obj (runEvidence rt ctx inputEvent c ids)), ("hash_algorithm", .str "sha256"),
    ("generated_by", .str "control_plane_agent_runner")]

def AgentRun.closed (run : AgentRun) (now : Time) (c : Completion) (event : JsonObj) : AgentRun :=
  { run with
    status := c.status
    completedAt := some now
    errorCategory := c.errorCategory <|> run.errorCategory
    errorMessage := c.errorMessage <|> run.errorMessage
    lastSuccessfulStep :=
      if c.status = .succeeded then run.lastSuccessfulStep else some "agent_definition_loaded"
    outputEvents := [event] }

theorem AgentRun.closed_runId (run : AgentRun) (now : Time) (c event) :
    (run.closed now c event).runId = run.runId := rfl

def closingAction (run : Option AgentRun) (status : AgentRunStatus) : String :=
  if run.isSome then agentRunAction status
  else if status = .succeeded then "agent_run.succeeded" else "agent_run.failed"

def ensureRunTransition (run : Option AgentRun) (status : AgentRunStatus) : Except Failure Unit :=
  match run with
  | none => .ok ()
  | some r => (r.transitionTo status).map (fun _ => ())

private theorem ensureRunTransition_eq_ok {run status u} :
    ensureRunTransition run status = .ok u ↔
      ∀ r, run = some r → agentRunMachine.canTransition r.status status = true := by
  cases run with
  | none => simp [ensureRunTransition]
  | some r =>
    have h := @AgentRun.transitionTo_eq_ok r status status
    cases ht : r.transitionTo status with
    | error =>
      rw [ht] at h
      simpa [ensureRunTransition, ht, Except.map] using h
    | ok =>
      obtain ⟨rfl, hc⟩ := AgentRun.transitionTo_eq_ok.1 ht
      simpa [ensureRunTransition, ht, Except.map] using hc

def closeAgentWakeupRun (rt : Runtime) (now : Time) (db : Db) (ctx : WakeupContext) (inputEvent : JsonObj)
    (c : Completion) (ids : EvidenceIds) : Except Failure Db := do
  let run := db.agentRuns.get ctx.runId
  ensureRunTransition run c.status
  let artifacts ← require (db.artifacts.insert (evidenceArtifact rt ctx inputEvent c ids)) Failure.integrityError
  let company := (run.map AgentRun.companyId).getD ctx.agent.companyId
  return { db with
      agentRuns := db.agentRuns.update (fun r => r.runId = ctx.runId)
        (fun r => r.closed now c (completionEvent ctx c ids.eventId)) (fun r => r.closed_runId now c _)
      artifacts := artifacts }
    |>.appendAudit ⟨company, closingAction run c.status, "agent_run", ctx.runId, "user", ctx.actorId, some ctx.runId,
        ctx.workItemId⟩
    |>.appendAudit ⟨ctx.agent.companyId, "artifact.created", "artifact", ids.artifactId, "user", ctx.actorId,
        some ctx.runId, ctx.workItemId⟩

def firstTruthy (o : JsonObj) (k k' : String) : Json :=
  match o.lookup k with
  | some v => if v.truthy then v else (o.lookup k').getD .null
  | none => (o.lookup k').getD .null

def completeAgentWakeupRun (rt : Runtime) (now : Time) (db : Db) (ctx : WakeupContext) (inputEvent output : JsonObj)
    (ids : EvidenceIds) : Except Failure Db :=
  closeAgentWakeupRun rt now db ctx inputEvent
    ⟨.succeeded, output, firstTruthy output "summary" "status", none, none⟩ ids

def failAgentWakeupRun (rt : Runtime) (now : Time) (db : Db) (ctx : WakeupContext) (inputEvent : JsonObj)
    (errorCategory errorMessage : String) (cancelled : Bool) (ids : EvidenceIds) : Except Failure Db :=
  closeAgentWakeupRun rt now db ctx inputEvent
    ⟨if cancelled then .cancelled else .failed, [], .null, some errorCategory, some errorMessage⟩ ids

/-- What a run that is closed writes. -/
theorem closeAgentWakeupRun_eq_ok {rt now db db' ctx inputEvent c ids} :
    closeAgentWakeupRun rt now db ctx inputEvent c ids = .ok db' ↔
    (∀ r, db.agentRuns.get ctx.runId = some r → agentRunMachine.canTransition r.status c.status = true) ∧
      ∃ artifacts, db.artifacts.insert (evidenceArtifact rt ctx inputEvent c ids) = some artifacts ∧
      ∃ audits, db' = { db with
        agentRuns := db.agentRuns.update (fun r => r.runId = ctx.runId)
          (fun r => r.closed now c (completionEvent ctx c ids.eventId)) (fun r => r.closed_runId now c _)
        artifacts := artifacts
        auditEvents := audits } ∧
        audits = db.auditEvents ++ [⟨((db.agentRuns.get ctx.runId).map AgentRun.companyId).getD ctx.agent.companyId,
          closingAction (db.agentRuns.get ctx.runId) c.status, "agent_run", ctx.runId, "user", ctx.actorId,
          some ctx.runId, ctx.workItemId⟩] ++ [⟨ctx.agent.companyId, "artifact.created", "artifact", ids.artifactId,
          "user", ctx.actorId, some ctx.runId, ctx.workItemId⟩] := by
  unfold closeAgentWakeupRun
  simp only [eq_ok, ensureRunTransition_eq_ok]
  constructor
  · rintro ⟨-, hr, artifacts, ha, rfl⟩
    exact ⟨hr, artifacts, ha, _, rfl, rfl⟩
  · rintro ⟨hr, artifacts, ha, audits, rfl, rfl⟩
    exact ⟨(), hr, artifacts, ha, rfl⟩

end WisdoverseCell.ControlPlane
