import WisdoverseCell.Evolution.Proposals

/-!
# The deployment store of the control plane

One row per proposal says which release is desired, the command that orders it and the receiver's last answer.
`prepare` commits what was written so far before it refuses for a missing approval, so a recovery that stops there has
reset the row without ordering anything in its place.
-/

namespace WisdoverseCell.Evolution

open Option Table
open ControlPlane (Time seconds ApprovalRequest ApprovalStatus ExecutionDenied)

variable {command c : SkillReleaseCommand} {proposal : EvolutionProposal} {report : EvaluationReport}
  {subject : ReleaseSubject} {row : EvolutionDeployment} {response : ReleaseResponse}
  {existing : Option EvolutionDeployment} {action : ReleaseAction} {actorId : String} {override : Option String}

/-! ### The release policy -/

def ReleaseState.rollout : ReleaseState → RolloutState
  | .shadow => .shadow
  | .canary => .canary
  | .active => .active
  | .rolledBack => .rolledBack

/-- `TARGET_STATES`. -/
def ReleaseAction.target : ReleaseAction → ReleaseState
  | .shadow => .shadow
  | .canary => .canary
  | .promote => .active
  | .rollback => .rolledBack

def ReleaseAction.value : ReleaseAction → String
  | .shadow => "shadow"
  | .canary => "canary"
  | .promote => "promote"
  | .rollback => "rollback"

/-- `ALLOWED_ACTIONS`; nothing is allowed beside a pending command. -/
def allowedActions : Option DeploymentState → List ReleaseAction
  | none => [.shadow]
  | some (.applied .shadow) => [.canary, .rollback]
  | some (.applied .canary) => [.promote, .rollback]
  | some (.applied .active) => [.rollback]
  | some (.applied .rolledBack) | some .pending => []

def validateRelease (tier : EvolutionTier) (state : Option DeploymentState) (action : ReleaseAction)
    (report : EvaluationReport) (baselineRef candidateRef : String) : Except ExecutionDenied Unit := do
  ensure (tier = .L1) ⟨"only_l1_skill_release_supported", 400⟩
  ensure (action ∈ allowedActions state) ⟨"invalid_skill_release_transition", 409⟩
  ensure (report.baseline.configRevision = baselineRef ∧ report.candidate.configRevision = candidateRef)
    ⟨"evaluation_skill_version_mismatch", 400⟩
  if action = .canary ∨ action = .promote then do
    ensure (report.eligible = true) ⟨"evaluation_release_gates_failed", 403⟩
    ensure (50 ≤ min report.baseline.sampleCount report.candidate.sampleCount)
      ⟨"live_release_sample_count_required", 403⟩
    ensure (report.baseline.acceptedOutcomeRate ≤ report.candidate.acceptedOutcomeRate)
      ⟨"candidate_outcome_regression", 403⟩
  else return

/-! ### Preparing a command -/

structure ReleaseIds where
  commandId : String
  deploymentId : String
  approvalId : String

inductive Prepared
  | ready (command : SkillReleaseCommand) (db : PlaneDb)
  | approvalRequested (db : PlaneDb)

/-- Any other exception: the transaction is rolled back and the release stays as it was. -/
def pendingReconciliation : ExecutionDenied := ⟨"evolution_release_pending_reconciliation", 502⟩

def ReleaseSubject.json (s : ReleaseSubject) : Json :=
  .obj [("company_id", .str s.companyId), ("proposal_id", .str s.proposalId),
    ("evaluation_report_id", .str s.evaluationReportId), ("evaluation_hash", .str s.evaluationHash),
    ("skill_id", .str s.skillId), ("agent_id", .str s.agentId), ("baseline_version", .int s.baselineVersion),
    ("candidate_version", .int s.candidateVersion), ("baseline_config_hash", .str s.baselineConfigHash),
    ("candidate_config_hash", .str s.candidateConfigHash)]

def releaseApproval (now : Time) (subject : ReleaseSubject) (action : ReleaseAction)
    (actorId decisionHash id : String) :
    ApprovalRequest where
  approvalId := id
  companyId := subject.companyId
  status := .pending
  requestedBy := actorId
  sourceAgentId := subject.agentId
  proposedAction := action.value ++ " L1 skill " ++ subject.skillId ++ "@" ++ toString subject.candidateVersion
  affectedResources := ["skill:" ++ subject.skillId, "proposal:" ++ subject.proposalId]
  runId := none
  workItemId := none
  goalId := none
  resolvedBy := none
  resolvedAt := none
  expiresAt := some (now + seconds (24 * 3600))
  metadata := [("release_decision_hash", .str decisionHash), ("release_snapshot", subject.json),
    ("action", .str action.value)]

def unexpired (now : Time) (a : ApprovalRequest) : Bool := a.expiresAt.any (fun e => now < e)

def decisionApprovals (now : Time) (db : PlaneDb) (companyId decisionHash : String) : List ApprovalRequest :=
  db.approvals.rows.filter (fun a => a.companyId = companyId ∧
    a.metadata.lookup "release_decision_hash" = some (.str decisionHash) ∧ unexpired now a = true)

section

variable (rt : ReleaseRuntime) (now : Time) (db : PlaneDb)

def checkPending (old : SkillReleaseCommand) : Except ExecutionDenied Unit := do
  ensure (now < old.expiresAt) ⟨"release_command_expired_recovery_required", 409⟩
  ensure (old.approved = true → ((old.approvalId.bind db.approvals.get).any
      (fun a => a.status = .approved ∧ unexpired now a = true)) = true) ⟨"skill_release_approval_revoked", 403⟩

def writeCommand (existing : Option EvolutionDeployment) (command : SkillReleaseCommand) :
    Except ExecutionDenied PlaneDb :=
  match existing with
  | none => do
    ensure (∀ d ∈ db.deployments.rows, d.deploymentId ≠ command.deploymentId) pendingReconciliation
    let deployments ← require (db.deployments.insert
      ⟨command.deploymentId, command.companyId, command.proposalId, command.evaluationReportId, .pending,
        command.action, command, none⟩) pendingReconciliation
    return { db with deployments := deployments }
  | some _ => return { db with
      deployments := db.deployments.modify command.proposalId
        (fun d => { d with state := .pending, desiredAction := command.action, command := command }) (fun _ => rfl) }

/-- The part of `prepare` that makes a new order or asks for its approval. -/
def orderRelease (proposal : EvolutionProposal) (report : EvaluationReport) (existing : Option EvolutionDeployment)
    (subject : ReleaseSubject) (action : ReleaseAction) (actorId : String) (override : Option String)
    (ids : ReleaseIds) : Except ExecutionDenied Prepared := do
  validateRelease proposal.tier (existing.map (·.state)) action report
    (subject.skillId ++ "@" ++ toString subject.baselineVersion)
    (subject.skillId ++ "@" ++ toString subject.candidateVersion)
  let deploymentId := (existing.map (·.deploymentId)).getD (override.getD ("dep_" ++ ids.deploymentId))
  let command (approvalId : Option String) : SkillReleaseCommand := { subject with
    commandId := "cmd_" ++ ids.commandId
    deploymentId := deploymentId
    action := action
    approvalId := approvalId
    expiresAt := now + seconds 3600 }
  if action = .shadow then do
    let db' ← writeCommand db existing (command none)
    return .ready (command none) db'
  else
    let decisionHash := rt.decisionHash subject deploymentId action
    let valid := decisionApprovals now db subject.companyId decisionHash
    match valid.find? (fun a => a.status = .approved) with
    | some granted => do
      let db' ← writeCommand db existing (command (some granted.approvalId))
      return .ready (command (some granted.approvalId)) db'
    | none =>
      if valid.any (fun a => a.status = .pending) then return .approvalRequested db
      else do
        let approvals ← require (db.approvals.insert
          (releaseApproval now subject action actorId decisionHash ids.approvalId)) pendingReconciliation
        return .approvalRequested { db with approvals := approvals }

/-- `prepare`; the evaluation hash of the request is not read but taken from the report. -/
def prepare (request : ReleaseSubject) (action : ReleaseAction) (actorId : String) (override : Option String)
    (ids : ReleaseIds) : Except ExecutionDenied Prepared := do
  let proposal ← require ((db.proposals.get request.proposalId).filter (fun p => p.companyId = request.companyId))
    ⟨"evolution_evidence_not_found", 404⟩
  let report ← require ((db.reports.get request.evaluationReportId).filter
    (fun r => r.companyId = request.companyId ∧ r.proposalId = request.proposalId))
    ⟨"evolution_evidence_not_found", 404⟩
  let subject := { request with evaluationHash := report.comparisonHash }
  match db.deployments.get request.proposalId with
  | none => orderRelease rt now db proposal report none subject action actorId override ids
  | some existing =>
    ensure (existing.command.toReleaseSubject = subject) ⟨"frozen_release_configuration_changed", 409⟩
    if existing.desiredAction = action ∧ existing.state = .pending then
      checkPending now db existing.command
      return .ready existing.command db
    else orderRelease rt now db proposal report (some existing) subject action actorId override ids

end

/-! ### Pending, recovery and acknowledgement -/

section

variable (rt : ReleaseRuntime) (now : Time) (db : PlaneDb)

def deploymentOf (companyId proposalId : String) : Option EvolutionDeployment :=
  (db.deployments.get proposalId).filter (fun d => d.companyId = companyId)

def pendingCommand (companyId proposalId : String) : Except ExecutionDenied SkillReleaseCommand := do
  let row ← require ((deploymentOf db companyId proposalId).filter (fun d => d.state = .pending))
    ⟨"pending_release_not_found", 404⟩
  return row.command

def resetRow (row : EvolutionDeployment) : Except ExecutionDenied PlaneDb :=
  match row.acknowledgement with
  | none => do
    ensure (row.command.action = .shadow) ⟨"release_acknowledged_state_missing", 409⟩
    return { db with deployments := db.deployments.erase row.proposalId }
  | some r => do
    ensure (r.state ≠ .rolledBack) ⟨"release_acknowledged_state_invalid", 409⟩
    return { db with
      deployments := db.deployments.modify row.proposalId
        (fun d => { d with state := .applied r.state }) (fun _ => rfl) }

/-- `recover_expired_pending`, with the command that was given up. -/
def recoverExpiredPending (command : SkillReleaseCommand) (actorId : String) (ids : ReleaseIds) :
    Except ExecutionDenied (SkillReleaseCommand × Prepared) := do
  let _ ← require ((db.proposals.get command.proposalId).filter (fun p => p.companyId = command.companyId))
    ⟨"pending_release_not_found", 404⟩
  let row ← require (deploymentOf db command.companyId command.proposalId) ⟨"pending_release_not_found", 404⟩
  ensure (row.state = .pending ∧ row.command.commandId = command.commandId ∧
      rt.canonicalHash row.command = rt.canonicalHash command) ⟨"evolution_release_owner_lost", 409⟩
  ensure (row.command.expiresAt ≤ now) ⟨"release_command_not_expired", 409⟩
  let reset ← resetRow db row
  let prepared ← prepare rt now reset row.command.toReleaseSubject row.command.action actorId
    (some row.deploymentId) ids
  return (row.command, prepared)

/-- The rollout state of a proposal whose release has come to the state `expected`. -/
def rolloutAfter (proposal : EvolutionProposal) (expected : ReleaseState) : Except ExecutionDenied RolloutState :=
  if proposal.rolloutState = expected.rollout then .ok expected.rollout
  else (advanceRollout proposal expected.rollout).mapError (fun _ => pendingReconciliation)

/-- The answer of the receiver counts for the command that is pending. -/
def acknowledge (command : SkillReleaseCommand) (response : ReleaseResponse) : Except ExecutionDenied PlaneDb := do
  let expected := command.action.target
  ensure (response.state = expected ∧ response.deploymentId = command.deploymentId)
    ⟨"evolution_receiver_state_mismatch", 502⟩
  let proposal ← require ((db.proposals.get command.proposalId).filter (fun p => p.companyId = command.companyId))
    ⟨"evolution_release_owner_lost", 409⟩
  let row ← require ((deploymentOf db command.companyId command.proposalId).filter
    (fun d => d.deploymentId = command.deploymentId ∧ d.state = .pending)) ⟨"evolution_release_owner_lost", 409⟩
  ensure (row.command.commandId = command.commandId ∧ rt.canonicalHash row.command = rt.canonicalHash command)
    ⟨"evolution_release_owner_lost", 409⟩
  let rollout ← rolloutAfter proposal expected
  return { db with
    deployments := db.deployments.modify command.proposalId
      (fun d => { d with state := .applied expected, acknowledgement := some response }) (fun _ => rfl) }.setProposal
    command.proposalId (fun p => { p with rolloutState := rollout }) (fun _ => rfl)

end

/-! ### Which commands the rows hold -/

def PlaneDb.Orders (db : PlaneDb) (c : SkillReleaseCommand) : Prop := ∃ d ∈ db.deployments, d.command = c

variable {ids : ReleaseIds} {prepared : Prepared}

section

variable {rt : ReleaseRuntime} {now : Time} {db db' : PlaneDb}

theorem writeCommand_orders (h : writeCommand db existing command = .ok db') (hc : db'.Orders c) :
    c = command ∨ db.Orders c := by
  obtain ⟨d, hd, rfl⟩ := hc
  cases existing with
  | none =>
    simp only [writeCommand, eq_ok] at h
    obtain ⟨-, -, deployments, hi, rfl⟩ := h
    rcases (mem_insert hi).1 hd with hd | rfl
    · exact .inr ⟨d, hd, rfl⟩
    · exact .inl rfl
  | some =>
    obtain rfl := pure_eq_ok.1 h
    obtain ⟨d₀, hd₀, ⟨-, rfl⟩ | ⟨-, rfl⟩⟩ := of_mem_modify (by intro; rfl) hd
    · exact .inl rfl
    · exact .inr ⟨d₀, hd₀, rfl⟩

/-- A new order is written under the id of its command. -/
theorem orderRelease_ready (h : orderRelease rt now db proposal report existing subject action actorId override ids =
      .ok (.ready command db')) :
    command.commandId = "cmd_" ++ ids.commandId ∧ writeCommand db existing command = .ok db' := by
  simp only [orderRelease, bind_eq_ok] at h
  obtain ⟨-, -, h⟩ := h
  split at h
  · simp only [eq_ok, Prepared.ready.injEq] at h
    obtain ⟨db₁, hw, rfl, rfl⟩ := h
    exact ⟨rfl, hw⟩
  · split at h
    · simp only [eq_ok, Prepared.ready.injEq] at h
      obtain ⟨db₁, hw, rfl, rfl⟩ := h
      exact ⟨rfl, hw⟩
    · split at h
      · exact absurd (pure_eq_ok.1 h) (by simp)
      · simp only [eq_ok] at h
        obtain ⟨_, _, h⟩ := h
        cases h

theorem orderRelease_requested
    (h : orderRelease rt now db proposal report existing subject action actorId override ids =
      .ok (.approvalRequested db')) : db.Asks db' := by
  simp only [orderRelease, bind_eq_ok] at h
  obtain ⟨-, -, h⟩ := h
  split at h
  · simp only [eq_ok] at h
    obtain ⟨_, _, h⟩ := h
    cases h
  · split at h
    · simp only [eq_ok] at h
      obtain ⟨_, _, h⟩ := h
      cases h
    · split at h
      · exact .inl (Prepared.approvalRequested.inj (pure_eq_ok.1 h)).symm
      · simp only [eq_ok, Prepared.approvalRequested.injEq] at h
        obtain ⟨approvals, hi, rfl⟩ := h
        exact .inr ⟨_, approvals, rfl, hi, rfl⟩

/-- A release that is prepared repeats a pending order or makes one. -/
theorem prepare_eq_ok {request} (h : prepare rt now db request action actorId override ids = .ok prepared) :
    (∃ c, db.Orders c ∧ prepared = .ready c db) ∨ ∃ proposal report existing subject,
        orderRelease rt now db proposal report existing subject action actorId override ids = .ok prepared := by
  simp only [prepare, eq_ok] at h
  obtain ⟨proposal, -, report, -, h⟩ := h
  split at h
  · exact .inr ⟨proposal, report, none, _, h⟩
  · rename_i existing hg
    obtain ⟨-, -, h⟩ := bind_eq_ok.1 h
    split at h
    · simp only [eq_ok] at h
      obtain ⟨-, -, rfl⟩ := h
      exact .inl ⟨existing.command, ⟨existing, (get_eq_some.1 hg).1, rfl⟩, rfl⟩
    · exact .inr ⟨proposal, report, some existing, _, h⟩

theorem pendingCommand_orders {companyId proposalId} (h : pendingCommand db companyId proposalId = .ok c) :
    db.Orders c := by
  simp only [pendingCommand, deploymentOf, eq_ok, filter_eq_some_iff] at h
  obtain ⟨row, ⟨⟨hg, -⟩, -⟩, rfl⟩ := h
  exact ⟨row, (get_eq_some.1 hg).1, rfl⟩

theorem resetRow_orders (h : resetRow db row = .ok db') (hc : db'.Orders c) : db.Orders c := by
  obtain ⟨d, hd, rfl⟩ := hc
  unfold resetRow at h
  split at h
  · simp only [eq_ok] at h
    obtain ⟨-, -, rfl⟩ := h
    exact ⟨d, (mem_erase.1 hd).1, rfl⟩
  · simp only [eq_ok] at h
    obtain ⟨-, -, rfl⟩ := h
    obtain ⟨d₀, hd₀, ⟨-, rfl⟩ | ⟨-, rfl⟩⟩ := of_mem_modify (by intro; rfl) hd <;> exact ⟨d₀, hd₀, rfl⟩

theorem resetRow_frame (h : resetRow db row = .ok db') :
    db'.proposals = db.proposals ∧ db'.approvals = db.approvals := by
  unfold resetRow at h
  split at h <;>
  · simp only [eq_ok] at h
    obtain ⟨-, -, rfl⟩ := h
    exact ⟨rfl, rfl⟩

/-- Only an expired order is replaced. -/
theorem recoverExpiredPending_eq_ok {stored}
    (h : recoverExpiredPending rt now db command actorId ids = .ok (stored, prepared)) :
    db.Orders stored ∧ stored.commandId = command.commandId ∧ stored.expiresAt ≤ now ∧
      ∃ row reset, resetRow db row = .ok reset ∧
        prepare rt now reset stored.toReleaseSubject stored.action actorId (some row.deploymentId) ids =
          .ok prepared := by
  simp only [recoverExpiredPending, eq_ok, Prod.mk.injEq] at h
  obtain ⟨-, -, row, hrw, -, ⟨-, hid, -⟩, -, he, reset, hr, _, hp, rfl, rfl⟩ := h
  have hm : row ∈ db.deployments := (get_eq_some.1 (filter_eq_some_iff.1 hrw).1).1
  exact ⟨⟨row, hm, rfl⟩, hid, he, row, reset, hr, hp⟩

/-- What the answer to a command changes in the plane. -/
theorem acknowledge_eq_ok (h : acknowledge rt db command response = .ok db') :
    ∃ proposal rollout deployments, db.proposals.get command.proposalId = some proposal ∧
      rolloutAfter proposal command.action.target = .ok rollout ∧
      (∀ d' ∈ deployments, ∃ d ∈ db.deployments, d.command = d'.command) ∧
      db' = { db with deployments := deployments }.setProposal command.proposalId
        (fun p => { p with rolloutState := rollout }) (fun _ => rfl) := by
  simp only [acknowledge, eq_ok] at h
  obtain ⟨-, -, proposal, hp, _, -, -, -, rollout, hr, rfl⟩ := h
  refine ⟨proposal, rollout, _, (filter_eq_some_iff.1 hp).1, hr, fun d' hd' => ?_, rfl⟩
  obtain ⟨d, hd, ⟨-, rfl⟩ | ⟨-, rfl⟩⟩ := of_mem_modify (by intro; rfl) hd' <;> exact ⟨d, hd, rfl⟩

theorem acknowledge_orders (h : acknowledge rt db command response = .ok db') (hc : db'.Orders c) : db.Orders c := by
  obtain ⟨proposal, rollout, deployments, -, -, ho, rfl⟩ := acknowledge_eq_ok h
  obtain ⟨d', hd', rfl⟩ := hc
  obtain ⟨d, hd, hs⟩ := ho d' hd'
  exact ⟨d, hd, hs⟩

end

end WisdoverseCell.Evolution
