import WisdoverseCell.ControlPlane.Lifecycle
import WisdoverseCell.Evolution.ReleaseStore

/-!
# Evolution proposals and their approvals

The rollout state of a proposal, the state of its approval, and the link to the approval request.  The status update and
the acknowledgement of a release go through the transition table, the resolution of the linked approval writes the state
directly.
-/

namespace WisdoverseCell.Evolution

open Option Table
open ControlPlane (Time StateMachine ApprovalRequest ApprovalStatus ExecutionDenied)

variable {approvalId resolvedBy : String} {approved : Bool}

/-! ### Records -/

inductive EvolutionTier
  | L1
  | L2
  | L3
  deriving DecidableEq

def EvolutionTier.value : EvolutionTier → String
  | .L1 => "L1"
  | .L2 => "L2"
  | .L3 => "L3"

inductive RolloutState
  | proposed
  | shadow
  | canary
  | active
  | rolledBack
  | rejected
  deriving DecidableEq

def RolloutState.value : RolloutState → String
  | .proposed => "proposed"
  | .shadow => "shadow"
  | .canary => "canary"
  | .active => "active"
  | .rolledBack => "rolled_back"
  | .rejected => "rejected"

structure EvolutionProposal where
  proposalId : String
  companyId : String
  tier : EvolutionTier
  scope : String
  approvalState : ApprovalStatus
  rolloutState : RolloutState
  approvalId : Option String

structure EvaluatedArm where
  configRevision : String
  sampleCount : Nat
  acceptedOutcomeRate : ℚ

/-- An evaluation report; `comparisonHash` is the canonical hash of its comparison. -/
structure EvaluationReport where
  evaluationReportId : String
  companyId : String
  proposalId : String
  baseline : EvaluatedArm
  candidate : EvaluatedArm
  eligible : Bool
  comparisonHash : String

inductive DeploymentState
  | pending
  | applied (state : ReleaseState)
  deriving DecidableEq

/-- A desired release; `acknowledgement` is `none` as long as the receiver has answered nothing. -/
structure EvolutionDeployment where
  deploymentId : String
  companyId : String
  proposalId : String
  evaluationReportId : String
  state : DeploymentState
  desiredAction : ReleaseAction
  command : SkillReleaseCommand
  acknowledgement : Option ReleaseResponse

structure PlaneDb where
  proposals : Table EvolutionProposal.proposalId
  approvals : Table ApprovalRequest.approvalId
  reports : Table EvaluationReport.evaluationReportId
  deployments : Table EvolutionDeployment.proposalId

/-! ### The rollout machine -/

/-- `VALID_ROLLOUT_TRANSITIONS`. -/
def rolloutMachine : StateMachine RolloutState where
  name := RolloutState.value
  allowedTargets
    | .proposed => [.shadow, .canary, .rejected]
    | .shadow => [.canary, .rolledBack]
    | .canary => [.active, .rolledBack]
    | .active => [.rolledBack]
    | .rolledBack => []
    | .rejected => []

inductive ProposalError
  | notFound (proposalId : String)
  | approvalNotFound (approvalId : String)
  | approvalRequired (proposalId : String)
  | invalidRolloutTransition (message : String)
  | gate (message : String)
  | invalidApprovalTransition
  | integrity

def advanceRollout (p : EvolutionProposal) (target : RolloutState) : Except ProposalError RolloutState := do
  ensure (rolloutMachine.canTransition p.rolloutState target = true)
    (.invalidRolloutTransition ("EvolutionProposal " ++ p.proposalId ++ ": illegal rollout transition " ++
      p.rolloutState.value ++ " -> " ++ target.value))
  return target

variable {p : EvolutionProposal}

theorem advanceRollout_eq_ok {target r} :
    advanceRollout p target = .ok r ↔ rolloutMachine.canTransition p.rolloutState target = true ∧ r = target := by
  simp only [advanceRollout, eq_ok]
  constructor
  · rintro ⟨-, h, rfl⟩
    exact ⟨h, rfl⟩
  · rintro ⟨h, rfl⟩
    exact ⟨(), h, rfl⟩

def RolloutState.requiresApproval (s : RolloutState) : Bool := s = .canary ∨ s = .active

namespace PlaneDb

def setProposal (db : PlaneDb) (proposalId : String) (f : EvolutionProposal → EvolutionProposal)
    (hf : ∀ p, (f p).proposalId = p.proposalId) : PlaneDb :=
  { db with proposals := db.proposals.modify proposalId f hf }

def Approved (db : PlaneDb) (companyId approvalId : String) : Prop :=
  ∃ a, db.approvals.get approvalId = some a ∧ a.companyId = companyId ∧ a.status = .approved

instance (db : PlaneDb) (companyId approvalId : String) : Decidable (db.Approved companyId approvalId) :=
  decidable_of_iff ((db.approvals.get approvalId).any
      (fun a => decide (a.companyId = companyId ∧ a.status = .approved)) = true) (by
    unfold Approved
    cases db.approvals.get approvalId <;> simp)

end PlaneDb

/-! ### Creating proposals -/

/-- What the caller of the create operation supplies, with the ids generated for it. -/
structure ProposalCreate where
  proposalId : String
  companyId : String
  tier : EvolutionTier
  scope : String
  approvalId : Option String
  approvalRequired : Bool
  proposedBy : String
  newApprovalId : String

def ProposalCreate.review (r : ProposalCreate) : ApprovalRequest where
  approvalId := r.newApprovalId
  companyId := r.companyId
  status := .pending
  requestedBy := "agent:" ++ r.proposedBy
  sourceAgentId := r.proposedBy
  proposedAction := "Review " ++ r.tier.value ++ " evolution proposal for " ++ r.scope
  affectedResources := [r.scope]
  runId := none
  workItemId := none
  goalId := none
  resolvedBy := none
  resolvedAt := none
  expiresAt := none
  metadata := []

def ProposalCreate.proposal (r : ProposalCreate) (approvalState : ApprovalStatus) (approvalId : Option String) :
    EvolutionProposal :=
  ⟨r.proposalId, r.companyId, r.tier, r.scope, approvalState, .proposed, approvalId⟩

def insertProposal (db : PlaneDb) (p : EvolutionProposal) : Except ProposalError PlaneDb := do
  let proposals ← require (db.proposals.insert p) .integrity
  return { db with proposals := proposals }

def requestApproval (db : PlaneDb) (a : ApprovalRequest) : Except ProposalError PlaneDb := do
  let approvals ← require (db.approvals.insert a) .integrity
  return { db with approvals := approvals }

def createEvolutionProposal (db : PlaneDb) (r : ProposalCreate) : Except ProposalError PlaneDb :=
  match r.approvalId with
  | some id => do
    let a ← require ((db.approvals.get id).filter (fun a => a.companyId = r.companyId)) (.approvalNotFound id)
    insertProposal db (r.proposal a.status (some id))
  | none =>
    if r.approvalRequired then do
      let db' ← requestApproval db r.review
      insertProposal db' (r.proposal .pending (some r.newApprovalId))
    else insertProposal db (r.proposal .pending none)

/-- `record_evolution_proposal_with_audit`: an agent records a proposal with the approval state it was told; the link
must exist. -/
def recordEvolutionProposal (db : PlaneDb) (proposalId companyId : String) (tier : EvolutionTier) (scope : String)
    (approvalState : ApprovalStatus) (approvalId : Option String) : Except ProposalError PlaneDb := do
  ensure (∀ id, approvalId = some id → (db.approvals.get id).isSome = true) .integrity
  insertProposal db ⟨proposalId, companyId, tier, scope, approvalState, .proposed, approvalId⟩

/-! ### The status update -/

structure ProposalUpdate where
  companyId : String
  proposalId : String
  approvalState : Option ApprovalStatus
  rolloutState : Option RolloutState
  approvalId : Option String

def suppliedState (db : PlaneDb) (u : ProposalUpdate) : Except ProposalError (Option ApprovalStatus) :=
  match u.approvalId with
  | none => .ok u.approvalState
  | some id => do
    let a ← require ((db.approvals.get id).filter (fun a => a.companyId = u.companyId)) (.approvalNotFound id)
    return some (u.approvalState.getD a.status)

def advanceTo (p : EvolutionProposal) : Option RolloutState → Except ProposalError (Option RolloutState)
  | none => .ok none
  | some target => do
    let r ← advanceRollout p target
    return some r

def updateEvolutionProposalStatus (db : PlaneDb) (u : ProposalUpdate) : Except ProposalError PlaneDb := do
  let existing ← require ((db.proposals.get u.proposalId).filter (fun p => p.companyId = u.companyId))
    (.notFound u.proposalId)
  let state ← suppliedState db u
  ensure (u.rolloutState.any RolloutState.requiresApproval = true → state.getD existing.approvalState = .approved)
    (.approvalRequired u.proposalId)
  let rollout ← advanceTo existing u.rolloutState
  return db.setProposal u.proposalId (fun p => { p with
    approvalState := state.getD p.approvalState
    rolloutState := rollout.getD p.rolloutState
    approvalId := u.approvalId.or p.approvalId }) (fun _ => rfl)

/-! ### Resolving an approval -/

/-- `ApprovalGate.approve` and `ApprovalGate.reject`: only a pending request is resolved, and it is approved only
before it expires. -/
def gateResolve (now : Time) (db : PlaneDb) (approvalId : String) (approved : Bool) (resolvedBy : String) :
    Except ProposalError PlaneDb := do
  let a ← require (db.approvals.get approvalId) (.gate ("approval_not_found: " ++ approvalId))
  ensure (approved = true → ∀ e, a.expiresAt = some e → now < e) (.gate "approval_expired")
  ensure (a.status = .pending) .invalidApprovalTransition
  return { db with
    approvals := db.approvals.modify approvalId (fun b => { b with
      status := if approved then .approved else .rejected
      resolvedBy := some resolvedBy
      resolvedAt := some now }) (fun _ => rfl) }

/-- `apply_approval_resolution_to_linked_proposal`: a rejection writes the rollout state whatever it was; two
proposals with one link are an error of the query. -/
def applyResolution (db : PlaneDb) (approvalId : String) (approved : Bool) : Except ProposalError PlaneDb :=
  match db.proposals.rows.filter (fun p => p.approvalId = some approvalId) with
  | [] => .ok db
  | [p] => .ok (db.setProposal p.proposalId (fun p => { p with
      approvalState := if approved then .approved else .rejected
      rolloutState := if approved then p.rolloutState else .rejected }) (fun _ => rfl))
  | _ => .error .integrity

/-- The routes `/approvals/{approval_id}/approve` and `/reject`. -/
def resolveApproval (now : Time) (db : PlaneDb) (approvalId : String) (approved : Bool) (resolvedBy : String) :
    Except ProposalError PlaneDb := do
  let db' ← gateResolve now db approvalId approved resolvedBy
  applyResolution db' approvalId approved

/-! ### What the transactions change -/

/-- Nothing is written, or one pending approval request. -/
def PlaneDb.Asks (db db' : PlaneDb) : Prop :=
  db' = db ∨ ∃ a approvals, a.status = .pending ∧ db.approvals.insert a = some approvals ∧
    db' = { db with approvals := approvals }

/-- What a proposal records of its approval is true: the approval it links exists and is of its company, and it calls
itself approved only if that approval is. -/
structure EvolutionProposal.Linked (db : PlaneDb) (p : EvolutionProposal) : Prop where
  link : ∀ id, p.approvalId = some id → ∃ a, db.approvals.get id = some a ∧ a.companyId = p.companyId ∧
    (p.approvalState = .approved → a.status = .approved)
  approved : p.approvalState = .approved → ∃ id, p.approvalId = some id

section

variable {now : Time} {db db' : PlaneDb}

private theorem insertProposal_eq_ok (h : insertProposal db p = .ok db') :
    ∃ proposals, db.proposals.insert p = some proposals ∧ db' = { db with proposals := proposals } := by
  simp only [insertProposal, eq_ok] at h
  obtain ⟨proposals, hi, rfl⟩ := h
  exact ⟨proposals, hi, rfl⟩

theorem requestApproval_eq_ok {a} (h : requestApproval db a = .ok db') :
    ∃ approvals, db.approvals.insert a = some approvals ∧ db' = { db with approvals := approvals } := by
  simp only [requestApproval, eq_ok] at h
  obtain ⟨approvals, hi, rfl⟩ := h
  exact ⟨approvals, hi, rfl⟩

/-- A new proposal is proposed, with its approval asked for if one is required. -/
theorem createEvolutionProposal_eq_ok {r : ProposalCreate} (h : createEvolutionProposal db r = .ok db') :
    ∃ asked p proposals, db.Asks asked ∧ p.rolloutState = .proposed ∧ p.Linked asked ∧
      asked.proposals.insert p = some proposals ∧ db' = { asked with proposals := proposals } := by
  unfold createEvolutionProposal at h
  split at h
  · rename_i id hid
    simp only [eq_ok] at h
    obtain ⟨a, ha, h⟩ := h
    obtain ⟨ha, hc⟩ := filter_eq_some_iff.1 ha
    obtain ⟨proposals, hi, rfl⟩ := insertProposal_eq_ok h
    have hl : (r.proposal a.status (some id)).Linked db := by
      refine ⟨?_, fun _ => ⟨id, rfl⟩⟩
      rintro _ ⟨⟩
      exact ⟨a, ha, of_decide_eq_true hc, fun hap => hap⟩
    exact ⟨db, _, proposals, .inl rfl, rfl, hl, hi, rfl⟩
  · split at h
    · obtain ⟨asked, has, h⟩ := bind_eq_ok.1 h
      obtain ⟨approvals, hai, rfl⟩ := requestApproval_eq_ok has
      obtain ⟨proposals, hi, rfl⟩ := insertProposal_eq_ok h
      have hl : (r.proposal .pending (some r.newApprovalId)).Linked { db with approvals := approvals } := by
        refine ⟨?_, by rintro ⟨⟩⟩
        rintro _ ⟨⟩
        exact ⟨r.review, get_insert_self hai, rfl, by rintro ⟨⟩⟩
      exact ⟨_, _, proposals, .inr ⟨r.review, approvals, rfl, hai, rfl⟩, rfl, hl, hi, rfl⟩
    · obtain ⟨proposals, hi, rfl⟩ := insertProposal_eq_ok h
      have hl : (r.proposal .pending none).Linked db := ⟨by rintro _ ⟨⟩, by rintro ⟨⟩⟩
      exact ⟨db, _, proposals, .inl rfl, rfl, hl, hi, rfl⟩

theorem recordEvolutionProposal_eq_ok {proposalId companyId scope tier approvalState approvalId}
    (h : recordEvolutionProposal db proposalId companyId tier scope approvalState approvalId = .ok db') :
    ∃ proposals, db.proposals.insert ⟨proposalId, companyId, tier, scope, approvalState, .proposed, approvalId⟩ =
      some proposals ∧ db' = { db with proposals := proposals } := by
  simp only [recordEvolutionProposal, eq_ok] at h
  obtain ⟨-, -, h⟩ := h
  exact insertProposal_eq_ok h

/-- What a status update has checked, and what it writes. -/
theorem updateEvolutionProposalStatus_eq_ok {u : ProposalUpdate} (h : updateEvolutionProposalStatus db u = .ok db') :
    ∃ existing state rollout, db.proposals.get u.proposalId = some existing ∧ existing.companyId = u.companyId ∧
      suppliedState db u = .ok state ∧
      (u.rolloutState.any RolloutState.requiresApproval = true → state.getD existing.approvalState = .approved) ∧
      advanceTo existing u.rolloutState = .ok rollout ∧
      db' = db.setProposal u.proposalId (fun p => { p with
        approvalState := state.getD p.approvalState
        rolloutState := rollout.getD p.rolloutState
        approvalId := u.approvalId.or p.approvalId }) (fun _ => rfl) := by
  simp only [updateEvolutionProposalStatus, eq_ok] at h
  obtain ⟨existing, hgt, state, hs, -, hg, rollout, hr, rfl⟩ := h
  obtain ⟨hgt, hc⟩ := filter_eq_some_iff.1 hgt
  exact ⟨existing, state, rollout, hgt, of_decide_eq_true hc, hs, hg, hr, rfl⟩

theorem advanceTo_eq_ok {target rollout} (h : advanceTo p target = .ok rollout) :
    rollout = target ∧ ∀ r, target = some r → rolloutMachine.canTransition p.rolloutState r = true := by
  cases target with
  | none =>
    cases h
    exact ⟨rfl, nofun⟩
  | some =>
    simp only [advanceTo, eq_ok, advanceRollout_eq_ok] at h
    obtain ⟨_, ⟨hc, rfl⟩, rfl⟩ := h
    refine ⟨rfl, ?_⟩
    rintro _ ⟨⟩
    exact hc

/-- Only a pending approval is resolved. -/
theorem resolveApproval_eq_ok (h : resolveApproval now db approvalId approved resolvedBy = .ok db') :
    ∃ a approvals, db.approvals.get approvalId = some a ∧ a.status = .pending ∧
      (∀ id, approvals.get id = if id = approvalId then some { a with
        status := if approved then .approved else .rejected
        resolvedBy := some resolvedBy
        resolvedAt := some now } else db.approvals.get id) ∧
      applyResolution { db with approvals := approvals } approvalId approved = .ok db' := by
  simp only [resolveApproval, gateResolve, eq_ok] at h
  obtain ⟨_, ⟨a, ha, -, -, -, hp, rfl⟩, h⟩ := h
  refine ⟨a, _, ha, hp, fun id => ?_, h⟩
  refine (get_modify (by intro; rfl) approvalId id).trans ?_
  split
  · rename_i hid
    rw [hid, ha]
    rfl
  · rfl

/-- The resolution is written to the one proposal that is linked, if any. -/
theorem applyResolution_eq_ok (h : applyResolution db approvalId approved = .ok db') :
    ((∀ p ∈ db.proposals, p.approvalId ≠ some approvalId) ∧ db' = db) ∨
      ∃ p ∈ db.proposals, p.approvalId = some approvalId ∧
        (∀ q ∈ db.proposals, q.approvalId = some approvalId → q = p) ∧
        db' = db.setProposal p.proposalId (fun p => { p with
          approvalState := if approved then .approved else .rejected
          rolloutState := if approved then p.rolloutState else .rejected }) (fun _ => rfl) := by
  unfold applyResolution at h
  split at h
  · rename_i hn
    refine .inl ⟨fun p hp hl => ?_, (Except.ok.inj h).symm⟩
    have hin : p ∈ db.proposals.rows.filter (fun p => p.approvalId = some approvalId) :=
      List.mem_filter.2 ⟨hp, by simpa using hl⟩
    rw [hn] at hin
    exact List.not_mem_nil hin
  · rename_i p hon
    obtain ⟨hp, hl, ho⟩ := filter_eq_singleton.1 hon
    exact .inr ⟨p, hp, of_decide_eq_true hl, fun q hq hq' => ho q hq (by simpa using hq'), (Except.ok.inj h).symm⟩
  · cases h

theorem resolveApproval_deployments (h : resolveApproval now db approvalId approved resolvedBy = .ok db') :
    db'.deployments = db.deployments := by
  obtain ⟨_, _, -, -, -, h⟩ := resolveApproval_eq_ok h
  rcases applyResolution_eq_ok h with ⟨-, rfl⟩ | ⟨p, -, -, -, rfl⟩ <;> rfl

theorem PlaneDb.Asks.deployments (h : db.Asks db') : db'.deployments = db.deployments := by
  rcases h with rfl | ⟨-, -, -, -, rfl⟩ <;> rfl

end

end WisdoverseCell.Evolution
