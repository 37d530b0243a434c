import WisdoverseCell.ControlPlane.ExecutionStore

/-!
# What the ledger's transactions check and write

One inversion lemma per transaction of the dispatch ledger.  The rest of the development reads the transactions only
through these lemmas.
-/

namespace WisdoverseCell.ControlPlane

open List Option Table

variable {db db' : Db} {v w : WorkItem} {work : Option WorkItem} {approved : Option ApprovalRequest}
  {policies : List BudgetPolicy} {ticket : ExecutionTicket} {ids : EvidenceIds}
  {actorId companyId workItemId runId : String} {clock now : Time} {state : WorkItemStatus}
  {items : Table WorkItem.workItemId} {lease : ExecutionLease} {agent : AgentRole} {req : ClaimRequest}
  {intent : BoundIntent} {rt : Runtime} {d : ExecutionDenied}

/-- A transition is one of the table, and is audited. -/
theorem transitionWork_eq_ok {work} : transitionWork clock db work state actorId = .ok db' ↔
    work.mayBecome state = true ∧ db' = work.auditTransition state "operator" actorId
      (db.setWorkItem work.workItemId (fun w => { w with status := state, updatedAt := clock }) (fun _ => rfl)) := by
  unfold transitionWork
  simp only [eq_ok, WorkItem.transitionTo_eq_ok]
  constructor
  · rintro ⟨s, ⟨rfl, hm⟩, rfl⟩
    exact ⟨hm, rfl⟩
  · rintro ⟨hm, rfl⟩
    exact ⟨state, ⟨rfl, hm⟩, rfl⟩

/-! ### Claim -/

theorem claimWork_eq_some {work} (h : claimWork db companyId work = .ok (some w)) :
    work = some w.workItemId ∧ db.workItems.get w.workItemId = some w ∧ w.companyId = companyId ∧
      w.status ≠ .completed ∧ w.status ≠ .cancelled ∧ ∀ d ∈ w.dependencies, dependencyAccepted db w d = true := by
  cases work with
  | none => simp [claimWork] at h
  | some workItemId =>
    simp only [claimWork, eq_ok, some.injEq] at h
    obtain ⟨w', hw, -, hc, -, ⟨hs, hs'⟩, -, hd, rfl⟩ := h
    obtain rfl : w'.workItemId = workItemId := (get_eq_some.1 hw).2
    exact ⟨rfl, hw, hc, hs, hs', hd⟩

theorem claimWork_eq_none {work} (h : claimWork db companyId work = .ok none) : work = none := by
  cases work with
  | none => rfl
  | some => simp only [claimWork, eq_ok, reduceCtorEq, and_false, exists_false] at h

private theorem workItemId_moved (clock : Time) (state : WorkItemStatus) (w : WorkItem) :
    WorkItem.workItemId { w with status := state, updatedAt := clock } = w.workItemId := rfl

def movedWorkItems (clock : Time) (items : Table WorkItem.workItemId) (work : Option WorkItem)
    (state : WorkItemStatus) : Table WorkItem.workItemId :=
  match work with
  | none => items
  | some w => items.update (fun v => v.workItemId = w.workItemId)
      (fun v => { v with status := state, updatedAt := clock }) (workItemId_moved clock state)

def startedWorkItems (clock : Time) (items : Table WorkItem.workItemId) (work : Option WorkItem) :
    Table WorkItem.workItemId :=
  match work with
  | none => items
  | some w => (movedWorkItems clock items (some w) .running).update (fun v => v.workItemId = w.workItemId)
      WorkItem.withoutAcceptance WorkItem.withoutAcceptance_workItemId

theorem get_movedWorkItems (hv : items.get workItemId = some v) :
    (movedWorkItems clock items work state).get workItemId =
      some (if work.map WorkItem.workItemId = some workItemId then
        { v with status := state, updatedAt := clock } else v)
    := by
  obtain rfl : v.workItemId = workItemId := (get_eq_some.1 hv).2
  cases work with
  | none => simpa [movedWorkItems] using hv
  | some => simp [movedWorkItems, get_update, hv, eq_comm]

theorem get_startedWorkItems (hv : items.get workItemId = some v) :
    ∃ v', (startedWorkItems clock items work).get workItemId = some v' ∧ v'.companyId = v.companyId ∧
      v'.status = if work.map WorkItem.workItemId = some workItemId then .running else v.status := by
  obtain rfl : v.workItemId = workItemId := (get_eq_some.1 hv).2
  cases work with
  | none => exact ⟨v, hv, rfl, by simp⟩
  | some w =>
    rw [startedWorkItems, get_update, get_movedWorkItems hv]
    by_cases hw : w.workItemId = v.workItemId
    · exact ⟨_, rfl, by simp [hw, WorkItem.withoutAcceptance], by simp [hw, WorkItem.withoutAcceptance]⟩
    · exact ⟨_, rfl, by simp [hw, Ne.symm hw], by simp [hw, Ne.symm hw]⟩

theorem get_startedWorkItems_self (hw : items.get w.workItemId = some w) :
    (startedWorkItems clock items (some w)).get w.workItemId =
      some { w with status := .running, updatedAt := clock }.withoutAcceptance :=
  get_update_of WorkItem.withoutAcceptance_workItemId
    (get_update_of (by intro; rfl) hw (decide_eq_true rfl)) (decide_eq_true rfl)

private theorem transitionClaimed_eq_ok (h : transitionClaimed clock db work state actorId = .ok db') :
    ∃ audits, db' = { db with
      workItems := movedWorkItems clock db.workItems work state
      auditEvents := db.auditEvents ++ audits } := by
  cases work with
  | none =>
    cases h
    exact ⟨[], by rw [append_nil]; rfl⟩
  | some w =>
    obtain ⟨-, rfl⟩ := transitionWork_eq_ok.1 h
    unfold WorkItem.auditTransition
    by_cases hs : state = w.status
    · exact ⟨[], by rw [if_pos hs, append_nil]; rfl⟩
    · exact ⟨_, by rw [if_neg hs]; rfl⟩

private theorem startClaimed_eq_ok (h : startClaimed clock db work actorId = .ok db') :
    ∃ audits, db' = { db with workItems := startedWorkItems clock db.workItems work, auditEvents := audits } := by
  cases work with
  | none =>
    cases h
    exact ⟨_, rfl⟩
  | some =>
    simp only [startClaimed, eq_ok, transitionWork_eq_ok] at h
    obtain ⟨db₁, ⟨-, rfl⟩, rfl⟩ := h
    exact ⟨_, rfl⟩

def AsksApproval (approvals approvals' : Table ApprovalRequest.approvalId) : Prop :=
  approvals' = approvals ∨ ∃ a : ApprovalRequest, a.status = .pending ∧
    JsonObj.has a.metadata "consumed_execution_id" = false ∧ approvals.insert a = some approvals'

/-- What a denied claim has committed besides audit rows: nothing, the mark on an abandoned lease, or the request for
an approval with its work item waiting for it. -/
inductive DenialWrites (now clock : Time) (db : Db) (companyId : String) : Db → Prop
  | nothing (audits : List AuditEvent) : DenialWrites now clock db companyId { db with auditEvents := audits }
  | abandoned (lease : ExecutionLease) (hmem : lease ∈ db.leases) (hrunning : lease.state = .running)
      (hexpired : lease.expiresAt ≤ now) (audits : List AuditEvent) :
      DenialWrites now clock db companyId { db with
        leases := db.leases.update (fun l => l.executionId = lease.executionId)
          (fun l => { l with state := .recoveryRequired }) (fun _ => rfl)
        auditEvents := audits }
  | awaiting (approvals : Table ApprovalRequest.approvalId) (work : Option WorkItem) (audits : List AuditEvent)
      (hasks : AsksApproval db.approvals approvals)
      (hwork : ∀ w, work = some w → db.workItems.get w.workItemId = some w ∧ w.companyId = companyId ∧
        db.activeLease companyId (workResource w.workItemId) = none) :
      DenialWrites now clock db companyId { db with
        approvals := approvals
        workItems := movedWorkItems clock db.workItems work .awaitingApproval
        auditEvents := audits }

/-- As `DenialWrites`, with what made the claim do so. -/
inductive DeniedEffect (rt : Runtime) (now clock : Time) (db : Db) (agent : AgentRole) (req : ClaimRequest) : Db → Prop
  | nothing (audits : List AuditEvent) :
      DeniedEffect rt now clock db agent req { db with auditEvents := db.auditEvents ++ audits }
  | abandoned (lease : ExecutionLease) (hmem : lease ∈ db.leases) (hrunning : lease.state = .running)
      (hexpired : lease.expiresAt ≤ now)
      (hholds : lease.executionId = executionIdOf rt agent.companyId req.idempotencyKey ∨
        (lease.companyId = agent.companyId ∧ lease.resourceId = req.resource agent)) (audits : List AuditEvent) :
      DeniedEffect rt now clock db agent req { db with
        leases := db.leases.update (fun l => l.executionId = lease.executionId)
          (fun l => { l with state := .recoveryRequired }) (fun _ => rfl)
        auditEvents := db.auditEvents ++ audits }
  | awaiting (intent : BoundIntent) (approvals : Table ApprovalRequest.approvalId) (work : Option WorkItem)
      (audits : List AuditEvent) (hbound : bindIntent rt db agent req = .ok intent)
      (hwork : claimWork db agent.companyId req.work = .ok work)
      (hfree : db.activeLease agent.companyId (req.resource agent) = none)
      (hasks : if (validApprovals now db agent intent.digest).any (fun a => a.status = .pending) then
          approvals = db.approvals
        else db.approvals.insert (newApproval now agent req intent) = some approvals) :
      DeniedEffect rt now clock db agent req { db with
        approvals := approvals
        workItems := movedWorkItems clock db.workItems work .awaitingApproval
        auditEvents := db.auditEvents ++ audits }

section

variable {rt : Runtime} {now clock : Time} {db db' : Db} {agent : AgentRole} {req : ClaimRequest} {intent : BoundIntent}
  {d : ExecutionDenied}

private theorem DeniedEffect.audit (h : DeniedEffect rt now clock db agent req db') (event) :
    DeniedEffect rt now clock db agent req (db'.appendAudit event) := by
  cases h with
  | nothing audits =>
    rw [Db.appendAudit, append_assoc]
    exact .nothing (audits ++ [event])
  | abandoned lease hm hr he hh audits =>
    rw [Db.appendAudit, append_assoc]
    exact .abandoned lease hm hr he hh (audits ++ [event])
  | awaiting intent approvals work audits hb hw hf ha =>
    rw [Db.appendAudit, append_assoc]
    exact .awaiting intent approvals work (audits ++ [event]) hb hw hf ha

private theorem deniedEffect_self : DeniedEffect rt now clock db agent req db := by
  have h : DeniedEffect rt now clock db agent req { db with auditEvents := db.auditEvents ++ [] } := .nothing []
  rwa [append_nil] at h

private theorem refuseHeld_effect (hm : lease ∈ db.leases)
    (hh : lease.executionId = executionIdOf rt agent.companyId req.idempotencyKey ∨
      (lease.companyId = agent.companyId ∧ lease.resourceId = req.resource agent))
    (h : refuseHeld now db lease = .denied d db') : DeniedEffect rt now clock db agent req db' := by
  unfold refuseHeld markAbandoned at h
  obtain ⟨-, rfl⟩ := ClaimRefusal.denied.inj h
  split
  · rename_i hc
    exact .abandoned lease hm hc.1 hc.2 hh _
  · exact deniedEffect_self

private theorem refuseForApproval_effect (hb : bindIntent rt db agent req = .ok intent)
    (hw : claimWork db agent.companyId req.work = .ok work)
    (hf : db.activeLease agent.companyId (req.resource agent) = none)
    (h : refuseForApproval now clock db agent req intent work = .denied d db') :
    DeniedEffect rt now clock db agent req db' := by
  unfold refuseForApproval at h
  dsimp only at h
  split at h
  · cases h
  · rename_i approvals ha
    split at h
    · cases h
    · rename_i db₁ hm
      obtain ⟨audits, rfl⟩ := transitionClaimed_eq_ok hm
      obtain ⟨-, rfl⟩ := ClaimRefusal.denied.inj h
      refine (DeniedEffect.awaiting intent approvals work audits hb hw hf ?_).audit _
      split
      · rename_i hp
        rw [if_pos hp] at ha
        exact (some.inj ha).symm
      · rename_i hp
        rwa [if_neg hp] at ha

end

private theorem resource_eq_workResource (h : req.work = some workItemId) :
    req.resource agent = workResource workItemId := by
  unfold ClaimRequest.resource
  rw [h]

theorem bindIntent_eq_ok (h : bindIntent rt db agent req = .ok intent) :
    (db.companies.get agent.companyId).isSome = true ∧
      db.agentRoles.get (agent.companyId, agent.agentId) = some intent.current ∧
      authorizeAdapter rt intent.current = .ok intent.ceilingUsd ∧
      (∃ digest, intentHash rt intent.current req.payload req.workItemId = .ok digest ∧
        intentHash rt agent req.payload req.workItemId = .ok digest ∧
        intent.digest = boundDigest rt digest req.idempotencyKey req.actorId) ∧
      intent.executionId = executionIdOf rt agent.companyId req.idempotencyKey ∧
      intent.resource = req.resource agent := by
  simp only [bindIntent, eq_ok] at h
  obtain ⟨company, hc, current, hr, ceiling, hcl, digest, hd, given, hg, -, rfl, rfl⟩ := h
  exact ⟨by rw [hc]; rfl, hr, hcl, ⟨digest, hd, hg, rfl⟩, rfl, rfl⟩

structure ClaimChecks (rt : Runtime) (now clock : Time) (db : Db) (agent : AgentRole) (req : ClaimRequest)
    (intent : BoundIntent) (work : Option WorkItem) (approved : Option ApprovalRequest)
    (policies : List BudgetPolicy) : Prop where
  bound : bindIntent rt db agent req = .ok intent
  newKey : db.leases.get intent.executionId = none
  free : db.activeLease agent.companyId intent.resource = none
  work_eq : claimWork db agent.companyId req.work = .ok work
  approved_eq : claimApproval now clock db agent req intent work = .ok approved
  policies_eq : claimBudgets rt now db agent req intent = .ok policies
  newRun : ∀ l ∈ db.leases, l.runId ≠ req.runId

theorem ClaimChecks.work_item (h : ClaimChecks rt now clock db agent req intent work approved policies)
    (hw : work = some w) :
    intent.resource = workResource w.workItemId ∧ db.workItems.get w.workItemId = some w ∧
      w.companyId = agent.companyId ∧ w.status ≠ .completed ∧ w.status ≠ .cancelled := by
  obtain ⟨hr, hg, hc, hs, hs', -⟩ := claimWork_eq_some (hw ▸ h.work_eq)
  exact ⟨by rw [(bindIntent_eq_ok h.bound).2.2.2.2.2, resource_eq_workResource hr], hg, hc, hs, hs'⟩

private theorem claimLocked_of_claim {grant} (h : claim rt now clock db agent req = .ok grant) :
    claimLocked rt now clock db agent req = .ok grant := by
  unfold claim at h
  split at h
  · split at h <;> exact absurd h (by simp)
  · exact h

/-- What a new claim has checked, and what it writes. -/
theorem claim_eq_fresh (h : claim rt now clock db agent req = .ok (.fresh ticket db')) :
    ∃ intent work approved policies, ClaimChecks rt now clock db agent req intent work approved policies ∧
      ticket = ⟨intent.executionId, req.runId, req.ownerId, intent.ceilingUsd, false⟩ ∧
      ∃ leases reservations audits, db.leases.insert (newLease now agent req intent) = some leases ∧
        db.reservations.insertAll (policies.map (newReservation now intent)) = some reservations ∧
        db' = { db with
          leases := leases
          reservations := reservations
          approvals := consumeApproval db approved intent.executionId req.runId
          workItems := startedWorkItems clock db.workItems work
          auditEvents := audits } := by
  have hlc := claimLocked_of_claim h
  simp only [claimLocked, eq_ok] at hlc
  obtain ⟨intent, hb, hlc⟩ := hlc
  cases hk : db.leases.get intent.executionId with
  | some =>
    simp only [hk, claimExisting] at hlc
    split at hlc
    · cases hlc
    · split at hlc <;> exact absurd hlc (by simp)
  | none =>
    cases hf : db.activeLease agent.companyId intent.resource with
    | some => simp [hk, hf] at hlc
    | none =>
      simp only [hk, hf, claimFree, grantClaim, eq_ok] at hlc
      obtain ⟨-, -, work, hw, approved, ha, policies, hp, -, hrn, leases, hl, reservations, hr, db₁, hs, hrs⟩ := hlc
      obtain ⟨audits, rfl⟩ := startClaimed_eq_ok hs
      obtain ⟨rfl, rfl⟩ := ClaimGrant.fresh.inj hrs
      exact ⟨intent, work, approved, policies, ⟨hb, hk, hf, hw, ha, hp, hrn⟩, rfl, leases, reservations, _, hl, hr, rfl⟩

/-- A claim is replayed only for the same intent. -/
theorem claim_eq_replay (h : claim rt now clock db agent req = .ok (.replay ticket)) :
    ∃ intent lease, bindIntent rt db agent req = .ok intent ∧ db.leases.get intent.executionId = some lease ∧
      lease.intentHash = intent.digest ∧ lease.state.terminal = true ∧ ticket.runId = lease.runId := by
  have hl := claimLocked_of_claim h
  simp only [claimLocked, eq_ok] at hl
  obtain ⟨intent, hb, hl⟩ := hl
  split at hl
  · rename_i lease hls
    unfold claimExisting at hl
    split at hl
    · cases hl
    · rename_i hd
      split at hl
      · rename_i he
        obtain rfl := ClaimGrant.replay.inj (Except.ok.inj hl)
        exact ⟨intent, lease, hb, hls, not_not.1 hd, he, rfl⟩
      · cases hl
  · split at hl
    · cases hl
    · simp only [claimFree, grantClaim, eq_ok, reduceCtorEq, and_false, exists_false] at hl

private theorem grantClaim_not_denied :
    grantClaim now clock db agent req intent work approved policies ≠ .error (.denied d db') := by
  intro h
  rcases bind_eq_error h with h | ⟨-, -, h⟩
  · exact absurd (ensure_eq_error h) (by simp)
  rcases bind_eq_error h with h | ⟨leases, -, h⟩
  · exact absurd (require_eq_error h) (by simp)
  rcases bind_eq_error h with h | ⟨reservations, -, h⟩
  · exact absurd (require_eq_error h) (by simp)
  rcases bind_eq_error h with h | ⟨db₁, -, h⟩
  · obtain ⟨f, -, hf⟩ := mapError_eq_error h
    cases hf
  · exact absurd h (by simp [pure, Except.pure])

private theorem claimFree_denied (hb : bindIntent rt db agent req = .ok intent)
    (hf : db.activeLease agent.companyId (req.resource agent) = none)
    (h : claimFree rt now clock db agent req intent = .error (.denied d db')) :
    DeniedEffect rt now clock db agent req db' := by
  rcases bind_eq_error h with h | ⟨-, -, h⟩
  · obtain ⟨-, rfl⟩ := ClaimRefusal.denied.inj (ensure_eq_error h)
    exact deniedEffect_self
  rcases bind_eq_error h with h | ⟨work, hw, h⟩
  · obtain ⟨e, -, he⟩ := mapError_eq_error h
    obtain ⟨-, rfl⟩ := ClaimRefusal.denied.inj he
    exact deniedEffect_self
  rcases bind_eq_error h with h | ⟨approved, -, h⟩
  · unfold claimApproval at h
    split at h
    · split at h
      · cases h
      · exact refuseForApproval_effect hb (mapError_eq_ok.1 hw) hf (Except.error.inj h)
    · cases h
  rcases bind_eq_error h with h | ⟨policies, -, h⟩
  · obtain ⟨e, -, he⟩ := mapError_eq_error h
    obtain ⟨-, rfl⟩ := ClaimRefusal.denied.inj he
    exact deniedEffect_self
  · exact absurd h grantClaim_not_denied

private theorem claimLocked_denied (h : claimLocked rt now clock db agent req = .error (.denied d db')) :
    DeniedEffect rt now clock db agent req db' := by
  rcases bind_eq_error h with h | ⟨intent, hb, h⟩
  · obtain ⟨e, -, he⟩ := mapError_eq_error h
    obtain ⟨-, rfl⟩ := ClaimRefusal.denied.inj he
    exact deniedEffect_self
  have hbn := mapError_eq_ok.1 hb
  obtain ⟨-, -, -, -, hk, hrs⟩ := bindIntent_eq_ok hbn
  split at h
  · rename_i existing hex
    unfold claimExisting at h
    split at h
    · obtain ⟨-, rfl⟩ := ClaimRefusal.denied.inj (Except.error.inj h)
      exact deniedEffect_self
    · split at h
      · cases h
      · obtain ⟨hm, hid⟩ := get_eq_some.1 hex
        exact refuseHeld_effect hm (.inl (hid.trans hk)) (Except.error.inj h)
  · split at h
    · rename_i active ha
      obtain ⟨hm, hc, hr, -⟩ := Db.mem_of_activeLease ha
      exact refuseHeld_effect hm (.inr ⟨hc, hr.trans hrs⟩) (Except.error.inj h)
    · rename_i hf
      exact claimFree_denied hbn (hrs ▸ hf) h

/-- What a denial leaves behind. -/
theorem claim_deniedEffect (h : claim rt now clock db agent req = .error (.denied d db')) :
    DeniedEffect rt now clock db agent req db' := by
  unfold claim at h
  split at h
  · rename_i d₁ db₁ hl
    have he := claimLocked_denied hl
    split at h
    · obtain ⟨-, rfl⟩ := ClaimRefusal.denied.inj (Except.error.inj h)
      exact he.audit _
    · obtain ⟨-, rfl⟩ := ClaimRefusal.denied.inj (Except.error.inj h)
      exact he
  · rename_i hne
    exact absurd h (hne d db')

private theorem DeniedEffect.writes (h : DeniedEffect rt now clock db agent req db') :
    DenialWrites now clock db agent.companyId db' := by
  cases h with
  | nothing => exact .nothing _
  | abandoned lease hm hr he => exact .abandoned lease hm hr he _
  | awaiting intent approvals work audits hb hwr hf ha =>
    refine .awaiting approvals work _ ?_ (fun w hw => ?_)
    · split at ha
      · exact .inl ha
      · exact .inr ⟨newApproval now agent req intent, rfl, rfl, ha⟩
    · obtain ⟨hrq, hg, hc, -⟩ := claimWork_eq_some (hw ▸ hwr)
      rw [resource_eq_workResource hrq] at hf
      exact ⟨hg, hc, hf⟩

theorem claim_denied_writes (h : claim rt now clock db agent req = .error (.denied d db')) :
    DenialWrites now clock db agent.companyId db' := (claim_deniedEffect h).writes

/-! ### Settlement, uncertainty and control -/

theorem Db.mem_reservationsOf {executionId r} :
    r ∈ db.reservationsOf executionId ↔ r ∈ db.reservations ∧ r.executionId = executionId := by
  unfold Db.reservationsOf
  rw [List.mem_filter, decide_eq_true_eq]
  rfl

section

variable (failed estimated : Bool) (cost : ℚ≥0)

theorem executionId_ended (l : ExecutionLease) :
    ExecutionLease.executionId { l with state := if failed then .failed else .succeeded } = l.executionId := rfl

theorem reservationKey_settled (r) :
    (fun r : ExecutionReservation => (r.executionId, r.budgetId)) { r with state := .settled } =
      (fun r : ExecutionReservation => (r.executionId, r.budgetId)) r := rfl

theorem runId_charged (r : AgentRun) :
    AgentRun.runId { r with
      costUsd := cost
      metadata := JsonObj.set r.metadata "cost_is_estimate" (.bool estimated) } = r.runId := rfl

end

def settledDb (now : Time) (db : Db) (lease : ExecutionLease) (ticket : ExecutionTicket) (cost : ℚ≥0)
    (failed estimated : Bool) : Db :=
  { db with
    leases := db.leases.update (fun l => l.executionId = ticket.executionId)
      (fun l => { l with state := if failed then .failed else .succeeded }) (executionId_ended failed)
    reservations := db.reservations.update (fun r => r.executionId = ticket.executionId)
      (fun r => { r with state := .settled }) reservationKey_settled
    budgetUsage := db.budgetUsage ++
      (db.reservationsOf ticket.executionId).map (chargeFor now lease ticket cost failed estimated)
    agentRuns := db.agentRuns.update (fun r => r.runId = ticket.runId)
      (fun r => { r with
        costUsd := cost
        metadata := JsonObj.set r.metadata "cost_is_estimate" (.bool estimated) }) (runId_charged estimated cost) }

/-- A settlement needs a running lease of its owner. -/
theorem settle_eq_ok {cost failed estimated} : settle now db ticket cost failed estimated = .ok db' ↔
    ∃ lease run, db.leases.get ticket.executionId = some lease ∧ lease.ownerId = ticket.ownerId ∧
      lease.state = .running ∧ (∀ r ∈ db.reservations, r.executionId = ticket.executionId → r.state = .reserved) ∧
      db.agentRuns.get ticket.runId = some run ∧ run.companyId = lease.companyId ∧
      db' = settledDb now db lease ticket cost failed estimated := by
  simp only [settle, eq_ok, Db.mem_reservationsOf, and_imp]
  constructor
  · rintro ⟨lease, hl, -, ⟨ho, hs⟩, -, hr, run, hrn, -, hc, rfl⟩
    exact ⟨lease, run, hl, ho, hs, hr, hrn, hc, rfl⟩
  · rintro ⟨lease, run, hl, ho, hs, hr, hrn, hc, rfl⟩
    exact ⟨lease, hl, (), ⟨ho, hs⟩, (), hr, run, hrn, (), hc, rfl⟩

/-- Only the owner is checked, not the state of the lease. -/
theorem markUncertain_eq_ok (h : markUncertain now db ticket = .ok db') :
    ∃ lease audits, db.leases.get ticket.executionId = some lease ∧ lease.ownerId = ticket.ownerId ∧
      db' = { db with
        leases := db.leases.update (fun l => l.executionId = ticket.executionId)
          (fun l => { l with state := .recoveryRequired, expiresAt := now }) (fun _ => rfl)
        auditEvents := audits } := by
  simp only [markUncertain, eq_ok] at h
  obtain ⟨lease, hl, -, ho, rfl⟩ := h
  exact ⟨lease, _, hl, ho, rfl⟩

/-- Only running leases take control requests. -/
theorem requestControl_eq_ok {action} (h : requestControl db companyId runId action actorId = .ok db') :
    ∃ lease audits, lease ∈ db.leases ∧ lease.state = .running ∧ db' = { db with
      leases := db.leases.update (fun l => l.executionId = lease.executionId)
        (fun l => { l with controlAction := action }) (fun _ => rfl)
      auditEvents := audits } := by
  simp only [requestControl, eq_ok] at h
  obtain ⟨lease, hl, run, -, agent, -, -, hs, -, -, rfl⟩ := h
  exact ⟨lease, _, (Db.mem_of_leaseOfRun hl).1, hs, rfl⟩

/-! ### Recovery -/

theorem failAbandonedRun_eq_ok (h : failAbandonedRun rt now db companyId runId actorId ids = .ok db') :
    ∃ f : AgentRun → AgentRun, ∃ hf : ∀ r, (f r).runId = r.runId, ∃ artifacts audits,
      (∀ r, (f r).companyId = r.companyId ∧ (f r).agentId = r.agentId) ∧
      (∀ r, db.agentRuns.get runId = some r → (f r).status ≠ .running) ∧
      db' = { db with
        agentRuns := db.agentRuns.update (fun r => r.runId = runId) f hf
        artifacts := artifacts
        auditEvents := audits } := by
  have keep : db.agentRuns.update (fun r => r.runId = runId) (fun r => r) (fun _ => rfl) = db.agentRuns := by
    unfold update
    simp
  unfold failAbandonedRun at h
  cases hrn : db.agentRuns.get runId with
  | none =>
    rw [hrn] at h
    obtain rfl := Except.ok.inj h
    exact ⟨fun r => r, fun _ => rfl, db.artifacts, db.auditEvents, fun _ => ⟨rfl, rfl⟩, by simp, by rw [keep]⟩
  | some run =>
    simp only [hrn] at h
    obtain rfl : run.runId = runId := (get_eq_some.1 hrn).2
    split at h
    · simp only [eq_ok] at h
      obtain ⟨agent, -, h⟩ := h
      unfold failAgentWakeupRun at h
      obtain ⟨-, artifacts, -, audits, rfl, -⟩ := closeAgentWakeupRun_eq_ok.1 h
      exact ⟨fun r => r.closed now _ _, fun _ => rfl, artifacts, audits, fun _ => ⟨rfl, rfl⟩,
        fun r _ => by simp [AgentRun.closed], rfl⟩
    · rename_i hs
      obtain rfl := Except.ok.inj h
      refine ⟨fun r => r, fun _ => rfl, db.artifacts, db.auditEvents, fun _ => ⟨rfl, rfl⟩, ?_, by rw [keep]⟩
      rintro r hr
      rwa [← some.inj hr]

theorem heldWork_eq_some : heldWork db lease = some w ↔ lease.resourceId = workResource w.workItemId ∧
      db.workItems.get w.workItemId = some w := by
  unfold heldWork
  rw [bind_eq_some_iff]
  constructor
  · rintro ⟨workItemId, hr, hg⟩
    obtain rfl : w.workItemId = workItemId := (get_eq_some.1 hg).2
    exact ⟨Text.eq_append_of_removeStart hr, hg⟩
  · rintro ⟨hr, hg⟩
    exact ⟨w.workItemId, by rw [hr]; exact Text.removeStart_append _ _, hg⟩

/-- The work item that the lease holds, if any, is failed. -/
theorem failHeldWork_eq_ok (h : failHeldWork now db lease actorId = .ok db') :
    (∀ w, heldWork db lease = some w → w.mayBecome .failed = true) ∧ ∃ audits, db' = { db with
      workItems := movedWorkItems now db.workItems (heldWork db lease) .failed
      auditEvents := audits } := by
  unfold failHeldWork at h
  cases hw : heldWork db lease with
  | none =>
    rw [hw] at h
    obtain rfl := Except.ok.inj h
    exact ⟨by simp, db.auditEvents, rfl⟩
  | some =>
    rw [hw] at h
    obtain ⟨hm, rfl⟩ := transitionWork_eq_ok.1 h
    refine ⟨?_, _, rfl⟩
    intro v hv
    rwa [← some.inj hv]

/-- What a recovery has checked, and what it writes. -/
theorem recover_eq_ok (h : recover rt now db companyId runId actorId ids = .ok db') :
    ∃ lease, lease ∈ db.leases ∧ lease.companyId = companyId ∧ lease.runId = runId ∧ lease.state.active = true ∧
      lease.expiresAt ≤ now ∧
      (∀ r ∈ db.reservations, r.executionId = lease.executionId → r.state = .reserved) ∧
      (∃ run, db.agentRuns.get runId = some run ∧ run.companyId = companyId) ∧
      (∀ w, heldWork db lease = some w → w.mayBecome .failed = true) ∧
      ∃ f : AgentRun → AgentRun, ∃ hf : ∀ r, (f r).runId = r.runId, ∃ artifacts audits,
      (∀ r, (f r).companyId = r.companyId ∧ (f r).agentId = r.agentId) ∧
      (∀ r, db.agentRuns.get runId = some r → (f r).status ≠ .running) ∧
      db' = { db with
        leases := db.leases.update (fun l => l.executionId = lease.executionId)
          (fun l => { l with state := .failed }) (fun _ => rfl)
        reservations := db.reservations.update (fun r => r.executionId = lease.executionId)
          (fun r => { r with state := .settled }) (fun _ => rfl)
        budgetUsage := db.budgetUsage ++ (db.reservationsOf lease.executionId).map
          (chargeFor now lease.resumed (recoveryTicket db lease) (db.reservedCeiling lease.executionId) true true)
        agentRuns := db.agentRuns.update (fun r => r.runId = runId) f hf
        workItems := movedWorkItems now db.workItems (heldWork db lease) .failed
        artifacts := artifacts
        auditEvents := audits } := by
  simp only [recover, eq_ok] at h
  obtain ⟨lease, hls, -, ⟨ha, he⟩, db₂, hs, db₃, hrn, db₄, hw, rfl⟩ := h
  obtain ⟨hm, hc, rfl⟩ := Db.mem_of_leaseOfRun hls
  obtain ⟨lease', run, hl', -, -, hrs, hg, hrc, rfl⟩ := settle_eq_ok.1 hs
  -- the lease the settlement finds is the one recovery resumed
  obtain rfl : lease' = lease.resumed := by
    change (db.leases.update (fun l => l.executionId = lease.executionId) ExecutionLease.resumed
      ExecutionLease.resumed_executionId).get lease.executionId = some lease' at hl'
    rw [get_update, Table.get_of_mem hm] at hl'
    simpa [eq_comm] using hl'
  obtain ⟨f, hf, artifacts, audits, hk, hst, rfl⟩ := failAbandonedRun_eq_ok hrn
  obtain ⟨hma, audits', rfl⟩ := failHeldWork_eq_ok hw
  -- settling the cost and closing the run are two updates of one row
  let charge : AgentRun → AgentRun := fun r => { r with
    costUsd := db.reservedCeiling lease.executionId
    metadata := JsonObj.set r.metadata "cost_is_estimate" (.bool true) }
  have hch (r : AgentRun) (hr : db.agentRuns.get lease.runId = some r) :
      ((settledDb now (resumedDb db lease) lease.resumed (recoveryTicket db lease)
        (db.reservedCeiling lease.executionId) true true).agentRuns.get lease.runId) = some (charge r) := by
    change ((db.agentRuns.update (fun r => r.runId = lease.runId) charge (fun _ => rfl)).get lease.runId) = _
    rw [get_update, hr]
    simp [(get_eq_some.1 hr).2]
  refine ⟨lease, hm, hc, rfl, ha, he, hrs, ⟨run, hg, hrc.trans hc⟩, hma,
    fun r => f (charge r), fun r => hf (charge r), artifacts,
    audits' ++ [⟨companyId, "execution.reconciled", "execution", lease.resourceId, "operator", actorId, none, none⟩],
    fun r => hk (charge r), fun r hr => hst _ (hch r hr), ?_⟩
  have hcm : (db.agentRuns.update (fun r => r.runId = lease.runId) charge (fun _ => rfl)).update
      (fun r => r.runId = lease.runId) f hf =
      db.agentRuns.update (fun r => r.runId = lease.runId) (fun r => f (charge r)) (fun r => hf (charge r)) := by
    rw [update_update]
    intro r hr
    simpa using hr
  have hle : (db.leases.update (fun l => l.executionId = lease.executionId) ExecutionLease.resumed
      ExecutionLease.resumed_executionId).update (fun l => l.executionId = lease.executionId)
        (fun l => { l with state := .failed }) (fun _ => rfl) =
      db.leases.update (fun l => l.executionId = lease.executionId)
        (fun l => { l with state := .failed }) (fun _ => rfl) := by
    rw [update_update]
    · rfl
    · intro l hl
      exact hl
  rw [← hcm, ← hle]
  rfl

end WisdoverseCell.ControlPlane
