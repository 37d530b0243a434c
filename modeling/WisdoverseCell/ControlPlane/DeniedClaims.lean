import WisdoverseCell.ControlPlane.ApprovalGating

/-!
# Denied claims

`claim` commits its session also when it denies: besides audit rows nothing, the mark on an expired lease that holds the
key or the resource of the claim, or the request for an approval of the bound intent, with the work item waiting for it.
-/

namespace WisdoverseCell.ControlPlane

variable {rt : Runtime} {now clock : Time} {db db' : Db} {agent : AgentRole} {req : ClaimRequest} {d : ExecutionDenied}

private theorem DeniedEffect.executions (h : DeniedEffect rt now clock db agent req db') :
    db'.leases.rows.map ExecutionLease.executionId = db.leases.rows.map ExecutionLease.executionId := by
  cases h with
  | nothing => rfl
  | abandoned lease =>
    change (db.leases.rows.map _).map ExecutionLease.executionId = _
    rw [List.map_map]
    refine List.map_congr_left (fun l _ => ?_)
    by_cases hl : l.executionId = lease.executionId <;> simp [hl]
  | awaiting => rfl

private theorem DeniedEffect.approvals_unconsumed (h : DeniedEffect rt now clock db agent req db') :
    ∀ a ∈ db'.approvals, a ∈ db.approvals ∨
      (a.status = .pending ∧ JsonObj.has a.metadata "consumed_execution_id" = false) := by
  intro a ha
  cases h with
  | nothing => exact .inl ha
  | abandoned => exact .inl ha
  | awaiting intent approvals work audits hb hw hf hak =>
    split at hak
    · exact .inl (hak ▸ ha)
    · rcases (Table.mem_insert hak).1 ha with ho | rfl
      · exact .inl ho
      · exact .inr ⟨rfl, rfl⟩

/-- A denied claim has committed one of the three effects, and no lease, reservation, usage row, run or consumption of
an approval. -/
theorem denied_claim_atomic (h : claim rt now clock db agent req = .error (.denied d db')) :
    DeniedEffect rt now clock db agent req db' ∧
      db'.leases.rows.map ExecutionLease.executionId = db.leases.rows.map ExecutionLease.executionId ∧
      db'.reservations = db.reservations ∧ db'.budgetUsage = db.budgetUsage ∧ db'.agentRuns = db.agentRuns ∧
      ∀ a ∈ db'.approvals, a ∈ db.approvals ∨
        (a.status = .pending ∧ JsonObj.has a.metadata "consumed_execution_id" = false) := by
  have he := claim_deniedEffect h
  refine ⟨he, he.executions, ?_, ?_, ?_, he.approvals_unconsumed⟩ <;> cases he <;> rfl

def deniedDb : Except ClaimRefusal ClaimGrant → Option Db
  | .error (.denied _ db) => some db
  | .error (.failed _) | .ok _ => none

private theorem deniedDb_eq_some {result} (h : deniedDb result = some db) : ∃ d, result = .error (.denied d db) := by
  unfold deniedDb at h
  split at h
  · rename_i d db₁
    exact ⟨d, by rw [Option.some.inj h]⟩
  · cases h
  · cases h

/-- A claim that waits for an approval is denied. -/
theorem denied_claim_atomic_reviewed : ∃ d db', claim taggedRuntime 0 0 reviewedTaskSys.db httpAgent
        { keyedCall "k1" with workItemId := some "w" }.claimRequest = .error (.denied d db') ∧
      db'.approvals.rows.length = 1 ∧ (db'.workItems.get "w").any (fun w => w.status = .awaitingApproval) = true ∧
      db'.leases.rows.map ExecutionLease.executionId = [] := by
  have he : (deniedDb (claim taggedRuntime 0 0 reviewedTaskSys.db httpAgent
      { keyedCall "k1" with workItemId := some "w" }.claimRequest)).any (fun db' => db'.approvals.rows.length = 1 ∧
        (db'.workItems.get "w").any (fun w => w.status = .awaitingApproval) = true) = true := by
    decide +kernel
  obtain ⟨db', hdb, ht⟩ := (Option.any_eq_true _ _).1 he
  obtain ⟨d, hc⟩ := deniedDb_eq_some hdb
  obtain ⟨hl, hw⟩ := of_decide_eq_true ht
  exact ⟨d, db', hc, hl, hw, (denied_claim_atomic hc).2.1⟩

end WisdoverseCell.ControlPlane
