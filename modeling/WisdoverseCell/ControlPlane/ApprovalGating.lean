import WisdoverseCell.ControlPlane.Commits
import WisdoverseCell.ControlPlane.Recoverability

/-!
# Executions that need an approval consume one

A claim that needs an approval looks for an approved, unexpired one that carries its digest and has not been consumed,
and writes its execution id into it.  The id is never empty, so an approval that was consumed is never found again.
-/

namespace WisdoverseCell.ControlPlane

open List Option Table

variable {db db'' db' : Db} {p : ApprovalRequest} {req : ClaimRequest} {work : Option WorkItem} {call : WakeupCall}
  {a : Act} {agent : AgentRole} {intent : BoundIntent} {s t : Sys}

def ApprovalRequest.consumedBy (a : ApprovalRequest) : Option Json := a.metadata.lookup "consumed_execution_id"

structure Db.ConsumptionsSound (db : Db) : Prop where
  lease : ∀ a ∈ db.approvals, ∀ v, a.consumedBy = some v → ∃ l ∈ db.leases, v = .str l.executionId
  named : ∀ l ∈ db.leases, l.executionId ≠ ""

def Db.KeepsApprovals (db db' : Db) : Prop :=
  ∀ a ∈ db.approvals, ∃ a' ∈ db'.approvals, a'.approvalId = a.approvalId ∧
    (a.status ≠ .pending → a'.status = a.status) ∧ (∀ v, a.consumedBy = some v → a'.consumedBy = some v)

private theorem Db.KeepsApprovals.of_eq (h : db'.approvals = db.approvals) : db.KeepsApprovals db' :=
  fun a ha => ⟨a, h ▸ ha, rfl, fun _ => rfl, fun _ hv => hv⟩

private theorem Db.KeepsApprovals.trans (h : db.KeepsApprovals db') (h' : db'.KeepsApprovals db'') :
    db.KeepsApprovals db'' := by
  intro a ha
  obtain ⟨a', ha', hid, hs, hc⟩ := h a ha
  obtain ⟨a'', ha'', hid', hs', hc'⟩ := h' a' ha'
  refine ⟨a'', ha'', hid'.trans hid, fun hr => ?_, fun v hv => hc' v (hc v hv)⟩
  have hk := hs hr
  exact (hs' (by rw [hk]; exact hr)).trans hk

/-! ### Commits -/

/-- What every commit does: approvals are kept, no execution gets a lease and no approval is consumed. -/
structure Db.ConsumesNone (db db' : Db) : Prop where
  keeps : db.KeepsApprovals db'
  executions : SameExecutions db.leases db'.leases
  consumed : ∀ a' ∈ db'.approvals, ∀ v, a'.consumedBy = some v →
    ∃ a ∈ db.approvals, a.approvalId = a'.approvalId ∧ a.consumedBy = some v

private theorem Db.ConsumesNone.of_eq (h : db'.approvals = db.approvals) (hl : SameExecutions db.leases db'.leases) :
    db.ConsumesNone db' :=
  ⟨.of_eq h, hl, fun a' ha' _ hv => ⟨a', h ▸ ha', rfl, hv⟩⟩

private theorem Db.ConsumesNone.trans (h : db.ConsumesNone db') (h' : db'.ConsumesNone db'') :
    db.ConsumesNone db'' := by
  refine ⟨h.keeps.trans h'.keeps, fun id => (h.executions id).trans (h'.executions id), fun a'' ha'' v hv => ?_⟩
  obtain ⟨a', ha', hid', hv'⟩ := h'.consumed a'' ha'' v hv
  obtain ⟨a, ha, hid, hv⟩ := h.consumed a' ha' v hv'
  exact ⟨a, ha, hid.trans hid', hv⟩

section

variable {rt : Runtime} {clock : Time} {db db' : Db}

private theorem consumesNone_of_ask {approvals} (h : AsksApproval db.approvals approvals) :
    db.ConsumesNone { db with approvals := approvals } := by
  rcases h with rfl | ⟨a, -, hfresh, hi⟩
  · exact .of_eq rfl (fun _ => Iff.rfl)
  · refine ⟨fun b hb => ⟨b, (mem_insert hi).2 (.inl hb), rfl, fun _ => rfl, fun _ hv => hv⟩, fun _ => Iff.rfl,
      fun b hb v hv => ?_⟩
    rcases (mem_insert hi).1 hb with ho | rfl
    · exact ⟨b, ho, rfl, hv⟩
    · exact absurd (hv.symm.trans (JsonObj.has_eq_false.1 hfresh)) (by simp)

private theorem consumesNone_of_resolve {approvalId resolvedBy status}
    (h : resolveApproval clock db approvalId status resolvedBy = some db') : db.ConsumesNone db' := by
  unfold resolveApproval at h
  split at h
  · rename_i a ha
    obtain ⟨hp, h⟩ := ite_none_right_eq_some.1 h
    cases h
    refine ⟨fun b hb => ⟨_, update_mem (by intro; rfl) hb, ?_⟩, fun _ => Iff.rfl, fun b hb v hv => ?_⟩
    · split
      · rename_i hid
        -- the approval that is written was pending
        obtain rfl : b = a := some.inj ((Table.get_of_mem hb).symm.trans (of_decide_eq_true hid ▸ ha))
        exact ⟨rfl, fun hr => absurd hp hr, fun _ hv => hv⟩
      · exact ⟨rfl, fun _ => rfl, fun _ hv => hv⟩
    · obtain ⟨b₀, hb₀, rfl⟩ := of_mem_update (by intro; rfl) hb
      refine ⟨b₀, hb₀, ?_⟩
      split at hv
      · rename_i hid
        rw [if_pos hid]
        exact ⟨rfl, hv⟩
      · rename_i hid
        rw [if_neg hid]
        exact ⟨rfl, hv⟩
  · cases h

private theorem Commit.consumesNone (h : Commit rt clock db db') : db.ConsumesNone db' := by
  cases h with
  | ledger _ _ leases _ _ _ _ hl => exact .of_eq rfl hl
  | cost | move | createArtifact => exact .of_eq rfl (fun _ => Iff.rfl)
  | close h =>
    obtain ⟨-, artifacts, -, audits, rfl, -⟩ := closeAgentWakeupRun_eq_ok.1 h
    exact .of_eq rfl (fun _ => Iff.rfl)
  | update _ h =>
    obtain ⟨w, -, -, -, -, -, rfl⟩ := updateWorkItemStatusWithAudit_eq_ok.1 h
    exact .of_eq rfl (fun _ => Iff.rfl)
  | review h =>
    obtain ⟨acceptances, audits, rfl⟩ := review_eq_ok h
    exact .of_eq rfl (fun _ => Iff.rfl)
  | ask h => exact consumesNone_of_ask h
  | resolve h => exact consumesNone_of_resolve h
  | createWorkItem h =>
    obtain ⟨-, h⟩ := ite_none_right_eq_some.1 h
    obtain ⟨items, -, rfl⟩ := map_eq_some_iff.1 h
    exact .of_eq rfl (fun _ => Iff.rfl)

private theorem Commits.consumesNone (h : Commits rt clock db db') : db.ConsumesNone db' :=
  h.relates (fun _ => .of_eq rfl (fun _ => Iff.rfl)) (fun _ _ _ => .trans) (fun _ _ => Commit.consumesNone)

private theorem Db.ConsumesNone.sound (h : db.ConsumesNone db') (hs : db.ConsumptionsSound) :
    db'.ConsumptionsSound := by
  constructor
  · intro a' ha' v hv
    obtain ⟨a, ha, -, hv⟩ := h.consumed a' ha' v hv
    obtain ⟨l, hl, rfl⟩ := hs.lease a ha v hv
    obtain ⟨l', hl', hid⟩ := (h.executions l.executionId).1 ⟨l, hl, rfl⟩
    exact ⟨l', hl', by rw [hid]⟩
  · intro l' hl'
    obtain ⟨l, hl, hid⟩ := (h.executions l'.executionId).2 ⟨l', hl', rfl⟩
    rw [← hid]
    exact hs.named l hl

end

/-! ### Claims -/

def Db.NeedsApproval (db : Db) (agent : AgentRole) (call : WakeupCall) : Prop :=
  (∃ role, db.agentRoles.get (agent.companyId, agent.agentId) = some role ∧
      role.escalationPolicy.lookup "approval_required" = some (.bool true)) ∨
    ∃ id w, call.claimRequest.work = some id ∧ db.workItems.get id = some w ∧ w.approvalRequired = true

structure ApprovalRequest.Grants (now : Time) (agent : AgentRole) (l : ExecutionLease) (p : ApprovalRequest) :
    Prop where
  company : p.companyId = l.companyId
  agent : p.sourceAgentId = agent.agentId
  digest : p.metadata.lookup "execution_intent_hash" = some (.str l.intentHash)
  approved : p.status = .approved
  unexpired : ∃ e, p.expiresAt = some e ∧ now < e
  unconsumed : p.consumedBy = none

section

variable {rt : Runtime} {now clock : Time} {db db' : Db}

private theorem consumedBy_of_usable (hs : db.ConsumptionsSound) (hp : p ∈ db.approvals) (h : p.usable = true) :
    p.consumedBy = none := by
  cases hv : p.consumedBy with
  | none => rfl
  | some v =>
    obtain ⟨l, hl, rfl⟩ := hs.lease p hp v hv
    have ht : (Json.str l.executionId).truthy = true := by simp [Json.truthy, hs.named l hl]
    unfold ApprovalRequest.consumedBy at hv
    simp [ApprovalRequest.usable, hv, ht] at h

private theorem claimApproval_eq_some (h : claimApproval now clock db agent req intent work = .ok (some p)) :
    p ∈ db.approvals ∧ p.companyId = agent.companyId ∧ p.sourceAgentId = agent.agentId ∧
      p.metadata.lookup "execution_intent_hash" = some (.str intent.digest) ∧ (∃ e, p.expiresAt = some e ∧ now < e) ∧
      p.usable = true := by
  unfold claimApproval at h
  split at h
  · split at h
    · rename_i q hq
      obtain rfl := some.inj (Except.ok.inj h)
      obtain ⟨hm, hv⟩ := List.mem_filter.1 (mem_of_find?_eq_some hq)
      obtain ⟨hc, ha, hd, hex⟩ := of_decide_eq_true hv
      obtain ⟨e, he, hlt⟩ := (any_eq_true _ _).1 hex
      exact ⟨hm, hc, ha, hd, ⟨e, he, of_decide_eq_true hlt⟩, find?_some hq⟩
    · cases h
  · cases h

private theorem claimApproval_eq_none (h : claimApproval now clock db agent req intent work = .ok none) :
    requiresApproval intent.current work = false := by
  unfold claimApproval at h
  split at h
  · split at h <;> cases h
  · rename_i hn
    exact Bool.eq_false_of_not_eq_true hn

private theorem requiresApproval_of_needs {approved policies}
    (hc : ClaimChecks rt now clock db agent call.claimRequest intent work approved policies)
    (h : db.NeedsApproval agent call) : requiresApproval intent.current work = true := by
  unfold requiresApproval
  rcases h with ⟨role, hr, ha⟩ | ⟨id, w, hid, hw, ha⟩
  · obtain ⟨-, hcr, -⟩ := bindIntent_eq_ok hc.bound
    rw [some.inj (hcr.symm.trans hr), ha]
    simp
  · cases work with
    | none => exact absurd (hid.symm.trans (claimWork_eq_none hc.work_eq)) (by simp)
    | some =>
      obtain ⟨hrq, hg, -⟩ := claimWork_eq_some hc.work_eq
      rw [some.inj (hrq.symm.trans hid), hw] at hg
      cases hg
      simp [ha]

structure Granted (now : Time) (agent : AgentRole) (call : WakeupCall) (db : Db) (l : ExecutionLease) (db' : Db) :
    Prop where
  lease : db.leases.insert l = some db'.leases
  company : l.companyId = agent.companyId
  named : l.executionId ≠ ""
  approvals : (db'.approvals = db.approvals ∧ ¬ db.NeedsApproval agent call) ∨
    ∃ p ∈ db.approvals, p.Grants now agent l ∧ db'.approvals = db.approvals.update
      (fun b => b.approvalId = p.approvalId) (fun b => { b with
        metadata := JsonObj.set b.metadata "consumed_execution_id" (.str l.executionId)
        runId := some l.runId }) (fun _ => rfl)

private theorem startWakeup_granted (hh : ∀ x, rt.sha256 x ≠ "") (hs : db.ConsumptionsSound) {ticket}
    (h : startWakeup rt now clock db agent call = .running ticket db') : ∃ l, Granted now agent call db l db' := by
  obtain ⟨db₁, hc, hst⟩ := startWakeup_eq_running h
  obtain ⟨intent, work, approved, policies, hch, -, leases, reservations, audits, hl, -, rfl⟩ := claim_eq_fresh hc
  obtain ⟨runs, -, rfl⟩ := map_eq_some_iff.1 hst
  refine ⟨newLease now agent call.claimRequest intent, hl, rfl, ?_, ?_⟩
  · have hid := (bindIntent_eq_ok hch.bound).2.2.2.2.1
    change intent.executionId ≠ ""
    rw [hid]
    exact hh _
  · cases approved with
    | none =>
      refine .inl ⟨rfl, fun hn => ?_⟩
      have hr := requiresApproval_of_needs hch hn
      rw [claimApproval_eq_none hch.approved_eq] at hr
      cases hr
    | some p =>
      obtain ⟨hp, hcm, ha, hd, he, hu⟩ := claimApproval_eq_some hch.approved_eq
      have hsta : p.status = .approved := by
        unfold ApprovalRequest.usable at hu
        exact of_decide_eq_true (Bool.and_eq_true_iff.1 hu).1
      exact .inr ⟨p, hp, ⟨hcm, ha, hd, hsta, he, consumedBy_of_usable hs hp hu⟩, rfl⟩

variable {agent : AgentRole} {call : WakeupCall} {l : ExecutionLease}

private theorem Granted.keeps (h : Granted now agent call db l db') : db.KeepsApprovals db' := by
  rcases h.approvals with ⟨heq, -⟩ | ⟨p, hp, hg, heq⟩
  · exact .of_eq heq
  · intro a ha
    refine ⟨_, heq ▸ update_mem (by intro; rfl) ha, ?_⟩
    split
    · rename_i hid
      obtain rfl := eq_of_key_eq ha hp (of_decide_eq_true hid)
      refine ⟨rfl, fun _ => rfl, fun v hv => ?_⟩
      exact absurd (hv.symm.trans hg.unconsumed) (by simp)
    · exact ⟨rfl, fun _ => rfl, fun _ hv => hv⟩

private theorem Granted.consumed (h : Granted now agent call db l db') {a'} (ha' : a' ∈ db'.approvals) {v}
    (hv : a'.consumedBy = some v) :
    (∃ a ∈ db.approvals, a.approvalId = a'.approvalId ∧ a.consumedBy = some v) ∨ v = .str l.executionId := by
  rcases h.approvals with ⟨heq, -⟩ | ⟨p, hp, -, heq⟩
  · exact .inl ⟨a', heq ▸ ha', rfl, hv⟩
  · rw [heq] at ha'
    obtain ⟨a, ha, rfl⟩ := of_mem_update (by intro; rfl) ha'
    split at hv
    · refine .inr ?_
      exact some.inj (hv.symm.trans (JsonObj.lookup_set_self a.metadata "consumed_execution_id" _))
    · rename_i hid
      rw [if_neg hid]
      exact .inl ⟨a, ha, rfl, hv⟩

private theorem Granted.sound (h : Granted now agent call db l db') (hs : db.ConsumptionsSound) :
    db'.ConsumptionsSound := by
  constructor
  · intro a' ha' v hv
    rcases h.consumed ha' hv with ⟨a, ha, -, hv⟩ | rfl
    · obtain ⟨k, hk, rfl⟩ := hs.lease a ha v hv
      exact ⟨k, (mem_insert h.lease).2 (.inl hk), rfl⟩
    · exact ⟨l, (mem_insert h.lease).2 (.inr rfl), rfl⟩
  · intro k hk
    rcases (mem_insert h.lease).1 hk with ho | rfl
    · exact hs.named k ho
    · exact h.named

end

/-! ### Runs -/

structure Db.ConsumedOnce (db : Db) (executionId approvalId : String) : Prop where
  consumed : ∃ q ∈ db.approvals, q.approvalId = approvalId ∧ q.consumedBy = some (.str executionId)
  only : ∀ q ∈ db.approvals, q.consumedBy = some (.str executionId) → q.approvalId = approvalId

section

variable {rt : Runtime} {now : Time} {agent : AgentRole} {call : WakeupCall} {l : ExecutionLease} {db db' : Db}
  {executionId approvalId : String}

private theorem Db.KeepsApprovals.consumed (h : db.KeepsApprovals db')
    (hq : ∃ q ∈ db.approvals, q.approvalId = approvalId ∧ q.consumedBy = some (.str executionId)) :
    ∃ q ∈ db'.approvals, q.approvalId = approvalId ∧ q.consumedBy = some (.str executionId) := by
  obtain ⟨q, hq, hid, hv⟩ := hq
  obtain ⟨q', hq', hid', -, hc⟩ := h q hq
  exact ⟨q', hq', hid'.trans hid, hc _ hv⟩

private theorem Granted.new (h : Granted now agent call db l db') {k} (hk : k ∈ db.leases) :
    k.executionId ≠ l.executionId :=
  (insert_eq_some h.lease).2 k hk

private theorem Granted.consumedOnce (h : Granted now agent call db l db') (hs : db.ConsumptionsSound)
    (hn : db.NeedsApproval agent call) :
    ∃ p ∈ db.approvals, p.Grants now agent l ∧ db'.ConsumedOnce l.executionId p.approvalId := by
  rcases h.approvals with ⟨-, hnt⟩ | ⟨p, hp, hg, heq⟩
  · exact absurd hn hnt
  · refine ⟨p, hp, hg, ⟨_, heq ▸ update_mem (by intro; rfl) hp, ?_⟩, fun q hq hv => ?_⟩
    · simp [ApprovalRequest.consumedBy, JsonObj.lookup_set_self]
    · rw [heq] at hq
      obtain ⟨q₀, hq₀, rfl⟩ := of_mem_update (by intro; rfl) hq
      split at hv
      · rename_i hid
        rw [if_pos hid]
        exact of_decide_eq_true hid
      · obtain ⟨k, hk, hnm⟩ := hs.lease q₀ hq₀ _ hv
        exact absurd (Json.str.inj hnm).symm (h.new hk)

private theorem Granted.keeps_consumedOnce (h : Granted now agent call db l db')
    (hl : ∃ k ∈ db.leases, k.executionId = executionId)
    (ho : db.ConsumedOnce executionId approvalId) : db'.ConsumedOnce executionId approvalId := by
  refine ⟨h.keeps.consumed ho.consumed, fun q' hq' hv => ?_⟩
  rcases h.consumed hq' hv with ⟨q, hq, hid, hv⟩ | hn
  · exact hid ▸ ho.only q hq hv
  · obtain ⟨k, hk, rfl⟩ := hl
    exact absurd (Json.str.inj hn) (h.new hk)

private theorem Db.ConsumesNone.keeps_consumedOnce (h : db.ConsumesNone db')
    (ho : db.ConsumedOnce executionId approvalId) :
    db'.ConsumedOnce executionId approvalId := by
  refine ⟨h.keeps.consumed ho.consumed, fun q' hq' hv => ?_⟩
  obtain ⟨q, hq, hid, hv⟩ := h.consumed q' hq' _ hv
  exact hid ▸ ho.only q hq hv

private theorem step_granted (hh : ∀ x, rt.sha256 x ≠ "") (hs : s.db.ConsumptionsSound) (h : step rt s a = some t) :
    (∃ sampled agent call attempt l, a = .wake sampled agent call attempt ∧ Granted sampled agent call s.db l t.db) ∨
      s.db.ConsumesNone t.db := by
  rcases step_commits h with ⟨sampled, agent, call, attempt, ticket, ha, hst⟩ | ⟨u, -, hu⟩ | hc
  · obtain ⟨l, hg⟩ := startWakeup_granted hh hs hst
    exact .inl ⟨sampled, agent, call, attempt, l, ha, hg⟩
  · obtain ⟨w, -, -, -, -, -, hdb⟩ := updateWorkItemStatusWithAudit_eq_ok.1 hu
    exact .inr (.of_eq (by rw [hdb]; rfl) (by rw [hdb]; exact fun _ => Iff.rfl))
  · exact .inr hc.consumesNone

private theorem step_consumptionsSound (hh : ∀ x, rt.sha256 x ≠ "") (hs : s.db.ConsumptionsSound)
    (h : step rt s a = some t) :
    t.db.ConsumptionsSound := by
  rcases step_granted hh hs h with ⟨sampled, agent, call, attempt, l, -, hg⟩ | hn
  · exact hg.sound hs
  · exact hn.sound hs

private theorem run_keepsApprovals (hh : ∀ x, rt.sha256 x ≠ "") (hs : s.db.ConsumptionsSound)
    (h : Run (Steps (step rt)) Always s t) : t.db.ConsumptionsSound ∧ s.db.KeepsApprovals t.db := by
  refine h.invariant (I := fun t => t.db.ConsumptionsSound ∧ s.db.KeepsApprovals t.db) ⟨hs, .of_eq rfl⟩ ?_
  rintro t a u ⟨hs, hk⟩ - hst
  refine ⟨step_consumptionsSound hh hs hst, hk.trans ?_⟩
  rcases step_granted hh hs hst with ⟨sampled, agent, call, attempt, l, -, hg⟩ | hn
  · exact hg.keeps
  · exact hn.keeps

private theorem run_consumedOnce (hh : ∀ x, rt.sha256 x ≠ "") (hs : s.db.ConsumptionsSound)
    (hl : ∃ k ∈ s.db.leases, k.executionId = executionId) (ho : s.db.ConsumedOnce executionId approvalId)
    (h : Run (Steps (step rt)) Always s t) : t.db.ConsumedOnce executionId approvalId := by
  have hI := h.invariant (I := fun t => t.db.ConsumptionsSound ∧ (∃ k ∈ t.db.leases, k.executionId = executionId) ∧
    t.db.ConsumedOnce executionId approvalId) ⟨hs, hl, ho⟩ ?_
  · exact hI.2.2
  · rintro t a u ⟨hs, hl, ho⟩ - hst
    refine ⟨step_consumptionsSound hh hs hst, ?_⟩
    rcases step_granted hh hs hst with ⟨sampled, agent, call, attempt, l, -, hg⟩ | hn
    · obtain ⟨k, hk, hid⟩ := hl
      exact ⟨⟨k, (mem_insert hg.lease).2 (.inl hk), hid⟩, hg.keeps_consumedOnce ⟨k, hk, hid⟩ ho⟩
    · exact ⟨(hn.executions executionId).1 hl, hn.keeps_consumedOnce ho⟩

end

/-- Over every run, a lease is new only by a wakeup; if the wakeup needs an approval, the lease has consumed, once and
for all later states, exactly one, and that one was of the same company and agent, carried the lease's digest and was
approved and unexpired at the time the wakeup sampled.  Approvals keep their decision and the execution that consumed
them. -/
theorem approval_gates_lease {rt : Runtime} {s t u v : Sys} {a : Act} (hhash : ∀ x, rt.sha256 x ≠ "")
    (hstart : s.db.ConsumptionsSound) (hrun : Run (Steps (step rt)) Always s t) (hstep : step rt t a = some u)
    (hlater : Run (Steps (step rt)) Always u v) :
    (∀ l ∈ u.db.leases, t.db.leases.get l.executionId = none →
      ∃ sampled agent call attempt, a = .wake sampled agent call attempt ∧ l.companyId = agent.companyId ∧
        (t.db.NeedsApproval agent call → ∃ p ∈ t.db.approvals, p.Grants sampled agent l ∧
          v.db.ConsumedOnce l.executionId p.approvalId)) ∧ t.db.KeepsApprovals v.db := by
  obtain ⟨hs, -⟩ := run_keepsApprovals hhash hstart hrun
  obtain ⟨-, hkp⟩ := run_keepsApprovals hhash hs ((Run.single trivial hstep).trans hlater)
  refine ⟨fun l hl hnw => ?_, hkp⟩
  have hfresh := get_eq_none.1 hnw
  rcases step_granted hhash hs hstep with ⟨sampled, agent, call, attempt, l', ha, hg⟩ | hnn
  · -- the lease of the claim is the only one that was not there
    obtain rfl : l = l' := by
      rcases (mem_insert hg.lease).1 hl with hol | heq
      · exact absurd rfl (hfresh l hol)
      · exact heq
    refine ⟨sampled, agent, call, attempt, ha, hg.company, fun hn => ?_⟩
    obtain ⟨p, hp, hgr, ho⟩ := hg.consumedOnce hs hn
    exact ⟨p, hp, hgr, run_consumedOnce hhash (hg.sound hs) ⟨l, hl, rfl⟩ ho hlater⟩
  · obtain ⟨k, hk, hid⟩ := (hnn.executions l.executionId).2 ⟨l, hl, rfl⟩
    exact absurd hid (hfresh k hk)

def taggedRuntime : Runtime := { plainRuntime with sha256 := fun x => "#" ++ x }

private theorem taggedRuntime_sha256_ne (x) : taggedRuntime.sha256 x ≠ "" := by
  intro h
  have := congrArg String.toList h
  simp [taggedRuntime] at this

def reviewedTaskSys : Sys :=
  ⟨{ oneAgentDb with workItems := ⟨[{ codingTask with approvalRequired := true }], nodup_singleton _⟩ }, 0, []⟩

def taskWakeup : Act := .wake 0 httpAgent { keyedCall "k1" with workItemId := some "w" } none

/-- The first wakeup asks for the approval that the second one consumes. -/
theorem approval_gates_lease_reviewed :
    ∃ t u, Run (Steps (step taggedRuntime)) Always reviewedTaskSys t ∧ step taggedRuntime t taskWakeup = some u ∧
      ∃ l ∈ u.db.leases, ∃ p ∈ t.db.approvals, p.Grants 0 httpAgent l ∧
        u.db.ConsumedOnce l.executionId p.approvalId := by
  refine exists_run_step_with [taskWakeup, .resolveApproval "approval-k1" .approved "operator"]
    (fun t u => (∃ w, t.db.workItems.get "w" = some w ∧ w.approvalRequired = true) ∧
      ∃ l ∈ u.db.leases, t.db.leases.get l.executionId = none) (by decide +kernel) (fun t u hrn hst hu => ?_)
  obtain ⟨⟨w, hw, hr⟩, l, hl, hfresh⟩ := hu
  have hs : reviewedTaskSys.db.ConsumptionsSound :=
    ⟨fun a ha => absurd ha (not_mem_empty a), fun k hk => absurd hk (not_mem_empty k)⟩
  obtain ⟨hg, -⟩ := approval_gates_lease taggedRuntime_sha256_ne hs hrn hst .refl
  obtain ⟨sampled, agent, call, attempt, hac, -, hgn⟩ := hg l hl hfresh
  obtain ⟨rfl, rfl, rfl, rfl⟩ := Act.wake.inj hac
  exact ⟨l, hl, hgn (.inr ⟨"w", w, by decide, hw, hr⟩)⟩

end WisdoverseCell.ControlPlane
