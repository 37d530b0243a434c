import WisdoverseCell.ControlPlane.Dispatch

/-!
# Every step is a sequence of writes

Each transaction of the faithful model is matched with writes of the journal: a step of the dispatch system is a
sequence of writes that its action causes (`step_writes`).  The lease a ticket was issued for keeps its owner, run and
reserved amounts (`Sys.TicketsOk`).
-/

namespace WisdoverseCell.ControlPlane

open List Option Table

variable {db db' : Db} {req : ClaimRequest} {now sampled : Time} {call : WakeupCall} {ticket : ExecutionTicket}
  {actorId companyId : String} {attempt : Option Attempt} {ctx : WakeupContext} {inputEvent : JsonObj} {h : HeldWakeup}
  {i : Nat} {agent : AgentRole} {rt : Runtime} {ids : EvidenceIds} {s t : Sys} {a : Act}

/-! ### Transactions as writes -/

private theorem unheld_of_activeLease {resource} (h : db.activeLease companyId resource = none) :
    db.Unheld companyId resource :=
  Db.activeLease_eq_none.1 h

private theorem mem_selectedPolicies {current p} (h : p ∈ selectedPolicies db agent current req) :
    p ∈ db.budgetPolicies := by
  unfold selectedPolicies at h
  rw [List.mem_filter, mem_insertionSort, List.mem_filter] at h
  exact h.1.1

private theorem claimBudgets_eq_ok {intent policies} (h : claimBudgets rt now db agent req intent = .ok policies) :
    policies = selectedPolicies db agent intent.current req ∧ ∀ p ∈ policies, p ∈ db.budgetPolicies ∧
      db.consumed p.budgetId (periodStart p.period now) + db.reserved p.budgetId + intent.ceilingUsd ≤ p.limitUsd := by
  simp only [claimBudgets, eq_ok, checkEach_eq_ok] at h
  obtain ⟨-, -, -, -, -, hc, rfl⟩ := h
  refine ⟨rfl, fun p hp => ⟨mem_selectedPolicies hp, ?_⟩⟩
  have hp' := hc p hp
  simp only [checkPolicy, eq_ok] at hp'
  obtain ⟨-, -, hf⟩ := hp'
  exact hf

private theorem startWakeup_effect {clock} (hnw : now ≤ clock)
    (h : startWakeup rt now clock db agent call = .running ticket db') :
    ∃ lease, Effect ⟨db, clock⟩ (.claim lease ticket.ceilingUsd) ⟨db', clock⟩ ∧ lease ∈ db'.leases ∧
      lease.executionId = ticket.executionId ∧ lease.ownerId = ticket.ownerId ∧ lease.runId = ticket.runId ∧
      ∀ r ∈ db'.reservations, r ∈ db.reservations ∨ r.amountUsd = ticket.ceilingUsd := by
  obtain ⟨db₁, hc, hs⟩ := startWakeup_eq_running h
  obtain ⟨intent, work, approved, policies, hch, rfl, leases, reservations, audits, hl, hr, rfl⟩ := claim_eq_fresh hc
  obtain ⟨runs, hrn, rfl⟩ := map_eq_some_iff.1 hs
  obtain ⟨-, hrl, -, -, -, hrs⟩ := bindIntent_eq_ok hch.bound
  obtain ⟨-, hf⟩ := claimBudgets_eq_ok hch.policies_eq
  refine ⟨newLease now agent call.claimRequest intent, .claim _ _ rfl (unheld_of_activeLease hch.free)
    hch.newRun hl hr ?_ ?_ hrn rfl rfl ?_ ?_ ?_, (mem_insert hl).2 (.inr rfl), rfl, rfl, rfl, ?_⟩
  · intro r hr
    obtain ⟨p, -, rfl⟩ := mem_map.1 hr
    exact ⟨rfl, rfl, rfl⟩
  · intro r hr
    obtain ⟨p, hp, rfl⟩ := mem_map.1 hr
    exact ⟨p, (hf p hp).1, rfl, now, hnw, (hf p hp).2⟩
  · change (db.agentRoles.get (agent.companyId, agent.agentId)).isSome = true
    rw [hrl]; rfl
  · intro w hw
    obtain ⟨hre, hg, hcm, -⟩ := hch.work_item hw
    exact ⟨hre, hg, hcm⟩
  · rintro rfl workItemId heq
    have hn := claimWork_eq_none hch.work_eq
    change intent.resource = workResource workItemId at heq
    rw [hrs, ClaimRequest.resource, hn] at heq
    exact workResource_ne_agentResource _ _ heq.symm
  · intro r hr'
    rcases (mem_insertAll hr).1 hr' with hr' | hr'
    · exact .inl hr'
    · obtain ⟨p, -, rfl⟩ := mem_map.1 hr'
      exact .inr rfl

section

variable {ok : Write → Prop} {rt : Runtime} {now clock : Time} {db db' : Db}

private theorem registry_writes {t} (hok : ok .registry) (approvals audits) :
    Writes ok ⟨db, t⟩ ⟨{ db with approvals := approvals, auditEvents := audits }, t⟩ :=
  Run.single hok (.registry db.companies db.agentRoles approvals db.artifacts audits (fun _ h => h))

private theorem denial_writes (hr : ok .registry) (hm : ok .moveWork) (ha : ∀ lease, ok (.abandon lease))
    (h : DenialWrites now clock db companyId db') : Writes ok ⟨db, clock⟩ ⟨db', clock⟩ := by
  cases h with
  | nothing audits => exact registry_writes hr db.approvals audits
  | abandoned lease hmm hrn _ audits =>
    exact Run.single (ha lease) (.abandon audits (get_of_mem hmm) hrn)
  | awaiting approvals work audits _ hw =>
    cases work with
    | none => exact registry_writes hr approvals audits
    | some w =>
      obtain ⟨hg, rfl, hf⟩ := hw w rfl
      refine (registry_writes hr approvals audits).trans (Run.single hm ?_)
      exact @Effect.moveWork { db with approvals := approvals, auditEvents := audits } clock w
        (fun v => { v with status := .awaitingApproval, updatedAt := clock }) (fun _ => rfl) (fun _ => rfl) hg
        (unheld_of_activeLease hf) audits

private theorem statusUpdate_writes {u} (hm : ok .moveWork)
    (h : updateWorkItemStatusWithAudit rt clock db u = .ok db') : Writes ok ⟨db, clock⟩ ⟨db', clock⟩ := by
  obtain ⟨w, hg, hc, -, hf, -, rfl⟩ := updateWorkItemStatusWithAudit_eq_ok.1 h
  have hid : w.workItemId = u.workItemId := (get_eq_some.1 hg).2
  refine Run.single hm ?_
  have he := @Effect.moveWork db clock w (fun w => w.withStatus u.status u.ownerAgentId u.ownerUserId clock)
    (fun w => w.withStatus_workItemId u.status u.ownerAgentId u.ownerUserId clock) (fun _ => rfl) (hid ▸ hg)
    (by rw [hc, hid]; exact unheld_of_activeLease hf)
    (db.auditEvents ++ [⟨u.companyId, "work_item.updated", "work_item", u.workItemId, "user", u.actorId, none,
      some u.workItemId⟩])
  rw [hid] at he
  exact he

private theorem recordFor_writes {answer} (hm : ok .moveWork)
    (h : recordFor rt clock db attempt actorId answer = .ok db') : Writes ok ⟨db, clock⟩ ⟨db', clock⟩ := by
  cases attempt with
  | none =>
    cases h
    exact .refl
  | some =>
    simp only [recordFor, recordAttempt] at h
    split at h
    · cases h
      exact .refl
    · exact statusUpdate_writes hm h

private theorem settle_writes {cost failed estimated} (hok : ∀ lease, lease.executionId = ticket.executionId →
      ok (.settle lease (db.reservationsOf lease.executionId) cost failed estimated))
    (h : settle clock db ticket cost failed estimated = .ok db') : Writes ok ⟨db, clock⟩ ⟨db', clock⟩ := by
  obtain ⟨lease, run, hl, -, hrn, hrs, -, -, rfl⟩ := settle_eq_ok.1 h
  obtain ⟨-, hid⟩ := get_eq_some.1 hl
  refine Run.single (hok lease hid) ?_
  have hef := @Effect.settle db clock lease cost failed estimated
    (chargeFor clock lease ticket cost failed estimated) (fun r => r.runId = ticket.runId)
    (fun r => { r with
      costUsd := cost
      metadata := JsonObj.set r.metadata "cost_is_estimate" (.bool estimated) }) (fun _ => rfl)
    (fun _ => ⟨rfl, rfl⟩) none db.artifacts db.auditEvents (hid ▸ hl) (by rw [hrn]; rfl)
    (fun r hr he => hrs r hr (he.trans hid))
    (fun r => ⟨rfl, rfl, by rw [hid]; rfl, rfl, rfl, rfl⟩) (by simp)
  rw [hid] at hef ⊢
  exact hef

private theorem markUncertain_writes (hok : ∀ lease, db.leases.get ticket.executionId = some lease → ok (.mark lease))
    (h : markUncertain clock db ticket = .ok db') : Writes ok ⟨db, clock⟩ ⟨db', clock⟩ := by
  obtain ⟨lease, audits, hl, -, rfl⟩ := markUncertain_eq_ok h
  obtain ⟨-, hid⟩ := get_eq_some.1 hl
  have he := @Effect.mark db clock lease audits (hid ▸ hl)
  rw [hid] at he
  exact Run.single (hok lease hl) he

private theorem closeRun_writes {c} (hok : ok .closeRun)
    (h : closeAgentWakeupRun rt clock db ctx inputEvent c ids = .ok db') : Writes ok ⟨db, clock⟩ ⟨db', clock⟩ := by
  obtain ⟨-, artifacts, -, audits, rfl, -⟩ := closeAgentWakeupRun_eq_ok.1 h
  exact Run.single hok (.closeRun _ (fun r => r.closed clock c (completionEvent ctx c ids.eventId)) _
    (fun _ => ⟨rfl, rfl⟩) artifacts audits)

private theorem recover_writes {runId}
    (hok : ∀ lease ∈ db.leases, ok (.settle lease (db.reservationsOf lease.executionId)
      (db.reservedCeiling lease.executionId) true true))
    (h : recover rt clock db companyId runId actorId ids = .ok db') : Writes ok ⟨db, clock⟩ ⟨db', clock⟩ := by
  obtain ⟨lease, hm, -, -, ha, -, hr, -, -, f, hf, artifacts, audits, hk, -, rfl⟩ := recover_eq_ok h
  refine Run.single (hok lease hm) ?_
  exact @Effect.settle db clock lease (db.reservedCeiling lease.executionId) true true
    (chargeFor clock lease.resumed (recoveryTicket db lease) (db.reservedCeiling lease.executionId) true true)
    (fun r => r.runId = runId) f hf hk (heldWork db lease) artifacts audits (get_of_mem hm) ha hr
    (fun _ => ⟨rfl, rfl, rfl, rfl, rfl, rfl⟩) (fun w hw => heldWork_eq_some.1 hw)

private theorem failAttempt_writes {category message} (hst : ∀ lease, lease.executionId = ticket.executionId →
      ok (.settle lease (db.reservationsOf lease.executionId) ticket.ceilingUsd true true)) (hcl : ok .closeRun)
    (h : failAttempt rt clock db ticket ctx inputEvent category message ids = .ok db') :
    Writes ok ⟨db, clock⟩ ⟨db', clock⟩ := by
  simp only [failAttempt, eq_ok] at h
  obtain ⟨db₁, hs, hc⟩ := h
  exact (settle_writes hst hs).trans (closeRun_writes hcl hc)

end

/-! ### What an action causes -/

def Act.marks (s : Sys) : Act → Option HeldWakeup
  | .markUncertain i => s.held[i]?
  | .finish i (.wakeupError e) _ => if e.errorCategory = "uncertain_effects" then s.held[i]? else none
  | _ => none

/-- How an action settles a lease: a runner with its ticket, reporting a cost or a failure, a direct call of
`settle`, or an operator's recovery. -/
inductive Settles (rt : Runtime) (s : Sys) (lease : ExecutionLease) : Act → ℚ≥0 → Bool → Bool → Prop
  | reported {i h output cost ids} (hheld : s.held[i]? = some h)
      (hid : lease.executionId = h.ticket.executionId) (hcost : reportedCost rt h.ticket output = .ok cost) :
      Settles rt s lease (.finish i (.output output) ids) cost (h.ticket.ceilingUsd < cost) (isEstimate output)
  | attempt {i h outcome ids} (hheld : s.held[i]? = some h) (hid : lease.executionId = h.ticket.executionId) :
      Settles rt s lease (.finish i outcome ids) h.ticket.ceilingUsd true true
  | direct {i h cost failed estimated} (hheld : s.held[i]? = some h) (hid : lease.executionId = h.ticket.executionId) :
      Settles rt s lease (.settle i cost failed estimated) cost failed estimated
  | recovery {companyId runId actorId ids} :
      Settles rt s lease (.recover companyId runId actorId ids) (s.db.reservedCeiling lease.executionId) true true

def Causes (rt : Runtime) (s : Sys) (a : Act) : Write → Prop
  | .mark lease => ∃ h, a.marks s = some h ∧ s.db.leases.get h.ticket.executionId = some lease
  | .settle lease rows cost failed estimated =>
    rows = s.db.reservationsOf lease.executionId ∧ Settles rt s lease a cost failed estimated
  | .recordUsage usage => a = .recordUsage usage
  | .editPolicy budgetId limit => ∃ status modelAllowlist, a = .updateBudgetPolicy budgetId limit status modelAllowlist
  | .addPolicy policy => a = .createBudgetPolicy policy
  | .tick | .claim _ _ | .abandon _ | .control | .closeRun | .moveWork | .editWork | .addWork | .registry => True

theorem commit_eq_some {ε : Type} {result : Except ε Db} :
    s.commit result = some t ↔ ∃ db, result = .ok db ∧ t = { s with db := db } := by
  cases result <;> simp [Sys.commit, eq_comm]

private theorem stepFinish_writes {outcome} (hh : s.held[i]? = some h)
    (hst : stepFinish rt s h outcome ids = some t) :
    t.held = s.held ∧ t.clock = s.clock ∧ Writes (Causes rt s (.finish i outcome ids)) s.snapshot ⟨t.db, s.clock⟩ := by
  unfold stepFinish at hst
  split at hst
  · cases hst
  · rename_i answer db₁ hf
    split at hst
    · cases hst
    · rename_i db₂ hr
      cases hst
      refine ⟨rfl, rfl, Run.trans (t := ⟨db₁, s.clock⟩) ?_ (recordFor_writes trivial hr)⟩
      cases finished hf with
      | failed hfl => exact failAttempt_writes (fun lease hid => ⟨rfl, .attempt hh hid⟩) trivial hfl
      | uncertain hu hm =>
        refine markUncertain_writes (fun lease hl => ⟨h, ?_, hl⟩) hm
        simp [Act.marks, hu, hh]
      | closed hcs hs hc =>
        exact Run.trans (settle_writes (fun lease hid => ⟨rfl, .reported hh hid hcs⟩) hs) (closeRun_writes trivial hc)

private theorem startWakeup_refused {e}
    (h : startWakeup rt sampled s.clock s.db agent call = .refused e db) :
    Writes (Causes rt s a) ⟨s.db, s.clock⟩ ⟨db, s.clock⟩ := by
  rcases startWakeup_eq_refused h with rfl | ⟨d, hc⟩
  · exact .refl
  · exact denial_writes trivial trivial (fun _ => trivial) (claim_denied_writes hc)

theorem putAgentRole_eq_some {role} (h : putAgentRole db role = some db') :
    ∃ roles, db' = { db with agentRoles := roles } ∧
      ∀ k, (db.agentRoles.get k).isSome = true → (roles.get k).isSome = true := by
  unfold putAgentRole at h
  split at h
  · obtain ⟨roles, hrl, rfl⟩ := map_eq_some_iff.1 h
    refine ⟨roles, rfl, fun k hk => ?_⟩
    obtain ⟨r, hr⟩ := isSome_iff_exists.1 hk
    rw [get_insert_of_some hrl hr]; rfl
  · cases h
    refine ⟨_, rfl, fun k hk => ?_⟩
    rw [get_update]
    simpa using hk

def Issued (s t : Sys) (h : HeldWakeup) : Prop :=
  ∃ l ∈ t.db.leases, l.executionId = h.ticket.executionId ∧ l.ownerId = h.ticket.ownerId ∧ l.runId = h.ticket.runId ∧
    s.db.leases.get l.executionId = none ∧
    ∀ r ∈ t.db.reservations, r ∈ s.db.reservations ∨ r.amountUsd = h.ticket.ceilingUsd

private theorem stepWake_writes (hs : sampled ≤ s.clock) (hsp : stepWake rt s sampled agent call attempt = some t) :
    (∀ h ∈ t.held, h ∈ s.held ∨ Issued s t h) ∧ t.clock = s.clock ∧
      Writes (Causes rt s (.wake sampled agent call attempt)) s.snapshot ⟨t.db, s.clock⟩ := by
  unfold stepWake at hsp
  split at hsp
  · cases hsp
  · rename_i ticket db₁ hst
    cases hsp
    obtain ⟨lease, he, hm, hid, ho, hrn, ha⟩ := startWakeup_effect hs hst
    refine ⟨?_, rfl, he.writes trivial⟩
    intro h hh
    rcases mem_concat.1 hh with hh | rfl
    · exact .inl hh
    · refine .inr ⟨lease, hm, hid, ho, hrn, ?_, ha⟩
      cases he with
      | claim _ _ _ _ _ hl => exact get_eq_none.2 (insert_eq_some hl).2
  · rename_i result hst
    split at hsp
    · cases hsp
    · rename_i db₁ hr
      cases hsp
      exact ⟨fun h hh => .inl hh, rfl, recordFor_writes trivial hr⟩
  · rename_i e db₁ hst
    have hd : Writes (Causes rt s (.wake sampled agent call attempt)) ⟨s.db, s.clock⟩ ⟨db₁, s.clock⟩ :=
      startWakeup_refused hst
    split at hsp
    · cases hsp
      exact ⟨fun h hh => .inl hh, rfl, hd⟩
    · rename_i db₂ hr
      cases hsp
      exact ⟨fun h hh => .inl hh, rfl, hd.trans (recordFor_writes trivial hr)⟩

private theorem step_writes (h : step rt s a = some t) :
    (∀ h ∈ t.held, h ∈ s.held ∨ Issued s t h) ∧ Writes (Causes rt s a) s.snapshot t.snapshot := by
  -- an action that commits a database and does nothing else
  have hc {ε : Type} {result : Except ε Db} (hsp : s.commit result = some t)
      (hw : ∀ db, result = .ok db → Writes (Causes rt s a) s.snapshot ⟨db, s.clock⟩) :
      (∀ h ∈ t.held, h ∈ s.held ∨ Issued s t h) ∧ Writes (Causes rt s a) s.snapshot t.snapshot := by
    obtain ⟨db, hdb, rfl⟩ := commit_eq_some.1 hsp
    exact ⟨fun h hh => .inl hh, hw db hdb⟩
  cases a with
  | tick d =>
    cases h
    exact ⟨fun h hh => .inl hh, Effect.writes (.tick d) trivial⟩
  | wake =>
    obtain ⟨hs, h⟩ := ite_none_right_eq_some.1 h
    obtain ⟨hhl, hcl, hw⟩ := stepWake_writes hs h
    exact ⟨hhl, by rw [← hcl] at hw; exact hw⟩
  | finish =>
    obtain ⟨held, hhl, hf⟩ := bind_eq_some_iff.1 h
    obtain ⟨hsm, hcl, hw⟩ := stepFinish_writes hhl hf
    exact ⟨fun h hh => .inl (hsm ▸ hh), by rw [← hcl] at hw; exact hw⟩
  | settle =>
    obtain ⟨held, hhl, hst⟩ := bind_eq_some_iff.1 h
    exact hc hst (fun db hdb => settle_writes (fun lease hid => ⟨rfl, .direct hhl hid⟩) hdb)
  | markUncertain =>
    obtain ⟨held, hhl, hm⟩ := bind_eq_some_iff.1 h
    exact hc hm (fun db hdb => markUncertain_writes (fun lease hl => ⟨held, hhl, hl⟩) hdb)
  | recover =>
    exact hc h (fun db hdb => recover_writes (fun lease _ => ⟨rfl, .recovery⟩) hdb)
  | updateStatus => exact hc h (fun db hdb => statusUpdate_writes trivial hdb)
  | requestControl companyId runId action =>
    refine hc h (fun db hdb => ?_)
    obtain ⟨lease, audits, -, -, rfl⟩ := requestControl_eq_ok hdb
    exact Effect.writes (.control lease.executionId action audits) trivial
  | review r =>
    refine hc h (fun db hdb => ?_)
    obtain ⟨acceptances, audits, rfl⟩ := review_eq_ok hdb
    exact Effect.writes (.editWork _ (fun w => { w with metadata := reviewedMetadata w.metadata r })
      (fun _ => rfl) (fun _ => ⟨rfl, rfl⟩) acceptances audits) trivial
  | requestApproval =>
    obtain ⟨db, hdb, rfl⟩ := map_eq_some_iff.1 h
    refine ⟨fun h hh => .inl hh, ?_⟩
    obtain ⟨-, hdb⟩ := ite_none_right_eq_some.1 hdb
    obtain ⟨approvals, -, rfl⟩ := map_eq_some_iff.1 hdb
    exact registry_writes trivial approvals s.db.auditEvents
  | resolveApproval =>
    obtain ⟨db, hdb, rfl⟩ := map_eq_some_iff.1 h
    refine ⟨fun h hh => .inl hh, ?_⟩
    unfold resolveApproval at hdb
    split at hdb
    · split at hdb
      · cases hdb
        exact registry_writes trivial _ s.db.auditEvents
      · cases hdb
    · cases hdb
  | createWorkItem =>
    obtain ⟨db, hdb, rfl⟩ := map_eq_some_iff.1 h
    refine ⟨fun h hh => .inl hh, ?_⟩
    obtain ⟨-, hdb⟩ := ite_none_right_eq_some.1 hdb
    obtain ⟨items, hi, rfl⟩ := map_eq_some_iff.1 hdb
    exact Effect.writes (.addWork hi _ _) trivial
  | createArtifact =>
    obtain ⟨artifacts, -, rfl⟩ := map_eq_some_iff.1 h
    exact ⟨fun h hh => .inl hh, Effect.writes (.registry s.db.companies s.db.agentRoles s.db.approvals artifacts
      s.db.auditEvents (fun _ hk => hk)) trivial⟩
  | putAgentRole =>
    obtain ⟨db, hdb, rfl⟩ := map_eq_some_iff.1 h
    refine ⟨fun h hh => .inl hh, ?_⟩
    obtain ⟨roles, rfl, hr⟩ := putAgentRole_eq_some hdb
    exact Effect.writes (.registry s.db.companies roles s.db.approvals s.db.artifacts s.db.auditEvents hr) trivial
  | createCompany =>
    obtain ⟨companies, -, rfl⟩ := map_eq_some_iff.1 h
    exact ⟨fun h hh => .inl hh, Effect.writes (.registry companies s.db.agentRoles s.db.approvals s.db.artifacts
      s.db.auditEvents (fun _ hk => hk)) trivial⟩
  | createBudgetPolicy =>
    obtain ⟨policies, hp, rfl⟩ := map_eq_some_iff.1 h
    exact ⟨fun h hh => .inl hh, Effect.writes (.addPolicy hp) rfl⟩
  | updateBudgetPolicy budgetId limit status modelAllowlist =>
    cases h
    exact ⟨fun h hh => .inl hh, Effect.writes (.editPolicy budgetId limit
      (fun p => p.edited limit status modelAllowlist) _ (fun _ => ⟨rfl, rfl⟩)) ⟨status, modelAllowlist, rfl⟩⟩
  | recordUsage usage =>
    obtain ⟨hd, h⟩ := ite_none_right_eq_some.1 h
    cases h
    exact ⟨fun h hh => .inl hh, Effect.writes (.recordUsage usage hd) rfl⟩

/-! ### Tickets stay good -/

/-- The lease the ticket was issued for is there, with the ticket's owner, run and reserved amount. -/
def TicketOk (db : Db) (ticket : ExecutionTicket) : Prop :=
  ∃ l ∈ db.leases, l.executionId = ticket.executionId ∧ l.ownerId = ticket.ownerId ∧ l.runId = ticket.runId ∧
    ∀ r ∈ db.reservations, r.executionId = ticket.executionId → r.amountUsd = ticket.ceilingUsd

private theorem TicketOk.extends (h : TicketOk db ticket) (he : db.Extends db') : TicketOk db' ticket := by
  obtain ⟨l, hl, hid, ho, hrn, ha⟩ := h
  obtain ⟨l', hl', hs⟩ := he.lease_kept l hl
  refine ⟨l', hl', hs.executionId.trans hid, hs.ownerId.trans ho, hs.runId.trans hrn, ?_⟩
  intro r' hr' hr'id
  rcases he.reservation_origin r' hr' with ⟨r, hr, hs⟩ | hn
  · rw [hs.amountUsd]
    exact ha r hr (hs.executionId.symm.trans hr'id)
  · exact absurd (hid.trans hr'id.symm) (hn l hl)

structure Sys.Ok (s : Sys) : Prop where
  backed : s.db.Backed
  tickets : ∀ h ∈ s.held, TicketOk s.db h.ticket

theorem Sys.Ok.amount_eq (hs : s.Ok) {held : HeldWakeup} (hh : s.held[i]? = some held) {lease : ExecutionLease}
    (hid : lease.executionId = held.ticket.executionId) {r}
    (hr : r ∈ s.db.reservationsOf lease.executionId) : r.amountUsd = held.ticket.ceilingUsd := by
  obtain ⟨l, -, -, -, -, ha⟩ := hs.tickets held (mem_of_getElem? hh)
  obtain ⟨hr, hrd⟩ := Db.mem_reservationsOf.1 hr
  exact ha r hr (hrd.trans hid)

private theorem Issued.ticketOk (hi : Issued s t h) (hs : s.db.Backed) : TicketOk t.db h.ticket := by
  obtain ⟨l, hl, hid, ho, hrn, hn, ha⟩ := hi
  refine ⟨l, hl, hid, ho, hrn, fun r hr hrd => ?_⟩
  rcases ha r hr with hr | hr
  · obtain ⟨l', hl', hl'id⟩ := hs.lease r hr
    exact absurd (hl'id.trans (hrd.trans hid.symm)) (get_eq_none.1 hn l' hl')
  · exact hr

private theorem step_ok (hs : s.Ok) (h : step rt s a = some t) :
    t.Ok ∧ Writes (Causes rt s a) s.snapshot t.snapshot := by
  obtain ⟨hhl, hw⟩ := step_writes h
  refine ⟨⟨?_, fun h hh => ?_⟩, hw⟩
  · exact hw.invariant (I := fun s => s.db.Backed) hs.backed (fun _ _ _ hs _ he => he.backed hs)
  · rcases hhl h hh with hh | hi
    · exact (hs.tickets h hh).extends hw.extends
    · exact hi.ticketOk hs.backed

/-- The run lemma: a run of the system is a sequence of ledger writes. -/
theorem run_writes {ok okWrite} (h : Run (Steps (step rt)) ok s t) (hs : s.Ok)
    (hc : ∀ s a w, s.Ok → ok s a → Causes rt s a w → okWrite w) : t.Ok ∧ Writes okWrite s.snapshot t.snapshot := by
  refine h.simulate hs (fun s a t hs hok hst => ?_)
  obtain ⟨ht, hwr⟩ := step_ok hs hst
  exact ⟨ht, hwr.mono (fun _ w hw => hc s a w hs hok hw)⟩

structure Sys.Initial (s : Sys) : Prop where
  leases : s.db.leases = .empty
  reservations : s.db.reservations = .empty
  usage : ∀ u ∈ s.db.budgetUsage, u.executionId = none
  held : s.held = []

/-- The invariant holds initially. -/
theorem Sys.Initial.ok (h : s.Initial) : s.Ok := by
  refine ⟨⟨?_, ?_⟩, ?_⟩
  · rw [h.reservations]
    exact fun r hr => absurd hr (not_mem_empty r)
  · rw [h.reservations]
    exact fun r hr => absurd hr (not_mem_empty r)
  · rw [h.held]
    exact fun r hr => absurd hr not_mem_nil

end WisdoverseCell.ControlPlane
