import WisdoverseCell.ControlPlane.LeaseExclusion

/-!
# An abandoned execution can be recovered

`recover` settles the lease, fails its run and fails its work item, and each of the three can refuse.  The joint
invariant `Db.Recoverable` rules every refusal out in every run in which no ended lease is marked uncertain.
-/

namespace WisdoverseCell.ControlPlane

open List Option Table

variable {s t : Snapshot} {w : Write} {lease l : ExecutionLease} {actorId : String} {ids : EvidenceIds} {now : Time}
  {rt : Runtime}

structure Db.Recoverable (db : Db) : Prop where
  backed : db.Backed
  exclusive : db.LeasesExclusive
  runUnique : ∀ l ∈ db.leases, ∀ l' ∈ db.leases, l.runId = l'.runId → l = l'
  run : ∀ l ∈ db.leases, ∃ r, db.agentRuns.get l.runId = some r ∧ r.companyId = l.companyId ∧
    (db.agentRoles.get (r.companyId, r.agentId)).isSome = true
  outstanding : ∀ l ∈ db.leases, l.state.active = true → ∀ r ∈ db.reservations, r.executionId = l.executionId →
    r.state = .reserved
  work : ∀ l ∈ db.leases, l.state.active = true → ∀ workItemId, l.resourceId = workResource workItemId →
    ∃ w, db.workItems.get workItemId = some w ∧ w.companyId = l.companyId ∧ w.status = .running

/-! ### Leases, runs and roles are kept -/

private theorem Effect.run_kept (h : Effect s w t) {runId r} (hr : s.db.agentRuns.get runId = some r) :
    ∃ r', t.db.agentRuns.get runId = some r' ∧ r'.companyId = r.companyId ∧ r'.agentId = r.agentId := by
  have updated {p : AgentRun → Bool} {f : AgentRun → AgentRun} (hf : ∀ r, (f r).runId = r.runId)
      (hk : ∀ r, (f r).companyId = r.companyId ∧ (f r).agentId = r.agentId) :
      ∃ r', (s.db.agentRuns.update p f hf).get runId = some r' ∧ r'.companyId = r.companyId ∧
        r'.agentId = r.agentId := by
    rw [get_update, hr]
    refine ⟨if p r then f r else r, rfl, ?_⟩
    split
    · exact hk r
    · exact ⟨rfl, rfl⟩
  cases h with
  | claim _ _ _ _ _ _ _ _ _ hrn => exact ⟨r, get_insert_of_some hrn hr, rfl, rfl⟩
  | settle _ _ _ hf hk => exact updated hf hk
  | closeRun _ _ hf hk => exact updated hf hk
  | tick | mark | abandon | control | moveWork | editWork | addWork | recordUsage | addPolicy | editPolicy | registry =>
    exact ⟨r, hr, rfl, rfl⟩

private theorem Effect.role_kept (h : Effect s w t) {k} (hk : (s.db.agentRoles.get k).isSome = true) :
    (t.db.agentRoles.get k).isSome = true := by
  cases h with
  | registry _ _ _ _ _ hr => exact hr k hk
  | _ => exact hk

private theorem Effect.runUnique (h : Effect s w t)
    (hs : ∀ l ∈ s.db.leases, ∀ l' ∈ s.db.leases, l.runId = l'.runId → l = l') :
    ∀ l ∈ t.db.leases, ∀ l' ∈ t.db.leases, l.runId = l'.runId → l = l' := by
  cases h.leaseChange with
  | same heq => exact heq ▸ hs
  | added lease _ _ _ hn hi =>
    intro l hl l' hl' hr
    rcases (mem_insert hi).1 hl with hl | rfl <;> rcases (mem_insert hi).1 hl' with hl' | rfl
    · exact hs l hl l' hl' hr
    · exact absurd hr (hn l hl)
    · exact absurd hr.symm (hn l' hl')
    · rfl
  | edited executionId f hf hsm _ heq =>
    intro l hl l' hl' hr
    rw [heq] at hl hl'
    obtain ⟨k, hk, rfl⟩ := mem_update.1 hl
    obtain ⟨k', hk', rfl⟩ := mem_update.1 hl'
    have kept (m : ExecutionLease) : (if decide (m.executionId = executionId) then f m else m).runId = m.runId := by
      split
      · exact (hsm m).runId
      · rfl
    rw [kept, kept] at hr
    rw [hs k hk k' hk' hr]

private theorem Effect.leaseRun (h : Effect s w t) (hs : s.db.Recoverable) :
    ∀ l ∈ t.db.leases, ∃ r, t.db.agentRuns.get l.runId = some r ∧ r.companyId = l.companyId ∧
      (t.db.agentRoles.get (r.companyId, r.agentId)).isSome = true := by
  intro l' hl'
  rcases h.lease_origin hl' with ⟨l, hl, hsm, -⟩ | ⟨amount, rfl⟩
  · obtain ⟨r, hr, hc, hrl⟩ := hs.run l hl
    obtain ⟨r', hr', hc', ha'⟩ := h.run_kept hr
    refine ⟨r', by rw [hsm.runId]; exact hr', by rw [hc', hc, hsm.companyId], ?_⟩
    rw [hc', ha']
    exact h.role_kept hrl
  · cases h with
    | @claim db t _ rows run _ _ _ _ _ _ _ _ _ _ _ _ _ _ hrn hri hrc hrl =>
      refine ⟨run, ?_, hrc, hrl⟩
      rw [← hri]
      exact get_insert_self hrn

private theorem Effect.not_settled_of_active {l' rows cost failed estimated}
    (h : Effect s (.settle lease rows cost failed estimated) t) (hl' : l' ∈ t.db.leases)
    (ha : l'.state.active = true) : l'.executionId ≠ lease.executionId := by
  cases h with
  | settle =>
    simp only [mem_update] at hl'
    obtain ⟨l, hl, rfl⟩ := hl'
    split at ha
    · cases failed <;> exact absurd ha (by simp [LeaseState.active])
    · rename_i hne
      rw [if_neg hne]
      exact fun hid => hne (decide_eq_true hid)

private theorem Effect.outstanding (h : Effect s w t) (hok : w.MarksHeld) (hs : s.db.Recoverable) :
    ∀ l ∈ t.db.leases, l.state.active = true → ∀ r ∈ t.db.reservations,
      r.executionId = l.executionId → r.state = .reserved := by
  intro l' hl' ha r hr hid
  -- a row that was there before, of a lease that is active now, was outstanding
  have hb (hro : r ∈ s.db.reservations) : r.state = .reserved := by
    rcases h.lease_origin hl' with ⟨l, hl, hsm, hh⟩ | ⟨amount, rfl⟩
    · exact hs.outstanding l hl (hh hok ha) r hro (hid.trans hsm.executionId)
    · obtain ⟨l, hl, hld⟩ := hs.backed.lease r hro
      cases h with
      | claim _ _ _ _ _ hls => exact absurd (hld.trans hid) ((insert_eq_some hls).2 l hl)
  cases h.reservationChange with
  | same heq => exact hb (heq ▸ hr)
  | added lease rows amount _ _ hrw hi =>
    rcases (mem_insertAll hi).1 hr with hr | hr
    · exact hb hr
    · exact (hrw r hr).2.1
  | settled lease rows cost failed estimated hw heq =>
    subst hw
    rw [heq] at hr
    obtain ⟨r₀, hr₀, rfl⟩ := mem_update.1 hr
    by_cases hro : r₀.executionId = lease.executionId
    · refine absurd ?_ (h.not_settled_of_active hl' ha)
      simpa [hro] using hid.symm
    · simp only [hro, decide_false, Bool.false_eq_true, if_false] at hb ⊢
      exact hb hr₀

/-! ### The work item of an active lease -/

private theorem Effect.work_kept (h : Effect s w t) (hs : s.db.Recoverable) (hl : l ∈ s.db.leases)
    (ha : l.state.active = true)
    (hst : ∀ lease rows cost failed estimated, w = .settle lease rows cost failed estimated → lease ≠ l)
    {workItemId} (hr : l.resourceId = workResource workItemId) {v}
    (hv : s.db.workItems.get workItemId = some v) (hc : v.companyId = l.companyId)
    (hsta : v.status = .running) :
    ∃ v', t.db.workItems.get workItemId = some v' ∧ v'.companyId = l.companyId ∧ v'.status = .running := by
  have hid : v.workItemId = workItemId := (get_eq_some.1 hv).2
  cases h with
  | claim =>
    obtain ⟨v', hv', hc', hs'⟩ := get_startedWorkItems hv
    refine ⟨v', hv', hc'.trans hc, ?_⟩
    rw [hs', hsta, ite_self]
  | @settle db _ lease _ _ _ _ _ _ _ _ work _ _ hls hh _ _ hwr =>
    refine ⟨v, ?_, hc, hsta⟩
    rw [show _ = some _ from get_movedWorkItems hv, if_neg]
    -- the item the settlement fails is held by the settled lease alone
    intro heq
    obtain ⟨w, hw, hwd⟩ := map_eq_some_iff.1 heq
    obtain ⟨hlr, -⟩ := hwr w hw
    rw [hwd] at hlr
    have hm := (get_eq_some.1 hls).1
    obtain ⟨v', hv', hlc, -⟩ := hs.work lease hm hh workItemId hlr
    obtain rfl := some.inj (hv.symm.trans hv')
    exact hst lease _ _ _ _ rfl (hs.exclusive lease hm l hl hh ha (Prod.ext (hlc.symm.trans hc) (hlr.trans hr.symm)))
  | @moveWork db _ work f hf hk hwr hu =>
    refine ⟨v, ?_, hc, hsta⟩
    have hne : ¬ v.workItemId = work.workItemId := by
      intro heq
      rw [← hid, heq] at hv
      obtain rfl := some.inj (hv.symm.trans hwr)
      have := hu l hl hc.symm (by rw [hr, hid])
      exact absurd this (by rw [ha]; decide)
    simp [get_update, hv, hne]
  | editWork p f hf hk =>
    refine ⟨if p v then f v else v, ?_, ?_, ?_⟩
    · rw [get_update, hv]
      rfl
    · split
      · rw [(hk v).1, hc]
      · exact hc
    · split
      · rw [(hk v).2, hsta]
      · exact hsta
  | addWork hi => exact ⟨v, get_insert_of_some hi hv, hc, hsta⟩
  | tick | mark | abandon | control | closeRun | recordUsage | addPolicy | editPolicy | registry =>
    exact ⟨v, hv, hc, hsta⟩

private theorem Effect.leaseWork (h : Effect s w t) (hok : w.MarksHeld) (hs : s.db.Recoverable) :
    ∀ l ∈ t.db.leases, l.state.active = true → ∀ workItemId, l.resourceId = workResource workItemId →
      ∃ v, t.db.workItems.get workItemId = some v ∧ v.companyId = l.companyId ∧ v.status = .running := by
  intro l' hl' ha workItemId hr
  rcases h.lease_origin hl' with ⟨l, hl, hsm, hh⟩ | ⟨amount, rfl⟩
  · have hh := hh hok ha
    rw [hsm.resourceId] at hr
    obtain ⟨v, hv, hc, hst⟩ := hs.work l hl hh workItemId hr
    rw [hsm.companyId]
    refine h.work_kept hs hl hh ?_ hr hv hc hst
    rintro lease rows cost failed estimated rfl rfl
    exact h.not_settled_of_active hl' ha hsm.executionId
  · cases h with
    | @claim _ _ _ _ _ work _ _ _ _ _ _ _ _ _ _ _ _ _ _ _ _ _ hw hn =>
      cases work with
      | none => exact absurd hr (hn rfl workItemId)
      | some v =>
        obtain ⟨hvr, hv, hc⟩ := hw v rfl
        obtain rfl : v.workItemId = workItemId := workResource_inj.1 (hvr.symm.trans hr)
        obtain ⟨v', hv', hc', hs'⟩ := @get_startedWorkItems _ (some v) _ _ _ hv
        exact ⟨v', hv', hc'.trans hc, by simpa using hs'⟩

private theorem Effect.recoverable (h : Effect s w t) (hok : w.MarksHeld) (hs : s.db.Recoverable) :
    t.db.Recoverable where
  backed := h.backed hs.backed
  exclusive := h.leasesExclusive hok hs.exclusive
  runUnique := h.runUnique hs.runUnique
  run := h.leaseRun hs
  outstanding := h.outstanding hok hs
  work := h.leaseWork hok hs

/-! ### Recovery goes through -/

private theorem leaseOfRun_of_mem {db : Db} (hu : ∀ l ∈ db.leases, ∀ l' ∈ db.leases, l.runId = l'.runId → l = l')
    (hl : l ∈ db.leases) : db.leaseOfRun l.companyId l.runId = some l := by
  cases hf : db.leaseOfRun l.companyId l.runId with
  | none =>
    unfold Db.leaseOfRun at hf
    exact absurd (find?_eq_none.1 hf l hl) (by simp)
  | some l' =>
    obtain ⟨hl', -, hr⟩ := Db.mem_of_leaseOfRun hf
    rw [hu l' hl' l hl hr]

private theorem failAbandonedRun_succeeds {db companyId runId run}
    (hru : db.agentRuns.get runId = some run) (hrl : (db.agentRoles.get (companyId, run.agentId)).isSome = true)
    (hfresh : db.artifacts.get ids.artifactId = none) :
    ∃ db', failAbandonedRun rt now db companyId runId actorId ids = .ok db' := by
  obtain rfl : run.runId = runId := (get_eq_some.1 hru).2
  unfold failAbandonedRun
  simp only [hru]
  split
  · rename_i hrn
    obtain ⟨agent, ha⟩ := isSome_iff_exists.1 hrl
    obtain ⟨artifacts, har⟩ := insert_isSome (a := evidenceArtifact rt (recoveryContext agent run actorId)
      run.inputEvent ⟨.failed, [], .null, some "operator_reconciled_abandoned_execution",
        some "external_effects_reviewed"⟩ ids) hfresh
    refine ⟨_, bind_eq_ok.2 ⟨agent, require_eq_ok.2 ha, closeAgentWakeupRun_eq_ok.2 ⟨?_, artifacts, har, _, rfl, rfl⟩⟩⟩
    intro r hr
    obtain rfl := some.inj (hru.symm.trans hr)
    rw [hrn]
    rfl
  · exact ⟨db, rfl⟩

private theorem failHeldWork_succeeds {db} (hw : ∀ w, heldWork db lease = some w → w.status = .running) :
    ∃ db', failHeldWork now db lease actorId = .ok db' := by
  unfold failHeldWork
  cases hh : heldWork db lease with
  | none => exact ⟨db, rfl⟩
  | some w =>
    refine ⟨_, transitionWork_eq_ok.2 ⟨?_, rfl⟩⟩
    unfold WorkItem.mayBecome
    rw [hw w hh]
    rfl

private theorem get_settled_run {db ticket cost failed estimated run} (hr : db.agentRuns.get ticket.runId = some run) :
    ∃ run', (settledDb now db lease ticket cost failed estimated).agentRuns.get ticket.runId = some run' ∧
      run'.agentId = run.agentId := by
  have hid : run.runId = ticket.runId := (get_eq_some.1 hr).2
  simp [settledDb, get_update, hr, hid]

private theorem recover_succeeds {db : Db} (hdb : db.Recoverable) (hl : l ∈ db.leases) (ha : l.state.active = true)
    (he : l.expiresAt ≤ now) (hfresh : db.artifacts.get ids.artifactId = none) :
    ∃ db', recover rt now db l.companyId l.runId actorId ids = .ok db' := by
  obtain ⟨run, hrn, hc, hr⟩ := hdb.run l hl
  -- the settlement finds the lease running again
  have hls : (resumedDb db l).leases.get l.executionId = some l.resumed := by
    change (db.leases.update (fun m => m.executionId = l.executionId) ExecutionLease.resumed
      ExecutionLease.resumed_executionId).get l.executionId = _
    rw [get_update, Table.get_of_mem hl]
    simp
  have hs : settle now (resumedDb db l) (recoveryTicket db l) (db.reservedCeiling l.executionId) true true =
      .ok (settledDb now (resumedDb db l) l.resumed (recoveryTicket db l)
        (db.reservedCeiling l.executionId) true true) :=
    settle_eq_ok.2 ⟨l.resumed, run, hls, rfl, rfl, hdb.outstanding l hl ha, hrn, hc, rfl⟩
  obtain ⟨run₁, hr₁, hag⟩ := @get_settled_run l.resumed now (resumedDb db l) (recoveryTicket db l)
    (db.reservedCeiling l.executionId) true true run hrn
  obtain ⟨db₂, hcl⟩ := @failAbandonedRun_succeeds actorId ids now rt _ l.companyId l.runId run₁ hr₁
    (by rw [hag, ← hc]; exact hr) hfresh
  have hi : db₂.workItems = db.workItems := by
    obtain ⟨f, hf, artifacts, audits, -, -, rfl⟩ := failAbandonedRun_eq_ok hcl
    rfl
  obtain ⟨db₃, hfl⟩ := @failHeldWork_succeeds l actorId now db₂ (fun w hw => by
    obtain ⟨hrs, hg⟩ := heldWork_eq_some.1 hw
    obtain ⟨v, hv, -, hst⟩ := hdb.work l hl ha w.workItemId hrs
    rw [hi] at hg
    obtain rfl := some.inj (hv.symm.trans hg)
    exact hst)
  exact ⟨_, bind_eq_ok.2 ⟨l, require_eq_ok.2 (leaseOfRun_of_mem hdb.runUnique hl), bind_eq_ok.2 ⟨(),
    ensure_eq_ok.2 ⟨ha, he⟩, bind_eq_ok.2 ⟨_, mapError_eq_ok.2 hs, bind_eq_ok.2 ⟨_, hcl,
      bind_eq_ok.2 ⟨db₃, hfl, rfl⟩⟩⟩⟩⟩⟩

/-! ### Runs -/

private theorem Sys.Initial.recoverable {s : Sys} (h : s.Initial) : s.db.Recoverable := by
  have hls (l : ExecutionLease) : ¬ l ∈ s.db.leases := by
    rw [h.leases]
    exact not_mem_empty l
  exact ⟨h.ok.backed, fun l hl => absurd hl (hls l), fun l hl => absurd hl (hls l),
    fun l hl => absurd hl (hls l), fun l hl => absurd hl (hls l), fun l hl => absurd hl (hls l)⟩

structure Recovered (l : ExecutionLease) (db : Db) : Prop where
  lease : ∃ l' ∈ db.leases, l'.executionId = l.executionId ∧ l'.state = .failed
  reservations : ∀ r ∈ db.reservations, r.executionId = l.executionId → r.state = .settled
  run : ∃ r, db.agentRuns.get l.runId = some r ∧ r.status ≠ .running
  work : ∀ workItemId, l.resourceId = workResource workItemId →
    ∃ w, db.workItems.get workItemId = some w ∧ w.status = .failed

private theorem recovered_of_recover {db db'} (hdb : db.Recoverable) (hl : l ∈ db.leases)
    (ha : l.state.active = true) (h : recover rt now db l.companyId l.runId actorId ids = .ok db') :
    Recovered l db' := by
  obtain ⟨lease, hm, -, hri, -, -, -, ⟨run, hrn, -⟩, -, f, hf, artifacts, audits, -, hs, rfl⟩ := recover_eq_ok h
  obtain rfl := hdb.runUnique lease hm l hl hri
  refine ⟨⟨{ lease with state := .failed }, ?_, rfl, rfl⟩, ?_, ⟨f run, ?_, hs run hrn⟩, ?_⟩
  · rw [mem_update]
    exact ⟨lease, hl, by simp⟩
  · intro r hr hid
    rw [mem_update] at hr
    obtain ⟨r₀, hr₀, rfl⟩ := hr
    split at hid
    · rename_i hrw
      rw [if_pos hrw]
    · rename_i hrw
      exact absurd (decide_eq_true hid) hrw
  · have hid : run.runId = lease.runId := (get_eq_some.1 hrn).2
    simp [get_update, hrn, hid]
  · intro workItemId hrs
    obtain ⟨v, hv, -, -⟩ := hdb.work lease hl ha workItemId hrs
    have hid : v.workItemId = workItemId := (get_eq_some.1 hv).2
    have hh : heldWork db lease = some v := heldWork_eq_some.2 ⟨by rw [hid, hrs], by rw [hid, hv]⟩
    refine ⟨_, get_movedWorkItems hv, ?_⟩
    simp [hh, hid]

/-- In every state of a run in which no ended lease is marked uncertain, recovery of an abandoned execution succeeds
and leaves it failed, settled and closed. -/
theorem abandoned_execution_recovers {rt : Runtime} {s t : Sys} (hs : s.Initial)
    (ht : Run (Steps (step rt)) MarksLive s t) {l : ExecutionLease} (hl : l ∈ t.db.leases)
    (hactive : l.state.active = true) (hexpired : l.expiresAt ≤ t.clock) (actorId : String) {ids : EvidenceIds}
    (hfresh : t.db.artifacts.get ids.artifactId = none) :
    ∃ db', recover rt t.clock t.db l.companyId l.runId actorId ids = .ok db' ∧ Recovered l db' := by
  obtain ⟨-, hwr⟩ := run_writes ht hs.ok (fun _ _ _ _ hok hw => marksHeld_of_causes hok hw)
  have hdb : t.db.Recoverable :=
    hwr.invariant (I := fun s => s.db.Recoverable) hs.recoverable (fun _ _ _ hI hok he =>
      he.recoverable hok hI)
  obtain ⟨db', hr⟩ := recover_succeeds hdb hl hactive hexpired hfresh
  exact ⟨db', hr, recovered_of_recover hdb hl hactive hr⟩

/-! ### A concrete recovery, and one that is blocked -/

def codingTask : WorkItem where
  workItemId := "w"
  companyId := "c"
  title := "task"
  description := ""
  status := .ready
  priority := .medium
  goalId := none
  ownerAgentId := none
  ownerUserId := none
  source := "manual"
  externalRef := none
  dependencies := []
  approvalRequired := false
  metadata := []
  updatedAt := 0

def oneTaskDb : Db := { oneAgentDb with workItems := ⟨[codingTask], nodup_singleton _⟩ }

def oneTaskSys : Sys := ⟨oneTaskDb, 0, []⟩

theorem oneTaskSys_initial : oneTaskSys.Initial := ⟨rfl, rfl, fun _ hu => absurd hu not_mem_nil, rfl⟩

/-- The execution of a task is abandoned and recovered. -/
theorem abandoned_execution_recovers_task :
    ∃ t, Run (Steps (step plainRuntime)) MarksLive oneTaskSys t ∧ ∃ l ∈ t.db.leases,
      l.resourceId = workResource "w" ∧ ∃ db', recover plainRuntime t.clock t.db l.companyId l.runId "operator"
        (evidenceIds "recovery") = .ok db' ∧ Recovered l db' :=
  exists_run_with [.wake 0 httpAgent { keyedCall "k1" with workItemId := some "w" } none, .tick (seconds 1000)]
    (fun t => t.db.artifacts.get "artifact-recovery" = none ∧ ∃ l ∈ t.db.leases, l.state.active = true ∧
      l.expiresAt ≤ t.clock ∧ l.resourceId = workResource "w") (by decide +kernel)
    (fun _ hrn ⟨hf, l, hl, ha, he, hr⟩ =>
      ⟨l, hl, hr, abandoned_execution_recovers oneTaskSys_initial hrn hl ha he "operator" hf⟩)

/-- The first runner reports uncertain effects after its lease was recovered: the lease waits for a recovery that
always fails. -/
theorem late_mark_blocks_recovery :
    oneAgentSys.Initial ∧ ∃ t, Run (Steps (step plainRuntime)) Always oneAgentSys t ∧ ∃ l ∈ t.db.leases,
      l.state.active = true ∧ l.expiresAt ≤ t.clock ∧
      t.db.artifacts.get (evidenceIds "second").artifactId = none ∧
      recover plainRuntime t.clock t.db l.companyId l.runId "operator" (evidenceIds "second") =
        .error (.denied ⟨"execution_already_settled", 409⟩) :=
  ⟨oneAgentSys_initial, exists_run_with (claimedThenRecovered ++ [.finish 0 effectsUncertain (evidenceIds "late")])
    (fun t => t.db.artifacts.get (evidenceIds "second").artifactId = none ∧ ∃ l ∈ t.db.leases,
      l.state.active = true ∧ l.expiresAt ≤ t.clock ∧ failsWith (recover plainRuntime t.clock t.db l.companyId l.runId
        "operator" (evidenceIds "second")) (.denied ⟨"execution_already_settled", 409⟩)) (by decide +kernel)
    (fun _ _ ⟨hf, l, hl, ha, he, hr⟩ => ⟨l, hl, ha, he, hf, failsWith_iff.1 hr⟩)⟩

end WisdoverseCell.ControlPlane
