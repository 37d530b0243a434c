import WisdoverseCell.ControlPlane.ExecutionEffects
import WisdoverseCell.Library.Transition

/-!
# The ledger as a journal of writes

The abstract level of the dispatch ledger.  A transaction of the control plane is a short sequence of writes, and
`Effect` says for each kind of write what it finds and what it changes; the faithful model is connected by a
simulation.
-/

namespace WisdoverseCell.ControlPlane

open Table

variable {l : ExecutionLease}

structure Snapshot where
  db : Db
  clock : Time

/-- The kinds of write, with what the conditions on runs speak about. -/
inductive Write
  | tick
  | claim (lease : ExecutionLease) (amount : ℚ≥0)
  | settle (lease : ExecutionLease) (rows : List ExecutionReservation) (cost : ℚ≥0) (failed estimated : Bool)
  | mark (lease : ExecutionLease)
  | abandon (lease : ExecutionLease)
  | control
  | closeRun
  | moveWork
  | editWork
  | addWork
  | recordUsage (usage : BudgetUsage)
  | addPolicy (policy : BudgetPolicy)
  | editPolicy (budgetId : String) (limit : Option ℚ≥0)
  | registry

def Db.Unheld (db : Db) (companyId resource : String) : Prop :=
  ∀ l ∈ db.leases, l.companyId = companyId → l.resourceId = resource → l.state.active = false

def Db.Fits (db : Db) (clock : Time) (r : ExecutionReservation) : Prop :=
  ∃ p ∈ db.budgetPolicies, p.budgetId = r.budgetId ∧
    ∃ now, now ≤ clock ∧ db.consumed p.budgetId (periodStart p.period now) + db.reserved p.budgetId + r.amountUsd ≤
      p.limitUsd

inductive Effect : Snapshot → Write → Snapshot → Prop
  | tick {db t} (d : Nat) : Effect ⟨db, t⟩ .tick ⟨db, t + d⟩
  | claim {db t lease rows run work amount leases reservations runs} (approvals : Table ApprovalRequest.approvalId)
      (audits : List AuditEvent)
      (hrunning : lease.state = .running) (hunheld : db.Unheld lease.companyId lease.resourceId)
      (hnewRun : ∀ l ∈ db.leases, l.runId ≠ lease.runId) (hleases : db.leases.insert lease = some leases)
      (hreservations : db.reservations.insertAll rows = some reservations)
      (hrows : ∀ r ∈ rows, r.executionId = lease.executionId ∧ r.state = .reserved ∧ r.amountUsd = amount)
      (hfits : ∀ r ∈ rows, db.Fits t r)
      (hruns : db.agentRuns.insert run = some runs) (hrunId : run.runId = lease.runId)
      (hrunCompany : run.companyId = lease.companyId)
      (hrole : (db.agentRoles.get (run.companyId, run.agentId)).isSome = true)
      (hwork : ∀ w, work = some w → lease.resourceId = workResource w.workItemId ∧
        db.workItems.get w.workItemId = some w ∧ w.companyId = lease.companyId)
      (hnoWork : work = none → ∀ workItemId, lease.resourceId ≠ workResource workItemId) :
      Effect ⟨db, t⟩ (.claim lease amount) ⟨{ db with
        leases := leases
        reservations := reservations
        agentRuns := runs
        approvals := approvals
        workItems := startedWorkItems t db.workItems work
        auditEvents := audits }, t⟩
  | settle {db t lease cost failed estimated}
      (charge : ExecutionReservation → BudgetUsage) (p : AgentRun → Bool) (f : AgentRun → AgentRun)
      (hf : ∀ r, (f r).runId = r.runId) (hkeep : ∀ r, (f r).companyId = r.companyId ∧ (f r).agentId = r.agentId)
      (work : Option WorkItem) (artifacts : Table Artifact.artifactId) (audits : List AuditEvent)
      (hlease : db.leases.get lease.executionId = some lease) (hactive : lease.state.active = true)
      (hreserved : ∀ r ∈ db.reservations, r.executionId = lease.executionId → r.state = .reserved)
      (hcharge : ∀ r, (charge r).budgetId = r.budgetId ∧ (charge r).costUsd = cost ∧
        (charge r).executionId = some lease.executionId ∧ (charge r).failedAttempt = failed ∧
        (charge r).chargedCeiling = estimated ∧ (charge r).createdAt = t)
      (hwork : ∀ w, work = some w → lease.resourceId = workResource w.workItemId ∧
        db.workItems.get w.workItemId = some w) :
      Effect ⟨db, t⟩ (.settle lease (db.reservationsOf lease.executionId) cost failed estimated) ⟨{ db with
        leases := db.leases.update (fun l => l.executionId = lease.executionId)
          (fun l => { l with state := if failed then .failed else .succeeded }) (fun _ => rfl)
        reservations := db.reservations.update (fun r => r.executionId = lease.executionId)
          (fun r => { r with state := .settled }) (fun _ => rfl)
        budgetUsage := db.budgetUsage ++ (db.reservationsOf lease.executionId).map charge
        agentRuns := db.agentRuns.update p f hf
        -- an operator's recovery also fails the work item the lease held
        workItems := movedWorkItems t db.workItems work .failed
        artifacts := artifacts
        auditEvents := audits }, t⟩
  | mark {db t lease} (audits : List AuditEvent) (hlease : db.leases.get lease.executionId = some lease) :
      Effect ⟨db, t⟩ (.mark lease) ⟨{ db with
        leases := db.leases.update (fun l => l.executionId = lease.executionId)
          (fun l => { l with state := .recoveryRequired, expiresAt := t }) (fun _ => rfl)
        auditEvents := audits }, t⟩
  | abandon {db t lease} (audits : List AuditEvent)
      (hlease : db.leases.get lease.executionId = some lease) (hrunning : lease.state = .running) :
      Effect ⟨db, t⟩ (.abandon lease) ⟨{ db with
        leases := db.leases.update (fun l => l.executionId = lease.executionId)
          (fun l => { l with state := .recoveryRequired }) (fun _ => rfl)
        auditEvents := audits }, t⟩
  | control {db t} (executionId : String) (action : ControlAction) (audits : List AuditEvent) :
      Effect ⟨db, t⟩ .control ⟨{ db with
        leases := db.leases.update (fun l => l.executionId = executionId)
          (fun l => { l with controlAction := action }) (fun _ => rfl)
        auditEvents := audits }, t⟩
  | closeRun {db t} (p : AgentRun → Bool) (f : AgentRun → AgentRun) (hf : ∀ r, (f r).runId = r.runId)
      (hkeep : ∀ r, (f r).companyId = r.companyId ∧ (f r).agentId = r.agentId)
      (artifacts : Table Artifact.artifactId) (audits : List AuditEvent) :
      Effect ⟨db, t⟩ .closeRun ⟨{ db with
        agentRuns := db.agentRuns.update p f hf
        artifacts := artifacts
        auditEvents := audits }, t⟩
  | moveWork {db t work} (f : WorkItem → WorkItem)
      (hf : ∀ w, (f w).workItemId = w.workItemId) (hkeep : ∀ w, (f w).companyId = w.companyId)
      (hwork : db.workItems.get work.workItemId = some work)
      (hunheld : db.Unheld work.companyId (workResource work.workItemId)) (audits : List AuditEvent) :
      Effect ⟨db, t⟩ .moveWork ⟨{ db with
        workItems := db.workItems.update (fun w => w.workItemId = work.workItemId) f hf
        auditEvents := audits }, t⟩
  | editWork {db t} (p : WorkItem → Bool) (f : WorkItem → WorkItem) (hf : ∀ w, (f w).workItemId = w.workItemId)
      (hkeep : ∀ w, (f w).companyId = w.companyId ∧ (f w).status = w.status)
      (acceptances : Table OutcomeAcceptance.acceptanceId) (audits : List AuditEvent) :
      Effect ⟨db, t⟩ .editWork ⟨{ db with
        workItems := db.workItems.update p f hf
        acceptances := acceptances
        auditEvents := audits }, t⟩
  | addWork {db t work items}
      (hitems : db.workItems.insert work = some items) (companies : Table (id : String → String))
      (audits : List AuditEvent) :
      Effect ⟨db, t⟩ .addWork ⟨{ db with workItems := items, companies := companies, auditEvents := audits }, t⟩
  | recordUsage {db t} (usage : BudgetUsage) (hdirect : usage.executionId = none) :
      Effect ⟨db, t⟩ (.recordUsage usage) ⟨{ db with budgetUsage := db.budgetUsage ++ [usage] }, t⟩
  | addPolicy {db t policy policies} (hpolicies : db.budgetPolicies.insert policy = some policies) :
      Effect ⟨db, t⟩ (.addPolicy policy) ⟨{ db with budgetPolicies := policies }, t⟩
  | editPolicy {db t} (budgetId : String) (limit : Option ℚ≥0) (f : BudgetPolicy → BudgetPolicy)
      (hf : ∀ p, (f p).budgetId = p.budgetId)
      (hkeep : ∀ p, (f p).period = p.period ∧ (f p).limitUsd = limit.getD p.limitUsd) :
      Effect ⟨db, t⟩ (.editPolicy budgetId limit) ⟨{ db with
        budgetPolicies := db.budgetPolicies.update (fun p => p.budgetId = budgetId) f hf }, t⟩
  | registry {db t} (companies : Table (id : String → String))
      (roles : Table (fun r : AgentRole => (r.companyId, r.agentId))) (approvals : Table ApprovalRequest.approvalId)
      (artifacts : Table Artifact.artifactId) (audits : List AuditEvent)
      (hroles : ∀ k, (db.agentRoles.get k).isSome = true → (roles.get k).isSome = true) :
      Effect ⟨db, t⟩ .registry ⟨{ db with
        companies := companies
        agentRoles := roles
        approvals := approvals
        artifacts := artifacts
        auditEvents := audits }, t⟩

abbrev Writes (ok : Write → Prop) : Snapshot → Snapshot → Prop := Run Effect (fun _ w => ok w)

variable {s t : Snapshot} {w : Write}

theorem Effect.writes {ok} (h : Effect s w t) (hok : ok w) : Writes ok s t := Run.single hok h

/-! ### What every write keeps -/

structure SameLease (l l' : ExecutionLease) : Prop where
  executionId : l'.executionId = l.executionId
  companyId : l'.companyId = l.companyId
  resourceId : l'.resourceId = l.resourceId
  intentHash : l'.intentHash = l.intentHash
  runId : l'.runId = l.runId
  ownerId : l'.ownerId = l.ownerId

private theorem SameLease.refl (l) : SameLease l l := ⟨rfl, rfl, rfl, rfl, rfl, rfl⟩

private theorem SameLease.trans {l' l''} (h : SameLease l l') (h' : SameLease l' l'') : SameLease l l'' :=
  ⟨h'.1.trans h.1, h'.2.trans h.2, h'.3.trans h.3, h'.4.trans h.4, h'.5.trans h.5, h'.6.trans h.6⟩

def Write.MarksHeld : Write → Prop
  | .mark lease => lease.state.active = true
  | _ => True

theorem eq_of_lease_get {db : Db} {lease} (hls : db.leases.get lease.executionId = some lease)
    (hl : l ∈ db.leases) (hid : l.executionId = lease.executionId) : l = lease :=
  eq_of_key_eq hl (get_eq_some.1 hls).1 hid

inductive LeaseChange (db : Db) (w : Write) (db' : Db) : Prop
  | same (h : db'.leases = db.leases)
  | added (lease : ExecutionLease) (amount : ℚ≥0) (hw : w = .claim lease amount)
      (hunheld : db.Unheld lease.companyId lease.resourceId) (hnewRun : ∀ l ∈ db.leases, l.runId ≠ lease.runId)
      (h : db.leases.insert lease = some db'.leases)
  | edited (executionId : String) (f : ExecutionLease → ExecutionLease) (hf : ∀ l, (f l).executionId = l.executionId)
      (hsame : ∀ l, SameLease l (f l))
      (hstate : w.MarksHeld → ∀ l ∈ db.leases, l.executionId = executionId →
        (f l).state = l.state ∨ l.state.active = true)
      (h : db'.leases = db.leases.update (fun l => l.executionId = executionId) f hf)

/-- What a write does to the leases. -/
theorem Effect.leaseChange (h : Effect s w t) : LeaseChange s.db w t.db := by
  cases h with
  | claim _ _ _ hu hn hle => exact .added _ _ rfl hu hn hle
  | settle _ _ _ _ _ _ _ _ hls ha =>
    refine .edited _ _ (by intro; rfl) (by intro; exact ⟨rfl, rfl, rfl, rfl, rfl, rfl⟩) (fun _ l hl hid => ?_) rfl
    exact .inr (eq_of_lease_get hls hl hid ▸ ha)
  | mark _ hls =>
    refine .edited _ _ (by intro; rfl) (by intro; exact ⟨rfl, rfl, rfl, rfl, rfl, rfl⟩) (fun hok l hl hid => ?_) rfl
    exact .inr (eq_of_lease_get hls hl hid ▸ hok)
  | abandon _ hls hr =>
    refine .edited _ _ (by intro; rfl) (by intro; exact ⟨rfl, rfl, rfl, rfl, rfl, rfl⟩) (fun _ l hl hid => ?_) rfl
    rw [eq_of_lease_get hls hl hid, hr]
    exact .inr rfl
  | control =>
    refine .edited _ _ (by intro; rfl) (by intro; exact ⟨rfl, rfl, rfl, rfl, rfl, rfl⟩) (fun _ l hl hid => ?_) rfl
    exact .inl rfl
  | tick | closeRun | moveWork | editWork | addWork | recordUsage | addPolicy | editPolicy | registry =>
    exact .same rfl

private theorem Effect.lease_kept (h : Effect s w t) (hl : l ∈ s.db.leases) : ∃ l' ∈ t.db.leases, SameLease l l' := by
  cases h.leaseChange with
  | same h => exact ⟨l, h ▸ hl, .refl l⟩
  | added lease _ _ _ _ h => exact ⟨l, (mem_insert h).2 (.inl hl), .refl l⟩
  | edited executionId f hf hs _ h =>
    refine ⟨_, h ▸ update_mem hf hl, ?_⟩
    split
    · exact hs l
    · exact .refl l

/-- A lease was there before, with the same identity, or is the one that is claimed. -/
theorem Effect.lease_origin (h : Effect s w t) {l'} (hl' : l' ∈ t.db.leases) :
    (∃ l ∈ s.db.leases, SameLease l l' ∧ (w.MarksHeld → l'.state.active = true → l.state.active = true)) ∨
      ∃ amount, w = .claim l' amount := by
  cases h.leaseChange with
  | same h => exact .inl ⟨l', h ▸ hl', .refl l', fun _ ha => ha⟩
  | added lease amount hw _ _ h =>
    rcases (mem_insert h).1 hl' with hl' | rfl
    · exact .inl ⟨l', hl', .refl l', fun _ ha => ha⟩
    · exact .inr ⟨amount, hw⟩
  | edited executionId f hf hs hst h =>
    rw [h] at hl'
    obtain ⟨l, hl, rfl⟩ := mem_update.1 hl'
    refine .inl ⟨l, hl, ?_⟩
    split
    · rename_i hid
      refine ⟨hs l, fun hok ha => ?_⟩
      rcases hst hok l hl (of_decide_eq_true hid) with hk | hh
      · rwa [← hk]
      · exact hh
    · exact ⟨.refl l, fun _ ha => ha⟩

structure SameReservation (r r' : ExecutionReservation) : Prop where
  executionId : r'.executionId = r.executionId
  budgetId : r'.budgetId = r.budgetId
  amountUsd : r'.amountUsd = r.amountUsd

inductive ReservationChange (db : Db) (w : Write) (db' : Db) : Prop
  | same (h : db'.reservations = db.reservations)
  | added (lease : ExecutionLease) (rows : List ExecutionReservation) (amount : ℚ≥0) (hw : w = .claim lease amount)
      (hlease : db.leases.insert lease = some db'.leases)
      (hrows : ∀ r ∈ rows, r.executionId = lease.executionId ∧ r.state = .reserved ∧ r.amountUsd = amount)
      (h : db.reservations.insertAll rows = some db'.reservations)
  | settled (lease : ExecutionLease) (rows : List ExecutionReservation) (cost : ℚ≥0) (failed estimated : Bool)
      (hw : w = .settle lease rows cost failed estimated)
      (h : db'.reservations = db.reservations.update (fun r => r.executionId = lease.executionId)
        (fun r => { r with state := .settled }) (fun _ => rfl))

/-- What a write does to the reservations. -/
theorem Effect.reservationChange (h : Effect s w t) : ReservationChange s.db w t.db := by
  cases h with
  | claim _ _ _ _ _ hl hr hrw => exact .added _ _ _ rfl hl hrw hr
  | settle => exact .settled _ _ _ _ _ rfl rfl
  | tick | mark | abandon | control | closeRun | moveWork | editWork | addWork | recordUsage | addPolicy | editPolicy
    | registry => exact .same rfl

private theorem Effect.reservation_origin (h : Effect s w t) {r'} (hr' : r' ∈ t.db.reservations) :
    (∃ r ∈ s.db.reservations, SameReservation r r') ∨ ∀ l ∈ s.db.leases, l.executionId ≠ r'.executionId := by
  cases h.reservationChange with
  | same h => exact .inl ⟨r', h ▸ hr', rfl, rfl, rfl⟩
  | added lease rows amount _ hls hrw h =>
    rcases (mem_insertAll h).1 hr' with hr' | hr'
    · exact .inl ⟨r', hr', rfl, rfl, rfl⟩
    · refine .inr (fun l hl => ?_)
      rw [(hrw r' hr').1]
      exact (insert_eq_some hls).2 l hl
  | settled lease _ _ _ _ _ h =>
    rw [h] at hr'
    obtain ⟨r, hr, rfl⟩ := mem_update.1 hr'
    refine .inl ⟨r, hr, ?_⟩
    split <;> exact ⟨rfl, rfl, rfl⟩

structure Db.Extends (db db' : Db) : Prop where
  lease_kept : ∀ l ∈ db.leases, ∃ l' ∈ db'.leases, SameLease l l'
  reservation_origin : ∀ r' ∈ db'.reservations,
    (∃ r ∈ db.reservations, SameReservation r r') ∨ ∀ l ∈ db.leases, l.executionId ≠ r'.executionId

private theorem Db.Extends.refl (db : Db) : db.Extends db :=
  ⟨fun l hl => ⟨l, hl, .refl l⟩, fun r hr => .inl ⟨r, hr, rfl, rfl, rfl⟩⟩

private theorem Db.Extends.trans {db db' db'' : Db} (h : db.Extends db') (h' : db'.Extends db'') : db.Extends db'' := by
  refine ⟨fun l hl => ?_, fun r'' hr'' => ?_⟩
  · obtain ⟨l', hl', hs⟩ := h.lease_kept l hl
    obtain ⟨l'', hl'', hs'⟩ := h'.lease_kept l' hl'
    exact ⟨l'', hl'', hs.trans hs'⟩
  · have hk (hn : ∀ l' ∈ db'.leases, l'.executionId ≠ r''.executionId) (l : ExecutionLease) (hl : l ∈ db.leases) :
        l.executionId ≠ r''.executionId := by
      obtain ⟨l', hl', hs⟩ := h.lease_kept l hl
      rw [← hs.executionId]
      exact hn l' hl'
    rcases h'.reservation_origin r'' hr'' with ⟨r', hr', hs'⟩ | hn
    · rcases h.reservation_origin r' hr' with ⟨r, hr, hs⟩ | hn
      · exact .inl ⟨r, hr, hs'.1.trans hs.1, hs'.2.trans hs.2, hs'.3.trans hs.3⟩
      · exact .inr (hs'.executionId ▸ hn)
    · exact .inr (hk hn)

/-- Nothing that was recorded is lost. -/
theorem Writes.extends {ok : Write → Prop} (h : Writes ok s t) : s.db.Extends t.db :=
  Run.relates (Q := fun s t => s.db.Extends t.db) h (fun s => .refl s.db) (fun _ _ _ => .trans)
    (fun _ _ _ _ he => ⟨fun _ => he.lease_kept, fun _ => he.reservation_origin⟩)

/-- Every reservation belongs to a lease, and a lease reserves the same amount from all its budgets. -/
structure Db.Backed (db : Db) : Prop where
  lease : ∀ r ∈ db.reservations, ∃ l ∈ db.leases, l.executionId = r.executionId
  uniform : ∀ r ∈ db.reservations, ∀ r' ∈ db.reservations, r.executionId = r'.executionId → r.amountUsd = r'.amountUsd

/-- Every reservation keeps its lease. -/
theorem Effect.backed (h : Effect s w t) (hs : s.db.Backed) : t.db.Backed := by
  -- a row of `t` that comes from a row of `s` has its lease in `t`
  have ho {r r' : ExecutionReservation} (hr : r ∈ s.db.reservations) (hsm : SameReservation r r') :
      ∃ l ∈ t.db.leases, l.executionId = r'.executionId := by
    obtain ⟨l, hl, hid⟩ := hs.lease r hr
    obtain ⟨l', hl', hl''⟩ := h.lease_kept hl
    exact ⟨l', hl', by rw [hl''.executionId, hid, hsm.executionId]⟩
  have hc (hf : ∀ r' ∈ t.db.reservations, ∃ r ∈ s.db.reservations, SameReservation r r') : t.db.Backed := by
    refine ⟨fun r' hr' => ?_, fun r₁' h₁' r₂' h₂' hid => ?_⟩
    · obtain ⟨r, hr, hsm⟩ := hf r' hr'
      exact ho hr hsm
    · obtain ⟨r₁, h₁, hs₁⟩ := hf r₁' h₁'
      obtain ⟨r₂, h₂, hs₂⟩ := hf r₂' h₂'
      rw [hs₁.amountUsd, hs₂.amountUsd]
      exact hs.uniform r₁ h₁ r₂ h₂ (by rw [← hs₁.executionId, ← hs₂.executionId, hid])
  cases h.reservationChange with
  | same heq => exact hc (fun r hr => ⟨r, heq ▸ hr, rfl, rfl, rfl⟩)
  | settled lease _ _ _ _ _ heq =>
    refine hc (fun r' hr' => ?_)
    rw [heq] at hr'
    obtain ⟨r, hr, rfl⟩ := mem_update.1 hr'
    refine ⟨r, hr, ?_⟩
    split <;> exact ⟨rfl, rfl, rfl⟩
  | added lease rows amount _ hls hrw hi =>
    -- no reservation was there for the lease that is added
    have hfresh (r : ExecutionReservation) (hr : r ∈ s.db.reservations) : r.executionId ≠ lease.executionId := by
      obtain ⟨l, hl, hid⟩ := hs.lease r hr
      rw [← hid]
      exact (insert_eq_some hls).2 l hl
    refine ⟨fun r hr => ?_, fun r hr r' hr' hid => ?_⟩
    · rcases (mem_insertAll hi).1 hr with hr | hr
      · exact ho hr ⟨rfl, rfl, rfl⟩
      · exact ⟨lease, (mem_insert hls).2 (.inr rfl), (hrw r hr).1.symm⟩
    · rcases (mem_insertAll hi).1 hr with hr | hr <;>
        rcases (mem_insertAll hi).1 hr' with hr' | hr'
      · exact hs.uniform r hr r' hr' hid
      · exact absurd (hid.trans (hrw r' hr').1) (hfresh r hr)
      · exact absurd (hid.symm.trans (hrw r hr).1) (hfresh r' hr')
      · rw [(hrw r hr).2.2, (hrw r' hr').2.2]

end WisdoverseCell.ControlPlane
