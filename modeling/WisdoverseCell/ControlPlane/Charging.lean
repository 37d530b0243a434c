import Mathlib.Algebra.Order.Ring.NNRat
import WisdoverseCell.ControlPlane.LeaseExclusion

/-!
# Every execution is charged exactly once

Usage rows that name an execution are written by `settle` alone, one for each reservation it settles, so their number is
that of the settled reservations.  An execution that failed or whose cost is an estimate has been charged its ceiling at
least.
-/

namespace WisdoverseCell.ControlPlane

open List Option Table

variable {db : Db} {u : BudgetUsage} {rt : Runtime} {executionId : String} {s t : Snapshot} {w : Write}

def Db.usageCount (db : Db) (executionId budgetId : String) : Nat :=
  db.budgetUsage.countP (fun u => u.executionId = some executionId ∧ u.budgetId = budgetId)

def Db.settledCount (db : Db) (executionId budgetId : String) : Nat :=
  db.reservations.rows.countP
    (fun r => r.executionId = executionId ∧ r.budgetId = budgetId ∧ r.state = .settled)

def Write.ChargesCeiling : Write → Prop
  | .settle _ rows cost failed estimated => failed = true ∨ estimated = true → ∀ r ∈ rows, r.amountUsd ≤ cost
  | _ => True

structure Db.Charged (db : Db) : Prop where
  backed : db.Backed
  counts : ∀ executionId budgetId, db.usageCount executionId budgetId = db.settledCount executionId budgetId
  ended : ∀ l ∈ db.leases, l.state.terminal = true → ∀ r ∈ db.reservations, r.executionId = l.executionId →
    r.state = .settled
  failed : ∀ l ∈ db.leases, l.state = .failed → ∀ u ∈ db.budgetUsage, u.executionId = some l.executionId →
    u.failedAttempt = true
  ceiling : ∀ u ∈ db.budgetUsage, ∀ r ∈ db.reservations, u.executionId = some r.executionId →
    u.budgetId = r.budgetId → u.failedAttempt = true ∨ u.chargedCeiling = true → r.amountUsd ≤ u.costUsd

/-! ### Counting rows -/

private theorem Db.Charged.reservation_of_usage (hdb : db.Charged) (hu : u ∈ db.budgetUsage)
    (hid : u.executionId = some executionId) :
    ∃ r ∈ db.reservations, r.executionId = executionId ∧ r.budgetId = u.budgetId ∧ r.state = .settled := by
  have hps : 0 < db.settledCount executionId u.budgetId := by
    rw [← hdb.counts]
    exact countP_pos_iff.2 ⟨u, hu, by simp [hid]⟩
  obtain ⟨r, hr, hp⟩ := countP_pos_iff.1 hps
  exact ⟨r, hr, of_decide_eq_true hp⟩

private theorem Db.Charged.no_usage (hdb : db.Charged)
    (hrs : ∀ r ∈ db.reservations, r.executionId = executionId → r.state = .reserved) (hu : u ∈ db.budgetUsage) :
    u.executionId ≠ some executionId := by
  intro hid
  obtain ⟨r, hr, hrd, -, hs⟩ := hdb.reservation_of_usage hu hid
  rw [hrs r hr hrd] at hs
  exact absurd hs (by decide)

private theorem settle_counts {rows : List ExecutionReservation} {lease budgetId : String}
    {charge : ExecutionReservation → BudgetUsage} (hr : ∀ r ∈ rows, r.executionId = lease → r.state = .reserved)
    (hc : ∀ r, (charge r).budgetId = r.budgetId ∧ (charge r).executionId = some lease) :
    (rows.map (fun r => if decide (r.executionId = lease) then { r with state := .settled } else r)).countP
        (fun r => r.executionId = executionId ∧ r.budgetId = budgetId ∧ r.state = .settled) =
      rows.countP (fun r => r.executionId = executionId ∧ r.budgetId = budgetId ∧ r.state = .settled) +
      ((rows.filter (fun r => r.executionId = lease)).map charge).countP
        (fun u => u.executionId = some executionId ∧ u.budgetId = budgetId) := by
  induction rows with
  | nil => rfl
  | cons r rows ih =>
    have ih := ih (fun r' hr' => hr r' (mem_cons_of_mem _ hr'))
    have hs := hr r mem_cons_self
    obtain ⟨hb, he⟩ := hc r
    by_cases hid : r.executionId = lease
    · -- the row was outstanding, it is counted once as settled and once as charged
      have hs := hs hid
      simp only [map_cons, countP_cons, filter_cons, hid, decide_true, if_true, ih, hs, hb, he,
        reduceCtorEq, and_false, decide_false, Bool.false_eq_true, if_false, Nat.add_zero, and_true, some.injEq]
      omega
    · simp only [map_cons, countP_cons, filter_cons, hid, decide_false, Bool.false_eq_true, if_false, ih]
      omega

/-! ### Writes -/

private theorem Effect.counts (h : Effect s w t) (hs : s.db.Charged) (executionId budgetId) :
    t.db.usageCount executionId budgetId = t.db.settledCount executionId budgetId := by
  have hc := hs.counts executionId budgetId
  cases h with
  | @claim db _ lease rows _ _ _ _ reservations _ _ _ _ _ _ _ hi hrw =>
    have hn : rows.countP (fun r => r.executionId = executionId ∧ r.budgetId = budgetId ∧ r.state = .settled) = 0 := by
      rw [countP_eq_zero]
      intro r hr
      simp [(hrw r hr).2.1]
    have hst : Db.settledCount { db with reservations := reservations } executionId budgetId =
        db.settledCount executionId budgetId := by
      unfold Db.settledCount
      rw [insertAll_eq_some hi, countP_append, hn, Nat.add_zero]
    exact hc.trans hst.symm
  | @settle db _ lease _ _ _ charge _ _ _ _ _ _ _ _ _ hrs hch =>
    have hnw := @settle_counts executionId _ _ budgetId _ hrs (fun r => ⟨(hch r).1, (hch r).2.2.1⟩)
    change countP _ (db.budgetUsage ++ _) = countP _ (db.reservations.rows.map _)
    rw [countP_append, hnw]
    exact congrArg (· + _) hc
  | @recordUsage db _ usage hd =>
    have hn : decide (usage.executionId = some executionId ∧ usage.budgetId = budgetId) = false := by simp [hd]
    change countP _ (db.budgetUsage ++ [usage]) = _
    rw [countP_append, countP_singleton, hn]
    exact hc
  | tick | mark | abandon | control | closeRun | moveWork | editWork | addWork | addPolicy | editPolicy | registry =>
    exact hc

private theorem Effect.ended_origin (h : Effect s w t) {l'} (hl' : l' ∈ t.db.leases) (ht : l'.state.terminal = true) :
    (∃ l ∈ s.db.leases, l.executionId = l'.executionId ∧ l.state = l'.state) ∨
      ∃ lease rows cost failed estimated, w = .settle lease rows cost failed estimated ∧
        l'.executionId = lease.executionId ∧ (l'.state = .failed → failed = true) := by
  cases h with
  | claim _ _ hr _ _ hls =>
    rcases (mem_insert hls).1 hl' with hl' | rfl
    · exact .inl ⟨l', hl', rfl, rfl⟩
    · rw [hr] at ht
      exact absurd ht (by decide)
  | settle =>
    rw [mem_update] at hl'
    obtain ⟨l, hl, rfl⟩ := hl'
    split
    · rename_i hid
      exact .inr ⟨_, _, _, _, _, rfl, of_decide_eq_true hid, by simp⟩
    · exact .inl ⟨l, hl, rfl, rfl⟩
  | mark | abandon =>
    rw [mem_update] at hl'
    obtain ⟨l, hl, rfl⟩ := hl'
    split at ht
    · exact absurd ht (by simp [LeaseState.terminal, LeaseState.active])
    · rename_i hne
      rw [if_neg hne]
      exact .inl ⟨l, hl, rfl, rfl⟩
  | control =>
    rw [mem_update] at hl'
    obtain ⟨l, hl, rfl⟩ := hl'
    refine .inl ⟨l, hl, ?_⟩
    split <;> exact ⟨rfl, rfl⟩
  | tick | closeRun | moveWork | editWork | addWork | recordUsage | addPolicy | editPolicy | registry =>
    exact .inl ⟨l', hl', rfl, rfl⟩

private theorem Effect.ended (h : Effect s w t) (hs : s.db.Charged) :
    ∀ l ∈ t.db.leases, l.state.terminal = true → ∀ r ∈ t.db.reservations, r.executionId = l.executionId →
      r.state = .settled := by
  intro l' hl' ht r hr hid
  -- the row belongs to an execution that had ended before
  have ho {l : ExecutionLease} (hl : l ∈ s.db.leases) (hld : l.executionId = l'.executionId)
      (hst : l.state = l'.state) (hro : r ∈ s.db.reservations) : r.state = .settled :=
    hs.ended l hl (hst ▸ ht) r hro (hid.trans hld.symm)
  rcases h.ended_origin hl' ht with ⟨l, hl, hld, hst⟩ | ⟨lease, rows, cost, failed, estimated, rfl, hld, -⟩
  · cases h.reservationChange with
    | same heq => exact ho hl hld hst (heq ▸ hr)
    | added lease rows amount _ hls hrw hi =>
      rcases (mem_insertAll hi).1 hr with hr | hr
      · exact ho hl hld hst hr
      · exact absurd (hld.trans (hid.symm.trans (hrw r hr).1)) ((insert_eq_some hls).2 l hl)
    | settled lease _ _ _ _ _ heq =>
      rw [heq, mem_update] at hr
      obtain ⟨r₀, hr₀, rfl⟩ := hr
      split
      · rfl
      · rename_i hne
        rw [if_neg hne] at hid
        exact hs.ended l hl (hst ▸ ht) r₀ hr₀ (hid.trans hld.symm)
  · cases h with
    | settle =>
      rw [mem_update] at hr
      obtain ⟨r₀, hr₀, rfl⟩ := hr
      split
      · rfl
      · rename_i hne
        rw [if_neg hne] at hid
        exact absurd (decide_eq_true (hid.trans hld)) hne

private theorem Effect.failed (h : Effect s w t) (hs : s.db.Charged) :
    ∀ l ∈ t.db.leases, l.state = .failed → ∀ u ∈ t.db.budgetUsage, u.executionId = some l.executionId →
      u.failedAttempt = true := by
  intro l' hl' hfl u hu hid
  have ht : l'.state.terminal = true := by rw [hfl]; rfl
  rcases h.ended_origin hl' ht with ⟨l, hl, hld, hst⟩ | ⟨lease, rows, cost, failed, estimated, rfl, hld, hf⟩
  · have ho (hrw : u ∈ s.db.budgetUsage) : u.failedAttempt = true :=
      hs.failed l hl (hst.trans hfl) u hrw (hid.trans (congrArg some hld.symm))
    cases h with
    | settle charge _ _ _ _ _ _ _ hls ha _ hc =>
      rcases mem_append.1 hu with hu | hu
      · exact ho hu
      · -- a failed lease is not settled again
        obtain ⟨r, hr, rfl⟩ := mem_map.1 hu
        rw [(hc r).2.2.1, some.injEq] at hid
        rw [← eq_of_lease_get hls hl (hld.trans hid.symm), hst, hfl] at ha
        exact absurd ha (by decide)
    | recordUsage usage hd =>
      rcases mem_concat.1 hu with hu | hu
      · exact ho hu
      · rw [hu, hd] at hid
        cases hid
    | _ => exact ho hu
  · cases h with
    | settle charge _ _ _ _ _ _ _ hls ha hrs hc =>
      rcases mem_append.1 hu with hu | hu
      · exact absurd (hid.trans (congrArg some hld)) (hs.no_usage hrs hu)
      · obtain ⟨r, hr, rfl⟩ := mem_map.1 hu
        rw [(hc r).2.2.2.1]
        exact hf hfl

private theorem Effect.ceiling (h : Effect s w t) (hok : w.ChargesCeiling) (hs : s.db.Charged) :
    ∀ u ∈ t.db.budgetUsage, ∀ r ∈ t.db.reservations, u.executionId = some r.executionId → u.budgetId = r.budgetId →
      u.failedAttempt = true ∨ u.chargedCeiling = true → r.amountUsd ≤ u.costUsd := by
  intro u hu r hr hid hb hf
  cases h with
  | claim _ _ _ _ _ hls hi hrw =>
    rcases (mem_insertAll hi).1 hr with hr | hr
    · exact hs.ceiling u hu r hr hid hb hf
    · -- the execution is new, it has no usage row
      obtain ⟨r', hr', hr'id, -⟩ := hs.reservation_of_usage hu hid
      obtain ⟨l, hl, hld⟩ := hs.backed.lease r' hr'
      exact absurd (hld.trans (hr'id.trans (hrw r hr).1)) ((insert_eq_some hls).2 l hl)
  | @settle _ _ lease _ _ _ charge _ _ _ _ _ _ _ _ _ _ hc =>
    rw [mem_update] at hr
    obtain ⟨r₀, hr₀, rfl⟩ := hr
    have hsm : SameReservation r₀
      (if decide (r₀.executionId = lease.executionId) then { r₀ with state := .settled } else r₀) := by
      split <;> exact ⟨rfl, rfl, rfl⟩
    rw [hsm.executionId] at hid
    rw [hsm.budgetId] at hb
    rw [hsm.amountUsd]
    rcases mem_append.1 hu with hu | hu
    · exact hs.ceiling u hu r₀ hr₀ hid hb hf
    · obtain ⟨r', hr', rfl⟩ := mem_map.1 hu
      obtain ⟨-, hcs, he, hfl, hes, -⟩ := hc r'
      rw [hfl, hes] at hf
      rw [hcs]
      rw [he, some.injEq] at hid
      exact hok hf r₀ (Db.mem_reservationsOf.2 ⟨hr₀, hid.symm⟩)
  | recordUsage usage hd =>
    rcases mem_concat.1 hu with hu | hu
    · exact hs.ceiling u hu r hr hid hb hf
    · rw [hu, hd] at hid
      cases hid
  | tick | mark | abandon | control | closeRun | moveWork | editWork | addWork | addPolicy | editPolicy | registry =>
    exact hs.ceiling u hu r hr hid hb hf

private theorem Effect.charged (h : Effect s w t) (hok : w.ChargesCeiling) (hs : s.db.Charged) :
    t.db.Charged where
  backed := h.backed hs.backed
  counts := h.counts hs
  ended := h.ended hs
  failed := h.failed hs
  ceiling := h.ceiling hok hs

/-! ### Runs -/

def ThroughRunner (_ : Sys) : Act → Prop
  | .settle _ _ _ _ => False
  | _ => True

instance (s : Sys) : (a : Act) → Decidable (ThroughRunner s a)
  | .settle .. => isFalse id
  | .tick _ | .wake .. | .finish .. | .markUncertain _ | .recover .. | .updateStatus _ | .requestControl ..
      | .requestApproval _
  | .resolveApproval .. | .review _ | .createWorkItem _ | .createArtifact _ | .putAgentRole _ | .createCompany _
  | .createBudgetPolicy _ | .updateBudgetPolicy .. | .recordUsage _ => isTrue trivial

private theorem Db.le_reservedCeiling {r} (hr : r ∈ db.reservationsOf executionId) :
    r.amountUsd ≤ db.reservedCeiling executionId := by
  have hf : ∀ (l : List ℚ≥0) (a x : ℚ≥0), x ≤ a ∨ x ∈ l → x ≤ l.foldl max a := by
    intro l
    induction l with
    | nil =>
      rintro a x (h | h)
      · exact h
      · exact absurd h not_mem_nil
    | cons y l ih =>
      rintro a x (h | h)
      · exact ih _ x (.inl (h.trans (le_max_left a y)))
      · rcases mem_cons.1 h with rfl | h
        · exact ih _ x (.inl (le_max_right a x))
        · exact ih _ x (.inr h)
  exact hf _ 0 _ (.inr (mem_map.2 ⟨r, hr, rfl⟩))

private theorem ceiling_le_of_isEstimate {ticket output cost}
    (h : reportedCost rt ticket output = .ok cost) (he : isEstimate output = true) : ticket.ceilingUsd ≤ cost := by
  simp only [reportedCost, he, if_true] at h
  split at h
  all_goals
    obtain ⟨reported, -, hm⟩ := bind_eq_ok.1 h
    rw [← pure_eq_ok.1 hm]
    exact le_max_right reported ticket.ceilingUsd

private theorem chargesCeiling_of_causes {s a} (hs : s.Ok) (hok : ThroughRunner s a) (h : Causes rt s a w) :
    w.ChargesCeiling := by
  cases w with
  | settle =>
    obtain ⟨rfl, hst⟩ := h
    intro hf r hr
    cases hst with
    | reported hh hid hc =>
      rw [hs.amount_eq hh hid hr]
      rcases hf with he | hes
      · exact (of_decide_eq_true he).le
      · exact ceiling_le_of_isEstimate hc hes
    | attempt hh hid => exact (hs.amount_eq hh hid hr).le
    | direct => exact absurd hok id
    | recovery => exact Db.le_reservedCeiling hr
  | _ => trivial

/-- One usage row for each settled reservation and none for any other, nothing outstanding once a lease has ended, and
at least the ceiling for failures and estimates. -/
structure Db.ChargedOnce (db : Db) : Prop where
  atMostOne : ∀ executionId budgetId, db.usageCount executionId budgetId ≤ 1
  iffSettled : ∀ executionId budgetId, db.usageCount executionId budgetId = 1 ↔
    ∃ r ∈ db.reservations, r.executionId = executionId ∧ r.budgetId = budgetId ∧ r.state = .settled
  ended : ∀ l ∈ db.leases, l.state.terminal = true → ∀ r ∈ db.reservations, r.executionId = l.executionId →
    r.state = .settled
  ceiling : ∀ l ∈ db.leases, ∀ r ∈ db.reservations, r.executionId = l.executionId → ∀ u ∈ db.budgetUsage,
    u.executionId = some r.executionId → u.budgetId = r.budgetId →
    l.state = .failed ∨ u.failedAttempt = true ∨ u.chargedCeiling = true → r.amountUsd ≤ u.costUsd

private theorem Db.settledCount_le_one (db : Db) (executionId budgetId) : db.settledCount executionId budgetId ≤ 1 := by
  have hk : db.settledCount executionId budgetId ≤
      (db.reservations.rows.map (fun r => (r.executionId, r.budgetId))).count (executionId, budgetId) := by
    rw [count, countP_map]
    refine countP_mono_left (fun r _ hr => ?_)
    obtain ⟨he, hb, -⟩ := of_decide_eq_true hr
    simp [he, hb]
  exact hk.trans (nodup_iff_count_le_one.1 db.reservations.nodup _)

private theorem Db.Charged.once (hdb : db.Charged) : db.ChargedOnce := by
  have hle (executionId budgetId : String) : db.usageCount executionId budgetId ≤ 1 := by
    rw [hdb.counts]
    exact db.settledCount_le_one executionId budgetId
  refine ⟨hle, fun executionId budgetId => ?_, hdb.ended, fun l hl r hr hid u hu hue hub hf => ?_⟩
  · have hp : 0 < db.settledCount executionId budgetId ↔
        ∃ r ∈ db.reservations, r.executionId = executionId ∧ r.budgetId = budgetId ∧ r.state = .settled := by
      unfold Db.settledCount
      rw [countP_pos_iff]
      simp only [decide_eq_true_eq]
      exact Iff.rfl
    rw [← hp, ← hdb.counts]
    have := hle executionId budgetId
    omega
  · refine hdb.ceiling u hu r hr hue hub ?_
    rcases hf with hfl | hf
    · exact .inl (hdb.failed l hl hfl u hu (hue.trans (congrArg some hid)))
    · exact hf

private theorem Sys.Initial.charged {s : Sys} (h : s.Initial) : s.db.Charged := by
  have hls (l : ExecutionLease) : ¬ l ∈ s.db.leases := by
    rw [h.leases]
    exact not_mem_empty l
  have hrs (r : ExecutionReservation) : ¬ r ∈ s.db.reservations := by
    rw [h.reservations]
    exact not_mem_empty r
  refine ⟨h.ok.backed, fun executionId budgetId => ?_, fun l hl => absurd hl (hls l),
    fun l hl => absurd hl (hls l), fun u _ r hr => absurd hr (hrs r)⟩
  have hus : s.db.usageCount executionId budgetId = 0 := by
    rw [Db.usageCount, countP_eq_zero]
    intro u hu
    simp [h.usage u hu]
  have hs : s.db.settledCount executionId budgetId = 0 := by
    rw [Db.settledCount, h.reservations]
    rfl
  rw [hus, hs]

/-- In every run of runners and operators, executions are charged exactly once. -/
theorem executions_charged_once {rt : Runtime} {s t : Sys} (hs : s.Initial)
    (ht : Run (Steps (step rt)) ThroughRunner s t) : t.db.ChargedOnce := by
  obtain ⟨-, hwr⟩ := run_writes ht hs.ok (fun _ _ _ hok hr hw => chargesCeiling_of_causes hok hr hw)
  have hc : t.db.Charged :=
    hwr.invariant (I := fun s => s.db.Charged) hs.charged (fun _ _ _ hI hok he => he.charged hok hI)
  exact hc.once

/-- A recovered execution, a late report of uncertain effects, and a second execution that reports no cost. -/
theorem executions_charged_once_late_mark : ∃ t, Run (Steps (step plainRuntime)) ThroughRunner oneAgentSys t ∧
      t.db.budgetUsage.map BudgetUsage.costUsd = [2, 2] ∧ t.db.ChargedOnce :=
  exists_run_and (recoveredThenClaimed ++
      [.finish 0 effectsUncertain (evidenceIds "late"), .finish 1 (.output []) (evidenceIds "second")])
    (by decide +kernel) (fun _ hr => executions_charged_once oneAgentSys_initial hr)

end WisdoverseCell.ControlPlane
