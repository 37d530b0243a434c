import Mathlib.Algebra.Order.BigOperators.Group.List
import Mathlib.Algebra.Order.Ring.NNRat
import WisdoverseCell.ControlPlane.LeaseExclusion

/-!
# A budget is never overspent

A claim checks that what the budget has been charged in its period, what is outstanding and the new ceiling fit into the
limit.  The cap holds at every later time because a later clock never selects an earlier period, and a settlement
charges no more than it releases.
-/

namespace WisdoverseCell.ControlPlane

open List Table

variable {start : Time} {db : Db} {limit : ℚ≥0} {w : Write} {budgetId executionId : String}
  {rows : List ExecutionReservation}

/-! ### Sums of rows -/

def BudgetUsage.counted (u : BudgetUsage) (budgetId : String) (start : Time) : ℚ≥0 :=
  if u.budgetId = budgetId ∧ start ≤ u.createdAt then u.costUsd else 0

def ExecutionReservation.outstanding (r : ExecutionReservation) (budgetId : String) : ℚ≥0 :=
  if r.budgetId = budgetId ∧ r.state = .reserved then r.amountUsd else 0

/-- The consumption is a sum over the usage rows. -/
theorem Db.consumed_eq (db : Db) (budgetId) (start) :
    db.consumed budgetId start = (db.budgetUsage.map (fun u => u.counted budgetId start)).sum := by
  unfold Db.consumed BudgetUsage.counted
  rw [sum_map_ite]
  simp

private theorem Db.reserved_eq (db : Db) (budgetId) :
    db.reserved budgetId = (db.reservations.rows.map (fun r => r.outstanding budgetId)).sum := by
  unfold Db.reserved ExecutionReservation.outstanding
  rw [sum_map_ite]
  simp

private theorem Db.consumed_anti (db : Db) (budgetId) {start'} (h : start ≤ start') :
    db.consumed budgetId start' ≤ db.consumed budgetId start := by
  rw [db.consumed_eq, db.consumed_eq]
  refine sum_le_sum (fun u _ => ?_)
  unfold BudgetUsage.counted
  split
  · rename_i hu
    rw [if_pos ⟨hu.1, h.trans hu.2⟩]
  · exact zero_le

/-- A budget without rows is within every limit. -/
theorem Db.unspent_le (start : Time) (limit) (hus : ∀ u ∈ db.budgetUsage, u.budgetId ≠ budgetId)
    (hrs : ∀ r ∈ db.reservations, r.budgetId ≠ budgetId) :
      db.consumed budgetId start + db.reserved budgetId ≤ limit := by
  have hc : db.consumed budgetId start = 0 := by
    rw [db.consumed_eq]
    refine sum_eq_zero (fun x hx => ?_)
    obtain ⟨u, hu, rfl⟩ := mem_map.1 hx
    exact if_neg (fun hc => hus u hu hc.1)
  have hr : db.reserved budgetId = 0 := by
    rw [db.reserved_eq]
    refine sum_eq_zero (fun x hx => ?_)
    obtain ⟨r, hr, rfl⟩ := mem_map.1 hx
    exact if_neg (fun hc => hrs r hr hc.1)
  rw [hc, hr, add_zero]
  exact zero_le

private theorem sum_outstanding_le (hn : (rows.map ExecutionReservation.budgetId).Nodup) :
    (rows.map (fun r => r.outstanding budgetId)).sum = 0 ∨
      ∃ r ∈ rows, r.budgetId = budgetId ∧ (rows.map (fun r => r.outstanding budgetId)).sum ≤ r.amountUsd := by
  induction rows with
  | nil => exact .inl rfl
  | cons r rows ih =>
    rw [map_cons, nodup_cons] at hn
    obtain ⟨hnw, hn⟩ := hn
    rw [map_cons, sum_cons]
    by_cases hr : r.budgetId = budgetId
    · have hrs : (rows.map (fun r => r.outstanding budgetId)).sum = 0 := by
        refine sum_eq_zero (fun x hx => ?_)
        obtain ⟨r', hr', rfl⟩ := mem_map.1 hx
        have hne : r'.budgetId ≠ budgetId := fun h => hnw (mem_map.2 ⟨r', hr', h.trans hr.symm⟩)
        simp [ExecutionReservation.outstanding, hne]
      refine .inr ⟨r, mem_cons_self, hr, ?_⟩
      rw [hrs, add_zero]
      unfold ExecutionReservation.outstanding
      split
      · exact le_rfl
      · exact zero_le
    · have hzr : r.outstanding budgetId = 0 := by simp [ExecutionReservation.outstanding, hr]
      rw [hzr, zero_add]
      rcases ih hn with hz | ⟨r', hr', hb, hle⟩
      · exact .inl hz
      · exact .inr ⟨r', mem_cons_of_mem _ hr', hb, hle⟩

private theorem settle_sum_le {cost : ℚ≥0} {charge : ExecutionReservation → BudgetUsage}
    (hrs : ∀ r ∈ rows, r.executionId = executionId → r.state = .reserved)
    (hch : ∀ r, (charge r).budgetId = r.budgetId ∧ (charge r).costUsd = cost)
    (hcs : ∀ r ∈ rows, r.executionId = executionId → cost ≤ r.amountUsd) :
    (((rows.filter (fun r => r.executionId = executionId)).map charge).map (fun u => u.counted budgetId start)).sum +
      ((rows.map (fun r => if decide (r.executionId = executionId) then { r with state := .settled } else r)).map
        (fun r => r.outstanding budgetId)).sum ≤
      (rows.map (fun r => r.outstanding budgetId)).sum := by
  have hf : (((rows.filter (fun r => r.executionId = executionId)).map charge).map
      (fun u => u.counted budgetId start)).sum =
      (rows.map (fun r => if r.executionId = executionId then (charge r).counted budgetId start else 0)).sum := by
    rw [sum_map_ite, map_map]
    simp [Function.comp_def]
  rw [hf, map_map, ← sum_map_add]
  refine sum_le_sum (fun r hr => ?_)
  by_cases hid : r.executionId = executionId
  · -- the row is released, and charged at most its amount
    have hs := hrs r hr hid
    have hle := hcs r hr hid
    obtain ⟨hb, hc⟩ := hch r
    by_cases hbd : r.budgetId = budgetId
    · simp only [Function.comp_apply, hid, if_true, decide_true, ExecutionReservation.outstanding, hs, hbd,
        BudgetUsage.counted, hb, hc, reduceCtorEq, and_false, if_false, add_zero, and_self]
      split
      · exact hle
      · exact zero_le
    · simp [hid, ExecutionReservation.outstanding, BudgetUsage.counted, hb, hbd]
  · simp [hid]

/-! ### Writes -/

/-- Writes that spend a budget of limit `limit` only through settlements, each within the amount it reserved. -/
def Write.SpendsWithin (budgetId : String) (limit : ℚ≥0) : Write → Prop
  | .settle _ rows cost _ _ => ∀ r ∈ rows, cost ≤ r.amountUsd
  | .recordUsage u => u.budgetId ≠ budgetId
  | .addPolicy p => p.budgetId = budgetId → p.limitUsd = limit
  | .editPolicy b newLimit => b = budgetId → newLimit.getD limit = limit
  | _ => True

/-- The budget has the limit and is within it; a budget without a policy has no rows. -/
structure Snapshot.Capped (s : Snapshot) (budgetId : String) (limit : ℚ≥0) : Prop where
  policy : ∀ p ∈ s.db.budgetPolicies, p.budgetId = budgetId → p.limitUsd = limit ∧
    s.db.consumed budgetId (periodStart p.period s.clock) + s.db.reserved budgetId ≤ limit
  reservation : ∀ r ∈ s.db.reservations, r.budgetId = budgetId → ∃ p ∈ s.db.budgetPolicies, p.budgetId = budgetId
  usage : ∀ u ∈ s.db.budgetUsage, u.budgetId = budgetId → ∃ p ∈ s.db.budgetPolicies, p.budgetId = budgetId

private theorem nodup_budgets {t t' : Table (fun r : ExecutionReservation => (r.executionId, r.budgetId))}
    (hi : t.insertAll rows = some t') (hrw : ∀ r ∈ rows, r.executionId = executionId) :
    (rows.map ExecutionReservation.budgetId).Nodup := by
  have hn := t'.nodup
  rw [insertAll_eq_some hi, map_append, nodup_append] at hn
  rw [nodup_map_iff_inj_on hn.2.1.of_map]
  intro r hr r' hr' hb
  refine inj_on_of_nodup_map hn.2.1 hr hr' ?_
  rw [hrw r hr, hrw r' hr', hb]

private theorem Effect.capped {s t : Snapshot} (h : Effect s w t) (hok : w.SpendsWithin budgetId limit)
    (hs : s.Capped budgetId limit) : t.Capped budgetId limit := by
  cases h with
  | @tick db clock d =>
    refine ⟨fun p hp hb => ⟨(hs.policy p hp hb).1, ?_⟩, hs.reservation, hs.usage⟩
    have hst := periodStart_mono p.period (Nat.le_add_right clock d)
    exact (add_le_add_left (db.consumed_anti budgetId hst) _).trans (hs.policy p hp hb).2
  | @claim db clock lease rows _ _ _ _ reservations _ _ _ _ _ _ _ hi hrw hft =>
    have hsm : Db.reserved { db with reservations := reservations } budgetId =
        db.reserved budgetId + (rows.map (fun r => r.outstanding budgetId)).sum := by
      rw [Db.reserved_eq, Db.reserved_eq, insertAll_eq_some hi, map_append, sum_append]
    refine ⟨fun p hp hb => ⟨(hs.policy p hp hb).1, ?_⟩, fun r hr hb => ?_, hs.usage⟩
    · change db.consumed budgetId _ + Db.reserved { db with reservations := reservations } budgetId ≤ limit
      rw [hsm, ← add_assoc]
      rcases @sum_outstanding_le budgetId rows (nodup_budgets hi (fun r hr => (hrw r hr).1)) with
        hz | ⟨r, hr, hrb, hle⟩
      · rw [hz, add_zero]
        exact (hs.policy p hp hb).2
      · -- the check of the claim, at the time it sampled
        obtain ⟨p', hp', hp'b, now, hn, hfi⟩ := hft r hr
        obtain rfl := eq_of_key_eq hp hp' (hb.trans (hrb.symm.trans hp'b.symm))
        have hst := periodStart_mono p.period hn
        rw [hb, (hs.policy p hp hb).1] at hfi
        exact (add_le_add (add_le_add_left (db.consumed_anti budgetId hst) _) hle).trans hfi
    · rcases (mem_insertAll hi).1 hr with hr | hr
      · exact hs.reservation r hr hb
      · obtain ⟨p, hp, hpb, -⟩ := hft r hr
        exact ⟨p, hp, hpb.trans hb⟩
  | @settle db clock lease cost failed estimated charge p f hf hk work artifacts audits hl ha hrs
      hc =>
    refine ⟨fun p hp hb => ⟨(hs.policy p hp hb).1, ?_⟩, fun r hr hb => ?_, fun u hu hb => ?_⟩
    · refine le_trans ?_ (hs.policy p hp hb).2
      rw [Db.consumed_eq, Db.consumed_eq, Db.reserved_eq, Db.reserved_eq, map_append, sum_append, add_assoc]
      refine add_le_add_right (settle_sum_le hrs (fun r => ⟨(hc r).1, (hc r).2.1⟩) ?_) _
      exact fun r hr hid => hok r (Db.mem_reservationsOf.2 ⟨hr, hid⟩)
    · rw [mem_update] at hr
      obtain ⟨r₀, hr₀, rfl⟩ := hr
      refine hs.reservation r₀ hr₀ ?_
      split at hb <;> exact hb
    · rcases mem_append.1 hu with hu | hu
      · exact hs.usage u hu hb
      · obtain ⟨r, hr, rfl⟩ := mem_map.1 hu
        exact hs.reservation r (Db.mem_reservationsOf.1 hr).1 ((hc r).1.symm.trans hb)
  | @recordUsage db clock usage =>
    refine ⟨fun p hp hb => ⟨(hs.policy p hp hb).1, ?_⟩, hs.reservation, fun u hu hb => ?_⟩
    · refine le_of_eq_of_le ?_ (hs.policy p hp hb).2
      have hz : usage.counted budgetId (periodStart p.period clock) = 0 := if_neg (fun h => hok h.1)
      rw [Db.consumed_eq, Db.consumed_eq, map_append, sum_append, map_singleton, sum_singleton, hz, add_zero]
      rfl
    · rcases mem_concat.1 hu with hu | hu
      · exact hs.usage u hu hb
      · exact absurd (hu ▸ hb) hok
  | @addPolicy db clock policy policies hi =>
    obtain ⟨-, hnw⟩ := insert_eq_some hi
    have hkp : (∃ p ∈ db.budgetPolicies, p.budgetId = budgetId) → ∃ p ∈ policies, p.budgetId = budgetId := by
      rintro ⟨p, hp, hb⟩
      exact ⟨p, (mem_insert hi).2 (.inl hp), hb⟩
    refine ⟨fun p hp hb => ?_, fun r hr hb => hkp (hs.reservation r hr hb), fun u hu hb => hkp (hs.usage u hu hb)⟩
    rcases (mem_insert hi).1 hp with hp | rfl
    · exact hs.policy p hp hb
    · -- a budget that had no policy has no rows
      have hfresh : ¬ ∃ p' ∈ db.budgetPolicies, p'.budgetId = budgetId := by
        rintro ⟨p', hp', hb'⟩
        exact hnw p' hp' (hb'.trans hb.symm)
      exact ⟨hok hb, Db.unspent_le _ limit (fun u hu hub => hfresh (hs.usage u hu hub))
        (fun r hr hrb => hfresh (hs.reservation r hr hrb))⟩
  | @editPolicy db clock b newLimit f hf hk =>
    have hkp : (∃ p ∈ db.budgetPolicies, p.budgetId = budgetId) →
        ∃ p ∈ db.budgetPolicies.update (fun p => p.budgetId = b) f hf, p.budgetId = budgetId := by
      rintro ⟨p, hp, hb⟩
      refine ⟨_, update_mem hf hp, ?_⟩
      split
      · exact (hf p).trans hb
      · exact hb
    refine ⟨fun p' hp' hb => ?_, fun r hr hb => hkp (hs.reservation r hr hb), fun u hu hb => hkp (hs.usage u hu hb)⟩
    rw [mem_update] at hp'
    obtain ⟨p, hp, rfl⟩ := hp'
    split at hb
    · rename_i hid
      rw [if_pos hid, (hk p).1, (hk p).2]
      rw [hf] at hb
      obtain ⟨hlm, hcp⟩ := hs.policy p hp hb
      refine ⟨?_, hcp⟩
      rw [hlm]
      exact hok ((of_decide_eq_true hid).symm.trans hb)
    · rename_i hid
      rw [if_neg hid]
      exact hs.policy p hp hb
  | mark | abandon | control | closeRun | moveWork | editWork | addWork | registry =>
    exact ⟨hs.policy, hs.reservation, hs.usage⟩

/-! ### Runs -/

def SpendsWithin (rt : Runtime) (budgetId : String) (limit : ℚ≥0) (s : Sys) : Act → Prop
  | .finish i (.output output) _ =>
    ∀ h ∈ s.held[i]?, ∀ cost ∈ (reportedCost rt h.ticket output).toOption, cost ≤ h.ticket.ceilingUsd
  | .settle i cost _ _ => ∀ h ∈ s.held[i]?, cost ≤ h.ticket.ceilingUsd
  | .recordUsage u => u.budgetId ≠ budgetId
  | .createBudgetPolicy p => p.budgetId = budgetId → p.limitUsd = limit
  | .updateBudgetPolicy b newLimit _ _ => b = budgetId → newLimit.getD limit = limit
  | _ => True

instance (rt : Runtime) (budgetId : String) (limit : ℚ≥0) (s : Sys) (a : Act) :
    Decidable (SpendsWithin rt budgetId limit s a) := by
  unfold SpendsWithin
  split <;> infer_instance

private theorem Db.Backed.reservedCeiling_le (hdb : db.Backed) {r}
    (hr : r ∈ db.reservationsOf executionId) : db.reservedCeiling executionId ≤ r.amountUsd := by
  obtain ⟨hr, hid⟩ := Db.mem_reservationsOf.1 hr
  have hal : ∀ x ∈ (db.reservationsOf executionId).map ExecutionReservation.amountUsd, x ≤ r.amountUsd := by
    intro x hx
    obtain ⟨r', hr', rfl⟩ := mem_map.1 hx
    obtain ⟨hr', hid'⟩ := Db.mem_reservationsOf.1 hr'
    exact (hdb.uniform r' hr' r hr (hid'.trans hid.symm)).le
  have hf : ∀ (l : List ℚ≥0) (a : ℚ≥0), a ≤ r.amountUsd → (∀ x ∈ l, x ≤ r.amountUsd) → l.foldl max a ≤ r.amountUsd := by
    intro l
    induction l with
    | nil => exact fun a ha _ => ha
    | cons x l ih =>
      intro a ha hl
      exact ih _ (max_le ha (hl x mem_cons_self)) (fun y hy => hl y (mem_cons_of_mem _ hy))
  exact hf _ 0 zero_le hal

private theorem spendsWithin_of_causes {rt s a} (hs : s.Ok)
    (hok : SpendsWithin rt budgetId limit s a) (h : Causes rt s a w) : w.SpendsWithin budgetId limit := by
  cases w with
  | settle lease rows cost =>
    obtain ⟨rfl, hst⟩ := h
    intro r hr
    cases hst with
    | reported hh hid hc =>
      rw [hs.amount_eq hh hid hr]
      exact hok _ hh cost (by rw [hc]; rfl)
    | attempt hh hid => exact (hs.amount_eq hh hid hr).ge
    | direct hh hid =>
      rw [hs.amount_eq hh hid hr]
      exact hok _ hh
    | recovery => exact hs.backed.reservedCeiling_le hr
  | recordUsage =>
    subst h
    exact hok
  | addPolicy =>
    subst h
    exact hok
  | editPolicy =>
    obtain ⟨status, modelAllowlist, rfl⟩ := h
    exact hok
  | _ => trivial

/-- What a budget has been charged in the current period and what is outstanding never exceed its limit, in any run
that spends it through settlements within their ceilings. -/
theorem budget_within_limit {rt : Runtime} {s t : Sys} {p : BudgetPolicy} (hs : s.Initial)
    (husage : ∀ u ∈ s.db.budgetUsage, u.budgetId ≠ p.budgetId)
    (hlimit : ∀ q ∈ s.db.budgetPolicies, q.budgetId = p.budgetId → q.limitUsd = p.limitUsd)
    (ht : Run (Steps (step rt)) (SpendsWithin rt p.budgetId p.limitUsd) s t) (hp : p ∈ t.db.budgetPolicies) :
    t.db.consumed p.budgetId (periodStart p.period t.clock) + t.db.reserved p.budgetId ≤ p.limitUsd := by
  obtain ⟨-, hwr⟩ := run_writes ht hs.ok (fun _ _ _ hok hsp hw => spendsWithin_of_causes hok hsp hw)
  have h0 : s.snapshot.Capped p.budgetId p.limitUsd := by
    have hrs : ∀ r ∈ s.db.reservations, r.budgetId ≠ p.budgetId := by
      rw [hs.reservations]
      exact fun r hr => absurd hr (not_mem_empty r)
    exact ⟨fun q hq hb => ⟨hlimit q hq hb, Db.unspent_le _ _ husage hrs⟩, fun r hr hb => absurd hb (hrs r hr),
      fun u hu hb => absurd hb (husage u hu)⟩
  have hc := hwr.invariant (I := fun s => s.Capped p.budgetId p.limitUsd) h0 (fun _ _ _ hI hok he => he.capped hok hI)
  exact (hc.policy p hp rfl).2

/-- Two executions share a daily budget. -/
theorem budget_within_limit_two_executions :
    ∃ t, Run (Steps (step plainRuntime)) (SpendsWithin plainRuntime dailyBudget.budgetId dailyBudget.limitUsd)
        oneAgentSys t ∧ t.db.reserved dailyBudget.budgetId = 2 ∧
      t.db.consumed dailyBudget.budgetId (periodStart dailyBudget.period t.clock) +
        t.db.reserved dailyBudget.budgetId ≤ dailyBudget.limitUsd := by
  refine exists_run_with [.wake 0 httpAgent (keyedCall "k1") none,
    .finish 0 (.output [("cost_usd", .int 1)]) (evidenceIds "first"), .wake 0 httpAgent (keyedCall "k2") none]
    (fun t => t.db.reserved dailyBudget.budgetId = 2 ∧ dailyBudget ∈ t.db.budgetPolicies.rows) (by decide +kernel)
    (fun t hrn ⟨hr, hm⟩ =>
      ⟨hr, budget_within_limit oneAgentSys_initial (fun u hu => absurd hu not_mem_nil) ?_ hrn hm⟩)
  intro q hq _
  rw [mem_singleton.1 hq]

end WisdoverseCell.ControlPlane
