import Mathlib.Data.Rat.Floor
import WisdoverseCell.ControlPlane.Lifecycle
import WisdoverseCell.Library.Calendar

/-!
# Pure execution policy

Bounded money, the frozen intent of a dispatch, the capabilities an adapter needs and the start of a budget period.
`periodStart_mono` is the fact the budget cap rests on: a later clock never selects an earlier period.
-/

namespace WisdoverseCell.ControlPlane

/-! ### Money -/

def roundHalfEven (q : ℚ) : Int :=
  let r := q - ⌊q⌋
  if r < 1 / 2 then ⌊q⌋
  else if 1 / 2 < r then ⌊q⌋ + 1
  else if ⌊q⌋ % 2 = 0 then ⌊q⌋ else ⌊q⌋ + 1

/-- `amount.quantize(Decimal("0.000001"))`. -/
def quantize (q : ℚ) : ℚ := roundHalfEven (q * 1000000) / 1000000

private theorem roundHalfEven_nonneg {q} (h : 0 ≤ q) : 0 ≤ roundHalfEven q := by
  have hf : 0 ≤ ⌊q⌋ := Int.floor_nonneg.2 h
  unfold roundHalfEven
  dsimp only
  split_ifs <;> omega

private theorem quantize_nonneg {q} (h : 0 ≤ q) : 0 ≤ quantize q := by
  have := roundHalfEven_nonneg (mul_nonneg h (by norm_num : (0 : ℚ) ≤ 1000000))
  unfold quantize
  positivity

def decimalOf (rt : Runtime) : Json → Option (Option ℚ)
  | .int n => some (some n)
  | .float q => some (some q)
  | .nonFinite _ => some none
  | .str s => rt.parseDecimal s
  | .null | .bool _ | .arr _ | .obj _ => none

def boundedAmount (amount : ℚ) : Except ExecutionDenied ℚ≥0 :=
  if h : 0 ≤ amount ∧ amount ≤ 1000000 then .ok ⟨quantize amount, quantize_nonneg h.1⟩
  else .error ⟨"invalid_execution_cost", 400⟩

def boundedCost (rt : Runtime) (value : Json) : Except ExecutionDenied ℚ≥0 :=
  match decimalOf rt value with
  | some (some amount) => boundedAmount amount
  | some none | none => .error ⟨"invalid_execution_cost", 400⟩

/-! ### Intent -/

/-- `json.dumps(value, sort_keys=True, separators=(",", ":"), allow_nan=False)`. -/
def compactStyle : Json.Style := ⟨[','], [':'], true, false⟩

def optionalText : Option String → Json
  | some s => .str s
  | none => .null

def intentValue (agent : AgentRole) (payload : JsonObj) (workItemId : Option String) : Json :=
  .obj [("company_id", .str agent.companyId), ("agent_id", .str agent.agentId),
    ("adapter_type", .str agent.adapterType), ("adapter_config", .obj agent.adapterConfig),
    ("permissions", .arr ((agent.permissions.insertionSort (· ≤ ·)).map .str)),
    ("budget_policy_id", optionalText agent.budgetPolicyId), ("escalation_policy", .obj agent.escalationPolicy),
    ("work_item_id", optionalText workItemId), ("input", .obj payload)]

def intentHash (rt : Runtime) (agent : AgentRole) (payload : JsonObj) (workItemId : Option String) :
    Except ExecutionDenied String :=
  match (intentValue agent payload workItemId).dumps compactStyle rt.floatText with
  | some encoded => .ok (rt.sha256 encoded)
  | none => .error ⟨"invalid_execution_intent", 400⟩

def authorizeAdapter (rt : Runtime) (agent : AgentRole) : Except ExecutionDenied ℚ≥0 :=
  if agent.status ≠ "active" then .error ⟨"agent_not_runnable", 409⟩
  -- builtin records intent and has no tool capability or external side effect
  else if agent.adapterType = "builtin" then .ok 0
  else
    let action := rt.str ((agent.adapterConfig.lookup "action").getD (.str "wakeup"))
    let required := ["work.execute", "adapter:" ++ agent.adapterType, "tool:" ++ action]
    if ¬ required.all (fun permission => permission ∈ agent.permissions) then
      .error ⟨"execution_permission_denied", 403⟩
    else
      match agent.adapterConfig.lookup "max_cost_usd" with
      | none => .error ⟨"execution_cost_ceiling_required", 400⟩
      | some value => boundedCost rt value

/-! ### Budget periods -/

def dayMicros : Nat := 86400 * 1000000

def dayOf (now : Time) : Nat := now / dayMicros + 1

def midnight (o : Nat) : Time := (o - 1) * dayMicros

def periodStart (period : BudgetPeriod) (now : Time) : Time :=
  match period with
  | .daily => midnight (dayOf now)
  | .monthly => midnight (Calendar.monthStart (dayOf now))
  | .quarterly => midnight (Calendar.quarterStart (dayOf now))
  | .total => midnight (Calendar.ymdToOrdinal 1970 1 1)

private theorem dayOf_mono {t t'} (h : t ≤ t') : dayOf t ≤ dayOf t' := Nat.add_le_add_right (Nat.div_le_div_right h) 1

private theorem midnight_mono {o o'} (h : o ≤ o') : midnight o ≤ midnight o' :=
  Nat.mul_le_mul_right _ (Nat.sub_le_sub_right h 1)

/-- A later time is in the same period or in a later one. -/
theorem periodStart_mono (period) {t t'} (h : t ≤ t') : periodStart period t ≤ periodStart period t' := by
  have hd := dayOf_mono h
  have hp : 1 ≤ dayOf t := Nat.le_add_left 1 _
  cases period with
  | daily => exact midnight_mono hd
  | monthly => exact midnight_mono (Calendar.monthStart_mono hp hd)
  | quarterly => exact midnight_mono (Calendar.quarterStart_mono hp hd)
  | total => exact Nat.le_refl _

end WisdoverseCell.ControlPlane
