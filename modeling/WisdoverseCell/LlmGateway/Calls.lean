import WisdoverseCell.ControlPlane.BudgetGuard
import WisdoverseCell.LlmGateway.Recovery

/-!
# Gateway calls

`complete` and `create_messages` resolve the model of a call, estimate its cost, check the budget of the control plane
for this model and cost, and then enter the recovery loop.  `create_messages` first changes the model if the daily
budget is used up.
-/

namespace WisdoverseCell.LlmGateway

open ControlPlane (Db)

open ControlPlane (BudgetScope BudgetPeriod BudgetKey BudgetDecision BudgetGuard.check)

structure Settings where
  budgetEnforced : Bool
  companyId : String
  budgetScope : String
  budgetPeriod : String
  defaultModel : String
  chatModel : String
  summaryModel : String
  dailyBudgetUsd : ℚ≥0
  perRequestCostCapUsd : ℚ≥0

structure Request where
  agentId : String
  model : Option String
  maxTokens : Nat
  inputTokens : Nat
  companyId : Option String
  budgetScope : Option String
  budgetScopeId : Option String
  budgetPeriod : Option String
  runId : Option String
  deriving DecidableEq

structure Selection where
  targetModel : Option String
  temperature : Option ℚ
  maxTokens : Option Int
  unsupportedParameters : Bool
  deriving DecidableEq

/-- How the gateway is entered; `dailyCost` is the cost of the day in Redis, if it can be read. -/
inductive Entry
  | complete (temperature : ℚ) (selection : Option Selection)
  | createMessages (dailyCost : Option ℚ≥0)
  deriving DecidableEq

def orElse (a : Option String) (b : String) : String :=
  match a with
  | some "" | none => b
  | some s => s

/-! ### Costs -/

structure Rates where
  input : ℚ≥0
  output : ℚ≥0

def pricing : List (String × Rates) :=
  [("claude-opus-4-6", ⟨15, 75⟩), ("claude-sonnet-4-6", ⟨3, 15⟩), ("claude-sonnet-4-20250514", ⟨3, 15⟩),
    ("claude-opus-4-20250514", ⟨15, 75⟩), ("claude-3-haiku-20240307", ⟨1 / 4, 5 / 4⟩),
    ("claude-haiku-4-5-20251001", ⟨1, 5⟩)]

def family (name : String) : List Char := ((name.toList.reverse.dropWhile (fun c => c ≠ '-')).drop 1).reverse

def ratesFor (model : String) : Rates :=
  match pricing.lookup model with
  | some rates => rates
  | none =>
    match pricing.find? (fun entry => (family entry.1).isPrefixOf model.toList) with
    | some entry => entry.2
    | none => ⟨3, 15⟩

def anthropicModelForCost (model : String) : String := (Text.removeStart "anthropic/" model).getD model

variable (settings : Settings)

def estimateCost (inputTokens outputTokens : Nat) (model : String) : ℚ≥0 :=
  let rates := ratesFor (anthropicModelForCost (orElse (some model) settings.defaultModel))
  inputTokens / 1000000 * rates.input + outputTokens / 1000000 * rates.output

/-! ### Resolving a call -/

structure Call where
  model : String
  maxTokens : Nat
  allowFallback : Bool
  deriving DecidableEq

def maybeDowngradeModel (dailyCost : Option ℚ≥0) (requested : String) : String :=
  match dailyCost with
  | none => requested
  | some cost => if settings.dailyBudgetUsd < cost then settings.summaryModel else requested

/-- The model and the token bound of a call. -/
def resolveCall (req : Request) : Entry → Except String Call
  | .complete _ none => .ok ⟨orElse req.model settings.defaultModel, req.maxTokens, true⟩
  | .complete temperature (some selection) =>
    if selection.unsupportedParameters then .error "unsupported_frozen_skill_parameters"
    else
      let temperature := selection.temperature.getD temperature
      let maxTokens := selection.maxTokens.getD req.maxTokens
      if 0 ≤ temperature ∧ temperature ≤ 2 ∧ 1 ≤ maxTokens ∧ maxTokens ≤ 32768 then
        .ok ⟨orElse selection.targetModel (orElse req.model settings.defaultModel), maxTokens.toNat, false⟩
      else .error "invalid_frozen_skill_parameters"
  | .createMessages dailyCost =>
    let model := maybeDowngradeModel settings dailyCost (orElse req.model settings.chatModel)
    if estimateCost settings req.inputTokens req.maxTokens model ≤ settings.perRequestCostCapUsd then
      .ok ⟨model, req.maxTokens, true⟩
    else .error "estimated_cost_exceeds_cap"

/-! ### The budget check -/

def budgetScope : String → Option BudgetScope
  | "company" => some .company
  | "goal" => some .goal
  | "agent" => some .agent
  | "work_item" => some .workItem
  | _ => none

def budgetPeriod : String → Option BudgetPeriod
  | "daily" => some .daily
  | "monthly" => some .monthly
  | "quarterly" => some .quarterly
  | "total" => some .total
  | _ => none

def budgetKey (req : Request) : Except String BudgetKey := do
  let companyId := Text.strip (orElse req.companyId settings.companyId)
  ensure (companyId ≠ "") "control_plane_company_id_required_for_llm_budget"
  let scope ← require (budgetScope (orElse req.budgetScope settings.budgetScope)) "invalid_budget_scope"
  let period ← require (budgetPeriod (orElse req.budgetPeriod settings.budgetPeriod)) "invalid_budget_period"
  let scopeId := if req.budgetScopeId = none ∧ scope = .agent then some req.agentId else req.budgetScopeId
  return ⟨companyId, scope, scopeId, period⟩

def guardDecision (db : Db) (req : Request) (call : Call) (model : String) :
    Except String (BudgetKey × BudgetDecision) := do
  let key ← budgetKey settings req
  let decision ← BudgetGuard.check db key (estimateCost settings req.inputTokens call.maxTokens model) (some model)
  return (key, decision)

structure Reservation where
  companyId : String
  budgetId : String
  deriving DecidableEq

def checkControlPlaneBudget (db : Db) (req : Request) (call : Call) :
    Except String (Option Reservation) :=
  if settings.budgetEnforced then do
    let (key, decision) ← guardDecision settings db req call call.model
    ensure decision.allowed decision.reason
    return decision.budgetId.map (fun budgetId => ⟨key.companyId, budgetId⟩)
  else .ok none

/-- A call up to its recovery loop; `canExecute` is the answer of the circuit breaker. -/
def authorize (db : Db) (req : Request) (entry : Entry) (canExecute : Bool) :
    Except String (Call × Option Reservation) := do
  let call ← resolveCall settings req entry
  let reservation ← checkControlPlaneBudget settings db req call
  ensure canExecute "circuit_breaker_open"
  return (call, reservation)

def sentModels (config : RetryConfig) (settings : Settings) (db : Db) (req : Request) (entry : Entry)
    (canExecute : Bool) (answers : List Answer) : List String :=
  match authorize settings db req entry canExecute with
  | .error _ => []
  | .ok (call, _) =>
    match Recovery.fresh config call.model false with
    | .again loop => loop.sent config call.allowFallback answers
    | .returned .. | .raised => []

end WisdoverseCell.LlmGateway
