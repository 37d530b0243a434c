import WisdoverseCell.LlmGateway.Calls

/-!
# Which provider calls are governed

The budget check is made once, for the model that the call is resolved to.  A fallback changes the model after the
check, so every model that is sent passes the check exactly if the fallback model does, where the loop falls back.
-/

namespace WisdoverseCell.LlmGateway

open ControlPlane (Db)

open ControlPlane (BudgetKey BudgetDecision BudgetGuard.check)

variable {reservation : Option Reservation} {config : RetryConfig} {settings : Settings} {db : ControlPlane.Db}
  {req : Request} {entry : Entry} {canExecute : Bool} {call : Call} {answers : List Answer} {m : String}

def Governed (settings : Settings) (db : Db) (req : Request) (call : Call) (model : String) : Prop :=
  ∃ key decision, guardDecision settings db req call model = .ok (key, decision) ∧ decision.allowed = true

def fallback (config : RetryConfig) (settings : Settings) (db : Db) (req : Request) (entry : Entry)
    (canExecute : Bool) (answers : List Answer) : Option (Call × String) :=
  match authorize settings db req entry canExecute with
  | .error _ => none
  | .ok (call, _) =>
    match Recovery.fresh config call.model false with
    | .again loop => (loop.fallsBackTo config call.allowFallback answers).map (fun model => (call, model))
    | .returned .. | .raised => none

/-- A call is resolved and within its budget before it is sent. -/
theorem authorize_eq_ok (h : authorize settings db req entry canExecute = .ok (call, reservation)) :
    resolveCall settings req entry = .ok call ∧ checkControlPlaneBudget settings db req call = .ok reservation := by
  simp only [authorize, eq_ok] at h
  obtain ⟨call', hc, reservation', hch, -, -, hp⟩ := h
  cases hp
  exact ⟨hc, hch⟩

private theorem governed_of_authorize (he : settings.budgetEnforced = true)
    (h : authorize settings db req entry canExecute = .ok (call, reservation)) :
    Governed settings db req call call.model := by
  have hc := (authorize_eq_ok h).2
  unfold checkControlPlaneBudget at hc
  rw [if_pos he, bind_eq_ok] at hc
  obtain ⟨⟨key, decision⟩, hd, hc⟩ := hc
  simp only [eq_ok] at hc
  obtain ⟨-, ha, -⟩ := hc
  exact ⟨key, decision, hd, ha⟩

private theorem mem_sentModels {loop} (h : authorize settings db req entry canExecute = .ok (call, reservation))
    (hl : Recovery.fresh config call.model false = .again loop) :
    m ∈ sentModels config settings db req entry canExecute answers ↔
      m = call.model ∨ fallback config settings db req entry canExecute answers = some (call, m) := by
  cases Recovery.fresh_eq_again hl
  simp only [sentModels, fallback, h, hl]
  rw [Recovery.mem_sent rfl]
  simp

/-- With the budget enforced, every model that a request sends is allowed by the guard for this request exactly if the
model that it falls back to is. -/
theorem sent_models_governed_iff (henforced : settings.budgetEnforced = true) (config : RetryConfig)
    (db : Db) (req : Request) (entry : Entry) (canExecute : Bool) (answers : List Answer) :
    (∀ m ∈ sentModels config settings db req entry canExecute answers,
      ∃ call, resolveCall settings req entry = .ok call ∧ Governed settings db req call m) ↔
    ∀ call m, fallback config settings db req entry canExecute answers = some (call, m) →
      Governed settings db req call m := by
  cases ha : authorize settings db req entry canExecute with
  | error => simp [sentModels, fallback, ha]
  | ok authorized =>
    obtain ⟨call, reservation⟩ := authorized
    have hc := (authorize_eq_ok ha).1
    cases hl : Recovery.fresh config call.model false with
    | returned => simp [sentModels, fallback, ha, hl]
    | raised => simp [sentModels, fallback, ha, hl]
    | again =>
      constructor
      · intro hal call' m hf
        have hs : call' = call := by
          simp only [fallback, ha, hl, Option.map_eq_some_iff] at hf
          obtain ⟨_, -, hp⟩ := hf
          exact (Prod.mk.inj hp).1.symm
        subst hs
        obtain ⟨call'', hc'', hg⟩ := hal m ((mem_sentModels ha hl).2 (.inr hf))
        cases hc.symm.trans hc''
        exact hg
      · intro hf m hm
        refine ⟨call, hc, ?_⟩
        rcases (mem_sentModels ha hl).1 hm with rfl | hb
        · exact governed_of_authorize henforced ha
        · exact hf call m hb

/-! ### An overloaded provider -/

def demoSettings : Settings :=
  ⟨true, "cmp_1", "company", "daily", "claude-opus-4-6", "claude-sonnet-4-20250514", "claude-haiku-4-5-20251001", 10, 5⟩

def demoRequest : Request := ⟨"coder", none, 1000, 1000, none, none, none, none, none⟩

def budgetFor (models : List String) : Db :=
  { Db.empty with
    budgetPolicies := ⟨[⟨"bud_1", "cmp_1", .company, .daily, 10, none, "active", models⟩], List.nodup_singleton _⟩ }

def overloaded : Answer := .error ⟨"InternalServerError", some 529, false⟩ 0

/-- After three errors of an overloaded provider, a model is sent that the policy does not allow. -/
theorem fallback_not_allowed : demoSettings.budgetEnforced = true ∧
      sentModels defaultRetryConfig demoSettings (budgetFor ["claude-opus-4-6"]) demoRequest (.complete 0 none) true
        [overloaded, overloaded, overloaded, .reply 900 100] =
        ["claude-opus-4-6", "claude-opus-4-6", "claude-opus-4-6", "claude-haiku-4-5-20251001"] ∧
      (BudgetGuard.check (budgetFor ["claude-opus-4-6"]) ⟨"cmp_1", .company, none, .daily⟩
        (estimateCost demoSettings 1000 1000 "claude-haiku-4-5-20251001")
          (some "claude-haiku-4-5-20251001")).toOption.map
          (fun decision => (decision.allowed, decision.reason)) = some (false, "model_not_allowed") := by
  decide +kernel

/-- With the fallback model in the allowlist, every model that is sent is governed. -/
theorem sent_models_governed_iff_allowed : demoSettings.budgetEnforced = true ∧
    ∀ m ∈ sentModels defaultRetryConfig demoSettings (budgetFor ["claude-opus-4-6", "claude-haiku-4-5-20251001"])
      demoRequest (.complete 0 none) true [overloaded, overloaded, overloaded, .reply 900 100],
      ∃ call, resolveCall demoSettings demoRequest (.complete 0 none) = .ok call ∧
        Governed demoSettings (budgetFor ["claude-opus-4-6", "claude-haiku-4-5-20251001"]) demoRequest call m := by
  have he : demoSettings.budgetEnforced = true := rfl
  refine ⟨he, (sent_models_governed_iff he _ _ _ _ _ _).2 ?_⟩
  intro call m hf
  have hd : fallback defaultRetryConfig demoSettings (budgetFor ["claude-opus-4-6", "claude-haiku-4-5-20251001"])
      demoRequest (.complete 0 none) true [overloaded, overloaded, overloaded, .reply 900 100] =
      some (⟨"claude-opus-4-6", 1000, true⟩, "claude-haiku-4-5-20251001") := by decide +kernel
  cases hd.symm.trans hf
  have ha : (guardDecision demoSettings (budgetFor ["claude-opus-4-6", "claude-haiku-4-5-20251001"]) demoRequest
      ⟨"claude-opus-4-6", 1000, true⟩ "claude-haiku-4-5-20251001").toOption.any (fun r => r.2.allowed) = true := by
    decide +kernel
  obtain ⟨⟨key, decision⟩, hdc, ha⟩ := (Option.any_eq_true _ _).1 ha
  exact ⟨key, decision, toOption_eq_some.1 hdc, ha⟩

end WisdoverseCell.LlmGateway
