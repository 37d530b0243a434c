import WisdoverseCell.Library.Text

/-!
# Retries and fallback of provider calls

`_call_with_recovery` repeats a provider call by the category of its last error, and changes an overloaded model to the
fallback model once.  `Recovery.next` is one pass of the loop, and `Recovery.sent` the models that are sent while the
provider gives these answers.
-/

namespace WisdoverseCell.LlmGateway

open List

/-! ### Error categories -/

inductive ErrorCategory
  | rateLimit
  | overloaded
  | network
  | auth
  | contentSize
  | other
  deriving DecidableEq

/-- What is read of an exception; `tooLong` says whether its text matches the patterns for prompts that are too long. -/
structure ProviderError where
  className : String
  statusCode : Option Int
  tooLong : Bool

def classifyError (e : ProviderError) : ErrorCategory :=
  if e.className = "RateLimitError" ∨ e.statusCode = some 429 then .rateLimit
  else if e.className = "AuthenticationError" ∨ e.className = "PermissionDeniedError" then .auth
  else if e.className = "APIConnectionError" ∨ e.className = "APITimeoutError" then .network
  else if e.className = "BadRequestError" ∨ e.statusCode = some 400 then
    if e.tooLong then .contentSize else .other
  else if e.statusCode ∈ [some 500, some 502, some 503, some 529] then .overloaded
  else if e.tooLong then .contentSize
  else .other

structure RetryStrategy where
  maxAttempts : Nat
  fallbackModel : Option String

/-- The delays are left out, up to the time after which `persistent_mode` gives up. -/
structure RetryConfig where
  strategies : ErrorCategory → RetryStrategy
  persistentMode : Bool
  maxPersistentSeconds : Nat

def defaultRetryConfig : RetryConfig where
  strategies
    | .rateLimit => ⟨6, none⟩
    | .overloaded => ⟨3, some "claude-haiku-4-5-20251001"⟩
    | .network => ⟨4, none⟩
    | .auth => ⟨1, none⟩
    | .contentSize => ⟨1, none⟩
    | .other => ⟨1, none⟩
  persistentMode := false
  maxPersistentSeconds := 1800

/-! ### The loop -/

/-- The provider's answer to one call: the tokens used, or an error, with the seconds since the loop began. -/
inductive Answer
  | reply (inputTokens outputTokens : Nat)
  | error (e : ProviderError) (elapsed : Nat)

structure Recovery where
  model : String
  attempt : Nat
  fallbackAttempted : Bool
  deriving DecidableEq

inductive Progress
  | again (loop : Recovery)
  | returned (model : String) (inputTokens outputTokens : Nat)
  | raised

namespace Recovery

/-- The loop without an error yet, as at its start and after falling back; it makes the attempts of a network error. -/
def fresh (config : RetryConfig) (model : String) (fallbackAttempted : Bool) : Progress :=
  if (config.strategies .network).maxAttempts = 0 then .raised else .again ⟨model, 0, fallbackAttempted⟩

def exhausted (config : RetryConfig) (allowFallback : Bool) (loop : Recovery) (category : ErrorCategory)
    (elapsed : Nat) : Progress :=
  match (config.strategies category).fallbackModel with
  | some fallback =>
    if category = .overloaded ∧ allowFallback ∧ fallback ≠ "" ∧ loop.fallbackAttempted = false then
      fresh config fallback true
    else persist
  | none => persist
where
  persist : Progress :=
    if config.persistentMode ∧ (category = .rateLimit ∨ category = .overloaded) ∧ elapsed < config.maxPersistentSeconds
    then .again { loop with attempt := 0 }
    else .raised

def next (config : RetryConfig) (allowFallback : Bool) (loop : Recovery) : Answer → Progress
  | .reply inputTokens outputTokens => .returned loop.model inputTokens outputTokens
  | .error e elapsed =>
    let category := classifyError e
    let maxAttempts := (config.strategies category).maxAttempts
    if category = .contentSize ∨ maxAttempts ≤ 1 then .raised
    else if loop.attempt + 1 < maxAttempts then .again { loop with attempt := loop.attempt + 1 }
    else exhausted config allowFallback loop category elapsed

def sent (config : RetryConfig) (allowFallback : Bool) (loop : Recovery) : List Answer → List String
  | [] => [loop.model]
  | answer :: answers =>
    loop.model :: match next config allowFallback loop answer with
      | .again loop' => sent config allowFallback loop' answers
      | .returned .. | .raised => []

def fallsBackTo (config : RetryConfig) (allowFallback : Bool) (loop : Recovery) : List Answer → Option String
  | [] => none
  | answer :: answers =>
    match next config allowFallback loop answer with
    | .again loop' =>
      if loop'.fallbackAttempted = loop.fallbackAttempted then fallsBackTo config allowFallback loop' answers
      else some loop'.model
    | .returned .. | .raised => none

variable {config : RetryConfig} {allowFallback : Bool} {loop loop' : Recovery} {answer : Answer}

theorem fresh_eq_again {model fallbackAttempted}
    (h : fresh config model fallbackAttempted = .again loop') : loop' = ⟨model, 0, fallbackAttempted⟩ := by
  unfold fresh at h
  split at h
  · cases h
  · cases h
    rfl

private theorem persist_eq_again {category elapsed}
    (h : exhausted.persist config loop category elapsed = .again loop') :
    loop'.model = loop.model ∧ loop'.fallbackAttempted = loop.fallbackAttempted := by
  unfold exhausted.persist at h
  split at h
  · cases h
    exact ⟨rfl, rfl⟩
  · cases h

private theorem next_eq_again (h : next config allowFallback loop answer = .again loop') :
    (loop'.model = loop.model ∧ loop'.fallbackAttempted = loop.fallbackAttempted) ∨
      (allowFallback = true ∧ loop.fallbackAttempted = false ∧ loop'.fallbackAttempted = true ∧
        (config.strategies .overloaded).fallbackModel = some loop'.model) := by
  cases answer with
  | reply => cases h
  | error =>
    unfold next at h
    dsimp only at h
    split at h
    · cases h
    · split at h
      · cases h
        exact .inl ⟨rfl, rfl⟩
      · unfold exhausted at h
        split at h
        · rename_i fallback hf
          split at h
          · rename_i hc
            obtain ⟨ho, ha, -, hfr⟩ := hc
            cases fresh_eq_again h
            exact .inr ⟨ha, hfr, rfl, ho ▸ hf⟩
          · exact .inl (persist_eq_again h)
        · exact .inl (persist_eq_again h)

private theorem eq_model_of_mem_sent {answers m} (hf : loop.fallbackAttempted = true)
    (hm : m ∈ sent config allowFallback loop answers) : m = loop.model := by
  induction answers generalizing loop with
  | nil => exact mem_singleton.1 hm
  | cons answer answers ih =>
    unfold sent at hm
    rcases mem_cons.1 hm with rfl | hm
    · rfl
    · split at hm
      · rename_i loop' hn
        rcases next_eq_again hn with ⟨hmd, hs⟩ | ⟨-, hfr, -⟩
        · exact (ih (hs.trans hf) hm).trans hmd
        · cases hfr.symm.trans hf
      all_goals cases hm

/-- The models that are asked: the first one, and the one it falls back to. -/
theorem mem_sent {answers m} (hf : loop.fallbackAttempted = false) : m ∈ sent config allowFallback loop answers ↔
      m = loop.model ∨ fallsBackTo config allowFallback loop answers = some m := by
  induction answers generalizing loop with
  | nil => simp [sent, fallsBackTo]
  | cons answer answers ih =>
    unfold sent fallsBackTo
    rw [mem_cons]
    cases hn : next config allowFallback loop answer with
    | returned => simp
    | raised => simp
    | again =>
      dsimp only
      rcases next_eq_again hn with ⟨hmd, hs⟩ | ⟨-, -, ha, -⟩
      · rw [if_pos hs, ih (hs.trans hf), hmd]
        exact or_self_left
      · -- the loop has fallen back, and sends the new model from now on
        rw [if_neg (by rw [ha, hf]; exact Bool.noConfusion)]
        refine or_congr_right ⟨fun hm => ?_, fun hm => ?_⟩
        · rw [eq_model_of_mem_sent ha hm]
        · rw [← Option.some.inj hm]
          cases answers <;> exact mem_cons_self

end Recovery

end WisdoverseCell.LlmGateway
