import Mathlib.Data.List.Chain
import WisdoverseCell.LlmGateway.Recovery

/-!
# Recovery is bounded

Without `persistent_mode` every call of `_call_with_recovery` uses up an attempt, and the loop starts over only once,
with the fallback model.  So it makes at most twice as many calls as the largest number of attempts, whatever errors
alternate.
-/

namespace WisdoverseCell.LlmGateway

open List

inductive Ending
  | returned (inputTokens outputTokens : Nat)
  | contentSizeError (e : ProviderError)
  | raised (e : ProviderError)
  /-- `_call_with_recovery: unexpected state`. -/
  | runtimeError

/-- How the loop ends after this answer; `last_exc` is its error. -/
def Ending.after : Answer → Ending
  | .reply inputTokens outputTokens => .returned inputTokens outputTokens
  | .error e _ => if classifyError e = .contentSize then .contentSizeError e else .raised e

abbrev ProviderCall := String × Answer

/-- The calls, each with its model, and how it ends; there is no end yet if the answers do not suffice. -/
structure Recovered where
  calls : List ProviderCall
  ending : Option Ending

namespace Recovery

def recover (config : RetryConfig) (allowFallback : Bool) (loop : Recovery) : List Answer → Recovered
  | [] => ⟨[], none⟩
  | answer :: answers =>
    match next config allowFallback loop answer with
    | .again loop' =>
      let rest := recover config allowFallback loop' answers
      ⟨(loop.model, answer) :: rest.calls, rest.ending⟩
    | .returned .. | .raised => ⟨[(loop.model, answer)], some (.after answer)⟩

end Recovery

def callWithRecovery (config : RetryConfig) (allowFallback : Bool) (model : String) (answers : List Answer) :
    Recovered :=
  match Recovery.fresh config model false with
  | .again loop => loop.recover config allowFallback answers
  | .returned .. | .raised => ⟨[], some .runtimeError⟩

/-- After the first call there may be the second: it failed, in a category that is retried, and the model is another
one only if it was overloaded. -/
def Follows (config : RetryConfig) (allowFallback : Bool) (c d : ProviderCall) : Prop :=
  ∃ e elapsed, c.2 = .error e elapsed ∧ classifyError e ≠ .contentSize ∧
    1 < (config.strategies (classifyError e)).maxAttempts ∧
    (c.1 ≠ d.1 → classifyError e = .overloaded ∧ allowFallback = true)

/-- What holds of the calls made with `n` calls left. -/
structure Bounded (config : RetryConfig) (allowFallback : Bool) (model : String) (answers : List Answer) (n : ℕ)
    (r : Recovered) : Prop where
  length : r.calls.length ≤ n
  answered : r.calls.map Prod.snd <+: answers
  follows : r.calls.IsChain (Follows config allowFallback)
  models : ∃ i j fallback, r.calls.map Prod.fst = replicate i model ++ replicate j fallback
  ended : n ≤ answers.length → r.ending.isSome
  last : ∀ ending ∈ r.ending, r.calls.getLast?.map (fun c => Ending.after c.2) = some ending

namespace Recovery

variable {config : RetryConfig} {allowFallback : Bool} {loop loop' : Recovery} {answer : Answer} {M : ℕ}

/-- The calls that are left: those of this pass, and of the pass with the fallback model. -/
def left (M : ℕ) (loop : Recovery) : ℕ := M - loop.attempt + if loop.fallbackAttempted then 0 else M

private theorem next_spec (hp : config.persistentMode = false)
    (h : next config allowFallback loop answer = .again loop') :
    Follows config allowFallback (loop.model, answer) (loop'.model, answer) ∧
      ((loop' = { loop with attempt := loop.attempt + 1 } ∧
        ∃ category, loop'.attempt < (config.strategies category).maxAttempts) ∨
        (loop.fallbackAttempted = false ∧ loop'.fallbackAttempted = true ∧ loop'.attempt = 0)) := by
  cases answer with
  | reply => cases h
  | error e elapsed =>
    unfold next at h
    dsimp only at h
    split at h
    · cases h
    next hr =>
    obtain ⟨hsize, hm⟩ := not_or.1 hr
    split at h
    · next hlt =>
      cases h
      exact ⟨⟨e, elapsed, rfl, hsize, not_le.1 hm, fun hne => absurd rfl hne⟩, .inl ⟨rfl, _, hlt⟩⟩
    · have hpr : exhausted.persist config loop (classifyError e) elapsed = .raised := if_neg (by simp [hp])
      unfold exhausted at h
      rw [hpr] at h
      split at h
      · split at h
        · next hc =>
          obtain ⟨ho, ha, -, hf⟩ := hc
          cases fresh_eq_again h
          exact ⟨⟨e, elapsed, rfl, hsize, not_le.1 hm, fun _ => ⟨ho, ha⟩⟩, .inr ⟨hf, rfl, rfl⟩⟩
        · cases h
      · cases h

private theorem recover_head {answers} :
    ∀ c ∈ (recover config allowFallback loop answers).calls.head?, c.1 = loop.model := by
  cases answers with
  | nil => simp [recover]
  | cons =>
    unfold recover
    split <;> simp

private theorem recover_models (hp : config.persistentMode = false) (hf : loop.fallbackAttempted = true) (answers) :
    (recover config allowFallback loop answers).calls.map Prod.fst =
      replicate (recover config allowFallback loop answers).calls.length loop.model := by
  induction answers generalizing loop with
  | nil => rfl
  | cons answer answers ih =>
    unfold recover
    split
    · next loop' hn =>
      rcases (next_spec hp hn).2 with ⟨rfl, -⟩ | ⟨hfr, -⟩
      · exact congrArg (cons loop.model) (ih hf)
      · cases hfr.symm.trans hf
    all_goals rfl

private theorem recover_bounded (hp : config.persistentMode = false)
    (hM : ∀ category, (config.strategies category).maxAttempts ≤ M) (hps : 0 < M) (loop) (answers)
    (hlt : loop.attempt < M) :
    Bounded config allowFallback loop.model answers (loop.left M) (recover config allowFallback loop answers) := by
  induction answers generalizing loop with
  | nil =>
    refine ⟨Nat.zero_le _, nil_prefix, isChain_nil, ⟨0, 0, "", rfl⟩, fun h => ?_, fun _ h => by cases h⟩
    unfold left at h
    rw [length_nil] at h
    omega
  | cons answer answers ih =>
    unfold recover
    cases hn : next config allowFallback loop answer with
    | again loop' =>
      obtain ⟨hf, hst⟩ := next_spec hp hn
      have hlt' : loop'.attempt < M := by
        rcases hst with ⟨-, category, hmx⟩ | ⟨-, -, hz⟩
        · exact hmx.trans_le (hM category)
        · omega
      have hl : loop'.left M < loop.left M := by
        unfold left
        rcases hst with ⟨rfl, -⟩ | ⟨hfr, hs, hz⟩
        · dsimp only at hlt' ⊢
          omega
        · rw [hfr, hs, hz]
          simp only [if_true, Bool.false_eq_true, if_false]
          omega
      have hr := ih loop' hlt'
      refine ⟨?_, ?_, ?_, ?_, ?_, ?_⟩
      · exact (Nat.succ_le_succ hr.length).trans hl
      · exact (prefix_cons_inj _).2 hr.answered
      · refine isChain_cons.2 ⟨fun c hc => ?_, hr.follows⟩
        obtain ⟨e, elapsed, he⟩ := hf
        exact ⟨e, elapsed, recover_head c hc ▸ he⟩
      · rcases hst with ⟨rfl, -⟩ | ⟨-, hs, -⟩
        · obtain ⟨i, j, fallback, hm⟩ := hr.models
          exact ⟨i + 1, j, fallback, congrArg (cons loop.model) hm⟩
        · exact ⟨1, _, _, congrArg (cons loop.model) (recover_models hp hs answers)⟩
      · exact fun h => hr.ended (Nat.le_of_lt_succ (hl.trans_le h))
      · intro ending hen
        have hls := hr.last ending hen
        obtain ⟨c, hc, -⟩ := Option.map_eq_some_iff.1 hls
        rw [getLast?_cons, hc]
        rwa [hc] at hls
    | returned | raised =>
      refine ⟨?_, ⟨answers, rfl⟩, isChain_singleton _, ⟨1, 0, "", rfl⟩, fun _ => rfl, ?_⟩
      · unfold left
        dsimp only [length_singleton]
        omega
      · rintro _ ⟨⟩
        rfl

end Recovery

end WisdoverseCell.LlmGateway
