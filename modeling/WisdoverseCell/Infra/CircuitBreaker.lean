import Mathlib.Algebra.Order.Ring.Rat
import WisdoverseCell.Library.Transition

/-!
# The circuit breaker

Callers ask `can_execute` and report a result later, whatever has become of the breaker by then.  A half-open breaker
lets everybody through: it has one probe only as long as nobody else asks (`breaker_disciplined`).
-/

namespace WisdoverseCell.Infra

open Option

inductive CircuitState
  | closed
  | opened
  | halfOpen
  deriving DecidableEq

structure CircuitBreaker where
  failureThreshold : Int
  recoveryTimeout : Int
  state : CircuitState
  failureCount : Nat
  lastFailureTime : Option ℚ

def CircuitBreaker.new (failureThreshold recoveryTimeout : Int) : CircuitBreaker :=
  ⟨failureThreshold, recoveryTimeout, .closed, 0, none⟩

def CircuitBreaker.canExecute (b : CircuitBreaker) (now : ℚ) : CircuitBreaker × Bool :=
  match b.state, b.lastFailureTime with
  | .closed, _ => (b, true)
  | .opened, none => (b, true)
  | .opened, some failed =>
    if b.recoveryTimeout ≤ now - failed then ({ b with state := .halfOpen }, true) else (b, false)
  | .halfOpen, _ => (b, true)

def CircuitBreaker.recordSuccess (b : CircuitBreaker) : CircuitBreaker :=
  match b.state with
  | .halfOpen => { b with state := .closed, failureCount := 0 }
  | .closed => { b with failureCount := 0 }
  | .opened => b

def CircuitBreaker.recordFailure (b : CircuitBreaker) (now : ℚ) : CircuitBreaker :=
  let b := { b with failureCount := b.failureCount + 1, lastFailureTime := some now }
  match b.state with
  | .halfOpen => { b with state := .opened }
  | .closed => if b.failureThreshold ≤ b.failureCount then { b with state := .opened } else b
  | .opened => b

/-- `inFlight` callers have to report.  No method reads `failures`, recorded since the last success or close,
`lastFailure` and `probes`, the calls admitted in the half-open period. -/
structure Breaking where
  breaker : CircuitBreaker
  clock : ℚ
  inFlight : Nat
  failures : Nat
  lastFailure : Option ℚ
  probes : Nat

inductive BreakAct
  | advance (time : ℚ)
  | canExecute
  | success
  | failure

def Breaking.step (s : Breaking) : BreakAct → Option Breaking
  | .advance time => if s.clock ≤ time then some { s with clock := time } else none
  | .canExecute =>
    let (b, admitted) := s.breaker.canExecute s.clock
    some { s with
      breaker := b
      inFlight := if admitted then s.inFlight + 1 else s.inFlight
      probes := if b.state ≠ .halfOpen then 0 else if s.breaker.state = .halfOpen then s.probes + 1 else 1 }
  | .success =>
    if s.inFlight = 0 then none
    else some { s with breaker := s.breaker.recordSuccess, inFlight := s.inFlight - 1, failures := 0 }
  | .failure =>
    if s.inFlight = 0 then none
    else some { s with
      breaker := s.breaker.recordFailure s.clock
      inFlight := s.inFlight - 1
      failures := s.failures + 1
      lastFailure := some s.clock }

def ProbeAlone (s : Breaking) : BreakAct → Prop
  | .canExecute => s.breaker.state ≠ .halfOpen
  | .advance _ | .success | .failure => True

instance (s : Breaking) (a : BreakAct) : Decidable (ProbeAlone s a) := by
  unfold ProbeAlone
  split <;> infer_instance

structure Breaking.Disciplined (s : Breaking) : Prop where
  threshold : 0 < s.breaker.failureThreshold
  counted : s.breaker.state = .closed → s.failures = s.breaker.failureCount
  closed : s.breaker.state = .closed → s.breaker.failureCount < s.breaker.failureThreshold
  opened : s.breaker.state = .opened → s.breaker.lastFailureTime.isSome
  lastFailure : s.breaker.lastFailureTime = s.lastFailure
  halfOpen : s.breaker.state = .halfOpen → s.probes ≤ 1

namespace Breaking.Disciplined

variable {s t : Breaking}

private theorem canExecute (h : s.Disciplined) (ha : s.breaker.state ≠ .halfOpen) (hs : s.step .canExecute = some t) :
    t.Disciplined := by
  cases hst : s.breaker.state with
  | closed =>
    simp only [Breaking.step, CircuitBreaker.canExecute, hst] at hs
    cases hs
    exact ⟨h.threshold, h.counted, h.closed, h.opened, h.lastFailure, by simp [hst]⟩
  | opened =>
    obtain ⟨failed, hf⟩ := isSome_iff_exists.1 (h.opened hst)
    simp only [Breaking.step, CircuitBreaker.canExecute, hst, hf] at hs
    split at hs
    · cases hs
      exact ⟨h.threshold, by simp, by simp, by simp, hf.symm.trans h.lastFailure, fun _ => le_rfl⟩
    · cases hs
      exact ⟨h.threshold, h.counted, h.closed, h.opened, h.lastFailure, by simp [hst]⟩
  | halfOpen => exact absurd hst ha

private theorem success (h : s.Disciplined) (hs : s.step .success = some t) : t.Disciplined := by
  obtain ⟨-, hs⟩ := ite_none_left_eq_some.1 hs
  cases hs
  cases hst : s.breaker.state with
  | closed | halfOpen =>
    simp only [CircuitBreaker.recordSuccess, hst]
    exact ⟨h.threshold, fun _ => rfl, fun _ => h.threshold, by simp, h.lastFailure, by simp⟩
  | opened =>
    simp only [CircuitBreaker.recordSuccess, hst]
    exact ⟨h.threshold, by simp [hst], h.closed, h.opened, h.lastFailure, h.halfOpen⟩

private theorem failure (h : s.Disciplined) (hs : s.step .failure = some t) : t.Disciplined := by
  obtain ⟨-, hs⟩ := ite_none_left_eq_some.1 hs
  cases hs
  cases hst : s.breaker.state with
  | closed =>
    simp only [CircuitBreaker.recordFailure, hst]
    split
    · exact ⟨h.threshold, by simp, by simp, fun _ => rfl, rfl, by simp⟩
    · rename_i hb
      exact ⟨h.threshold, fun _ => congrArg (· + 1) (h.counted hst), fun _ => not_le.1 hb, fun _ => rfl, rfl, by simp⟩
  | opened | halfOpen =>
    simp only [CircuitBreaker.recordFailure, hst]
    exact ⟨h.threshold, by simp, by simp, fun _ => rfl, rfl, by simp⟩

private theorem step {a} (h : s.Disciplined) (hok : ProbeAlone s a) (hs : s.step a = some t) : t.Disciplined := by
  cases a with
  | advance =>
    obtain ⟨-, hs⟩ := ite_none_right_eq_some.1 hs
    cases hs
    exact ⟨h.threshold, h.counted, h.closed, h.opened, h.lastFailure, h.halfOpen⟩
  | canExecute => exact h.canExecute hok hs
  | success => exact h.success hs
  | failure => exact h.failure hs

end Breaking.Disciplined

def Breaking.initial (failureThreshold recoveryTimeout : Int) (time : ℚ) : Breaking :=
  ⟨.new failureThreshold recoveryTimeout, time, 0, 0, none, 0⟩

/-- If nobody asks a half-open breaker, it has one probe at a time, as it is closed only below the threshold and lets
nobody through before the timeout in any case. -/
theorem breaker_disciplined {failureThreshold recoveryTimeout : Int} {time : ℚ} {t : Breaking}
    (hpos : 0 < failureThreshold)
    (hrun : Run (Steps Breaking.step) ProbeAlone (.initial failureThreshold recoveryTimeout time) t) :
    (t.breaker.state = .closed → t.failures < t.breaker.failureThreshold) ∧
      (t.breaker.state = .opened → (t.breaker.canExecute t.clock).2 = true →
        ∃ failed, t.lastFailure = some failed ∧ t.breaker.recoveryTimeout ≤ t.clock - failed) ∧
      (t.breaker.state = .halfOpen → t.probes ≤ 1) := by
  have he : t.Disciplined :=
    hrun.invariant ⟨hpos, fun _ => rfl, fun _ => hpos, by simp [Breaking.initial, CircuitBreaker.new], rfl,
      fun _ => zero_le_one⟩
      (fun _ _ _ h hok hs => h.step hok hs)
  refine ⟨fun hc => he.counted hc ▸ he.closed hc, fun ho ha => ?_, he.halfOpen⟩
  obtain ⟨failed, hf⟩ := isSome_iff_exists.1 (he.opened ho)
  refine ⟨failed, he.lastFailure.symm.trans hf, ?_⟩
  simp only [CircuitBreaker.canExecute, ho, hf] at ha
  split at ha
  · assumption
  · cases ha

/-- One failure, one minute, and one probe. -/
theorem breaker_disciplined_probe :
    ∃ t, Run (Steps Breaking.step) ProbeAlone (.initial 1 60 0) t ∧ t.breaker.state = .halfOpen ∧
      (t.breaker.state = .halfOpen → t.probes ≤ 1) :=
  exists_run_and [.canExecute, .failure, .advance 60, .canExecute] (by decide +kernel)
    (fun _ hr => (breaker_disciplined (by decide) hr).2.2)

/-- A second caller asks the half-open breaker before the probe has reported. -/
theorem two_probes :
    ∃ t, Run (Steps Breaking.step) Always (.initial 1 60 0) t ∧ t.breaker.state = .halfOpen ∧ t.probes = 2 :=
  exists_run_exec [.canExecute, .failure, .advance 60, .canExecute, .canExecute] (by decide +kernel)

end WisdoverseCell.Infra
