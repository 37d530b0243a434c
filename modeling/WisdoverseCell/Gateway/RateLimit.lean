import Mathlib.Tactic.Linarith
import WisdoverseCell.Library.Transition

/-!
# The token bucket of the gateway

`try_take` samples the clock, takes the mutex, refills the bucket for the time since the last refill and takes a token
if there is one.  Samples may come to the bucket out of order, and then time can be refilled twice; if they come in
order, the grants of an interval are bounded (`grants_bounded`).
-/

namespace WisdoverseCell.Gateway

structure RateLimiter where
  rps : Nat
  burstSize : Nat
  rps_pos : 0 < rps
  burstSize_pos : 0 < burstSize

def RateLimiter.new (rps burstSize : Nat) : RateLimiter :=
  ⟨max rps 1, max burstSize 1, Nat.le_max_right _ _, Nat.le_max_right _ _⟩

structure TokenBucket where
  tokens : ℚ
  lastRefill : ℚ

/-- `try_take` behind the mutex, with the time to wait; `duration_since` is zero for an earlier time. -/
def RateLimiter.tryTake (l : RateLimiter) (b : TokenBucket) (now : ℚ) : TokenBucket × ℚ :=
  let tokens := min (b.tokens + max (now - b.lastRefill) 0 * l.rps) l.burstSize
  if 1 ≤ tokens then (⟨tokens - 1, now⟩, 0) else (⟨tokens, now⟩, (1 - tokens) / l.rps)

/-- The clock, the bucket, the samples of the callers that have not got the mutex yet, and the samples of the grants. -/
structure Limiting where
  clock : ℚ
  bucket : TokenBucket
  samples : List ℚ
  grants : List ℚ

inductive LimitAct
  | advance (time : ℚ)
  | sample
  | take (i : Nat)

def Limiting.step (l : RateLimiter) (s : Limiting) : LimitAct → Option Limiting
  | .advance time => if s.clock ≤ time then some { s with clock := time } else none
  | .sample => some { s with samples := s.samples ++ [s.clock] }
  | .take i => s.samples[i]?.map (fun now =>
    let r := l.tryTake s.bucket now
    { s with bucket := r.1, samples := s.samples.eraseIdx i, grants := if r.2 = 0 then now :: s.grants else s.grants })

def InTurn (s : Limiting) : LimitAct → Prop
  | .take i => ∀ now ∈ s.samples[i]?, s.bucket.lastRefill ≤ now
  | .advance _ | .sample => True

instance (s : Limiting) (a : LimitAct) : Decidable (InTurn s a) := by
  unfold InTurn
  split <;> infer_instance

def Limiting.grantsIn (s : Limiting) (a b : ℚ) : Nat := s.grants.countP (fun now => a ≤ now ∧ now ≤ b)

private theorem RateLimiter.tryTake_spec (l : RateLimiter) {b} (now) (hb : 0 ≤ b.tokens) :
    (l.tryTake b now).1.lastRefill = now ∧ 0 ≤ (l.tryTake b now).1.tokens ∧
      (l.tryTake b now).1.tokens + (if (l.tryTake b now).2 = 0 then 1 else 0) =
        min (b.tokens + max (now - b.lastRefill) 0 * l.rps) l.burstSize := by
  have hr' : (0 : ℚ) < l.rps := Nat.cast_pos.2 l.rps_pos
  unfold RateLimiter.tryTake
  dsimp only
  split
  · rename_i ho
    refine ⟨rfl, by linarith, ?_⟩
    rw [if_pos rfl]
    exact sub_add_cancel _ _
  · rename_i ho
    have hw : (1 - min (b.tokens + max (now - b.lastRefill) 0 * l.rps) (l.burstSize : ℚ)) / l.rps ≠ 0 :=
      div_ne_zero (by linarith) hr'.ne'
    refine ⟨rfl, le_min (add_nonneg hb (mul_nonneg (le_max_right _ _) hr'.le)) (Nat.cast_nonneg _), ?_⟩
    rw [if_neg hw, add_zero]

def Limiting.TokensWithin (l : RateLimiter) (s : Limiting) : Prop := 0 ≤ s.bucket.tokens ∧ s.bucket.tokens ≤ l.burstSize

/-- Whatever the order of the samples, a step keeps the tokens between zero and the burst. -/
theorem Limiting.TokensWithin.step {l act} {s t : Limiting} (h : s.TokensWithin l) (hst : s.step l act = some t) :
    t.TokensWithin l := by
  cases act with
  | advance =>
    obtain ⟨-, hst⟩ := Option.ite_none_right_eq_some.1 hst
    cases hst
    exact h
  | sample =>
    cases hst
    exact h
  | take =>
    obtain ⟨now, -, rfl⟩ := Option.map_eq_some_iff.1 hst
    obtain ⟨-, hp, hsm⟩ := l.tryTake_spec now h.1
    have hc := hsm.trans_le (min_le_right _ _)
    have hg : (0 : ℚ) ≤ if (l.tryTake s.bucket now).2 = 0 then 1 else 0 := by split <;> decide
    exact ⟨hp, by linarith⟩

/-- Before the interval nothing is granted; in it, what was granted and what is left does not exceed the burst and the
refills; and after it the grants stay as they are. -/
structure Limiting.Bounded (l : RateLimiter) (a b : ℚ) (s : Limiting) : Prop where
  tokens : s.TokensWithin l
  grants : s.bucket.lastRefill < a ∧ s.grantsIn a b = 0 ∨
    a ≤ s.bucket.lastRefill ∧ s.bucket.lastRefill ≤ b ∧
      s.grantsIn a b + s.bucket.tokens ≤ l.burstSize + l.rps * (s.bucket.lastRefill - a) ∨
    b < s.bucket.lastRefill ∧ s.grantsIn a b ≤ l.burstSize + l.rps * (b - a)

private theorem grantsIn_take (s : Limiting) (a b now wait : ℚ) (bucket samples) :
    Limiting.grantsIn { s with bucket := bucket, samples := samples, grants := if wait = 0 then
      now :: s.grants else s.grants }
      a b = if a ≤ now ∧ now ≤ b then s.grantsIn a b + (if wait = 0 then 1 else 0) else s.grantsIn a b := by
  unfold Limiting.grantsIn
  dsimp only
  split
  · rw [List.countP_cons]
    simp
    split <;> omega
  · simp

private theorem Limiting.Bounded.step {l a b s t act} (hab : a ≤ b)
    (h : s.Bounded l a b) (hok : InTurn s act) (hst : s.step l act = some t) : t.Bounded l a b := by
  refine ⟨h.tokens.step hst, ?_⟩
  cases act with
  | advance =>
    obtain ⟨-, hst⟩ := Option.ite_none_right_eq_some.1 hst
    cases hst
    exact h.grants
  | sample =>
    cases hst
    exact h.grants
  | take =>
    obtain ⟨now, hnw, rfl⟩ := Option.map_eq_some_iff.1 hst
    have ho : s.bucket.lastRefill ≤ now := hok now hnw
    obtain ⟨⟨hp, -⟩, hgr⟩ := h
    obtain ⟨hl, hp', hsm⟩ := l.tryTake_spec now hp
    rw [max_eq_left (sub_nonneg.2 ho)] at hsm
    have hc := hsm.trans_le (min_le_right _ _)
    have hr := hsm.trans_le (min_le_left _ _)
    have hrt : (0 : ℚ) ≤ l.rps := Nat.cast_nonneg _
    have hb : (0 : ℚ) ≤ l.burstSize := Nat.cast_nonneg _
    generalize l.tryTake s.bucket now = r at hl hp' hc hr ⊢
    have hg : (0 : ℚ) ≤ if r.2 = 0 then 1 else 0 := by split <;> decide
    dsimp only
    rw [hl]
    rcases lt_or_ge now a with hbf | ha
    · refine .inl ⟨hbf, ?_⟩
      rw [grantsIn_take, if_neg (fun hin => by linarith [hin.1])]
      rcases hgr with ⟨-, hn⟩ | ⟨hlw, -⟩ | ⟨hh, -⟩
      · exact hn
      · linarith
      · linarith
    rcases le_or_gt now b with hin | hbn
    · refine .inr (.inl ⟨ha, hin, ?_⟩)
      rw [grantsIn_take, if_pos ⟨ha, hin⟩]
      rcases hgr with ⟨-, hn⟩ | ⟨hlw, -, hs⟩ | ⟨hh, -⟩
      · have := mul_nonneg hrt (sub_nonneg.2 ha)
        rw [hn]
        push_cast
        linarith
      · push_cast
        linarith
      · linarith
    · refine .inr (.inr ⟨hbn, ?_⟩)
      rw [grantsIn_take, if_neg (fun hin => by linarith [hin.2])]
      have := mul_nonneg hrt (sub_nonneg.2 hab)
      rcases hgr with ⟨-, hn⟩ | ⟨-, hh, hs⟩ | ⟨-, hs⟩
      · rw [hn]
        push_cast
        linarith
      · have := mul_nonneg hrt (sub_nonneg.2 hh)
        linarith
      · exact hs

def RateLimiter.initial (l : RateLimiter) (time : ℚ) : Limiting := ⟨time, ⟨l.burstSize, time⟩, [], []⟩

private theorem RateLimiter.bounded_initial (l : RateLimiter) (time) {a b} (hab : a ≤ b) :
    (l.initial time).Bounded l a b := by
  have hr : (0 : ℚ) ≤ l.rps := Nat.cast_nonneg _
  have hb : (0 : ℚ) ≤ l.burstSize := Nat.cast_nonneg _
  refine ⟨⟨hb, le_rfl⟩, ?_⟩
  simp only [RateLimiter.initial, Limiting.grantsIn, List.countP_nil, Nat.cast_zero, zero_add, and_true]
  rcases lt_or_ge time a with hbf | ha
  · exact .inl hbf
  rcases le_or_gt time b with hin | hbn
  · exact .inr (.inl ⟨ha, hin, by linarith [mul_nonneg hr (sub_nonneg.2 ha)]⟩)
  · exact .inr (.inr ⟨hbn, by linarith [mul_nonneg hr (sub_nonneg.2 hab)]⟩)

/-- The tokens stay between zero and the burst, and if the samples come to the bucket in order, an interval of length
`T` has at most `burst + rps * T` grants. -/
theorem grants_bounded (l : RateLimiter) (time : ℚ) {t : Limiting}
    (hrun : Run (Steps (Limiting.step l)) Always (l.initial time) t) :
    (0 ≤ t.bucket.tokens ∧ t.bucket.tokens ≤ l.burstSize) ∧
      (Run (Steps (Limiting.step l)) InTurn (l.initial time) t →
        ∀ a T, 0 ≤ T → (t.grantsIn a (a + T) : ℚ) ≤ l.burstSize + l.rps * T) := by
  have hbr : (0 : ℚ) ≤ l.burstSize := Nat.cast_nonneg _
  have ht : t.TokensWithin l := hrun.invariant ⟨hbr, le_rfl⟩ (fun _ _ _ h _ hst => h.step hst)
  refine ⟨ht, fun hturn a T hT => ?_⟩
  have hr : (0 : ℚ) ≤ l.rps := Nat.cast_nonneg _
  have hab : a ≤ a + T := by linarith
  have he : t.Bounded l a (a + T) :=
    hturn.invariant (l.bounded_initial time hab) (fun _ _ _ h hok hst => h.step hab hok hst)
  rcases he.grants with ⟨-, hn⟩ | ⟨-, hh, hs⟩ | ⟨-, hs⟩
  · rw [hn, Nat.cast_zero]
    linarith [mul_nonneg hr hT]
  · linarith [mul_nonneg hr (sub_nonneg.2 hh), ht.1]
  · linarith

/-- Two callers in turn, one second apart. -/
theorem grants_bounded_two :
    ∃ t, Run (Steps (Limiting.step (.new 1 1))) InTurn (RateLimiter.initial (.new 1 1) 0) t ∧ t.grants = [1, 0] ∧
      (t.grantsIn 0 (0 + 1) : ℚ) ≤ (RateLimiter.new 1 1).burstSize + (RateLimiter.new 1 1).rps * 1 :=
  exists_run_and [.sample, .take 0, .advance 1, .sample, .take 0] (by decide +kernel)
    (fun _ hr => (grants_bounded _ 0 (hr.mono (fun _ _ _ => trivial))).2 hr 0 1 zero_le_one)

/-- The sample of the second caller comes to the bucket late, and the ten seconds after it are refilled again: two
grants at one time, and a burst of one. -/
theorem late_sample_refills_twice :
    ∃ t, Run (Steps (Limiting.step (.new 1 1))) Always (RateLimiter.initial (.new 1 1) 0) t ∧
      t.grantsIn 10 (10 + 0) = 2 :=
  exists_run_exec [.sample, .advance 10, .sample, .take 1, .take 0, .sample, .take 0] (by decide +kernel)

end WisdoverseCell.Gateway
