import WisdoverseCell.Infra.CircuitBreaker
import WisdoverseCell.Library.Pool

/-!
# The breaker of agent loops

`record_round` loads the hash of the agent, works on the list of output lengths, and saves the hash again.  If every
save finds the hash as it was loaded, rounds without progress open the breaker at the threshold; rounds that overlap
lose each other's counts.
-/

namespace WisdoverseCell.Infra

structure LoopConfig where
  noProgressThreshold : Int
  sameErrorThreshold : Int
  halfOpenThreshold : Int
  outputDeclineThreshold : ℚ
  outputDeclineRounds : Int

structure LoopState where
  state : CircuitState
  noProgressCount : Nat
  sameErrorCount : Nat
  lastErrorSignature : String
  totalOpens : Nat
  outputDeclineCount : Nat
  deriving DecidableEq

def LoopState.default : LoopState := ⟨.closed, 0, 0, "", 0, 0⟩

structure Round where
  hasProgress : Bool
  errorSignature : Option String
  outputLength : Option Int

def declineRatio (lengths : List Int) : Option ℚ :=
  if lengths.length < 3 then none
  else
    let mean : ℚ := lengths.dropLast.sum / lengths.dropLast.length
    if mean = 0 then none else lengths.getLast?.map (fun latest => latest / mean)

def LoopState.track (cfg : LoopConfig) (data : LoopState) (r : Round) (ratio : Option ℚ) : LoopState :=
  let signature := (r.errorSignature.filter (· ≠ "")).getD ""
  { data with
    sameErrorCount := if signature = "" then 0 else if signature = data.lastErrorSignature then
      data.sameErrorCount + 1 else 1
    lastErrorSignature := signature
    noProgressCount := if r.hasProgress then 0 else data.noProgressCount + 1
    outputDeclineCount := match ratio with
      | none => data.outputDeclineCount
      | some x => if x < cfg.outputDeclineThreshold then data.outputDeclineCount + 1 else 0 }

/-- The new state; `data` has the new counts. -/
def LoopState.transition (cfg : LoopConfig) (data : LoopState) (hasProgress : Bool) : CircuitState :=
  if cfg.sameErrorThreshold ≤ data.sameErrorCount then .opened
  else if cfg.outputDeclineRounds ≤ data.outputDeclineCount then .opened
  else match data.state with
    | .closed =>
      if cfg.noProgressThreshold ≤ data.noProgressCount then .opened
      else if cfg.halfOpenThreshold ≤ data.noProgressCount then .halfOpen else .closed
    | .halfOpen =>
      if hasProgress ∧ data.sameErrorCount < cfg.sameErrorThreshold then .closed
      else if cfg.noProgressThreshold ≤ data.noProgressCount then .opened else .halfOpen
    | .opened => .opened

def LoopState.record (cfg : LoopConfig) (data : LoopState) (r : Round) (ratio : Option ℚ) : LoopState :=
  let data' := data.track cfg r ratio
  let state := data'.transition cfg r.hasProgress
  { data' with
    state := state
    totalOpens := if state = .opened ∧ data.state ≠ .opened then data.totalOpens + 1 else data.totalOpens }

/-- The keys of the agent; `streak`, the rounds saved since the last one with progress, is read by no round. -/
structure Loop where
  hash : Option LoopState
  lengths : List Int
  streak : Nat

inductive RoundPhase
  | loading
  | pushing (loaded : Option LoopState) (length : Int)
  | trimming (loaded : Option LoopState)
  | ranging (loaded : Option LoopState)
  | saving (loaded : Option LoopState) (ratio : Option ℚ)
  | ended

/-- The effects of `record_round`, one at a time. -/
def roundNext (cfg : LoopConfig) (s : Loop) (p : Round × RoundPhase) : Option (Loop × Round × RoundPhase) :=
  match p.2 with
  | .loading => some (s, p.1, match p.1.outputLength with
    | none => .saving s.hash none
    | some length => .pushing s.hash length)
  | .pushing loaded length => some ({ s with lengths := s.lengths ++ [length] }, p.1, .trimming loaded)
  | .trimming loaded => some ({ s with lengths := s.lengths.drop (s.lengths.length - 10) }, p.1, .ranging loaded)
  | .ranging loaded => some (s, p.1, .saving loaded (declineRatio s.lengths))
  | .saving loaded ratio =>
    some ({ s with
      hash := some ((loaded.getD .default).record cfg p.1 ratio)
      streak := if p.1.hasProgress then 0 else s.streak + 1 }, p.1, .ended)
  | .ended => none

def loopBreaker (cfg : LoopConfig) : Program Loop (Round × RoundPhase) Empty Round Unit where
  env _ e := e.elim
  start s r := some (s, r, .loading)
  next s p _ := roundNext cfg s p

def RoundPhase.replaces : RoundPhase → Option (Option LoopState)
  | .saving loaded _ => some loaded
  | _ => none

def Unchanged (s : Pool Loop (Round × RoundPhase)) : PoolAct Empty Round Unit → Prop
  | .next i _ => ∀ p ∈ s.procs[i]?, ∀ loaded ∈ p.2.replaces, s.shared.hash = loaded
  | _ => True

instance (s : Pool Loop (Round × RoundPhase)) (a : PoolAct Empty Round Unit) : Decidable (Unchanged s a) := by
  unfold Unchanged
  split <;> infer_instance

def Loop.state (s : Loop) : CircuitState := (s.hash.getD .default).state

variable {cfg : LoopConfig} {data : LoopState} {r : Round} {ratio : Option ℚ}

private theorem record_opened (h : data.state = .opened) : (data.record cfg r ratio).state = .opened := by
  change (data.track cfg r ratio).transition cfg r.hasProgress = .opened
  unfold LoopState.transition
  split
  · rfl
  · split
    · rfl
    · rw [show (data.track cfg r ratio).state = .opened from h]

private theorem record_counts (h : (data.record cfg r ratio).state ≠ .opened) (hp : r.hasProgress = false) :
    (data.record cfg r ratio).noProgressCount = data.noProgressCount + 1 ∧
      (data.record cfg r ratio).noProgressCount < cfg.noProgressThreshold := by
  change (data.track cfg r ratio).transition cfg r.hasProgress ≠ .opened at h
  change (data.track cfg r ratio).noProgressCount = _ ∧ ((data.track cfg r ratio).noProgressCount : Int) < _
  refine ⟨by simp [LoopState.track, hp], ?_⟩
  unfold LoopState.transition at h
  rw [hp] at h
  split at h
  · exact absurd rfl h
  · split at h
    · exact absurd rfl h
    · split at h
      · split at h
        · exact absurd rfl h
        · exact not_le.1 ‹_›
      · rw [if_neg (by simp)] at h
        split at h
        · exact absurd rfl h
        · exact not_le.1 ‹_›
      · exact absurd rfl h

/-- The breaker is open, or it has counted the rounds without progress and they are fewer than the threshold. -/
def Loop.Counts (cfg : LoopConfig) (s : Loop) : Prop :=
  s.state = .opened ∨ s.streak ≤ (s.hash.getD .default).noProgressCount ∧ s.streak < cfg.noProgressThreshold

private theorem roundNext_cases {s s' p p'} (hf : ∀ loaded ∈ p.2.replaces, s.hash = loaded)
    (h : roundNext cfg s p = some (s', p')) :
    (s'.hash = s.hash ∧ s'.streak = s.streak) ∨ ∃ ratio, s'.hash = some ((s.hash.getD .default).record cfg p.1 ratio) ∧
        s'.streak = if p.1.hasProgress then 0 else s.streak + 1 := by
  unfold roundNext at h
  split at h
  · cases h
    exact .inl ⟨rfl, rfl⟩
  · cases h
    exact .inl ⟨rfl, rfl⟩
  · cases h
    exact .inl ⟨rfl, rfl⟩
  · cases h
    exact .inl ⟨rfl, rfl⟩
  · rename_i loaded ratio hp
    cases h
    refine .inr ⟨ratio, ?_, rfl⟩
    rw [hf loaded (by rw [hp]; rfl)]
  · cases h

variable {a : PoolAct Empty Round Unit} {s t : Pool Loop (Round × RoundPhase)}

private theorem step_cases (hok : Unchanged s a) (hs : Pool.step (loopBreaker cfg) s a = some t) :
    (t.shared.hash = s.shared.hash ∧ t.shared.streak = s.shared.streak) ∨
      ∃ r ratio, t.shared.hash = some ((s.shared.hash.getD .default).record cfg r ratio) ∧
        t.shared.streak = if r.hasProgress then 0 else s.shared.streak + 1 := by
  cases Pool.moves_of_step hs with
  | @env e => exact e.elim
  | start he =>
    cases he
    exact .inl ⟨rfl, rfl⟩
  | next hp he => exact (roundNext_cases (hok _ hp) he).imp_right (fun h => ⟨_, h⟩)
  | stop => exact .inl ⟨rfl, rfl⟩

private theorem opened_of_step (hok : Unchanged s a) (hs : Pool.step (loopBreaker cfg) s a = some t)
    (h : s.shared.state = .opened) : t.shared.state = .opened := by
  unfold Loop.state at h ⊢
  rcases step_cases hok hs with ⟨hh, -⟩ | ⟨r, ratio, hh, -⟩
  · rwa [hh]
  · rw [hh]
    exact record_opened h

private theorem Loop.Counts.step (hps : 0 < cfg.noProgressThreshold) (h : s.shared.Counts cfg) (hok : Unchanged s a)
    (hst : Pool.step (loopBreaker cfg) s a = some t) : t.shared.Counts cfg := by
  rcases h with ho | ⟨hle, hlt⟩
  · exact .inl (opened_of_step hok hst ho)
  rcases step_cases hok hst with ⟨hh, hs⟩ | ⟨r, ratio, hh, hs⟩
  · refine .inr ?_
    rw [hh, hs]
    exact ⟨hle, hlt⟩
  · by_cases hsta : t.shared.state = .opened
    · exact .inl hsta
    · refine .inr ?_
      unfold Loop.state at hsta
      rw [hh, Option.getD_some] at hsta ⊢
      cases hp : r.hasProgress with
      | true =>
        rw [hs, hp, if_pos rfl]
        exact ⟨Nat.zero_le _, hps⟩
      | false =>
        obtain ⟨hc, hb⟩ := record_counts hsta hp
        rw [hs, hp, if_neg Bool.false_ne_true]
        omega

/-- In every interleaving in which each save finds the hash as it was loaded, an open breaker stays open, and rounds
without progress open it at the threshold. -/
theorem loop_breaker_trips {s t u : Pool Loop (Round × RoundPhase)} (hpos : 0 < cfg.noProgressThreshold)
    (hstreak : s.shared.streak = 0) (hrun : Run (Steps (Pool.step (loopBreaker cfg))) Unchanged s t)
    (hrun' : Run (Steps (Pool.step (loopBreaker cfg))) Unchanged t u) :
    (t.shared.state = .opened → u.shared.state = .opened) ∧
      (cfg.noProgressThreshold ≤ t.shared.streak → t.shared.state = .opened) := by
  refine ⟨fun ho => hrun'.invariant ho (fun _ _ _ h hok hs => opened_of_step hok hs h), fun hr => ?_⟩
  have hc : t.shared.Counts cfg := by
    refine hrun.invariant (I := fun s => s.shared.Counts cfg) (.inr ?_) (fun _ _ _ h hok hs => h.step hpos hok hs)
    rw [hstreak]
    exact ⟨Nat.zero_le _, hpos⟩
  exact hc.resolve_right (fun h => absurd h.2 (not_lt.2 hr))

def idleLoop : Pool Loop (Round × RoundPhase) := ⟨⟨none, [], 0⟩, []⟩

def defaultLoopConfig : LoopConfig := ⟨3, 5, 2, 3 / 10, 3⟩

def idleRound : Round := ⟨false, none, none⟩

def roundAt (i : Nat) : List (PoolAct Empty Round Unit) := [.start idleRound, .next i (), .next i ()]

/-- Three rounds without progress, one after the other. -/
theorem loop_breaker_trips_three :
    ∃ t, Run (Steps (Pool.step (loopBreaker defaultLoopConfig))) Unchanged idleLoop t ∧ t.shared.streak = 3 ∧
      (defaultLoopConfig.noProgressThreshold ≤ t.shared.streak → t.shared.state = .opened) :=
  exists_run_and (roundAt 0 ++ roundAt 1 ++ roundAt 2) (by decide +kernel)
    (fun _ hr => (loop_breaker_trips (by decide) rfl hr .refl).2)

/-- Three rounds that load before one of them saves count once, and a round that has loaded before the breaker opens
closes it again. -/
theorem overlapping_rounds_keep_closed :
    (∃ t, Run (Steps (Pool.step (loopBreaker defaultLoopConfig))) Always idleLoop t ∧ t.shared.streak = 3 ∧
      t.shared.state = .closed) ∧
    ∃ t u, Run (Steps (Pool.step (loopBreaker defaultLoopConfig))) Always idleLoop t ∧ t.shared.state = .opened ∧
      Run (Steps (Pool.step (loopBreaker defaultLoopConfig))) Always t u ∧ u.shared.state = .closed := by
  refine ⟨exists_run_exec
    [.start idleRound, .start idleRound, .start idleRound, .next 0 (), .next 1 (), .next 2 (), .next 0 (),
    .next 1 (), .next 2 ()] (by decide +kernel), ?_⟩
  obtain ⟨t, hr, ho, u, hu, hcl⟩ : ∃ t, Run (Steps (Pool.step (loopBreaker defaultLoopConfig))) Always idleLoop t ∧
      t.shared.state = .opened ∧ ∃ u, exec (Pool.step (loopBreaker defaultLoopConfig)) Always t [.next 2 ()] = some u ∧
        u.shared.state = .closed :=
    exists_run_exec (roundAt 0 ++ roundAt 1 ++ [.start ⟨true, none, none⟩, .next 2 ()] ++ roundAt 3) (by decide +kernel)
  exact ⟨t, u, hr, ho, run_of_exec hu, hcl⟩

end WisdoverseCell.Infra
