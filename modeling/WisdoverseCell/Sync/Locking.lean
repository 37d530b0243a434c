import WisdoverseCell.ControlPlane.Models
import WisdoverseCell.Library.Transition

/-!
# The lock of a sync direction

Runs of one direction compete for one row.  `acquire` takes its time, selects the row for update and grants the lock if
the row is missing, unlocked or expired.  `release` does not check who holds it.  `grants` and `released` are histories.
-/

namespace WisdoverseCell.Sync

open List Option
open ControlPlane (Time seconds)

/-! ### The row -/

structure LockRow where
  lockedBy : Option String
  lockedAt : Time
  expiresAt : Option Time
  isLocked : Bool

def lockTimeout : Time := seconds (10 * 60)

def lockedRow (now : Time) : LockRow := ⟨some "sync-module", now, some (now + lockTimeout), true⟩

/-- `acquire` on the row that it has selected: the row that it writes if it grants the lock. -/
def takeLock (row : LockRow) (now : Time) : Option LockRow :=
  if row.isLocked && row.expiresAt.any (fun t => t < now) then some (lockedRow now)
  else if !row.isLocked then some (lockedRow now)
  else none

def LockRow.release (row : LockRow) : LockRow := { row with isLocked := false, lockedBy := none }

/-! ### Runs -/

inductive RunPhase
  | selecting (now : Time)
  | inserting (now : Time)
  | holding
  | ended
  deriving DecidableEq

structure Grant where
  run : Nat
  expiresAt : Time
  deriving DecidableEq

structure LockSys where
  clock : Time
  row : Option LockRow
  runs : List RunPhase
  grants : List Grant
  released : List Nat

inductive LockAct
  | tick (d : Time)
  | begin
  | select (i : Nat)
  | insert (i : Nat)
  | release (i : Nat)
  /-- The run stops, or one of its lock operations fails. -/
  | quit (i : Nat)

namespace LockSys

def put (s : LockSys) (i : Nat) (phase : RunPhase) : LockSys := { s with runs := s.runs.set i phase }

/-- The lock is granted to the run `i`, whose time is `now`. -/
def grant (s : LockSys) (i : Nat) (now : Time) : LockSys :=
  { s with row := some (lockedRow now), runs := s.runs.set i .holding, grants := s.grants ++ [⟨i, now + lockTimeout⟩] }

def step (s : LockSys) : LockAct → Option LockSys
  | .tick d => some { s with clock := s.clock + d }
  | .begin => some { s with runs := s.runs ++ [.selecting s.clock] }
  | .select i =>
    match s.runs[i]? with
    | some (.selecting now) =>
      match s.row with
      | none => some (s.put i (.inserting now))
      | some row => if (takeLock row now).isSome then some (s.grant i now) else some (s.put i .ended)
    | _ => none
  | .insert i =>
    match s.runs[i]? with
    | some (.inserting now) => if s.row.isNone then some (s.grant i now) else some (s.put i .ended)
    | _ => none
  | .release i =>
    match s.runs[i]? with
    | some .holding => some { s.put i .ended with row := s.row.map LockRow.release, released := s.released ++ [i] }
    | _ => none
  | .quit i => if i < s.runs.length then some (s.put i .ended) else none

inductive Moves (s : LockSys) : LockAct → LockSys → Prop
  | tick (d : Time) : Moves s (.tick d) { s with clock := s.clock + d }
  | begin : Moves s .begin { s with runs := s.runs ++ [.selecting s.clock] }
  | wait {i now} (hphase : s.runs[i]? = some (.selecting now)) (hrow : s.row = none) :
      Moves s (.select i) (s.put i (.inserting now))
  | select {i now row} (hphase : s.runs[i]? = some (.selecting now)) (hrow : s.row = some row)
      (htake : (takeLock row now).isSome = true) : Moves s (.select i) (s.grant i now)
  | held {i : _} (a : LockAct) : Moves s a (s.put i .ended)
  | insert {i now} (hphase : s.runs[i]? = some (.inserting now)) (hrow : s.row = none) :
      Moves s (.insert i) (s.grant i now)
  | release {i : _} (hphase : s.runs[i]? = some .holding) :
      Moves s (.release i) { s.put i .ended with row := s.row.map LockRow.release, released := s.released ++ [i] }

private theorem moves_of_step {s t : LockSys} {a} (h : s.step a = some t) : s.Moves a t := by
  unfold step at h
  split at h
  · rename_i d
    cases h
    exact .tick d
  · cases h
    exact .begin
  · rename_i i
    split at h
    · rename_i now hp
      split at h
      · rename_i hr
        cases h
        exact .wait hp hr
      · rename_i row hr
        split at h
        · rename_i ht
          cases h
          exact .select hp hr ht
        · cases h
          exact .held _
    · cases h
  · rename_i i
    split at h
    · rename_i now hp
      split at h
      · rename_i hr
        cases h
        exact .insert hp (isNone_iff_eq_none.1 hr)
      · cases h
        exact .held _
    · cases h
  · rename_i i
    split at h
    · rename_i hp
      cases h
      exact .release hp
    · cases h
  · rename_i i
    split at h
    · cases h
      exact .held _
    · cases h

/-! ### The most recent grantee -/

def Released (s : LockSys) (g : Grant) : Prop := g.run ∈ s.released

def OwnRelease (s : LockSys) : LockAct → Prop
  | .release i => s.grants.getLast?.map Grant.run = some i
  | .tick _ | .begin | .select _ | .insert _ | .quit _ => True

instance (s : LockSys) : (a : LockAct) → Decidable (OwnRelease s a)
  | .release _ => inferInstanceAs (Decidable (_ = _))
  | .tick _ | .begin | .select _ | .insert _ | .quit _ => isTrue trivial

/-- No time has been taken in the future, and the row is that of the last grant until it is released. -/
structure Sound (s : LockSys) : Prop where
  selecting : ∀ now, .selecting now ∈ s.runs → now ≤ s.clock
  inserting : ∀ now, .inserting now ∈ s.runs → now ≤ s.clock
  row : ∀ g ∈ s.grants.getLast?, ¬ s.Released g →
    ∃ row, s.row = some row ∧ row.isLocked = true ∧ row.expiresAt = some g.expiresAt

variable {s t : LockSys} {a : LockAct}

private theorem sound_of_no_grants (hr : s.runs = []) (hg : s.grants = []) : s.Sound := by
  refine ⟨?_, ?_, ?_⟩ <;> simp [hr, hg]

private theorem Sound.put (h : s.Sound) (i phase) (hs : ∀ now, phase = .selecting now → now ≤ s.clock)
    (hi : ∀ now, phase = .inserting now → now ≤ s.clock) : (s.put i phase).Sound := by
  refine ⟨fun now hm => ?_, fun now hm => ?_, h.row⟩
  · rcases mem_or_eq_of_mem_set hm with ho | hn
    · exact h.selecting now ho
    · exact hs now hn.symm
  · rcases mem_or_eq_of_mem_set hm with ho | hn
    · exact h.inserting now ho
    · exact hi now hn.symm

private theorem Sound.grant (h : s.Sound) (i now) : (s.grant i now).Sound := by
  have hp := h.put i .holding (fun _ heq => RunPhase.noConfusion heq) (fun _ heq => RunPhase.noConfusion heq)
  refine ⟨hp.selecting, hp.inserting, fun g hg _ => ?_⟩
  obtain rfl : ⟨i, now + lockTimeout⟩ = g := by simpa [LockSys.grant] using hg
  exact ⟨lockedRow now, rfl, rfl, rfl⟩

private theorem Sound.step (h : s.Sound) (hok : OwnRelease s a) (hs : s.step a = some t) : t.Sound := by
  cases moves_of_step hs with
  | tick =>
    exact ⟨fun now hm => Nat.le_add_right_of_le (h.selecting now hm),
      fun now hm => Nat.le_add_right_of_le (h.inserting now hm), h.row⟩
  | begin =>
    refine ⟨fun now hm => ?_, fun now hm => ?_, h.row⟩
    · rcases mem_concat.1 hm with hm | hn
      · exact h.selecting now hm
      · obtain rfl := RunPhase.selecting.inj hn
        exact Nat.le_refl _
    · rcases mem_concat.1 hm with hm | hn
      · exact h.inserting now hm
      · exact RunPhase.noConfusion hn
  | @wait i now hp =>
    refine h.put i _ (fun _ heq => RunPhase.noConfusion heq) (fun _ heq => ?_)
    obtain rfl := RunPhase.inserting.inj heq
    exact h.selecting now (mem_of_getElem? hp)
  | @select i now => exact h.grant i now
  | @held i => exact h.put i _ (fun _ heq => RunPhase.noConfusion heq) (fun _ heq => RunPhase.noConfusion heq)
  | @insert i now => exact h.grant i now
  | @release i =>
    have hpt := h.put i .ended (fun _ heq => RunPhase.noConfusion heq) (fun _ heq => RunPhase.noConfusion heq)
    refine ⟨hpt.selecting, hpt.inserting, fun g hg hnt => ?_⟩
    -- the last grant is the one that is released
    have hl : s.grants.getLast?.map Grant.run = some i := hok
    rw [show s.grants.getLast? = some g from hg, map_some] at hl
    exact absurd (mem_append_right _ (by simpa using some.inj hl)) hnt

private theorem Sound.granted (h : s.Sound) (hs : s.step a = some t) (hgr : t.grants ≠ s.grants) :
    ∀ g ∈ s.grants.getLast?, s.Released g ∨ g.expiresAt < s.clock := by
  intro g hg
  by_cases hr : s.Released g
  · exact .inl hr
  obtain ⟨row, hrw, hl, he⟩ := h.row g hg hr
  cases moves_of_step hs with
  | tick => exact absurd rfl hgr
  | begin => exact absurd rfl hgr
  | wait => exact absurd rfl hgr
  | held => exact absurd rfl hgr
  | release => exact absurd rfl hgr
  | insert hp hn =>
    rw [hrw] at hn
    cases hn
  | @select i now row' hp hr' ht =>
    obtain rfl := some.inj (hrw.symm.trans hr')
    have hnw := h.selecting now (mem_of_getElem? hp)
    -- a locked row is taken only after its expiry
    simp only [takeLock, hl, he, any_some, Bool.true_and, decide_eq_true_eq, Bool.not_true,
      Bool.false_eq_true, if_false] at ht
    split at ht
    · rename_i hlt
      exact .inr (Nat.lt_of_lt_of_le hlt hnw)
    · cases ht

end LockSys

open LockSys in
/-- A lock is granted only if the run to which it was granted before has released it or its timeout has elapsed, in
every interleaving in which runs release only what is still theirs. -/
theorem granted_when_free {s t u : LockSys} {a : LockAct} (hruns : s.runs = []) (hgrants : s.grants = [])
    (hrun : Run (Steps LockSys.step) OwnRelease s t) (hstep : t.step a = some u) (hgranted : u.grants ≠ t.grants) :
    ∀ g ∈ t.grants.getLast?, g.run ∈ t.released ∨ g.expiresAt < t.clock := by
  have hsound : t.Sound := hrun.invariant (sound_of_no_grants hruns hgrants)
    (fun _ _ _ hI hok hnext => hI.step hok hnext)
  exact hsound.granted hstep hgranted

def idleLock : LockSys := ⟨0, none, [], [], []⟩

open LockSys in
/-- The lock is released and granted again. -/
theorem granted_when_free_released :
    ∃ t u, Run (Steps LockSys.step) OwnRelease idleLock t ∧ t.step (.select 1) = some u ∧ u.grants.length = 2 ∧
      ∀ g ∈ t.grants.getLast?, g.run ∈ t.released ∨ g.expiresAt < t.clock :=
  exists_run_step_with [.begin, .select 0, .insert 0, .tick (seconds 60), .release 0, .begin]
    (fun t u => u.grants ≠ t.grants ∧ u.grants.length = 2) (by decide +kernel)
    (fun _ _ hrun hs hu => ⟨hu.2, granted_when_free rfl rfl hrun hs hu.1⟩)

open LockSys in
/-- The first run works for more than ten minutes, the second one takes the lock over, the first one releases it, and
the third one is granted the lock while the second one works. -/
theorem late_release_frees_lock : ∃ t u, Run (Steps LockSys.step) Always idleLock t ∧ t.step (.select 2) = some u ∧
      t.grants.getLast? = some ⟨1, seconds 601 + lockTimeout⟩ ∧ 1 ∉ t.released ∧ t.runs[1]? = some .holding ∧
      t.clock < seconds 601 + lockTimeout ∧ u.runs[2]? = some .holding :=
  exists_run_step [.begin, .select 0, .insert 0, .tick (seconds 601), .begin, .select 1, .release 0, .begin]
    (by decide +kernel)

end WisdoverseCell.Sync
