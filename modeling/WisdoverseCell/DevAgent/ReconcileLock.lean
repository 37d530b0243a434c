import Mathlib.Data.List.Basic

/-!
# The lock of the reconciliation

The advisory lock belongs to the database connection that took it.  A commit gives the connection of a session back, so
that the release may run on another one, and a failed statement makes the release fail as well.
-/

namespace WisdoverseCell.DevAgent.ReconcileLock

/-- A step of the loop: a statement, which the database may refuse, or a call of another service. -/
inductive Step
  | statement (ok : Bool)
  | external (raises : Bool)
  deriving DecidableEq

/-- Steps one after the other; `guarded` if exceptions are caught and logged there. -/
structure Block where
  guarded : Bool
  steps : List Step

/-- An active task is skipped, has timed out, or is polled: marked first, then asked for under a `try`. -/
inductive Poll
  | skipped
  | timedOut (update : List Step)
  | polled (mark collect : List Step)

def Poll.blocks : Poll → List Block
  | .skipped => []
  | .timedOut update => [⟨false, update⟩]
  | .polled mark collect => [⟨false, mark⟩, ⟨true, collect⟩]

/-- `_reconcile` between its `try` and the commit; the tasks are started if there are slots. -/
def reconcileBlocks (gauges : List Step) (active : List Poll) (slots : List Step) (pending : List (List Step))
    (slots' : List Step) (planning : List (List Step)) : List Block :=
  ⟨false, gauges⟩ :: active.flatMap Poll.blocks ++ ⟨false, slots⟩ :: pending.map (Block.mk true) ++
    ⟨false, slots'⟩ :: planning.map (Block.mk true)

/-- Run steps up to the first exception: whether the transaction has failed, and whether there was one. -/
def runSteps : Bool → List Step → Bool × Bool
  | failed, [] => (failed, false)
  | failed, .statement ok :: rest => if failed || !ok then (true, true) else runSteps false rest
  | failed, .external raises :: rest => if raises then (failed, true) else runSteps failed rest

def runBlocks : Bool → List Block → Bool × Bool
  | failed, [] => (failed, false)
  | failed, block :: rest =>
    match runSteps failed block.steps with
    | (failed, true) => if block.guarded then runBlocks failed rest else (failed, true)
    | (failed, false) => runBlocks failed rest

/-- What happens in a run: its statements and calls, and the connection that the session gets after its commit. -/
structure Outcomes where
  acquires : Bool
  gauges : List Step
  active : List Poll
  slots : List Step
  pending : List (List Step)
  slots' : List Step
  planning : List (List Step)
  commits : Bool
  next : Nat
  releases : Bool

def Outcomes.blocks (o : Outcomes) : List Block :=
  reconcileBlocks o.gauges o.active o.slots o.pending o.slots' o.planning

/-- The connection that holds the lock after a run whose session starts on the connection `conn`. -/
def holderAfter (conn : Nat) (o : Outcomes) : Option Nat :=
  if o.acquires then
    match runBlocks false o.blocks with
    | (failed, true) => if failed || !o.releases then some conn else none
    | (failed, false) =>
      -- a failed commit leaves the transaction failed, so the release fails too
      if failed || !o.commits then some conn else if o.next = conn && o.releases then none else some conn
  else none

/-! ### Which runs give the lock back -/

/-- An exception of another service ends the run. -/
def Block.escapes (block : Block) : Bool := !block.guarded && .external true ∈ block.steps

/-- Every statement that the run comes to succeeds: those of a block up to an exception, and those of the blocks up to
one that ends the run. -/
def Succeeds : List Block → Prop
  | [] => True
  | block :: rest =>
    .statement false ∉ block.steps.takeWhile (· ≠ .external true) ∧ (block.escapes = false → Succeeds rest)

variable {steps : List Step} {blocks : List Block}

private theorem runSteps_of_succeeds (h : .statement false ∉ steps.takeWhile (· ≠ .external true)) :
    runSteps false steps = (false, decide (.external true ∈ steps)) := by
  induction steps with
  | nil => rfl
  | cons step steps ih =>
    rcases step with ⟨_ | _⟩ | ⟨_ | _⟩
    · simp at h
    · simpa [runSteps] using ih (by simpa using h)
    · simpa [runSteps] using ih (by simpa using h)
    · simp [runSteps]

private theorem runSteps_of_fails (h : .statement false ∈ steps.takeWhile (· ≠ .external true)) :
    (runSteps false steps).1 = true := by
  induction steps with
  | nil => simp at h
  | cons step steps ih =>
    rcases step with ⟨_ | _⟩ | ⟨_ | _⟩
    · rfl
    · exact ih (by simpa using h)
    · exact ih (by simpa using h)
    · simp at h

/-- A transaction that has failed stays so. -/
private theorem runSteps_failed (steps) : (runSteps true steps).1 = true := by
  induction steps with
  | nil => rfl
  | cons step steps ih =>
    rcases step with ⟨_ | _⟩ | ⟨_ | _⟩
    · rfl
    · rfl
    · exact ih
    · rfl

private theorem runBlocks_failed (blocks) : (runBlocks true blocks).1 = true := by
  induction blocks with
  | nil => rfl
  | cons block blocks ih =>
    have hs := runSteps_failed block.steps
    unfold runBlocks
    split <;> rename_i he <;> rw [he] at hs <;> subst hs
    · split
      · exact ih
      · rfl
    · exact ih

/-- A block whose statements succeed and that no exception leaves. -/
private theorem runBlocks_cons {block : Block} (h : .statement false ∉ block.steps.takeWhile (· ≠ .external true))
    (he : block.escapes = false) : runBlocks false (block :: blocks) = runBlocks false blocks := by
  rw [runBlocks, runSteps_of_succeeds h]
  cases hx : decide (Step.external true ∈ block.steps) with
  | false => rfl
  | true =>
    have hg : block.guarded = true := by simpa [Block.escapes, of_decide_eq_true hx] using he
    simp [hg]

private theorem runBlocks_of_succeeds (h : Succeeds blocks) :
    runBlocks false blocks = (false, blocks.any Block.escapes) := by
  induction blocks with
  | nil => rfl
  | cons block blocks ih =>
    cases he : block.escapes with
    | true =>
      rw [runBlocks, runSteps_of_succeeds h.1]
      simp only [Block.escapes, Bool.and_eq_true, Bool.not_eq_true', decide_eq_true_eq] at he
      simp [he, Block.escapes]
    | false =>
      rw [runBlocks_cons h.1 he, ih (h.2 he), List.any_cons, he, Bool.false_or]

private theorem runBlocks_of_fails (h : ¬ Succeeds blocks) : (runBlocks false blocks).1 = true := by
  induction blocks with
  | nil => exact absurd trivial h
  | cons block blocks ih =>
    by_cases hs : .statement false ∈ block.steps.takeWhile (· ≠ .external true)
    · have hf := runSteps_of_fails hs
      unfold runBlocks
      split <;> rename_i he <;> rw [he] at hf <;> subst hf
      · split
        · exact runBlocks_failed blocks
        · rfl
      · exact runBlocks_failed blocks
    · obtain ⟨he, hr⟩ := Classical.not_imp.1 (fun hr => h ⟨hs, hr⟩)
      rw [runBlocks_cons hs he]
      exact ih hr

/-- After a run nobody holds the lock exactly if it was not taken, or every statement that the run came to succeeded
and the release did so on the connection that took the lock: before any commit, or on the same connection after it. -/
theorem lock_released_iff (conn : Nat) (o : Outcomes) : holderAfter conn o = none ↔
    (o.acquires = true → Succeeds o.blocks ∧ o.releases = true ∧
      (o.blocks.any Block.escapes = true ∨ o.commits = true ∧ o.next = conn)) := by
  unfold holderAfter
  cases ha : o.acquires with
  | false => simp
  | true =>
    by_cases hs : Succeeds o.blocks
    · rw [runBlocks_of_succeeds hs]
      cases o.blocks.any Block.escapes <;> cases hr : o.releases <;> cases hc : o.commits <;>
        by_cases hn : o.next = conn <;> simp [hs, hn]
    · have hf := runBlocks_of_fails hs
      rcases hb : runBlocks false o.blocks with ⟨failed, raised⟩
      obtain rfl : failed = true := by rw [hb] at hf; exact hf
      cases raised <;> simp [hs]

/-- One task is polled, and the service that is asked raises. -/
def onePoll (ok : Bool) (next : Nat) : Outcomes :=
  ⟨true, [.statement true, .statement true], [.polled [.statement ok] [.external true]], [.statement true], [],
    [.statement true], [], true, next, true⟩

/-- The session continues on another connection after its commit, or a statement fails. -/
theorem lock_kept : holderAfter 1 (onePoll true 2) = some 1 ∧ holderAfter 1 (onePoll false 1) = some 1 := by
  decide

end WisdoverseCell.DevAgent.ReconcileLock
