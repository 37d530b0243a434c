import Mathlib.Logic.Relation

/-!
# Runs of a labelled transition system

`Run R ok s t` says that `t` is reached from `s` by steps of `R` each of which meets the condition `ok` where it is
taken; `Steps step` is a partial step function.  Three rules do all inductions: `Run.invariant`, `Run.relates` for a
relation between the ends, and `Run.simulate` for a second system.
-/

namespace WisdoverseCell

variable {σ τ α β : Type}

inductive Run (R : σ → α → σ → Prop) (ok : σ → α → Prop) (s : σ) : σ → Prop
  | refl : Run R ok s s
  | tail {t u a} (h : Run R ok s t) (hok : ok t a) (hstep : R t a u) : Run R ok s u

def Always (_ : σ) (_ : α) : Prop := True

/-- The transitions of a step function; an action that is not enabled gives `none`. -/
def Steps (step : σ → α → Option σ) (s : σ) (a : α) (t : σ) : Prop := step s a = some t

instance decidableSome (o : Option α) (p : α → Prop) [DecidablePred p] : Decidable (∃ a, o = some a ∧ p a) :=
  decidable_of_iff (o.any (fun a => p a) = true) (by simp [Option.any_eq_true])

theorem mem_concat {as : List α} {a b} : b ∈ as ++ [a] ↔ b ∈ as ∨ b = a := by
  rw [List.mem_append, List.mem_singleton]

namespace Run

variable {R : σ → α → σ → Prop} {ok ok' : σ → α → Prop} {s t u : σ}

theorem single {a} (hok : ok s a) (hs : R s a t) : Run R ok s t := tail refl hok hs

theorem trans (h : Run R ok s t) (h' : Run R ok t u) : Run R ok s u := by
  induction h' with
  | refl => exact h
  | tail _ hok hs ih => exact tail ih hok hs

theorem mono (h : Run R ok s t) (hi : ∀ s a, ok s a → ok' s a) : Run R ok' s t := by
  induction h with
  | refl => exact refl
  | tail _ hok hs ih => exact tail ih (hi _ _ hok) hs

theorem invariant {I : σ → Prop} (h : Run R ok s t) (h0 : I s) (hp : ∀ s a t, I s → ok s a → R s a t → I t) : I t := by
  induction h with
  | refl => exact h0
  | tail _ hok hs ih => exact hp _ _ _ ih hok hs

theorem relates {Q : σ → σ → Prop} (h : Run R ok s t) (hr : ∀ s, Q s s)
    (ht : ∀ s t u, Q s t → Q t u → Q s u) (hrl : ∀ s a t, ok s a → R s a t → Q s t) : Q s t := by
  induction h with
  | refl => exact hr _
  | tail _ hok hs ih => exact ht _ _ _ ih (hrl _ _ _ hok hs)

/-- If every step, from a state with the invariant `I`, keeps `I` and maps to a run of a second system, so does every
run from a state with `I`. -/
theorem simulate {R' : τ → β → τ → Prop} {ok₂ : τ → β → Prop} {f : σ → τ} {I : σ → Prop} (h : Run R ok s t) (h0 : I s)
    (hsm : ∀ s a t, I s → ok s a → R s a t → I t ∧ Run R' ok₂ (f s) (f t)) : I t ∧ Run R' ok₂ (f s) (f t) := by
  induction h with
  | refl => exact ⟨h0, refl⟩
  | tail _ hok hs ih =>
    obtain ⟨hI, hr⟩ := ih
    obtain ⟨hI', hr'⟩ := hsm _ _ _ hI hok hs
    exact ⟨hI', hr.trans hr'⟩

end Run

instance (s : σ) (a : α) : Decidable (Always s a) := isTrue trivial

/-- Execute a list of actions; `none` as soon as one is not enabled or does not meet the condition. -/
def exec (step : σ → α → Option σ) (ok : σ → α → Prop) [∀ s a, Decidable (ok s a)] : σ → List α → Option σ
  | s, [] => some s
  | s, a :: as => if ok s a then (step s a).bind (fun t => exec step ok t as) else none

theorem run_of_exec {step : σ → α → Option σ} {ok : σ → α → Prop} [∀ s a, Decidable (ok s a)] {s t as}
    (h : exec step ok s as = some t) : Run (Steps step) ok s t := by
  induction as generalizing s with
  | nil =>
    cases h
    exact Run.refl
  | cons a as ih =>
    obtain ⟨hok, h⟩ := Option.ite_none_right_eq_some.1 h
    obtain ⟨u, hu, ht⟩ := Option.bind_eq_some_iff.1 h
    exact (Run.single hok hu).trans (ih ht)

section

variable {step : σ → α → Option σ} {ok : σ → α → Prop} [∀ s a, Decidable (ok s a)] {s : σ} {P Q : σ → Prop}

theorem exists_run_of_exec {as : List α} {test} (h : (exec step ok s as).any test = true) :
    ∃ t, Run (Steps step) ok s t ∧ test t = true := by
  obtain ⟨t, ht, hts⟩ := (Option.any_eq_true _ _).1 h
  exact ⟨t, run_of_exec ht, hts⟩

/-- The actions lead to a state with a property that follows from what is tested there. -/
theorem exists_run_with (as) (P) [DecidablePred P]
    (h : (exec step ok s as).any (fun t => decide (P t)) = true) (hq : ∀ t, Run (Steps step) ok s t → P t → Q t) :
    ∃ t, Run (Steps step) ok s t ∧ Q t := by
  obtain ⟨t, hr, ht⟩ := exists_run_of_exec h
  exact ⟨t, hr, hq t hr (of_decide_eq_true ht)⟩

theorem exists_run_exec (as) [DecidablePred P] (h : (exec step ok s as).any (fun t => decide (P t)) = true) :
    ∃ t, Run (Steps step) ok s t ∧ P t :=
  exists_run_with as P h (fun _ _ ht => ht)

/-- One more action leads on to a state with a property that follows from what is tested of the two. -/
theorem exists_run_step_with (as : List α) {a : α} (P : σ → σ → Prop) {Q : σ → σ → Prop} [∀ t u, Decidable (P t u)]
    (h : (exec step ok s as).any (fun t => (step t a).any (fun u => P t u)) = true)
    (hq : ∀ t u, Run (Steps step) ok s t → step t a = some u → P t u → Q t u) :
    ∃ t u, Run (Steps step) ok s t ∧ step t a = some u ∧ Q t u := by
  obtain ⟨t, hr, ht⟩ := exists_run_of_exec h
  obtain ⟨u, hs, hu⟩ := (Option.any_eq_true _ _).1 ht
  exact ⟨t, u, hr, hs, hq t u hr hs (of_decide_eq_true hu)⟩

theorem exists_run_step (as : List α) {a : α} {P : σ → σ → Prop} [∀ t u, Decidable (P t u)]
    (h : (exec step ok s as).any (fun t => (step t a).any (fun u => P t u)) = true) :
    ∃ t u, Run (Steps step) ok s t ∧ step t a = some u ∧ P t u :=
  exists_run_step_with as P h (fun _ _ _ _ hu => hu)

theorem exists_run_run (as bs : List α) (P : σ → σ → Prop) {Q : σ → σ → Prop} [∀ t u, Decidable (P t u)]
    (h : (exec step ok s as).any (fun t => (exec step ok t bs).any (fun u => P t u)) = true)
    (hq : ∀ t u, Run (Steps step) ok s t → Run (Steps step) ok t u → P t u → Q t u) :
    ∃ t u, Run (Steps step) ok s t ∧ Run (Steps step) ok t u ∧ Q t u := by
  obtain ⟨t, hr, ht⟩ := exists_run_of_exec h
  obtain ⟨u, hr', hu⟩ := exists_run_of_exec ht
  exact ⟨t, u, hr, hr', hq t u hr hr' (of_decide_eq_true hu)⟩

/-- The second property is one of every run. -/
theorem exists_run_and (as) [DecidablePred P] (h : (exec step ok s as).any (fun t => decide (P t)) = true)
    (hq : ∀ t, Run (Steps step) ok s t → Q t) : ∃ t, Run (Steps step) ok s t ∧ P t ∧ Q t :=
  exists_run_with as P h (fun t hr ht => ⟨ht, hq t hr⟩)

end

end WisdoverseCell
