import Mathlib.Data.List.Forall2

/-!
# Computations that may be refused

Inversion rules for `Except`: a sequence of checks that ends in a result has passed every check.  `ensure` is a check,
`require` the reading of an optional value; `simp only [eq_ok]` turns the equation `computation = .ok result` into the
list of what was read and checked.
-/

namespace WisdoverseCell

open List

variable {u : Unit} {ε ε' α β : Type}

def ensure (c : Prop) [Decidable c] (e : ε) : Except ε Unit := if c then .ok () else .error e

def require (o : Option α) (e : ε) : Except ε α :=
  match o with
  | some a => .ok a
  | none => .error e

variable {e : ε}

theorem ensure_eq_ok {c : Prop} [Decidable c] : ensure c e = .ok u ↔ c := by
  unfold ensure
  by_cases h : c <;> simp [h]

variable {a : α}

theorem require_eq_ok {o} : require o e = .ok a ↔ o = some a := by
  cases o <;> simp [require]

variable {f : α → Except ε β} {x : Except ε α}

theorem bind_eq_ok {b} : x >>= f = .ok b ↔ ∃ a, x = .ok a ∧ f a = .ok b := by
  cases x with
  | error => simp [bind, Except.bind]
  | ok => simp [bind, Except.bind]

theorem pure_eq_ok {b} : (pure a : Except ε α) = .ok b ↔ a = b := by
  simp [pure, Except.pure]

theorem mapError_eq_ok {f : ε → ε'} : x.mapError f = .ok a ↔ x = .ok a := by
  cases x <;> simp [Except.mapError]

/-- The rules above, as one set for `simp`. -/
theorem eq_ok : (∀ {ε α β : Type} {x : Except ε α} {f : α → Except ε β} {b}, x >>= f = .ok b ↔
      ∃ a, x = .ok a ∧ f a = .ok b) ∧
    (∀ {ε : Type} {e : ε} {c : Prop} [Decidable c] {u}, ensure c e = .ok u ↔ c) ∧
    (∀ {ε α : Type} {e : ε} {o : Option α} {a}, require o e = .ok a ↔ o = some a) ∧
    (∀ {ε α : Type} {a b : α}, (pure a : Except ε α) = .ok b ↔ a = b) ∧
    ∀ {ε ε' α : Type} {x : Except ε α} {f : ε → ε'} {a}, x.mapError f = .ok a ↔ x = .ok a :=
  ⟨bind_eq_ok, ensure_eq_ok, require_eq_ok, pure_eq_ok, mapError_eq_ok⟩

theorem mapError_eq_error {f : ε → ε'} {e} (h : x.mapError f = .error e) : ∃ e₀, x = .error e₀ ∧ f e₀ = e := by
  cases x with
  | error e₀ => exact ⟨e₀, rfl, Except.error.inj h⟩
  | ok => exact absurd h (by simp [Except.mapError])

theorem toOption_eq_some : x.toOption = some a ↔ x = .ok a := by
  cases x <;> simp [Except.toOption]

theorem bind_eq_error (h : x >>= f = .error e) : x = .error e ∨ ∃ a, x = .ok a ∧ f a = .error e := by
  cases x with
  | error => exact .inl (by simpa [bind, Except.bind] using h)
  | ok a => exact .inr ⟨a, rfl, h⟩

theorem ensure_eq_error {c : Prop} [Decidable c] {e'} (h : ensure c e = .error e') : e' = e := by
  unfold ensure at h
  split at h
  · cases h
  · exact (Except.error.inj h).symm

theorem require_eq_error {o : Option α} {e'} (h : require o e = .error e') : e' = e := by
  cases o with
  | none => exact (Except.error.inj h).symm
  | some => exact absurd h (by simp [require])

def checkEach (f : α → Except ε Unit) : List α → Except ε Unit
  | [] => .ok ()
  | a :: as => f a >>= fun _ => checkEach f as

variable {as : List α}

theorem checkEach_eq_ok {f : α → Except ε Unit} : checkEach f as = .ok u ↔ ∀ a ∈ as, f a = .ok () := by
  induction as with
  | nil => simp [checkEach]
  | cons a as ih =>
    rw [checkEach, bind_eq_ok, forall_mem_cons, ih]
    exact ⟨fun ⟨_, ha, has⟩ => ⟨ha, has⟩, fun ⟨ha, has⟩ => ⟨(), ha, has⟩⟩

def failsWith [DecidableEq ε] (r : Except ε α) (e : ε) : Bool :=
  match r with
  | .error e' => e' = e
  | .ok _ => false

theorem failsWith_iff [DecidableEq ε] {r : Except ε α} : failsWith r e = true ↔ r = .error e := by
  cases r <;> simp [failsWith]

theorem mapM_eq_ok {bs} : as.mapM f = .ok bs ↔ Forall₂ (fun a b => f a = .ok b) as bs := by
  induction as generalizing bs with
  | nil =>
    rw [mapM_nil, pure_eq_ok, forall₂_nil_left_iff]
    exact eq_comm
  | cons a as ih =>
    simp only [mapM_cons, bind_eq_ok, pure_eq_ok, forall₂_cons_left_iff, ih]
    constructor
    · rintro ⟨b, hb, bs', hbs', rfl⟩
      exact ⟨b, bs', hb, hbs', rfl⟩
    · rintro ⟨b, bs', hb, hbs', rfl⟩
      exact ⟨b, hb, bs', hbs', rfl⟩

theorem forM_eq_ok {f : α → Except ε Unit} : as.forM f = .ok u ↔ ∀ a ∈ as, f a = .ok u := by
  induction as with
  | nil => simp [List.forM, pure, Except.pure]
  | cons a as ih =>
    change (f a >>= fun _ => as.forM f) = .ok u ↔ _
    rw [bind_eq_ok, forall_mem_cons, ← ih]
    constructor
    · rintro ⟨_, ha, has⟩
      exact ⟨ha, has⟩
    · rintro ⟨ha, has⟩
      exact ⟨u, ha, has⟩

end WisdoverseCell
