import Mathlib.Data.List.Basic

/-!
# Programs that keep their state when they fail

A `Failing` program changes a state and returns a value or an error; what it did before an error stays done.
`attemptAll` is a loop that goes on after the failure of an item.
-/

namespace WisdoverseCell

variable {σ ε α β : Type}

def Failing (σ ε α : Type) : Type := σ → Except ε α × σ

variable {f : α → Failing σ ε β} {s s'' : σ} {x : Failing σ ε α}

namespace Failing

def bind (x : Failing σ ε α) (f : α → Failing σ ε β) : Failing σ ε β := fun s =>
  match x s with
  | (.ok a, s') => f a s'
  | (.error e, s') => (.error e, s')

instance : Monad (Failing σ ε) where
  pure a := fun s => (.ok a, s)
  bind := bind

def lift (r : Except ε α) : Failing σ ε α := fun s => (r, s)

def read (f : σ → α) : Failing σ ε α := fun s => (.ok (f s), s)

def modify (f : σ → σ) : Failing σ ε Unit := fun s => (.ok (), f s)

def catching (x : Failing σ ε α) (handler : ε → Failing σ ε α) : Failing σ ε α := fun s =>
  match x s with
  | (.ok a, s') => (.ok a, s')
  | (.error e, s') => handler e s'

def forEach (f : α → Failing σ ε Unit) : List α → Failing σ ε Unit
  | [] => pure ()
  | a :: as => f a >>= fun _ => forEach f as

theorem bind_eq (x : Failing σ ε α) (f : α → Failing σ ε β) (s) :
    (x >>= f) s = match x s with
      | (.ok a, s') => f a s'
      | (.error e, s') => (.error e, s') := rfl

theorem bind_eq_ok {b} (h : (x >>= f) s = (.ok b, s'')) : ∃ a s', x s = (.ok a, s') ∧ f a s' = (.ok b, s'') := by
  rw [bind_eq] at h
  rcases hx : x s with ⟨⟨e⟩ | ⟨a⟩, s'⟩
  · rw [hx] at h
    cases h
  · rw [hx] at h
    exact ⟨a, s', rfl, h⟩

theorem bind_of_ok {s' a} (h : x s = (.ok a, s')) : (x >>= f) s = f a s' := by
  rw [bind_eq, h]

theorem catching_eq_ok {handler a} (h : catching x handler s = (.ok a, s'')) :
    x s = (.ok a, s'') ∨ ∃ e s', x s = (.error e, s') ∧ handler e s' = (.ok a, s'') := by
  unfold catching at h
  rcases hx : x s with ⟨⟨e⟩ | ⟨a'⟩, s'⟩
  · rw [hx] at h
    exact .inr ⟨e, s', rfl, h⟩
  · rw [hx] at h
    exact .inl h

/-! ### Invariants -/

def Keeps (I : σ → Prop) (x : Failing σ ε α) : Prop := ∀ s, I s → I (x s).2

section

variable {I : σ → Prop} {x : Failing σ ε α}

theorem keeps_pure (a) : Keeps I (pure a : Failing σ ε α) := fun _ h => h

theorem keeps_lift (r) : Keeps I (lift r : Failing σ ε α) := fun _ h => h

theorem keeps_read (f) : Keeps I (read f : Failing σ ε α) := fun _ h => h

theorem keeps_modify {f} (hf : ∀ s, I s → I (f s)) : Keeps I (modify f : Failing σ ε Unit) := hf

theorem keeps_after {y : Failing σ ε β} {f : β → Failing σ ε α} (hf : ∀ b, Keeps I (f b)) (hy : I (y s).2) :
    I ((y >>= f) s).2 := by
  rw [bind_eq]
  rcases hr : y s with ⟨⟨e⟩ | ⟨b⟩, s'⟩
  · rw [hr] at hy
    exact hy
  · rw [hr] at hy
    exact hf b s' hy

theorem Keeps.bind (hx : Keeps I x) (hf : ∀ a, Keeps I (f a)) : Keeps I (x >>= f) :=
  fun s hs => keeps_after hf (hx s hs)

theorem Keeps.catching {handler} (hx : Keeps I x) (hh : ∀ e, Keeps I (handler e)) : Keeps I (catching x handler) := by
  intro s hs
  have hs' := hx s hs
  unfold Failing.catching
  rcases hr : x s with ⟨⟨e⟩ | ⟨a⟩, s'⟩
  · rw [hr] at hs'
    exact hh e s' hs'
  · rw [hr] at hs'
    exact hs'

theorem keeps_forEach {f : α → Failing σ ε Unit} {as} (h : ∀ a ∈ as, Keeps I (f a)) : Keeps I (forEach f as) := by
  induction as with
  | nil => exact keeps_pure ()
  | cons a as ih =>
    exact (h a List.mem_cons_self).bind (fun _ => ih (fun b hb => h b (List.mem_cons_of_mem a hb)))

end

/-! ### Loops that go on -/

section

variable (done : σ → σ) (report : ε → σ → σ)

def attempt (x : Failing σ ε Unit) : Failing σ ε Unit :=
  catching (x >>= fun _ => modify done) (fun e => modify (report e))

def attemptAll (f : α → Failing σ ε Unit) (as : List α) : Failing σ ε Unit :=
  forEach (fun a => attempt done report (f a)) as

theorem keeps_attempt {done : σ → σ} {report : ε → σ → σ} {I x} (hx : Keeps I x)
    (hd : ∀ s, I s → I (done s)) (hr : ∀ e s, I s → I (report e s)) : Keeps I (attempt done report x) :=
  (hx.bind (fun _ => keeps_modify hd)).catching (fun e => keeps_modify (hr e))

end

end Failing

end WisdoverseCell
