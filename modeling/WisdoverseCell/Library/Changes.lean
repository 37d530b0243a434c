import WisdoverseCell.Library.Sessions

/-!
# Changes of a database by a program that is alone

A `Change` is a reflexive and transitive relation between the database before and after.  A program makes such a
change if each of its parts does, however the world answers; exceptions included.
-/

namespace WisdoverseCell

structure Change (δ : Type) where
  rel : δ → δ → Prop
  refl : ∀ a, rel a a
  trans : ∀ a b c, rel a b → rel b c → rel a c

section

variable {δ υ κ χ ε ι α β : Type} {ρ : χ → Type} (S : Server δ υ κ χ ρ ε ι) (A : (c : χ) → ρ c → Prop) (I : δ → Prop)
  (C : Change δ)

def Server.Makes (p : Prog δ υ χ ρ ε α) : Prop := ∀ db, p.Guarded (S.whole A I) db (fun _ db' => C.rel db db')

variable {S A I C} {p : Prog δ υ χ ρ ε α}

theorem makes_done (a) : S.Makes A I C (.done a : Prog δ υ χ ρ ε α) := fun db => C.refl db

theorem makes_raise (e) : S.Makes A I C (.raise e : Prog δ υ χ ρ ε α) := fun db => C.refl db

theorem makes_read {k : δ → Prog δ υ χ ρ ε α} (h : ∀ db, S.Makes A I C (k db)) : S.Makes A I C (.read k) :=
  fun db db' heq => (show db' = db from heq) ▸ h db' db'

theorem makes_call {c : χ} {k : ρ c → Prog δ υ χ ρ ε α} (h : ∀ r, S.Makes A I C (k r)) : S.Makes A I C (.call c k) :=
  fun db => ⟨trivial, fun r _ => h r db⟩

theorem makes_update {u} (h : ∀ db, C.rel db (S.apply db u)) : S.Makes A I C (Prog.update u : Prog δ υ χ ρ ε Unit) :=
  fun db => Prog.guarded_update trivial (h db)

theorem makes_bind {f : α → Prog δ υ χ ρ ε β} (hp : S.Makes A I C p) (hf : ∀ a, S.Makes A I C (f a)) :
    S.Makes A I C (p.bind f) := by
  intro db
  refine (hp db).seq (fun a db' hr => ?_) (fun _ _ hr => hr)
  exact (hf a db').mono (fun _ db'' hr' => C.trans db db' db'' hr hr')

theorem makes_forEach {f : α → Prog δ υ χ ρ ε Unit} (h : ∀ a, S.Makes A I C (f a)) (as) :
    S.Makes A I C (Prog.forEach f as) := by
  induction as with
  | nil => exact makes_done ()
  | cons a as ih => exact makes_bind (h a) (fun _ => ih)

theorem guarded_whole_get {f : δ → Prog δ υ χ ρ ε β} {db : δ} {Q}
    (h : (f db).Guarded (S.whole A I) db Q) : (Prog.get.bind f).Guarded (S.whole A I) db Q :=
  fun db' heq => (show db' = db from heq) ▸ h

end

end WisdoverseCell
