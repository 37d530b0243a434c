import Mathlib.Data.List.Basic

/-!
# Transaction programs

A `Prog` reads a database, writes to it, calls the outside world and commits; between two of these operations anything
may happen to the database.  A `Monitor` watches a `view` of it and says which writes, calls and commits it permits;
`Prog.Guarded` is the weakest precondition under a monitor.
-/

namespace WisdoverseCell

variable {δ υ χ ε α β : Type} {ρ : χ → Type}

/-- Programs on a database `δ` with updates `υ` and calls `χ`, the answer to `c` being in `ρ c`. -/
inductive Prog (δ υ χ : Type) (ρ : χ → Type) (ε α : Type) : Type
  | done (a : α)
  | raise (e : ε)
  | read (k : δ → Prog δ υ χ ρ ε α)
  | write (u : δ → Option υ) (k : δ → Prog δ υ χ ρ ε α)
  | call (c : χ) (k : ρ c → Prog δ υ χ ρ ε α)
  | commit (k : Prog δ υ χ ρ ε α)

variable {p : Prog δ υ χ ρ ε α} {f : α → Prog δ υ χ ρ ε β} {handler : ε → Prog δ υ χ ρ ε α} {P : α → Prop} {u : υ}
  {as : List α}

namespace Prog

def bind : Prog δ υ χ ρ ε α → (α → Prog δ υ χ ρ ε β) → Prog δ υ χ ρ ε β
  | done a, f => f a
  | raise e, _ => raise e
  | read k, f => read (fun db => (k db).bind f)
  | write u k, f => write u (fun db => (k db).bind f)
  | call c k, f => call c (fun r => (k r).bind f)
  | commit k, f => commit (k.bind f)

def catching : Prog δ υ χ ρ ε α → (ε → Prog δ υ χ ρ ε α) → Prog δ υ χ ρ ε α
  | done a, _ => done a
  | raise e, h => h e
  | read k, h => read (fun db => (k db).catching h)
  | write u k, h => write u (fun db => (k db).catching h)
  | call c k, h => call c (fun r => (k r).catching h)
  | commit k, h => commit (k.catching h)

instance : Monad (Prog δ υ χ ρ ε) where
  pure := done
  bind := bind

def get : Prog δ υ χ ρ ε δ := read done

def update (u : υ) : Prog δ υ χ ρ ε Unit := write (fun _ => some u) (fun _ => done ())

def save : Prog δ υ χ ρ ε Unit := commit (done ())

def ofExcept : Except ε α → Prog δ υ χ ρ ε α
  | .ok a => done a
  | .error e => raise e

def forEach (f : α → Prog δ υ χ ρ ε Unit) : List α → Prog δ υ χ ρ ε Unit
  | [] => done ()
  | a :: as => (f a).bind (fun _ => forEach f as)

theorem bind_bind {γ : Type} (p : Prog δ υ χ ρ ε α) (f) (g : β → Prog δ υ χ ρ ε γ) :
    (p.bind f).bind g = p.bind (fun a => (f a).bind g) := by
  induction p with
  | done => rfl
  | raise => rfl
  | read k ih => exact congrArg read (funext ih)
  | write u k ih => exact congrArg (write u) (funext ih)
  | call c k ih => exact congrArg (call c) (funext ih)
  | commit k ih => exact congrArg commit ih

def NeverRaises : Prog δ υ χ ρ ε α → Prop
  | done _ => True
  | raise _ => False
  | read k => ∀ db, (k db).NeverRaises
  | write _ k => ∀ db, (k db).NeverRaises
  | call _ k => ∀ r, (k r).NeverRaises
  | commit k => k.NeverRaises

theorem NeverRaises.catching_bind (h : p.NeverRaises) (f) (handler : ε → Prog δ υ χ ρ ε β) :
    (p.bind f).catching handler = p.bind (fun a => (f a).catching handler) := by
  induction p with
  | done => rfl
  | raise => exact h.elim
  | read k ih => exact congrArg read (funext fun db => ih db (h db))
  | write u k ih => exact congrArg (write u) (funext fun db => ih db (h db))
  | call c k ih => exact congrArg (call c) (funext fun r => ih r (h r))
  | commit k ih => exact congrArg commit (ih h)

theorem neverRaises_bind (h : p.NeverRaises) (hf : ∀ a, (f a).NeverRaises) : (p.bind f).NeverRaises := by
  induction p with
  | done a => exact hf a
  | raise => exact h.elim
  | read k ih => exact fun db => ih db (h db)
  | write u k ih => exact fun db => ih db (h db)
  | call c k ih => exact fun r => ih r (h r)
  | commit k ih => exact ih h

/-- Every result that the program can have satisfies `P`. -/
def Returns (P : α → Prop) : Prog δ υ χ ρ ε α → Prop
  | done a => P a
  | raise _ => True
  | read k => ∀ db, (k db).Returns P
  | write _ k => ∀ db, (k db).Returns P
  | call _ k => ∀ r, (k r).Returns P
  | commit k => k.Returns P

theorem returns_bind {P} (hf : ∀ a, (f a).Returns P) (p : Prog δ υ χ ρ ε α) : (p.bind f).Returns P := by
  induction p with
  | done a => exact hf a
  | raise => trivial
  | read k ih => exact ih
  | write u k ih => exact ih
  | call c k ih => exact ih
  | commit k ih => exact ih

theorem Returns.catching (h : p.Returns P) (hh : ∀ e, (handler e).Returns P) : (p.catching handler).Returns P := by
  induction p with
  | done => exact h
  | raise e => exact hh e
  | read k ih => exact fun db => ih db (h db)
  | write u k ih => exact fun db => ih db (h db)
  | call c k ih => exact fun r => ih r (h r)
  | commit k ih => exact ih h

/-! ### What a part of a transaction can do -/

/-- No commit, and only writes with `W` and calls with `C`. -/
def Only (W : υ → Prop) (C : χ → Prop) : Prog δ υ χ ρ ε α → Prop
  | done _ => True
  | raise _ => True
  | read k => ∀ db, (k db).Only W C
  | write u k => ∀ db, (∀ w ∈ u db, W w) ∧ (k db).Only W C
  | call c k => C c ∧ ∀ r, (k r).Only W C
  | commit _ => False

section

variable {W : υ → Prop} {C : χ → Prop} {p : Prog δ υ χ ρ ε α}

theorem Only.bind (h : p.Only W C) (hf : ∀ a, (f a).Only W C) : (p.bind f).Only W C := by
  induction p with
  | done a => exact hf a
  | raise => trivial
  | read k ih => exact fun db => ih db (h db)
  | write u k ih => exact fun db => ⟨(h db).1, ih db (h db).2⟩
  | call c k ih => exact ⟨h.1, fun r => ih r (h.2 r)⟩
  | commit => exact h.elim

theorem Only.catching (h : p.Only W C) (hh : ∀ e, (handler e).Only W C) : (p.catching handler).Only W C := by
  induction p with
  | done => trivial
  | raise e => exact hh e
  | read k ih => exact fun db => ih db (h db)
  | write u k ih => exact fun db => ⟨(h db).1, ih db (h db).2⟩
  | call c k ih => exact ⟨h.1, fun r => ih r (h.2 r)⟩
  | commit => exact h.elim

theorem Only.mono {W' C'} (h : p.Only W C) (hW : ∀ u, W u → W' u) (hC : ∀ c, C c → C' c) : p.Only W' C' := by
  induction p with
  | done => trivial
  | raise => trivial
  | read k ih => exact fun db => ih db (h db)
  | write u k ih => exact fun db => ⟨fun w hw => hW w ((h db).1 w hw), ih db (h db).2⟩
  | call c k ih => exact ⟨hC c h.1, fun r => ih r (h.2 r)⟩
  | commit => exact h.elim

theorem only_get_bind {f : δ → Prog δ υ χ ρ ε α} (h : ∀ db, (f db).Only W C) : (get.bind f).Only W C := h

theorem only_update (h : W u) : (update u : Prog δ υ χ ρ ε Unit).Only W C :=
  fun _ => ⟨fun _ hw => Option.some.inj hw ▸ h, trivial⟩

theorem only_forEach {f : α → Prog δ υ χ ρ ε Unit} (h : ∀ a ∈ as, (f a).Only W C) : (forEach f as).Only W C := by
  induction as with
  | nil => trivial
  | cons a as ih => exact (h a List.mem_cons_self).bind (fun _ => ih (fun b hb => h b (List.mem_cons_of_mem a hb)))

theorem only_ofExcept (r) : (ofExcept r : Prog δ υ χ ρ ε α).Only W C := by
  cases r <;> trivial

end

end Prog

/-! ### Monitors -/

/-- A monitor of the part `ν` of the database, with states `μ`; `seen` is the view that the transaction has. -/
structure Monitor (δ υ χ : Type) (ρ : χ → Type) (ν μ : Type) where
  view : δ → ν
  seen : μ → ν
  begin : ν → μ
  write : μ → υ → μ
  call : μ → (c : χ) → ρ c → μ
  mayWrite : μ → υ → Prop
  mayCall : μ → χ → Prop
  mayCommit : μ → Prop
  /-- The answers that are considered. -/
  answers : (c : χ) → ρ c → Prop

variable {ν μ : Type} {M : Monitor δ υ χ ρ ν μ} {C : χ → Prop} {W : υ → Prop} {R : Except ε α → μ → Prop}

namespace Prog

/-- The weakest precondition of a program under a monitor; `Q` is about the result and the state at the end. -/
def Guarded (M : Monitor δ υ χ ρ ν μ) : Prog δ υ χ ρ ε α → μ → (Except ε α → μ → Prop) → Prop
  | done a, m, Q => Q (.ok a) m
  | raise e, m, Q => Q (.error e) m
  | read k, m, Q => ∀ db, M.view db = M.seen m → (k db).Guarded M m Q
  | write u k, m, Q => ∀ db, M.view db = M.seen m →
    match u db with
    | none => (k db).Guarded M m Q
    | some w => M.mayWrite m w ∧ (k db).Guarded M (M.write m w) Q
  | call c k, m, Q => M.mayCall m c ∧ ∀ r, M.answers c r → (k r).Guarded M (M.call m c r) Q
  | commit k, m, Q => M.mayCommit m ∧ k.Guarded M (M.begin (M.seen m)) Q

def Resumes (M : Monitor δ υ χ ρ ν μ) : Prog δ υ χ ρ ε Unit → Prop
  | done _ => True
  | raise _ => True
  | read k => ∀ db, (k db).Resumes M
  | write _ k => ∀ db, (k db).Resumes M
  | call c k => ∀ r, M.answers c r → (k r).Resumes M
  | commit k => ∀ v, k.Guarded M (M.begin v) (fun _ _ => True) ∧ k.Resumes M

theorem Only.resumes_bind {f} (h : p.Only W C) (hf : ∀ a, (f a).Resumes M) : (p.bind f).Resumes M := by
  induction p with
  | done a => exact hf a
  | raise => trivial
  | read k ih => exact fun db => ih db (h db)
  | write u k ih => exact fun db => ih db (h db).2
  | call c k ih => exact fun r _ => ih r (h.2 r)
  | commit => exact h.elim

theorem resumes_get_bind {f : δ → Prog δ υ χ ρ ε Unit} (h : ∀ db, (f db).Resumes M) : (get.bind f).Resumes M := h

theorem resumes_save : (save : Prog δ υ χ ρ ε Unit).Resumes M := fun _ => ⟨trivial, trivial⟩

section

variable {p : Prog δ υ χ ρ ε α} {m : μ} {Q Q' : Except ε α → μ → Prop}

/-- From a write to another one: what follows starts from the state before or after the write. -/
theorem Guarded.write {u} {k : δ → Prog δ υ χ ρ ε α} {k' : δ → Prog δ υ χ ρ ε β} {R} (h : (write u k).Guarded M m Q)
    (hk : ∀ db m', (m' = m ∨ ∃ w ∈ u db, m' = M.write m w) → (k db).Guarded M m' Q → (k' db).Guarded M m' R) :
    (Prog.write u k').Guarded M m R := by
  intro db hdb
  have hd := h db hdb
  cases hu : u db with
  | none =>
    rw [hu] at hd
    exact hk db m (.inl rfl) hd
  | some w =>
    rw [hu] at hd
    exact ⟨hd.1, hk db _ (.inr ⟨w, hu, rfl⟩) hd.2⟩

theorem Guarded.mono (h : p.Guarded M m Q) (hi : ∀ r m, Q r m → Q' r m) : p.Guarded M m Q' := by
  induction p generalizing m with
  | done => exact hi _ _ h
  | raise => exact hi _ _ h
  | read k ih => exact fun db hdb => ih db (h db hdb)
  | write u k ih => exact h.write (fun db _ _ => ih db)
  | call c k ih => exact ⟨h.1, fun r hr => ih r (h.2 r hr)⟩
  | commit k ih => exact ⟨h.1, ih h.2⟩

/-- The second program starts from the end of the first, unless that one raised an exception. -/
theorem Guarded.bind {Q} (h : p.Guarded M m (fun r m => match r with
      | .ok a => (f a).Guarded M m Q
      | .error e => Q (.error e) m)) : (p.bind f).Guarded M m Q := by
  induction p generalizing m with
  | done => exact h
  | raise => exact h
  | read k ih => exact fun db hdb => ih db (h db hdb)
  | write u k ih => exact h.write (fun db _ _ => ih db)
  | call c k ih => exact ⟨h.1, fun r hr => ih r (h.2 r hr)⟩
  | commit k ih => exact ⟨h.1, ih h.2⟩

theorem Guarded.catching (h : p.Guarded M m (fun r m => match r with
      | .ok a => Q (.ok a) m
      | .error e => (handler e).Guarded M m Q)) : (p.catching handler).Guarded M m Q := by
  induction p generalizing m with
  | done => exact h
  | raise => exact h
  | read k ih => exact fun db hdb => ih db (h db hdb)
  | write u k ih => exact h.write (fun db _ _ => ih db)
  | call c k ih => exact ⟨h.1, fun r hr => ih r (h.2 r hr)⟩
  | commit k ih => exact ⟨h.1, ih h.2⟩

/-- One program after the other, with what holds in between. -/
theorem Guarded.seq {Q} (h : p.Guarded M m R)
    (hok : ∀ a m', R (.ok a) m' → (f a).Guarded M m' Q) (he : ∀ e m', R (.error e) m' → Q (.error e) m') :
    (p.bind f).Guarded M m Q := by
  refine Guarded.bind (h.mono (fun r m' hr => ?_))
  cases r with
  | ok a => exact hok a m' hr
  | error e => exact he e m' hr

theorem Guarded.handle (h : p.Guarded M m R) (hok : ∀ a m', R (.ok a) m' → Q (.ok a) m')
    (he : ∀ e m', R (.error e) m' → (handler e).Guarded M m' Q) : (p.catching handler).Guarded M m Q := by
  refine Guarded.catching (h.mono (fun r m' hr => ?_))
  cases r with
  | ok a => exact hok a m' hr
  | error e => exact he e m' hr

theorem Guarded.frame {J : μ → Prop} (h : p.Guarded M m Q) (hp : p.Only W C) (hJ : J m)
    (hW : ∀ m u, W u → J m → J (M.write m u)) (hC : ∀ m c r, C c → J m → J (M.call m c r)) :
    p.Guarded M m (fun r m' => Q r m' ∧ J m') := by
  induction p generalizing m with
  | done => exact ⟨h, hJ⟩
  | raise => exact ⟨h, hJ⟩
  | read k ih => exact fun db hdb => ih db (h db hdb) (hp db) hJ
  | write u k ih =>
    refine h.write (fun db m' hm hk => ih db hk (hp db).2 ?_)
    rcases hm with rfl | ⟨w, hw, rfl⟩
    · exact hJ
    · exact hW m w ((hp db).1 w hw) hJ
  | call c k ih => exact ⟨h.1, fun r hr => ih r (h.2 r hr) (hp.2 r) (hC m c r hp.1 hJ)⟩
  | commit => exact hp.elim

theorem Guarded.returns (h : p.Guarded M m Q) (hp : p.Returns P) :
    p.Guarded M m (fun r m' => Q r m' ∧ ∀ a, r = .ok a → P a) := by
  induction p generalizing m with
  | done => exact ⟨h, fun b hb => Except.ok.inj hb ▸ hp⟩
  | raise => exact ⟨h, fun b hb => by cases hb⟩
  | read k ih => exact fun db hdb => ih db (h db hdb) (hp db)
  | write u k ih => exact h.write (fun db _ _ hk => ih db hk (hp db))
  | call c k ih => exact ⟨h.1, fun r hr => ih r (h.2 r hr) (hp r)⟩
  | commit k ih => exact ⟨h.1, ih h.2 hp⟩

theorem guarded_get_bind {f} (h : ∀ db, M.view db = M.seen m → (f db).Guarded M m Q) : (get.bind f).Guarded M m Q := h

theorem guarded_of_only (h : p.Only W C) (hW : ∀ u, W u → M.mayWrite m u ∧ M.write m u = m)
    (hC : ∀ c, C c → M.mayCall m c ∧ ∀ r, M.call m c r = m) (hQ : ∀ r, Q r m) : p.Guarded M m Q := by
  induction p with
  | done => exact hQ _
  | raise => exact hQ _
  | read k ih => exact fun db _ => ih db (h db)
  | write u k ih =>
    intro db _
    obtain ⟨hw, hk⟩ := h db
    cases hu : u db with
    | none => exact ih db hk
    | some w =>
      obtain ⟨hm, hs⟩ := hW w (hw w hu)
      refine ⟨hm, ?_⟩
      rw [hs]
      exact ih db hk
  | call c k ih =>
    obtain ⟨hm, hs⟩ := hC c h.1
    refine ⟨hm, fun r _ => ?_⟩
    rw [hs]
    exact ih r (h.2 r)
  | commit => exact h.elim

theorem guarded_update {Q} (hm : M.mayWrite m u) (hQ : Q (.ok ()) (M.write m u)) :
    (update u : Prog δ υ χ ρ ε Unit).Guarded M m Q :=
  fun _ _ => ⟨hm, hQ⟩

theorem guarded_save {Q} (hm : M.mayCommit m) (hQ : Q (.ok ()) (M.begin (M.seen m))) :
    (save : Prog δ υ χ ρ ε Unit).Guarded M m Q :=
  ⟨hm, hQ⟩

theorem guarded_ofExcept {r} (hQ : Q r m) : (ofExcept r : Prog δ υ χ ρ ε α).Guarded M m Q := by
  cases r <;> exact hQ

/-- A loop, by an invariant about what is still to be done. -/
theorem guarded_forEach {f : α → Prog δ υ χ ρ ε Unit} {I : List α → μ → Prop} {Q}
    (hs : ∀ a as m, I (a :: as) m → (f a).Guarded M m (fun r m => match r with
      | .ok () => I as m
      | .error e => Q (.error e) m)) (he : ∀ m, I [] m → Q (.ok ()) m) (h : I as m) :
    (forEach f as).Guarded M m Q := by
  induction as generalizing m with
  | nil => exact he m h
  | cons a as ih =>
    refine Guarded.bind ((hs a as m h).mono (fun r m' hr => ?_))
    cases r with
    | ok => exact ih hr
    | error => exact hr

end

end Prog

end WisdoverseCell
