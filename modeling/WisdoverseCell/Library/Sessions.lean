import WisdoverseCell.Library.Pool
import WisdoverseCell.Library.Prog

/-!
# Concurrent sessions on one database

A `Server` serves each request by a program, in a session of its own.  Sessions read committed data and their own
writes, a write locks rows until its transaction ends, and a session that is stopped loses what it has not committed.
`missed` and `pending` are histories.  `Tracked.step` carries a monitor through all interleavings in which transactions
write only rows that nobody else has written since they began; `Serially.step` is about sessions that do not overlap.
-/

namespace WisdoverseCell

open List Option

variable {α δ υ κ χ ε ι ν μ : Type} {l : List α} {x y : α} {i : Nat} {ρ : χ → Type}

structure Server (δ υ κ χ : Type) (ρ : χ → Type) (ε ι : Type) where
  apply : δ → υ → δ
  /-- The rows that an update locks. -/
  locks : υ → List κ
  program : ι → Prog δ υ χ ρ ε Unit
  /-- What a session locks from its start to its end. -/
  holds : ι → List κ
  /-- The requests that may come in a state of the database. -/
  admits : δ → ι → Bool

structure Session (δ υ χ : Type) (ρ : χ → Type) (ε ι : Type) where
  request : ι
  prog : Prog δ υ χ ρ ε Unit
  writes : List υ
  missed : List υ
  pending : List (Sigma ρ)

structure Sessions (δ υ χ : Type) (ρ : χ → Type) (ε ι : Type) where
  db : δ
  calls : List (Sigma ρ)
  sessions : List (Session δ υ χ ρ ε ι)

def Session.go (σ : Session δ υ χ ρ ε ι) (prog : Prog δ υ χ ρ ε Unit) : Session δ υ χ ρ ε ι := { σ with prog := prog }

def Session.wrote (σ : Session δ υ χ ρ ε ι) (w : υ) (prog : Prog δ υ χ ρ ε Unit) : Session δ υ χ ρ ε ι :=
  { σ with prog := prog, writes := σ.writes ++ [w] }

def Session.called (σ : Session δ υ χ ρ ε ι) (c : χ) (r : ρ c) (prog : Prog δ υ χ ρ ε Unit) : Session δ υ χ ρ ε ι :=
  { σ with prog := prog, pending := σ.pending ++ [⟨c, r⟩] }

def Session.committed (σ : Session δ υ χ ρ ε ι) (prog : Prog δ υ χ ρ ε Unit) : Session δ υ χ ρ ε ι :=
  ⟨σ.request, prog, [], [], []⟩

def Session.miss (σ : Session δ υ χ ρ ε ι) (us : List υ) : Session δ υ χ ρ ε ι := { σ with missed := σ.missed ++ us }

def Sessions.put (s : Sessions δ υ χ ρ ε ι) (i : Nat) (σ : Session δ υ χ ρ ε ι) : Sessions δ υ χ ρ ε ι :=
  { s with sessions := s.sessions.set i σ }

/-- `reply` is what the world answers if the session makes a call. -/
inductive SessionAct (χ : Type) (ρ : χ → Type) (ι : Type)
  | start (request : ι)
  | next (i : Nat) (reply : (c : χ) → ρ c)
  | stop (i : Nat)

namespace Server

variable (S : Server δ υ κ χ ρ ε ι)

def applyAll (db : δ) (us : List υ) : δ := us.foldl S.apply db

def visible (db : δ) (σ : Session δ υ χ ρ ε ι) : δ := S.applyAll db σ.writes

def locked (σ : Session δ υ χ ρ ε ι) : List κ := S.holds σ.request ++ σ.writes.flatMap S.locks

def opened (request : ι) : Session δ υ χ ρ ε ι := ⟨request, S.program request, [], [], []⟩

variable [DecidableEq κ]

def free (rows : List κ) (others : List (Session δ υ χ ρ ε ι)) : Bool :=
  others.all (fun σ => rows.all (fun r => r ∉ S.locked σ))

def move (s : Sessions δ υ χ ρ ε ι) (i : Nat) (reply : (c : χ) → ρ c) (σ : Session δ υ χ ρ ε ι) :
    Option (Sessions δ υ χ ρ ε ι) :=
  match σ.prog with
  | .done _ | .raise _ => none
  | .read k => some (s.put i (σ.go (k (S.visible s.db σ))))
  | .write u k =>
    match u (S.visible s.db σ) with
    | none => some (s.put i (σ.go (k (S.visible s.db σ))))
    | some w =>
      if S.free (S.locks w) (s.sessions.eraseIdx i) then some (s.put i (σ.wrote w (k (S.visible s.db σ)))) else none
  | .call c k =>
    some ⟨s.db, s.calls ++ [⟨c, reply c⟩], s.sessions.set i (σ.called c (reply c) (k (reply c)))⟩
  | .commit k =>
    some ⟨S.visible s.db σ, s.calls, (s.sessions.map (fun τ => τ.miss σ.writes)).set i (σ.committed k)⟩

def step (s : Sessions δ υ χ ρ ε ι) : SessionAct χ ρ ι → Option (Sessions δ υ χ ρ ε ι)
  | .start request =>
    if S.admits s.db request && S.free (S.holds request) s.sessions then
      some { s with sessions := s.sessions ++ [S.opened request] }
    else none
  | .next i reply => s.sessions[i]?.bind (S.move s i reply)
  | .stop i => if i < s.sessions.length then some { s with sessions := s.sessions.eraseIdx i } else none

inductive Moves (s : Sessions δ υ χ ρ ε ι) : SessionAct χ ρ ι → Sessions δ υ χ ρ ε ι → Prop
  | start {request : ι} (hadmits : S.admits s.db request = true) (hfree : S.free (S.holds request) s.sessions = true) :
      Moves s (.start request) { s with sessions := s.sessions ++ [S.opened request] }
  | read {i reply σ k} (hσ : s.sessions[i]? = some σ) (hprog : σ.prog = .read k) :
      Moves s (.next i reply) (s.put i (σ.go (k (S.visible s.db σ))))
  | skip {i reply σ u k}
      (hσ : s.sessions[i]? = some σ) (hprog : σ.prog = .write u k) (hu : u (S.visible s.db σ) = none) :
      Moves s (.next i reply) (s.put i (σ.go (k (S.visible s.db σ))))
  | write {i reply σ u k w} (hσ : s.sessions[i]? = some σ) (hprog : σ.prog = .write u k)
      (hu : u (S.visible s.db σ) = some w)
      (hfree : S.free (S.locks w) (s.sessions.eraseIdx i) = true) :
      Moves s (.next i reply) (s.put i (σ.wrote w (k (S.visible s.db σ))))
  | call {i reply σ c k} (hσ : s.sessions[i]? = some σ) (hprog : σ.prog = .call c k) :
      Moves s (.next i reply) ⟨s.db, s.calls ++ [⟨c, reply c⟩], s.sessions.set i (σ.called c (reply c) (k (reply c)))⟩
  | commit {i reply σ k} (hσ : s.sessions[i]? = some σ) (hprog : σ.prog = .commit k) : Moves s (.next i reply)
        ⟨S.visible s.db σ, s.calls, (s.sessions.map (fun τ => τ.miss σ.writes)).set i (σ.committed k)⟩
  | stop {i : _} (hi : i < s.sessions.length) : Moves s (.stop i) { s with sessions := s.sessions.eraseIdx i }

variable {S} {s t : Sessions δ υ χ ρ ε ι} {a : SessionAct χ ρ ι}

theorem moves_of_step (h : S.step s a = some t) : S.Moves s a t := by
  cases a with
  | start =>
    unfold step at h
    obtain ⟨hc, h⟩ := ite_none_right_eq_some.1 h
    obtain ⟨ha, hf⟩ := Bool.and_eq_true_iff.1 hc
    cases h
    exact .start ha hf
  | next =>
    obtain ⟨σ, hσ, hm⟩ := bind_eq_some_iff.1 h
    unfold move at hm
    split at hm
    · cases hm
    · cases hm
    · rename_i k hp
      cases hm
      exact .read hσ hp
    · rename_i u k hp
      split at hm
      · rename_i hu
        cases hm
        exact .skip hσ hp hu
      · rename_i w hu
        obtain ⟨hf, hm⟩ := ite_none_right_eq_some.1 hm
        cases hm
        exact .write hσ hp hu hf
    · rename_i c k hp
      cases hm
      exact .call hσ hp
    · rename_i k hp
      cases hm
      exact .commit hσ hp
  | stop =>
    unfold step at h
    obtain ⟨hi, h⟩ := ite_none_right_eq_some.1 h
    cases h
    exact .stop hi

end Server

/-! ### Tracking a view -/

/-- What makes a monitor one of this server: its state follows the view, which only the updates with `relevant`
change. -/
structure Monitor.Follows (M : Monitor δ υ χ ρ ν μ) (S : Server δ υ κ χ ρ ε ι) (relevant : υ → Bool) : Prop where
  seen_begin : ∀ v, M.seen (M.begin v) = v
  seen_call : ∀ m c r, M.seen (M.call m c r) = M.seen m
  seen_write : ∀ db m w, M.view db = M.seen m → M.view (S.apply db w) = M.seen (M.write m w)
  view_apply : ∀ db w, relevant w = false → M.view (S.apply db w) = M.view db
  /-- What an update does to the view depends on the view only. -/
  view_congr : ∀ db db' w, M.view db = M.view db' → M.view (S.apply db w) = M.view (S.apply db' w)

/-- The states of a monitor in a transaction that began with the view `v` and made these calls. -/
inductive Monitor.Reach (M : Monitor δ υ χ ρ ν μ) (v : ν) : μ → List (Sigma ρ) → Prop
  | begin : Reach M v (M.begin v) []
  | write {m cs w} (h : Reach M v m cs) (hmay : M.mayWrite m w) : Reach M v (M.write m w) cs
  | call {m cs c r} (h : Reach M v m cs) (hmay : M.mayCall m c)
      (hanswers : M.answers c r) : Reach M v (M.call m c r) (cs ++ [⟨c, r⟩])

variable {s : Sessions δ υ χ ρ ε ι} {us : List υ} {db' db : δ} {calls : List (Sigma ρ)} {σ : Session δ υ χ ρ ε ι}

section

variable (S : Server δ υ κ χ ρ ε ι) (M : Monitor δ υ χ ρ ν μ) (relevant : υ → Bool)

/-- A session is undisturbed and under the monitor, or disturbed and without a write to the view. -/
inductive Follow (db : δ) (σ : Session δ υ χ ρ ε ι) : Prop
  | undisturbed (m : μ) (hmissed : σ.missed.any relevant = false) (hreach : M.Reach (M.view db) m σ.pending)
      (hseen : M.view (S.visible db σ) = M.seen m) (hguarded : σ.prog.Guarded M m (fun _ _ => True))
      (hresumes : σ.prog.Resumes M)
  | disturbed (hmissed : σ.missed.any relevant = true) (hwrites : σ.writes.any relevant = false)
      (hresumes : σ.prog.Resumes M)

/-- All sessions follow, and at most one has written to the view. -/
structure Tracked (s : Sessions δ υ χ ρ ε ι) : Prop where
  follow : ∀ σ ∈ s.sessions, Follow S M relevant s.db σ
  exclusive : ∀ (i j : Nat) (σ τ : Session δ υ χ ρ ε ι), s.sessions[i]? = some σ → s.sessions[j]? = some τ →
    σ.writes.any relevant = true → τ.writes.any relevant = true → i = j

theorem tracked_of_no_sessions (h : s.sessions = []) : Tracked S M relevant s := by
  constructor
  · rw [h]
    simp
  · intro i j σ τ hσ
    rw [h] at hσ
    cases hσ

variable {S M relevant} {db : δ} {σ : Session δ υ χ ρ ε ι}

namespace Monitor.Follows

theorem view_applyAll (hM : M.Follows S relevant) (h : us.any relevant = false) :
    M.view (S.applyAll db us) = M.view db := by
  induction us generalizing db with
  | nil => rfl
  | cons u us ih =>
    rw [any_cons, Bool.or_eq_false_iff] at h
    exact (ih h.2).trans (hM.view_apply db u h.1)

theorem view_applyAll_congr (hM : M.Follows S relevant) (h : M.view db = M.view db') (us) :
    M.view (S.applyAll db us) = M.view (S.applyAll db' us) := by
  induction us generalizing db db' with
  | nil => exact h
  | cons u us ih => exact ih (hM.view_congr db db' u h)

end Monitor.Follows

theorem Follow.of_view (h : Follow S M relevant db σ) (hM : M.Follows S relevant) (hv : M.view db' = M.view db)
    (hus : us.any relevant = false) : Follow S M relevant db' (σ.miss us) := by
  cases h with
  | undisturbed m hm hr hs hg hrs =>
    refine .undisturbed m ?_ (hv ▸ hr) ((hM.view_applyAll_congr hv σ.writes).trans hs) hg hrs
    rw [Session.miss, any_append, hm, hus]
    rfl
  | disturbed hm hw hrs =>
    exact .disturbed (by rw [Session.miss, any_append, hm, Bool.true_or]) hw hrs

theorem Follow.resumes (h : Follow S M relevant db σ) : σ.prog.Resumes M := by
  cases h with
  | undisturbed m hm hr hs hg hrs => exact hrs
  | disturbed hm hw hrs => exact hrs

/-- A session that has not written to the view is disturbed by a commit that changes it. -/
theorem Follow.disturb (h : Follow S M relevant db σ) (hw : σ.writes.any relevant = false)
    (hus : us.any relevant = true) : Follow S M relevant db' (σ.miss us) :=
  .disturbed (by rw [Session.miss, any_append, hus, Bool.or_true]) hw h.resumes

variable {s t : Sessions δ υ χ ρ ε ι} {a : SessionAct χ ρ ι}

theorem getElem?_append_singleton (h : (l ++ [x])[i]? = some y) : l[i]? = some y ∨ (i = l.length ∧ y = x) := by
  rw [getElem?_append] at h
  split at h
  · exact .inl h
  · rw [getElem?_singleton] at h
    split at h
    · exact .inr ⟨by omega, (some.inj h).symm⟩
    · cases h

theorem getElem?_set_cases {j} (h : (l.set i x)[j]? = some y) : (j = i ∧ y = x) ∨ (j ≠ i ∧ l[j]? = some y) := by
  rw [getElem?_set] at h
  split at h
  · rename_i hij
    split at h
    · exact .inl ⟨hij.symm, (some.inj h).symm⟩
    · cases h
  · rename_i hij
    exact .inr ⟨fun hji => hij hji.symm, h⟩

theorem Tracked.set (h : Tracked S M relevant s) {σ'} (hσ : s.sessions[i]? = some σ)
    (hf : Follow S M relevant s.db σ') (how : σ'.writes.any relevant = true → σ.writes.any relevant = true ∨
      ∀ j τ, j ≠ i → s.sessions[j]? = some τ → τ.writes.any relevant = false) :
    Tracked S M relevant ⟨s.db, calls, s.sessions.set i σ'⟩ := by
  have ho {j : Nat} {τ : Session δ υ χ ρ ε ι} (hne : j ≠ i) (hτ : s.sessions[j]? = some τ)
      (hw : σ'.writes.any relevant = true) : τ.writes.any relevant = false := by
    rcases how hw with hm | hn
    · by_contra hτw
      exact hne (h.exclusive j i τ σ hτ hσ (Bool.not_eq_false _ ▸ hτw) hm)
    · exact hn j τ hne hτ
  constructor
  · intro τ hτ
    rcases mem_or_eq_of_mem_set hτ with hol | rfl
    · exact h.follow τ hol
    · exact hf
  · intro j k τ τ' hτ hτ' hw hw'
    rcases getElem?_set_cases hτ with ⟨rfl, rfl⟩ | ⟨hj, holdτ⟩
    · rcases getElem?_set_cases hτ' with ⟨rfl, rfl⟩ | ⟨hk, holdτ'⟩
      · rfl
      · rw [ho hk holdτ' hw] at hw'
        cases hw'
    · rcases getElem?_set_cases hτ' with ⟨rfl, rfl⟩ | ⟨hk, holdτ'⟩
      · rw [ho hj holdτ hw'] at hw
        cases hw
      · exact h.exclusive j k τ τ' holdτ holdτ' hw hw'

theorem Server.visible_wrote (σ) (w prog) : S.visible db (σ.wrote w prog) = S.apply (S.visible db σ) w := by
  simp [Server.visible, Server.applyAll, Session.wrote]

theorem Tracked.start (h : Tracked S M relevant s) (hM : M.Follows S relevant) {request}
    (hg : (S.program request).Guarded M (M.begin (M.view s.db)) (fun _ _ => True))
    (hr : (S.program request).Resumes M) :
    Tracked S M relevant { s with sessions := s.sessions ++ [S.opened request] } := by
  constructor
  · intro σ hσ
    rcases mem_concat.1 hσ with hσ | rfl
    · exact h.follow σ hσ
    · exact .undisturbed (M.begin (M.view s.db)) rfl .begin (hM.seen_begin _).symm hg hr
  · intro i j σ τ hσ hτ hw hw'
    rcases getElem?_append_singleton hσ with hσ | ⟨-, rfl⟩
    · rcases getElem?_append_singleton hτ with hτ | ⟨-, rfl⟩
      · exact h.exclusive i j σ τ hσ hτ hw hw'
      · cases hw'
    · cases hw

theorem Tracked.stop (h : Tracked S M relevant s) (i) :
    Tracked S M relevant { s with sessions := s.sessions.eraseIdx i } := by
  constructor
  · exact fun σ hσ => h.follow σ (eraseIdx_subset hσ)
  · intro j k σ τ hσ hτ hw hw'
    simp only [getElem?_eraseIdx] at hσ hτ
    split at hσ <;> split at hτ
    · exact h.exclusive j k σ τ hσ hτ hw hw'
    · have := h.exclusive j (k + 1) σ τ hσ hτ hw hw'
      omega
    · have := h.exclusive (j + 1) k σ τ hσ hτ hw hw'
      omega
    · have := h.exclusive (j + 1) (k + 1) σ τ hσ hτ hw hw'
      omega

theorem Tracked.commit (h : Tracked S M relevant s) (hM : M.Follows S relevant) {k}
    (hσ : s.sessions[i]? = some σ) (hp : σ.prog = .commit k) :
    Tracked S M relevant
      ⟨S.visible s.db σ, s.calls, (s.sessions.map (fun τ => τ.miss σ.writes)).set i (σ.committed k)⟩ := by
  have ho (j : Nat) (τ : Session δ υ χ ρ ε ι) (hne : j ≠ i) (hτ : s.sessions[j]? = some τ) :
      Follow S M relevant (S.visible s.db σ) (τ.miss σ.writes) := by
    have hf := h.follow τ (mem_of_getElem? hτ)
    cases hw : σ.writes.any relevant with
    | false => exact hf.of_view hM (hM.view_applyAll hw) hw
    | true =>
      refine hf.disturb ?_ hw
      by_contra hτw
      exact hne (h.exclusive j i τ σ hτ hσ (Bool.not_eq_false _ ▸ hτw) hw)
  have hn := (h.follow σ (mem_of_getElem? hσ)).resumes
  rw [hp] at hn
  constructor
  · intro τ hτ
    obtain ⟨j, hj⟩ := mem_iff_getElem?.1 hτ
    rcases getElem?_set_cases hj with ⟨rfl, rfl⟩ | ⟨hne, hj⟩
    · exact .undisturbed (M.begin (M.view (S.visible s.db σ))) rfl .begin (hM.seen_begin _).symm (hn _).1
        (hn (M.view s.db)).2
    · rw [getElem?_map] at hj
      obtain ⟨τ', hτ', rfl⟩ := map_eq_some_iff.1 hj
      exact ho j τ' hne hτ'
  · intro j l τ τ' hτ hτ' hw hw'
    rcases getElem?_set_cases hτ with ⟨rfl, rfl⟩ | ⟨-, hmapτ⟩
    · cases hw
    rcases getElem?_set_cases hτ' with ⟨rfl, rfl⟩ | ⟨-, hmapτ'⟩
    · cases hw'
    rw [getElem?_map] at hmapτ hmapτ'
    obtain ⟨θ, hθ, rfl⟩ := map_eq_some_iff.1 hmapτ
    obtain ⟨θ', hθ', rfl⟩ := map_eq_some_iff.1 hmapτ'
    exact h.exclusive j l θ θ' hθ hθ' hw hw'

/-- A write of the view needs a session that is undisturbed, and no other one that has written to the view. -/
theorem Tracked.write (h : Tracked S M relevant s) (hM : M.Follows S relevant) {u k w} (hσ : s.sessions[i]? = some σ)
    (hp : σ.prog = .write u k)
    (hu : u (S.visible s.db σ) = some w) (ha : relevant w = true → σ.missed.any relevant = false ∧
      ∀ j τ, j ≠ i → s.sessions[j]? = some τ → τ.writes.any relevant = false) :
    Tracked S M relevant (s.put i (σ.wrote w (k (S.visible s.db σ)))) := by
  have hwr : (σ.writes ++ [w]).any relevant = (σ.writes.any relevant || relevant w) := by simp
  refine h.set hσ ?_ (fun ho => ?_)
  · cases h.follow σ (mem_of_getElem? hσ) with
    | undisturbed m hm hr hs hg hrs =>
      rw [hp] at hg hrs
      have hk := hg _ hs
      rw [hu] at hk
      refine .undisturbed (M.write m w) hm (.write hr hk.1) ?_ hk.2 (hrs _)
      rw [S.visible_wrote]
      exact hM.seen_write _ m w hs
    | disturbed hm hol hrs =>
      rw [hp] at hrs
      refine .disturbed hm ?_ (hrs _)
      change (σ.writes ++ [w]).any relevant = false
      rw [hwr, hol, Bool.false_or]
      by_contra hw
      rw [(ha (Bool.not_eq_false _ ▸ hw)).1] at hm
      cases hm
  · change (σ.writes ++ [w]).any relevant = true at ho
    rw [hwr, Bool.or_eq_true] at ho
    exact ho.imp_right (fun hw => (ha hw).2)

variable [DecidableEq κ]

theorem Tracked.step (h : Tracked S M relevant s) (hM : M.Follows S relevant) (hst : S.step s a = some t)
    (hs : ∀ request, a = .start request →
      (S.program request).Guarded M (M.begin (M.view s.db)) (fun _ _ => True) ∧ (S.program request).Resumes M)
    (han : ∀ i reply σ c k, a = .next i reply → s.sessions[i]? = some σ → σ.prog = .call c k → M.answers c (reply c))
    (ha : ∀ i reply σ u k w, a = .next i reply → s.sessions[i]? = some σ → σ.prog = .write u k →
      u (S.visible s.db σ) = some w → S.free (S.locks w) (s.sessions.eraseIdx i) = true → relevant w = true →
        σ.missed.any relevant = false ∧ ∀ j τ, j ≠ i → s.sessions[j]? = some τ → τ.writes.any relevant = false) :
    Tracked S M relevant t := by
  cases Server.moves_of_step hst with
  | @start request =>
    obtain ⟨hg, hrs⟩ := hs request rfl
    exact h.start hM hg hrs
  | @read i reply σ k hσ hp =>
    refine h.set hσ ?_ .inl
    cases h.follow σ (mem_of_getElem? hσ) with
    | undisturbed m hm hrc hsn hg hrs =>
      rw [hp] at hg hrs
      exact .undisturbed m hm hrc hsn (hg _ hsn) (hrs _)
    | disturbed hm hw hrs =>
      rw [hp] at hrs
      exact .disturbed hm hw (hrs _)
  | @skip i reply σ u k hσ hp hu =>
    refine h.set hσ ?_ .inl
    cases h.follow σ (mem_of_getElem? hσ) with
    | undisturbed m hm hrc hsn hg hrs =>
      rw [hp] at hg hrs
      have hk := hg _ hsn
      rw [hu] at hk
      exact .undisturbed m hm hrc hsn hk (hrs _)
    | disturbed hm hw hrs =>
      rw [hp] at hrs
      exact .disturbed hm hw (hrs _)
  | @write i reply σ u k w hσ hp hu hf =>
    exact h.write hM hσ hp hu (ha i reply σ u k w rfl hσ hp hu hf)
  | @call i reply σ c k hσ hp =>
    refine h.set hσ ?_ .inl
    have hr := han i reply σ c k rfl hσ hp
    cases h.follow σ (mem_of_getElem? hσ) with
    | undisturbed m hm hrc hsn hg hrs =>
      rw [hp] at hg hrs
      exact .undisturbed (M.call m c (reply c)) hm (.call hrc hg.1 hr) (hsn.trans (hM.seen_call _ _ _).symm)
        (hg.2 _ hr) (hrs _ hr)
    | disturbed hm hw hrs =>
      rw [hp] at hrs
      exact .disturbed hm hw (hrs _ hr)
  | commit hσ hp => exact h.commit hM hσ hp
  | @stop i => exact h.stop i

theorem Tracked.view_step (h : Tracked S M relevant s) (hM : M.Follows S relevant) (hs : S.step s a = some t) :
    M.view t.db = M.view s.db ∨ ∃ m cs, M.Reach (M.view s.db) m cs ∧ M.mayCommit m ∧ M.view t.db = M.seen m := by
  cases Server.moves_of_step hs with
  | start => exact .inl rfl
  | read => exact .inl rfl
  | skip => exact .inl rfl
  | write => exact .inl rfl
  | call => exact .inl rfl
  | stop => exact .inl rfl
  | @commit i reply σ k hσ hp =>
    cases h.follow σ (mem_of_getElem? hσ) with
    | undisturbed m hm hr hsn hg =>
      rw [hp] at hg
      exact .inr ⟨m, σ.pending, hr, hg.1, hsn⟩
    | disturbed hm hw => exact .inl (hM.view_applyAll hw)

end

/-! ### Writing what nobody else has written -/

section

variable [DecidableEq κ] (S : Server δ υ κ χ ρ ε ι)

def Server.freshWrite (db : δ) (σ : Session δ υ χ ρ ε ι) : Bool :=
  match σ.prog with
  | .write u _ => (u (S.visible db σ)).all (fun w => (σ.missed.flatMap S.locks).all (fun r => r ∉ S.locks w))
  | .done _ | .raise _ | .read _ | .call _ _ | .commit _ => true

def Server.Fresh (s : Sessions δ υ χ ρ ε ι) : SessionAct χ ρ ι → Prop
  | .next i _ => s.sessions[i]?.all (S.freshWrite s.db) = true
  | .start _ | .stop _ => True

instance (s : Sessions δ υ χ ρ ε ι) : (a : SessionAct χ ρ ι) → Decidable (S.Fresh s a)
  | .next _ _ => inferInstanceAs (Decidable (_ = true))
  | .start _ | .stop _ => isTrue trivial

variable {S} {M : Monitor δ υ χ ρ ν μ} {relevant : υ → Bool} {s t : Sessions δ υ χ ρ ε ι} {a : SessionAct χ ρ ι}

theorem Tracked.step_fresh (h : Tracked S M relevant s) (hM : M.Follows S relevant) {key}
    (hk : ∀ w, relevant w = true → key ∈ S.locks w) (hfresh : S.Fresh s a) (hst : S.step s a = some t)
    (hs : ∀ request, a = .start request →
      (S.program request).Guarded M (M.begin (M.view s.db)) (fun _ _ => True) ∧ (S.program request).Resumes M)
    (ha : ∀ i reply σ c k, a = .next i reply → s.sessions[i]? = some σ → σ.prog = .call c k →
      M.answers c (reply c)) : Tracked S M relevant t := by
  refine h.step hM hst hs ha ?_
  rintro i reply σ u k w rfl hσ hp hu hf hw
  have hn : (σ.missed.flatMap S.locks).all (fun r => r ∉ S.locks w) = true := by
    have hal : s.sessions[i]?.all (S.freshWrite s.db) = true := hfresh
    rw [hσ, all_some, Server.freshWrite, hp] at hal
    dsimp only at hal
    rwa [hu, all_some] at hal
  constructor
  · by_contra hm
    obtain ⟨w', hw', hr⟩ := any_eq_true.1 (Bool.not_eq_false _ ▸ hm)
    have hc := all_eq_true.1 hn key (mem_flatMap.2 ⟨w', hw', hk w' hr⟩)
    exact of_decide_eq_true hc (hk w hw)
  · intro j τ hne hτ
    by_contra hwr
    obtain ⟨w', hw', hr⟩ := any_eq_true.1 (Bool.not_eq_false _ ▸ hwr)
    have hal := all_eq_true.1 hf τ (mem_eraseIdx_iff_getElem?.2 ⟨j, hne, hτ⟩)
    have hc := of_decide_eq_true (all_eq_true.1 hal key (hk w hw))
    exact hc (mem_append_right _ (mem_flatMap.2 ⟨w', hw', hk w' hr⟩))

end

/-! ### One transaction after the other -/

section

def Serial (s : Sessions δ υ χ ρ ε ι) : SessionAct χ ρ ι → Prop
  | .start _ => s.sessions.isEmpty = true
  | .next _ _ | .stop _ => True

instance (s : Sessions δ υ χ ρ ε ι) : (a : SessionAct χ ρ ι) → Decidable (Serial s a)
  | .start _ => inferInstanceAs (Decidable (_ = true))
  | .next _ _ | .stop _ => isTrue trivial

/-- At most one session, which has missed nothing. -/
structure Alone (s : Sessions δ υ χ ρ ε ι) : Prop where
  length : s.sessions.length ≤ 1
  missed : ∀ σ ∈ s.sessions, σ.missed = []

theorem alone_of_no_sessions (h : s.sessions = []) : Alone s := by
  constructor <;> simp [h]

theorem Alone.eq_zero (h : Alone s) (hσ : s.sessions[i]? = some σ) : i = 0 ∧ s.sessions = [σ] := by
  obtain ⟨hl, -⟩ := h
  obtain ⟨hi, hg⟩ := List.getElem?_eq_some_iff.1 hσ
  obtain rfl : i = 0 := by omega
  obtain ⟨τ, hτ⟩ := length_eq_one_iff.1 (show s.sessions.length = 1 by omega)
  refine ⟨rfl, ?_⟩
  rw [hτ] at hσ ⊢
  rw [some.inj hσ]

theorem Alone.put (h : Alone s) (hσ : s.sessions[i]? = some σ) (σ') (hs : σ'.missed = σ.missed) :
    Alone ⟨db, calls, s.sessions.set i σ'⟩ := by
  have hm := hs.trans (h.missed σ (mem_of_getElem? hσ))
  obtain ⟨rfl, ho⟩ := h.eq_zero hσ
  constructor
  · simp [ho]
  · simp [ho, hm]

variable [DecidableEq κ] {S : Server δ υ κ χ ρ ε ι} {s t : Sessions δ υ χ ρ ε ι} {a : SessionAct χ ρ ι}

theorem Alone.step (h : Alone s) (hs : Serial s a) (hst : S.step s a = some t) : Alone t := by
  cases Server.moves_of_step hst with
  | start =>
    have hn := isEmpty_iff.1 hs
    constructor <;> simp [hn, Server.opened]
  | @read i reply σ k hσ => exact h.put hσ (σ.go (k (S.visible s.db σ))) rfl
  | @skip i reply σ u k hσ => exact h.put hσ (σ.go (k (S.visible s.db σ))) rfl
  | @write i reply σ u k w hσ => exact h.put hσ (σ.wrote w _) rfl
  | @call i reply σ c k hσ => exact h.put hσ (σ.called c _ _) rfl
  | @commit i reply σ k hσ =>
    obtain ⟨rfl, ho⟩ := h.eq_zero hσ
    constructor <;> simp [ho, Session.committed]
  | @stop i =>
    constructor
    · exact Nat.le_trans (length_eraseIdx_le s.sessions i) h.length
    · exact fun σ hσ => h.missed σ (eraseIdx_subset hσ)

end

section

variable (S : Server δ υ κ χ ρ ε ι)

def Server.whole (A : (c : χ) → ρ c → Prop) (I : δ → Prop) : Monitor δ υ χ ρ δ δ where
  view := id
  seen := id
  begin := id
  write := S.apply
  call m _ _ := m
  mayWrite _ _ := True
  mayCall _ _ := True
  mayCommit := I
  answers := A

/-- Every transaction of a session that commits will relate the database before and after it by `R`. -/
structure Serially (A : (c : χ) → ρ c → Prop) (R : ι → δ → δ → Prop) (s : Sessions δ υ χ ρ ε ι) : Prop where
  alone : Alone s
  guarded : ∀ σ ∈ s.sessions,
    σ.prog.Guarded (S.whole A (R σ.request s.db)) (S.visible s.db σ) (fun _ _ => True)
  resumes : ∀ σ ∈ s.sessions, ∀ I, σ.prog.Resumes (S.whole A I)

theorem serially_of_no_sessions {A R} (h : s.sessions = []) : Serially S A R s := by
  refine ⟨alone_of_no_sessions h, ?_, ?_⟩ <;> simp [h]

variable {S} {A : (c : χ) → ρ c → Prop} {R : ι → δ → δ → Prop} {s t : Sessions δ υ χ ρ ε ι} {a : SessionAct χ ρ ι}
  {i : Nat} {σ σ' : Session δ υ χ ρ ε ι}

theorem Serially.of_prog {p} (h : Serially S A R s) (hσ : s.sessions[i]? = some σ) (hp : σ.prog = p) :
    p.Guarded (S.whole A (R σ.request s.db)) (S.visible s.db σ) (fun _ _ => True) ∧ ∀ I, p.Resumes (S.whole A I) := by
  subst hp
  exact ⟨h.guarded σ (mem_of_getElem? hσ), h.resumes σ (mem_of_getElem? hσ)⟩

theorem Serially.put (h : Serially S A R s) (hσ : s.sessions[i]? = some σ) (ha : Alone ⟨db, calls, s.sessions.set i σ'⟩)
    (hg : σ'.prog.Guarded (S.whole A (R σ'.request db)) (S.visible db σ') (fun _ _ => True))
    (hr : ∀ I, σ'.prog.Resumes (S.whole A I)) : Serially S A R ⟨db, calls, s.sessions.set i σ'⟩ := by
  obtain ⟨rfl, ho⟩ := h.alone.eq_zero hσ
  refine ⟨ha, fun τ hτ => ?_, fun τ hτ => ?_⟩
  all_goals
    rw [ho] at hτ
    obtain rfl := mem_singleton.1 hτ
    assumption

variable [DecidableEq κ]

theorem Serially.step (h : Serially S A R s) (hs : Serial s a) (hsp : S.step s a = some t)
    (hst : ∀ request, a = .start request → S.admits s.db request = true →
      (S.program request).Guarded (S.whole A (R request s.db)) s.db (fun _ _ => True) ∧
        ∀ I, (S.program request).Resumes (S.whole A I))
    (han : ∀ i reply σ c k, a = .next i reply → s.sessions[i]? = some σ → σ.prog = .call c k → A c (reply c)) :
    Serially S A R t ∧ (t.db = s.db ∨ ∃ σ ∈ s.sessions, R σ.request s.db t.db) := by
  have ha := h.alone.step hs hsp
  cases Server.moves_of_step hsp with
  | @start request had =>
    have hn : s.sessions = [] := isEmpty_iff.1 hs
    obtain ⟨hg, hrs⟩ := hst request rfl had
    refine ⟨⟨ha, fun σ hσ => ?_, fun σ hσ => ?_⟩, .inl rfl⟩
    all_goals
      rw [hn] at hσ
      obtain rfl := mem_singleton.1 hσ
      assumption
  | @read i reply σ k hσ hp =>
    obtain ⟨hg, hrs⟩ := h.of_prog hσ hp
    exact ⟨h.put hσ ha (hg _ rfl) (fun I => hrs I _), .inl rfl⟩
  | @skip i reply σ u k hσ hp hu =>
    obtain ⟨hg, hrs⟩ := h.of_prog hσ hp
    have hk := hg _ rfl
    rw [hu] at hk
    exact ⟨h.put hσ ha hk (fun I => hrs I _), .inl rfl⟩
  | @write i reply σ u k w hσ hp hu =>
    obtain ⟨hg, hrs⟩ := h.of_prog hσ hp
    have hk := hg _ rfl
    rw [hu] at hk
    refine ⟨h.put hσ ha ?_ (fun I => hrs I _), .inl rfl⟩
    rw [S.visible_wrote]
    exact hk.2
  | @call i reply σ c k hσ hp =>
    obtain ⟨hg, hrs⟩ := h.of_prog hσ hp
    have hr := han i reply σ c k rfl hσ hp
    exact ⟨h.put hσ ha (hg.2 _ hr) (fun I => hrs I _ hr), .inl rfl⟩
  | @commit i reply σ k hσ hp =>
    obtain ⟨hg, hrs⟩ := h.of_prog hσ hp
    obtain ⟨rfl, ho⟩ := h.alone.eq_zero hσ
    refine ⟨⟨ha, fun τ hτ => ?_, fun τ hτ => ?_⟩, .inr ⟨σ, mem_of_getElem? hσ, hg.1⟩⟩
    · rw [ho] at hτ
      obtain rfl := mem_singleton.1 hτ
      exact (hrs _ _).1
    · rw [ho] at hτ
      obtain rfl := mem_singleton.1 hτ
      exact fun I => (hrs I s.db).2
  | @stop =>
    refine ⟨⟨ha, fun τ hτ => ?_, fun τ hτ => ?_⟩, .inl rfl⟩
    · exact h.guarded τ (eraseIdx_subset hτ)
    · exact h.resumes τ (eraseIdx_subset hτ)

end

end WisdoverseCell
