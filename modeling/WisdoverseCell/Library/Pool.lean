import Mathlib.Algebra.Order.BigOperators.Group.List
import WisdoverseCell.Library.Transition

/-!
# Processes on a shared state

A `Program` says how requests are served: `start` opens a process for a request, `next` is its next atomic step, and
`env` is what happens besides.  The processes of a `Pool` move in every order, and any of them may stop anywhere.
`Run.pool` is the rely-guarantee rule.
-/

namespace WisdoverseCell

open List Option

variable {i : Nat} {M : Type}

/-- Shared states `σ`, processes `π`, events `ε` of the environment, requests `ι`, and what the world answers to a
process in `ω`. -/
structure Program (σ π ε ι ω : Type) where
  env : σ → ε → Option σ
  start : σ → ι → Option (σ × π)
  next : σ → π → ω → Option (σ × π)

structure Pool (σ π : Type) where
  shared : σ
  procs : List π

inductive PoolAct (ε ι ω : Type)
  | env (e : ε)
  | start (request : ι)
  | next (i : Nat) (answer : ω)
  | stop (i : Nat)

variable {σ π ε ι ω : Type}

def Pool.step (P : Program σ π ε ι ω) (s : Pool σ π) : PoolAct ε ι ω → Option (Pool σ π)
  | .env e => (P.env s.shared e).map (fun shared => { s with shared := shared })
  | .start request => (P.start s.shared request).map (fun r => ⟨r.1, s.procs ++ [r.2]⟩)
  | .next i answer =>
    s.procs[i]?.bind (fun p => (P.next s.shared p answer).map (fun r => ⟨r.1, s.procs.set i r.2⟩))
  | .stop i => if i < s.procs.length then some { s with procs := s.procs.eraseIdx i } else none

inductive Pool.Moves (P : Program σ π ε ι ω) (s : Pool σ π) : PoolAct ε ι ω → Pool σ π → Prop
  | env {e shared} (h : P.env s.shared e = some shared) : Moves P s (.env e) ⟨shared, s.procs⟩
  | start {request shared p} (h : P.start s.shared request = some (shared, p)) :
      Moves P s (.start request) ⟨shared, s.procs ++ [p]⟩
  | next {i answer shared p q} (hp : s.procs[i]? = some p)
      (h : P.next s.shared p answer = some (shared, q)) : Moves P s (.next i answer) ⟨shared, s.procs.set i q⟩
  | stop {i : _} : Moves P s (.stop i) ⟨s.shared, s.procs.eraseIdx i⟩

variable {P : Program σ π ε ι ω} {s t : Pool σ π}

theorem Pool.moves_of_step {a} (h : Pool.step P s a = some t) : Pool.Moves P s a t := by
  cases a with
  | env =>
    obtain ⟨shared, he, rfl⟩ := map_eq_some_iff.1 h
    exact .env he
  | start =>
    obtain ⟨⟨shared, p⟩, hs, rfl⟩ := map_eq_some_iff.1 h
    exact .start hs
  | next =>
    obtain ⟨p, hp, hm⟩ := bind_eq_some_iff.1 h
    obtain ⟨⟨shared, q⟩, hn, rfl⟩ := map_eq_some_iff.1 hm
    exact .next hp hn
  | stop =>
    obtain ⟨-, h⟩ := ite_none_right_eq_some.1 h
    cases h
    exact .stop

variable {procs : List π}

/-- The processes after one of them has moved, by a property that is stable for the others. -/
theorem forall_mem_set {L L' : π → Prop} {q} (h : ∀ p ∈ procs, L p) (hs : ∀ p, L p → L' p) (hq : L' q) :
    ∀ p ∈ procs.set i q, L' p := by
  intro p hp
  rcases mem_or_eq_of_mem_set hp with ho | rfl
  · exact hs p (h p ho)
  · exact hq

/-- Rely-guarantee: `S` of the shared state and `L` of each process, where a change of the shared state that meets `G`
keeps `L`. -/
theorem Run.pool {ok : Pool σ π → PoolAct ε ι ω → Prop} {S : σ → Prop} {L : σ → π → Prop} {G : σ → σ → Prop}
    (h : Run (Steps (Pool.step P)) ok s t) (hS : S s.shared) (hL : ∀ p ∈ s.procs, L s.shared p)
    (hs : ∀ a b p, G a b → L a p → L b p)
    (hen : ∀ (s : Pool σ π) e b, S s.shared → ok s (.env e) → P.env s.shared e = some b → S b ∧ G s.shared b)
    (hst : ∀ (s : Pool σ π) request b p, S s.shared → ok s (.start request) →
      P.start s.shared request = some (b, p) → S b ∧ G s.shared b ∧ L b p)
    (hn : ∀ (s : Pool σ π) i answer p b q, S s.shared → L s.shared p → s.procs[i]? = some p →
      ok s (.next i answer) → P.next s.shared p answer = some (b, q) → S b ∧ G s.shared b ∧ L b q) :
    S t.shared ∧ ∀ p ∈ t.procs, L t.shared p := by
  refine h.invariant (I := fun s => S s.shared ∧ ∀ p ∈ s.procs, L s.shared p) ⟨hS, hL⟩ ?_
  rintro s a t ⟨hS, hL⟩ hok hsp
  cases Pool.moves_of_step hsp with
  | env he =>
    obtain ⟨hS', hG⟩ := hen s _ _ hS hok he
    exact ⟨hS', fun p hp => hs _ _ p hG (hL p hp)⟩
  | start he =>
    obtain ⟨hS', hG, hp⟩ := hst s _ _ _ hS hok he
    refine ⟨hS', ?_⟩
    intro p' hp'
    rcases mem_concat.1 hp' with hp' | rfl
    · exact hs _ _ p' hG (hL p' hp')
    · exact hp
  | next hp he =>
    obtain ⟨hS', hG, hq⟩ := hn s _ _ _ _ _ hS (hL _ (mem_of_getElem? hp)) hp hok he
    exact ⟨hS', forall_mem_set hL (fun p hp => hs _ _ p hG hp) hq⟩
  | stop => exact ⟨hS, fun p hp => hL p (eraseIdx_subset hp)⟩

variable {a : π}

theorem countP_set_add {p b} (h : procs[i]? = some a) :
    (procs.set i b).countP p + (if p a then 1 else 0) = procs.countP p + (if p b then 1 else 0) := by
  obtain ⟨hi, rfl⟩ := List.getElem?_eq_some_iff.1 h
  rw [countP_set hi]
  by_cases ha : p procs[i] = true
  · have hp : 0 < procs.countP p := countP_pos_iff.2 ⟨_, getElem_mem hi, ha⟩
    rw [if_pos ha]
    omega
  · rw [if_neg ha]
    omega

theorem countP_eraseIdx_le (p : π → Bool) (procs : List π) (i) : (procs.eraseIdx i).countP p ≤ procs.countP p :=
  (eraseIdx_sublist procs i).countP_le

/-! ### What the processes hold -/

theorem sum_map_set_add [AddCommMonoid M] (f : π → M) (h : procs[i]? = some a) (b) :
    ((procs.set i b).map f).sum + f a = (procs.map f).sum + f b := by
  induction procs generalizing i with
  | nil => cases h
  | cons p procs ih =>
    cases i with
    | zero =>
      cases h
      rw [set_cons_zero, map_cons, map_cons, sum_cons, sum_cons]
      ac_rfl
    | succ =>
      rw [set_cons_succ, map_cons, map_cons, sum_cons, sum_cons, add_assoc, add_assoc, ih h]

theorem sum_map_eraseIdx_add [AddCommMonoid M] (f : π → M) (h : procs[i]? = some a) :
    ((procs.eraseIdx i).map f).sum + f a = (procs.map f).sum := by
  induction procs generalizing i with
  | nil => cases h
  | cons p procs ih =>
    cases i with
    | zero =>
      cases h
      rw [eraseIdx_cons_zero, map_cons, sum_cons, add_comm]
    | succ => rw [eraseIdx_cons_succ, map_cons, map_cons, sum_cons, sum_cons, add_assoc, ih h]

theorem sum_map_eq_of_others [AddCommMonoid M] (f : π → M) (h : procs[i]? = some a)
    (ho : ∀ j b, j ≠ i → procs[j]? = some b → f b = 0) : (procs.map f).sum = f a := by
  rw [← sum_map_eraseIdx_add f h, sum_eq_zero, zero_add]
  intro m hm
  obtain ⟨b, hb, rfl⟩ := mem_map.1 hm
  obtain ⟨j, hne, hj⟩ := mem_eraseIdx_iff_getElem?.1 hb
  exact ho j b hne hj

theorem sum_map_eraseIdx_le [AddCommMonoid M] [PartialOrder M] [CanonicallyOrderedAdd M] [IsOrderedAddMonoid M]
    (f : π → M) (procs : List π) (i) : ((procs.eraseIdx i).map f).sum ≤ (procs.map f).sum :=
  ((eraseIdx_sublist procs i).map f).sum_le_sum (fun _ _ => zero_le)

end WisdoverseCell
