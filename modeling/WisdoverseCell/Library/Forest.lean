import Mathlib.Data.List.Nodup
import Mathlib.Data.List.Perm.Subperm
import Mathlib.Data.Set.Finite.Basic

/-!
# Parent references

Items that name a parent form a forest if every chain of parents ends (`Grounded`).  Following the parents of an item
until one was seen before (`reachesRoot`) succeeds exactly on the grounded items; creating the items in rounds, each
after its parent (`rounds`), creates all items of a forest.
-/

namespace WisdoverseCell

open List

variable {α κ : Type}

def Grounded (parent : κ → Option κ) (k : κ) : Prop := Acc (fun p k => parent k = some p) k

section

variable {R : κ → κ → Prop} {k x : κ}

theorem not_above_of_acc (h : Acc R k) : ¬ Relation.TransGen R k k := by
  have hacc := Acc.transGen h
  clear h
  induction hacc with
  | intro k _ ih => exact fun hk => ih k hk hk

theorem exists_parent_of_transGen (h : Relation.TransGen R k x) : ∃ p, R p x := by
  cases h with
  | single hp => exact ⟨_, hp⟩
  | tail _ hp => exact ⟨_, hp⟩

theorem acc_of_no_cycle {keys : List κ} (h : ∀ k, ¬Relation.TransGen R k k) (hks : ∀ p k, R p k → k ∈ keys) (k) :
    Acc R k := by
  have hr (k : κ) (hk : k ∉ keys) : Acc R k := ⟨k, fun p hp => absurd (hks p k hp) hk⟩
  have : Finite {k // k ∈ keys} := (finite_toSet keys).to_subtype
  have : IsTrans {k // k ∈ keys} (fun p k => Relation.TransGen R p.1 k.1) := ⟨fun _ _ _ => Relation.TransGen.trans⟩
  have : Std.Irrefl (fun p k : {k // k ∈ keys} => Relation.TransGen R p.1 k.1) := ⟨fun k => h k.1⟩
  have hwf := Finite.wellFounded_of_trans_of_irrefl (fun p k : {k // k ∈ keys} => Relation.TransGen R p.1 k.1)
  by_cases hk : k ∈ keys
  · refine hwf.induction (C := fun k => Acc R k.1) ⟨k, hk⟩ (fun k ih => ⟨k.1, fun p hp => ?_⟩)
    by_cases hp' : p ∈ keys
    · exact ih ⟨p, hp'⟩ (.single hp)
    · exact hr p hp'
  · exact hr k hk

theorem no_cycle_iff_acc {keys : List κ} (hks : ∀ p k, R p k → k ∈ keys) :
    (∀ k, ¬Relation.TransGen R k k) ↔ ∀ k ∈ keys, Acc R k := by
  refine ⟨fun h k _ => acc_of_no_cycle h hks k, fun h k hk => ?_⟩
  obtain ⟨p, hp⟩ := exists_parent_of_transGen hk
  exact not_above_of_acc (h k (hks p k hp)) hk

end

section

variable [DecidableEq κ] {parent : κ → Option κ} {keys seen : List κ} {k : κ} {fuel : Nat}

/-- Follow the parents; `false` at a key that was seen before. -/
def reachesRoot (parent : κ → Option κ) : Nat → List κ → Option κ → Bool
  | _, _, none => true
  | 0, _, some _ => false
  | fuel + 1, seen, some k => if k ∈ seen then false else reachesRoot parent fuel (k :: seen) (parent k)

theorem grounded_of_reachesRoot (h : reachesRoot parent fuel seen (some k) = true) : Grounded parent k := by
  induction fuel generalizing seen k with
  | zero => cases h
  | succ fuel ih =>
    unfold reachesRoot at h
    split at h
    · cases h
    · refine ⟨k, fun p hp => ?_⟩
      rw [hp] at h
      exact ih h

theorem reachesRoot_of_grounded (hks : ∀ k p, parent k = some p → k ∈ keys) (h : Grounded parent k)
    (hs : ∀ x ∈ seen, Relation.TransGen (fun p k => parent k = some p) k x) (hn : seen.Nodup)
    (hf : keys.length < seen.length + fuel) : reachesRoot parent fuel seen (some k) = true := by
  induction h generalizing seen fuel with
  | intro k ha ih =>
    have hl : seen.length ≤ keys.length := by
      refine (subperm_of_subset hn (fun x hx => ?_)).length_le
      obtain ⟨p, hp⟩ := exists_parent_of_transGen (hs x hx)
      exact hks x p hp
    have hk : k ∉ seen := fun hm => not_above_of_acc ⟨k, ha⟩ (hs k hm)
    cases fuel with
    | zero => omega
    | succ fuel =>
      unfold reachesRoot
      rw [if_neg hk]
      cases hp : parent k with
      | none => cases fuel <;> rfl
      | some p =>
        refine ih p hp (fun x hx => ?_) (nodup_cons.2 ⟨hk, hn⟩) (by rw [length_cons]; omega)
        rcases mem_cons.1 hx with rfl | hx
        · exact .single hp
        · exact .head hp (hs x hx)

theorem reachesRoot_iff (hk : ∀ k p, parent k = some p → k ∈ keys) :
    reachesRoot parent (keys.length + 1) [] (some k) = true ↔ Grounded parent k :=
  ⟨grounded_of_reachesRoot, fun h => reachesRoot_of_grounded hk h (fun _ hx => nomatch hx) nodup_nil
    (by rw [length_nil]; omega)⟩

end

section

variable {ready : List κ → List α → α → Bool} {key : α → κ} {fuel : Nat} {done : List κ} {pending order : List α}

/-- Take, round by round, the items that are ready; `none` if there are none in a round. -/
def rounds (ready : List κ → List α → α → Bool) (key : α → κ) : Nat → List κ → List α → Option (List α)
  | _, _, [] => some []
  | 0, _, _ :: _ => none
  | fuel + 1, done, a :: as =>
    let now := (a :: as).filter (ready done (a :: as))
    if now.isEmpty then none
    else (rounds ready key fuel (done ++ now.map key) ((a :: as).filter (fun b => !ready done (a :: as) b))).map
      (fun order => now ++ order)

theorem rounds_perm (h : rounds ready key fuel done pending = some order) : order.Perm pending := by
  induction fuel generalizing done pending order with
  | zero =>
    cases pending with
    | nil =>
      cases h
      exact Perm.nil
    | cons => cases h
  | succ fuel ih =>
    cases pending with
    | nil =>
      cases h
      exact Perm.nil
    | cons =>
      obtain ⟨-, h⟩ := Option.ite_none_left_eq_some.1 h
      obtain ⟨later, hl, rfl⟩ := Option.map_eq_some_iff.1 h
      exact ((ih hl).append_left _).trans (filter_append_perm _ _)

theorem exists_rounds {all}
    (hr : ∀ done pending, pending ≠ [] → pending ⊆ all → (∀ a ∈ all, a ∈ pending ∨ key a ∈ done) →
      ∃ a ∈ pending, ready done pending a = true)
    (hs : pending ⊆ all) (ha : ∀ a ∈ all, a ∈ pending ∨ key a ∈ done) (hf : pending.length ≤ fuel) :
    ∃ order, rounds ready key fuel done pending = some order := by
  induction fuel generalizing done pending with
  | zero =>
    obtain rfl : pending = [] := length_eq_zero_iff.1 (by omega)
    exact ⟨[], rfl⟩
  | succ fuel ih =>
    cases pending with
    | nil => exact ⟨[], rfl⟩
    | cons a as =>
      obtain ⟨b, hb, hbr⟩ := hr done (a :: as) (cons_ne_nil _ _) hs ha
      have hn : b ∈ (a :: as).filter (ready done (a :: as)) := List.mem_filter.2 ⟨hb, hbr⟩
      -- the round takes at least one item
      have hl := (filter_append_perm (ready done (a :: as)) (a :: as)).length_eq
      have hps := length_pos_of_mem hn
      rw [length_append] at hl
      have hlt := @ih (done ++ ((a :: as).filter (ready done (a :: as))).map key)
        ((a :: as).filter (fun b => !ready done (a :: as) b)) (fun x hx => hs (List.mem_filter.1 hx).1)
        (fun x hx => ?_) (by omega)
      · obtain ⟨order, ho⟩ := hlt
        refine ⟨(a :: as).filter (ready done (a :: as)) ++ order, ?_⟩
        simp only [rounds]
        rw [if_neg (by rw [List.isEmpty_iff]; exact ne_nil_of_mem hn), ho]
        rfl
      · rcases ha x hx with hp | hd
        · by_cases hxr : ready done (a :: as) x = true
          · exact .inr (mem_append_right _
              (List.mem_map_of_mem (List.mem_filter.2 ⟨hp, hxr⟩)))
          · exact .inl (List.mem_filter.2 ⟨hp, by simp [hxr]⟩)
        · exact .inr (mem_append_left _ hd)

theorem Grounded.exists_first {parent : κ → Option κ} {parentKey : α → Option κ} {a}
    (hpr : ∀ a ∈ pending, parent (key a) = parentKey a) (h : Grounded parent (key a)) (ha : a ∈ pending) :
    ∃ b ∈ pending, ∀ p, parentKey b = some p → p ∉ pending.map key := by
  generalize hk : key a = k at h
  induction h generalizing a with
  | intro k _ ih =>
    subst hk
    by_cases hf : ∀ p, parentKey a = some p → p ∉ pending.map key
    · exact ⟨a, ha, hf⟩
    · push Not at hf
      obtain ⟨p, hp, hm⟩ := hf
      obtain ⟨b, hb, rfl⟩ := mem_map.1 hm
      exact ih (key b) ((hpr a ha).trans hp) hb rfl

end

end WisdoverseCell
