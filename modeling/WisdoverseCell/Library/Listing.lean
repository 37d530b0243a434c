import Mathlib.Data.List.Sort
import Mathlib.Data.String.Basic

/-!
# Listings

A store lists its rows in an order of its own, and a reader sorts what it gets by a key.  If the keys are distinct, the
order of the listing does not matter.
-/

namespace WisdoverseCell

open List

variable {κ α β : Type}

def sortBy (key : α → String) (as : List α) : List α := as.insertionSort (fun a b => key a ≤ key b)

theorem sortBy_perm (key : α → String) (as) : (sortBy key as).Perm as := perm_insertionSort _ as

theorem pairwise_sortBy (key : α → String) (as) : (sortBy key as).Pairwise (fun a b => key a ≤ key b) := by
  have : Std.Total (fun a b : α => key a ≤ key b) := ⟨fun a b => le_total (key a) (key b)⟩
  have : IsTrans α (fun a b => key a ≤ key b) := ⟨fun _ _ _ => le_trans⟩
  exact pairwise_insertionSort _ as

variable {as bs : List α} {key : α → String}

theorem sortBy_eq_of_perm (hp : as.Perm bs) (hn : (as.map key).Nodup) : sortBy key as = sortBy key bs := by
  refine Perm.eq_of_pairwise (fun a b ha hb hab hba => ?_) (pairwise_sortBy key as) (pairwise_sortBy key bs)
    ((sortBy_perm key as).trans (hp.trans (sortBy_perm key bs).symm))
  have ha' : a ∈ as := (sortBy_perm key as).mem_iff.1 ha
  have hb' : b ∈ as := hp.mem_iff.2 ((sortBy_perm key bs).mem_iff.1 hb)
  exact inj_on_of_nodup_map hn ha' hb' (le_antisymm hab hba)

theorem pairwise_sortBy_lt (hn : (as.map key).Nodup) : (sortBy key as).Pairwise (fun a b => key a < key b) := by
  have hne : (sortBy key as).Pairwise (fun a b => key a ≠ key b) :=
    pairwise_map.1 (((sortBy_perm key as).map key).nodup_iff.2 hn)
  exact ((pairwise_sortBy key as).and hne).imp (fun h => lt_of_le_of_ne h.1 h.2)

theorem sortBy_eq_self (h : as.Pairwise (fun a b => key a ≤ key b)) : sortBy key as = as := h.insertionSort_eq

variable {f : α → β}

theorem sortBy_map {key'} (as) (hf : ∀ a, key' (f a) = key a) : sortBy key' (as.map f) = (sortBy key as).map f :=
  (map_insertionSort _ _ f as (fun a _ b _ => by rw [hf a, hf b])).symm

variable {a : α}

theorem find?_eq_some_of_mem [DecidableEq κ] {key : α → κ} (hn : (as.map key).Nodup) (ha : a ∈ as) :
    as.find? (fun b => key b = key a) = some a := by
  have hs : (as.find? (fun b => key b = key a)).isSome := by
    rw [find?_isSome]
    exact ⟨a, ha, by simp⟩
  obtain ⟨b, hb⟩ := Option.isSome_iff_exists.1 hs
  have hk : key b = key a := by simpa using find?_some hb
  rw [hb, inj_on_of_nodup_map hn (mem_of_find?_eq_some hb) ha hk]

theorem find?_eq_of_perm [DecidableEq κ] {key : α → κ} (hp : as.Perm bs) (hn : (as.map key).Nodup) (k) :
    as.find? (fun a => key a = k) = bs.find? (fun a => key a = k) := by
  cases hf : as.find? (fun a => key a = k) with
  | none =>
    rw [eq_comm, find?_eq_none]
    intro b hb
    exact find?_eq_none.1 hf b (hp.mem_iff.2 hb)
  | some a =>
    have hk : key a = k := by simpa using find?_some hf
    subst hk
    exact (find?_eq_some_of_mem ((hp.map key).nodup_iff.1 hn) (hp.mem_iff.1 (mem_of_find?_eq_some hf))).symm

theorem exists_perm_of_perm_map {bs} (h : bs.Perm (as.map f)) : ∃ as' : List α, as'.Perm as ∧ bs = as'.map f := by
  induction bs generalizing as with
  | nil =>
    obtain rfl : as = [] := map_eq_nil_iff.1 h.nil_eq.symm
    exact ⟨[], Perm.nil, rfl⟩
  | cons b bs ih =>
    obtain ⟨a, ha, rfl⟩ := mem_map.1 (h.mem_iff.1 mem_cons_self)
    obtain ⟨l, r, rfl⟩ := append_of_mem ha
    have hs : (l ++ a :: r).Perm (a :: (l ++ r)) := perm_middle
    obtain ⟨as', hp, rfl⟩ := ih ((h.trans (hs.map f)).cons_inv)
    exact ⟨a :: as', (hp.cons a).trans hs.symm, rfl⟩

end WisdoverseCell
