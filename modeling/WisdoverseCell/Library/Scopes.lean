import Mathlib.Data.List.Basic

/-!
# Scopes with a wildcard

A scope is a list of names, one of which may be a wildcard that stands for all of them.  The names that every scope
passing a list of demands contains are the demands and no others (`mem_every_scope_iff`).
-/

namespace WisdoverseCell

variable {α : Type}

def Covers (star : α) (s : List α) (a : α) : Prop := star ∈ s ∨ a ∈ s

instance [DecidableEq α] (star : α) (s : List α) (a : α) : Decidable (Covers star s a) :=
  inferInstanceAs (Decidable (star ∈ s ∨ a ∈ s))

theorem Covers.mem {star a : α} {s} (h : Covers star s a) (hs : star ∉ s) : a ∈ s := by
  rcases h with h | h
  · exact absurd h hs
  · exact h

theorem mem_every_scope_iff {star a : α} {demands : List α} :
    (∀ s : List α, star ∉ s → (∀ d ∈ demands, Covers star s d) → a ∈ s) ↔ a ∈ demands ∨ star ∈ demands := by
  constructor
  · intro h
    by_cases hst : star ∈ demands
    · exact .inr hst
    · exact .inl (h demands hst (fun d hd => .inr hd))
  · rintro (ha | hdm) s hs hc
    · exact (hc a ha).mem hs
    · exact absurd ((hc star hdm).mem hs) hs

end WisdoverseCell
