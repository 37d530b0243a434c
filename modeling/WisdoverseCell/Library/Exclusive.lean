import WisdoverseCell.Library.Table

/-!
# At most one holder per slot

A row of a table may hold the slot it belongs to.  `Exclusive` says that no slot has two holders; the rules say
which writes keep it: a row may be added if its slot is free, a row may be rewritten if it stays in its slot and
does not start to hold it.
-/

namespace WisdoverseCell

open Table

variable {α κ ι : Type} {key : α → κ} {holds : α → Bool} {slot : α → ι}

def Exclusive (t : Table key) (holds : α → Bool) (slot : α → ι) : Prop :=
  ∀ a ∈ t, ∀ b ∈ t, holds a = true → holds b = true → slot a = slot b → a = b

namespace Exclusive

theorem empty : Exclusive (Table.empty : Table key) holds slot := fun a ha => absurd ha (not_mem_empty a)

theorem insert [DecidableEq κ] {t t' : Table key} {a} (h : Exclusive t holds slot) (hi : t.insert a = some t')
    (hf : holds a = true → ∀ b ∈ t, slot b = slot a → holds b = false) : Exclusive t' holds slot := by
  intro x hx y hy hxh hyh hs
  rcases (mem_insert hi).1 hx with hx | rfl <;> rcases (mem_insert hi).1 hy with hy | rfl
  · exact h x hx y hy hxh hyh hs
  · exact absurd (hf hyh x hx hs) (by rw [hxh]; decide)
  · exact absurd (hf hxh y hy hs.symm) (by rw [hyh]; decide)
  · rfl

theorem update {t p f} (h : Exclusive t holds slot) (hf : ∀ a, key (f a) = key a) (hsl : ∀ a, slot (f a) = slot a)
    (hh : ∀ a ∈ t, p a = true → holds (f a) = true → holds a = true) : Exclusive (t.update p f hf) holds slot := by
  -- each row of the new table comes from a row of the old one that is in the same slot and held it already
  have origin : ∀ b ∈ t.update p f hf, ∃ a ∈ t, (if p a then f a else a) = b ∧ slot b = slot a ∧
      (holds b = true → holds a = true) := by
    intro b hb
    obtain ⟨a, ha, rfl⟩ := mem_update.1 hb
    by_cases hp : p a = true
    · exact ⟨a, ha, rfl, by simp [hp, hsl], by simpa [hp] using hh a ha hp⟩
    · exact ⟨a, ha, rfl, by simp [hp], by simp [hp]⟩
  intro x hx y hy hxh hyh hs
  obtain ⟨a, ha, rfl, hsa, hha⟩ := origin x hx
  obtain ⟨b, hb, rfl, hsb, hhb⟩ := origin y hy
  rw [h a ha b hb (hha hxh) (hhb hyh) (by rw [← hsa, ← hsb, hs])]

end Exclusive

end WisdoverseCell
