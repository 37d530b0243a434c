import WisdoverseCell.Library.Table

/-!
# Tables with a second unique column

Besides their primary key the rows of such a table may carry a value of a second column that no two rows share; a row
without a value is not restricted, as with a unique index over a nullable column.  Both restrictions are part of the
type: `insert` is refused when either value is taken.
-/

namespace WisdoverseCell

open List Option Table

structure Indexed {α κ ι : Type} (key : α → κ) (index : α → Option ι) where
  table : Table key
  unique : ∀ a ∈ table, ∀ b ∈ table, ∀ i, index a = some i → index b = some i → a = b

namespace Indexed

variable {α κ ι : Type} {key : α → κ} {index : α → Option ι}

instance : Membership α (Indexed key index) := ⟨fun t a => a ∈ t.table⟩

instance (t : Indexed key index) (p : α → Prop) [DecidablePred p] : Decidable (∃ a ∈ t, p a) :=
  inferInstanceAs (Decidable (∃ a ∈ t.table, p a))

theorem mem_table {t : Indexed key index} {a} : a ∈ t.table ↔ a ∈ t := Iff.rfl

def empty : Indexed key index := ⟨.empty, fun a ha => absurd ha (Table.not_mem_empty a)⟩

@[simp] theorem not_mem_empty (a) : ¬ a ∈ (empty : Indexed key index) := Table.not_mem_empty a

theorem eq_of_key_eq {t : Indexed key index} {a b} (ha : a ∈ t) (hb : b ∈ t) (h : key a = key b) : a = b :=
  Table.eq_of_key_eq ha hb h

theorem eq_of_index_eq {t : Indexed key index} {a b : α} {i} (ha : a ∈ t) (hb : b ∈ t) (hai : index a = some i)
    (hbi : index b = some i) : a = b :=
  t.unique a ha b hb i hai hbi

def filter (t : Indexed key index) (p : α → Bool) : Indexed key index where
  table := t.table.filter p
  unique := fun a ha b hb => t.unique a (Table.mem_filter.1 ha).1 b (Table.mem_filter.1 hb).1

theorem mem_filter {t : Indexed key index} {p : α → Bool} {a} : a ∈ t.filter p ↔ a ∈ t ∧ p a = true := Table.mem_filter

variable [DecidableEq ι]

def find (t : Indexed key index) (i : ι) : Option α := t.table.rows.find? (fun a => index a = some i)

theorem find_eq_some {t : Indexed key index} {i : ι} {a} : t.find i = some a ↔ a ∈ t ∧ index a = some i := by
  have found (b : α) (h : t.find i = some b) : b ∈ t ∧ index b = some i := by
    unfold find at h
    exact ⟨mem_of_find?_eq_some h, by simpa using find?_some h⟩
  refine ⟨found a, ?_⟩
  rintro ⟨ha, hi⟩
  cases hf : t.find i with
  | none => exact absurd hi (by simpa using find?_eq_none.1 hf a ha)
  | some b =>
    obtain ⟨hb, hbi⟩ := found b hf
    rw [eq_of_index_eq hb ha hbi hi]

theorem find_eq_none {t : Indexed key index} {i} : t.find i = none ↔ ∀ a ∈ t, index a ≠ some i := by
  unfold find
  rw [find?_eq_none]
  simp [← mem_table, ← mem_rows]

def taken (t : Indexed key index) (a : α) : Bool :=
  match index a with
  | none => false
  | some i => (t.find i).isSome

theorem taken_eq_false {t : Indexed key index} {a} :
    t.taken a = false ↔ ∀ b ∈ t, ∀ i, index a = some i → index b ≠ some i := by
  unfold taken
  cases hi : index a with
  | none => simp
  | some i =>
    dsimp only
    rw [isSome_eq_false_iff, isNone_iff_eq_none, find_eq_none]
    constructor
    · rintro h b hb j hj
      cases hj
      exact h b hb
    · exact fun h b hb => h b hb i rfl

variable [DecidableEq κ]

/-- Add a row; `none` when its key or its value in the second column is taken. -/
def insert (t : Indexed key index) (a : α) : Option (Indexed key index) :=
  if h : t.taken a = false then
    match ht : t.table.insert a with
    | none => none
    | some t' => some ⟨t', by
        have hfree := taken_eq_false.1 h
        intro b hb c hc i hbi hci
        rcases (Table.mem_insert ht).1 hb with hb | rfl <;> rcases (Table.mem_insert ht).1 hc with hc | rfl
        · exact t.unique b hb c hc i hbi hci
        · exact absurd hbi (hfree b hb i hci)
        · exact absurd hci (hfree c hc i hbi)
        · rfl⟩
  else none

theorem insert_eq_some {t t' : Indexed key index} {a} (h : t.insert a = some t') :
    t.table.insert a = some t'.table ∧ ∀ b ∈ t, ∀ i, index a = some i → index b ≠ some i := by
  unfold insert at h
  split at h
  · rename_i hf
    split at h
    · cases h
    · rename_i ht
      cases h
      exact ⟨ht, taken_eq_false.1 hf⟩
  · cases h

theorem mem_insert {t t' : Indexed key index} {a b} (h : t.insert a = some t') : b ∈ t' ↔ b ∈ t ∨ b = a :=
  Table.mem_insert (insert_eq_some h).1

theorem insert_isSome {t : Indexed key index} {a} (hk : ∀ b ∈ t, key b ≠ key a)
    (hi : ∀ b ∈ t, ∀ i, index a = some i → index b ≠ some i) : ∃ t', t.insert a = some t' := by
  obtain ⟨t', ht'⟩ := Table.insert_isSome (get_eq_none.2 hk)
  unfold insert
  rw [dif_pos (taken_eq_false.2 hi)]
  split
  · rename_i hn
    exact absurd (hn.symm.trans ht') (by simp)
  · exact ⟨_, rfl⟩

end Indexed

end WisdoverseCell
