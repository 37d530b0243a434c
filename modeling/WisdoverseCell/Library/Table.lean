import Mathlib.Data.List.Nodup

/-!
# Keyed tables

A list of rows whose primary keys are pairwise distinct.  There are three writes: `insert` (refused when the key is
taken), `update` (rewrite every row that meets a condition, without touching keys) and `filter`.  The lemmas describe
`get` and membership after a write.
-/

namespace WisdoverseCell

open List Option

structure Table {α κ : Type} (key : α → κ) where
  rows : List α
  nodup : (rows.map key).Nodup

namespace Table

variable {α κ : Type} {key : α → κ} {t t' : Table key} {a b : α} {k : κ}

instance : Membership α (Table key) := ⟨fun t a => a ∈ t.rows⟩

instance (t : Table key) (p : α → Prop) [DecidablePred p] : Decidable (∃ a ∈ t, p a) :=
  inferInstanceAs (Decidable (∃ a ∈ t.rows, p a))

instance (t : Table key) (p : α → Prop) [DecidablePred p] : Decidable (∀ a ∈ t, p a) :=
  inferInstanceAs (Decidable (∀ a ∈ t.rows, p a))

theorem mem_rows : a ∈ t.rows ↔ a ∈ t := Iff.rfl

def empty : Table key := ⟨[], nodup_nil⟩

@[simp] theorem not_mem_empty (a) : ¬ a ∈ (empty : Table key) := not_mem_nil

theorem eq_of_key_eq (ha : a ∈ t) (hb : b ∈ t) (h : key a = key b) : a = b := inj_on_of_nodup_map t.nodup ha hb h

theorem length_filter_le_one {p} :
    (t.rows.filter p).length ≤ 1 ↔ ∀ a ∈ t, ∀ b ∈ t, p a = true → p b = true → a = b := by
  have hn : (t.rows.filter p).Nodup := t.nodup.of_map.filter p
  have hm (c : α) : c ∈ t.rows.filter p ↔ c ∈ t ∧ p c = true := mem_filter
  constructor
  · intro h a ha b hb hpa hpb
    obtain ⟨c, hc⟩ | hnl := (length_eq_one_iff.or length_eq_zero_iff).1 (Nat.le_one_iff_eq_zero_or_eq_one.1 h).symm
    · rw [hc] at hm
      exact (mem_singleton.1 ((hm a).2 ⟨ha, hpa⟩)).trans (mem_singleton.1 ((hm b).2 ⟨hb, hpb⟩)).symm
    · exact absurd ((hm a).2 ⟨ha, hpa⟩) (hnl ▸ not_mem_nil)
  · intro h
    match hl : t.rows.filter p with
    | [] => simp
    | [_] => simp
    | a :: b :: l =>
      rw [hl] at hn hm
      obtain ⟨ha, hpa⟩ := (hm a).1 (by simp)
      obtain ⟨hb, hpb⟩ := (hm b).1 (by simp)
      exact absurd (h a ha b hb hpa hpb) (by simp at hn; tauto)

theorem filter_eq_singleton {p} : t.rows.filter p = [a] ↔ a ∈ t ∧ p a = true ∧ ∀ b ∈ t, p b = true → b = a := by
  have hm (c : α) : c ∈ t.rows.filter p ↔ c ∈ t ∧ p c = true := mem_filter
  constructor
  · intro h
    rw [h] at hm
    obtain ⟨ha, hpa⟩ := (hm a).1 (by simp)
    exact ⟨ha, hpa, fun b hb hpb => mem_singleton.1 ((hm b).2 ⟨hb, hpb⟩)⟩
  · rintro ⟨ha, hpa, ho⟩
    have hle : (t.rows.filter p).length ≤ 1 :=
      length_filter_le_one.2 fun b hb c hc hpb hpc => (ho b hb hpb).trans (ho c hc hpc).symm
    have hin := (hm a).2 ⟨ha, hpa⟩
    obtain ⟨c, hc⟩ := length_eq_one_iff.1 (Nat.le_antisymm hle (length_pos_of_mem hin))
    rw [hc, mem_singleton] at hin
    rw [hc, hin]

/-- The rows as written by `UPDATE ... SET f WHERE p`; `f` must leave the key alone. -/
def update (t : Table key) (p : α → Bool) (f : α → α) (hf : ∀ a, key (f a) = key a) : Table key where
  rows := t.rows.map (fun a => if p a then f a else a)
  nodup := by
    have h : (t.rows.map (fun a => if p a then f a else a)).map key = t.rows.map key := by
      rw [List.map_map]
      apply map_congr_left
      intro a _
      by_cases hp : p a <;> simp [hp, hf]
    rw [h]; exact t.nodup

theorem mem_update {p f hf} : b ∈ t.update p f hf ↔ ∃ a ∈ t, (if p a then f a else a) = b := mem_map

theorem of_mem_update {p f} (hf : ∀ a, key (f a) = key a)
    (h : b ∈ t.update p f hf) : ∃ a ∈ t, (if p a then f a else a) = b :=
  mem_update.1 h

theorem update_mem {p f} (hf : ∀ a, key (f a) = key a) (ha : a ∈ t) : (if p a then f a else a) ∈ t.update p f hf :=
  mem_update.2 ⟨a, ha, rfl⟩

theorem update_eq_self {p f} (hf : ∀ a, key (f a) = key a)
    (h : ∀ a ∈ t, p a = true → f a = a) : t.update p f hf = t := by
  have hr : t.rows.map (fun a => if p a then f a else a) = t.rows := by
    refine (map_congr_left (fun a ha => ?_)).trans (map_id' t.rows)
    split
    · exact h a ha ‹_›
    · rfl
  simp only [update, hr]

theorem update_update {p f g hf hg} (hp : ∀ a, p a = true → p (f a) = true) :
    (t.update p f hf).update p g hg = t.update p (fun a => g (f a)) (fun a => (hg (f a)).trans (hf a)) := by
  have hr (a : α) : (if p (if p a then f a else a) then g (if p a then f a else a) else if p a then f a else a) =
      if p a then g (f a) else a := by
    by_cases h : p a = true
    · simp [h, hp a h]
    · simp [h]
  simp only [update, List.map_map, Function.comp_def, hr]

def filter (t : Table key) (p : α → Bool) : Table key where
  rows := t.rows.filter p
  nodup := t.nodup.sublist (filter_sublist.map key)

theorem mem_filter {p} : a ∈ t.filter p ↔ a ∈ t ∧ p a = true := List.mem_filter

section

variable [DecidableEq κ]

def get (t : Table key) (k : κ) : Option α := t.rows.find? (fun a => key a = k)

theorem get_eq_some : t.get k = some a ↔ a ∈ t ∧ key a = k := by
  have found (b : α) (h : t.get k = some b) : b ∈ t ∧ key b = k := by
    unfold get at h
    exact ⟨mem_of_find?_eq_some h, by simpa using find?_some h⟩
  refine ⟨found a, ?_⟩
  rintro ⟨ha, hk⟩
  cases hg : t.get k with
  | none => exact absurd hk (by simpa using find?_eq_none.1 hg a ha)
  | some b =>
    obtain ⟨hb, hbk⟩ := found b hg
    rw [eq_of_key_eq hb ha (hbk.trans hk.symm)]

theorem get_eq_none : t.get k = none ↔ ∀ a ∈ t, key a ≠ k := by
  unfold get
  rw [find?_eq_none]
  simp [mem_rows]

theorem get_of_mem (ha : a ∈ t) : t.get (key a) = some a := get_eq_some.2 ⟨ha, rfl⟩

theorem get_update {p f hf} (k) : (t.update p f hf).get k = (t.get k).map (fun a => if p a then f a else a) := by
  have hke : ∀ a, key (if p a then f a else a) = key a := by
    intro a; by_cases hp : p a <;> simp [hp, hf]
  cases hg : t.get k with
  | none =>
    rw [map_none, get_eq_none]
    intro b hb
    obtain ⟨a, ha, rfl⟩ := mem_update.1 hb
    rw [hke]
    exact get_eq_none.1 hg a ha
  | some a =>
    obtain ⟨ha, hk⟩ := get_eq_some.1 hg
    rw [map_some, get_eq_some]
    exact ⟨mem_update.2 ⟨a, ha, rfl⟩, by rw [hke, hk]⟩

theorem get_update_of {p f} (hf : ∀ a, key (f a) = key a)
    (h : t.get k = some a) (hp : p a = true) : (t.update p f hf).get k = some (f a) := by
  rw [get_update, h, map_some, if_pos hp]

/-- An update of the row with key `k`, if it meets `q`. -/
theorem get_update_key {q : α → Bool} {f} (hf : ∀ a, key (f a) = key a) (k k') :
    (t.update (fun a => key a = k ∧ q a = true) f hf).get k' =
      if k' = k then (t.get k').map (fun a => if q a then f a else a) else t.get k' := by
  rw [get_update]
  cases hg : t.get k' with
  | none => simp
  | some a =>
    obtain ⟨-, rfl⟩ := get_eq_some.1 hg
    by_cases hk : key a = k <;> simp [hk]

def modify (t : Table key) (k : κ) (f : α → α) (hf : ∀ a, key (f a) = key a) : Table key :=
  t.update (fun a => key a = k) f hf

theorem get_modify {f} (hf : ∀ a, key (f a) = key a) (k k') :
    (t.modify k f hf).get k' = if k' = k then (t.get k').map f else t.get k' := by
  simpa [modify] using get_update_key (t := t) (q := fun _ => true) hf k k'

theorem of_mem_modify {f} (hf : ∀ a, key (f a) = key a)
    (h : b ∈ t.modify k f hf) : ∃ a ∈ t, (key a = k ∧ f a = b) ∨ (key a ≠ k ∧ a = b) := by
  obtain ⟨a, ha, rfl⟩ := of_mem_update hf h
  by_cases hk : key a = k
  · exact ⟨a, ha, .inl ⟨hk, by simp [hk]⟩⟩
  · exact ⟨a, ha, .inr ⟨hk, by simp [hk]⟩⟩

theorem countP_modify {f} (hf : ∀ a, key (f a) = key a) (h : t.get k = some a) (p) :
    (t.modify k f hf).rows.countP p + (if p a then 1 else 0) = t.rows.countP p + (if p (f a) then 1 else 0) := by
  obtain ⟨hm, hk⟩ := get_eq_some.1 h
  have hcn (rows : List α) (hn : (rows.map key).Nodup) (ha : a ∈ rows) :
      (rows.map (fun b => if key b = k then f b else b)).countP p + (if p a then 1 else 0) =
        rows.countP p + (if p (f a) then 1 else 0) := by
    induction rows with
    | nil => cases ha
    | cons b rows ih =>
      rw [map_cons, nodup_cons] at hn
      rw [map_cons, countP_cons, countP_cons]
      by_cases hb : key b = k
      · -- no other row has the key
        have hr : rows.map (fun b => if key b = k then f b else b) = rows := by
          refine (map_congr_left (fun c hc => if_neg ?_)).trans (map_id' rows)
          exact fun hck => hn.1 (mem_map.2 ⟨c, hc, hck.trans hb.symm⟩)
        obtain rfl : a = b := by
          rcases mem_cons.1 ha with heq | ho
          · exact heq
          · exact absurd (mem_map.2 ⟨a, ho, hk.trans hb.symm⟩) hn.1
        rw [hr, if_pos hb]
        omega
      · have ho : a ∈ rows := (mem_cons.1 ha).resolve_left (fun heq => hb (heq ▸ hk))
        have := ih hn.2 ho
        rw [if_neg hb]
        omega
  have hrw : (t.modify k f hf).rows = t.rows.map (fun b => if key b = k then f b else b) := by
    simp [modify, update]
  rw [hrw]
  exact hcn t.rows t.nodup hm

/-- Add a row; `none` when its key is taken (the database's integrity error). -/
def insert (t : Table key) (a : α) : Option (Table key) :=
  if h : key a ∈ t.rows.map key then none
  else some ⟨t.rows ++ [a], by
    rw [map_append, map_singleton, nodup_append]
    refine ⟨t.nodup, nodup_singleton _, ?_⟩
    intro x hx y hy hxy
    rw [mem_singleton] at hy
    exact h (by rw [← hy, ← hxy]; exact hx)⟩

theorem insert_eq_some (h : t.insert a = some t') : t'.rows = t.rows ++ [a] ∧ ∀ b ∈ t, key b ≠ key a := by
  unfold insert at h
  split at h
  · cases h
  · rename_i hk
    cases h
    refine ⟨rfl, fun b hb he => hk ?_⟩
    exact he ▸ mem_map_of_mem hb

theorem insert_isSome (h : t.get (key a) = none) : ∃ t', t.insert a = some t' := by
  unfold insert
  split
  · rename_i hk
    obtain ⟨b, hb, he⟩ := mem_map.1 hk
    exact absurd he (get_eq_none.1 h b hb)
  · exact ⟨_, rfl⟩

theorem mem_insert (h : t.insert a = some t') : b ∈ t' ↔ b ∈ t ∨ b = a := by
  change b ∈ t'.rows ↔ _
  rw [(insert_eq_some h).1, mem_append, mem_singleton]
  rfl

theorem get_insert_of_some (h : t.insert a = some t') (hb : t.get k = some b) : t'.get k = some b := by
  obtain ⟨hm, hk⟩ := get_eq_some.1 hb
  exact get_eq_some.2 ⟨(mem_insert h).2 (.inl hm), hk⟩

theorem get_insert_self (h : t.insert a = some t') : t'.get (key a) = some a := get_of_mem ((mem_insert h).2 (.inr rfl))

theorem get_insert (h : t.insert a = some t') (k) : t'.get k = if k = key a then some a else t.get k := by
  split
  · rename_i hk; rw [hk, get_insert_self h]
  · rename_i hk
    cases hg : t.get k with
    | some => exact get_insert_of_some h hg
    | none =>
      rw [get_eq_none] at hg ⊢
      intro b hb
      rcases (mem_insert h).1 hb with hb | rfl
      · exact hg b hb
      · exact fun he => hk he.symm

def erase (t : Table key) (k : κ) : Table key where
  rows := t.rows.filter (fun a => key a ≠ k)
  nodup := t.nodup.sublist (filter_sublist.map key)

theorem mem_erase : a ∈ t.erase k ↔ a ∈ t ∧ key a ≠ k := by
  change a ∈ t.rows.filter _ ↔ _
  rw [List.mem_filter, decide_eq_true_iff]
  rfl

def insertAll (t : Table key) : List α → Option (Table key)
  | [] => some t
  | a :: as => (t.insert a).bind (fun t' => t'.insertAll as)

theorem insertAll_eq_some {as} (h : t.insertAll as = some t') : t'.rows = t.rows ++ as := by
  induction as generalizing t with
  | nil =>
    cases h
    rw [append_nil]
  | cons a as ih =>
    obtain ⟨u, hu, ht'⟩ := bind_eq_some_iff.1 h
    rw [ih ht', (insert_eq_some hu).1, append_assoc, singleton_append]

theorem mem_insertAll {as} (h : t.insertAll as = some t') : b ∈ t' ↔ b ∈ t ∨ b ∈ as := by
  change b ∈ t'.rows ↔ _
  rw [insertAll_eq_some h, mem_append]
  rfl

theorem insertAll_isSome {as} (hn : (as.map key).Nodup) (h : ∀ a ∈ as, t.get (key a) = none) :
    ∃ t', t.insertAll as = some t' := by
  induction as generalizing t with
  | nil => exact ⟨t, rfl⟩
  | cons a as ih =>
    obtain ⟨hnw, hn⟩ := nodup_cons.1 hn
    obtain ⟨ha, has⟩ := forall_mem_cons.1 h
    obtain ⟨u, hu⟩ := insert_isSome ha
    have hf : ∀ b ∈ as, u.get (key b) = none := by
      intro b hb
      have hne : key b ≠ key a := fun heq => hnw (heq ▸ mem_map_of_mem hb)
      rw [get_insert hu, if_neg hne]
      exact has b hb
    obtain ⟨t', ht'⟩ := ih hn hf
    exact ⟨t', by rw [insertAll, hu]; exact ht'⟩

end

end Table

end WisdoverseCell
