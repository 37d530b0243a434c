import Mathlib.Data.List.Dedup
import Mathlib.Data.Rat.Floor
import WisdoverseCell.Sync.Engine

/-!
# Subtasks in Bitable

A sync run stores the subtasks it fetches and rolls them up to their parents.

* The percentage of a parent is `round(completed / total * 100)`, here on the rationals.  It is `0` and `100` exactly at
  the ends if the completed subtasks, and the others, are none or more than half a percent.
* The row of a record is what was fetched last if the record has its first parent and lacks neither a name nor a status
  that it had, since `upsert` changes nothing else of a row that is there.
-/

namespace WisdoverseCell.Sync

open List Table Failing

variable {records : List (RawRecord × Bool)} {fetches : List (List RawRecord)}

/-! ### Rounding -/

/-- `round`, where a tie goes to the even neighbour. -/
def roundHalfEven (q : ℚ) : ℤ :=
  if 1 < 2 * Int.fract q ∨ (2 * Int.fract q = 1 ∧ ⌊q⌋ % 2 = 1) then ⌊q⌋ + 1 else ⌊q⌋

private theorem roundHalfEven_intCast (n : ℤ) : roundHalfEven n = n := by
  simp [roundHalfEven]

private theorem roundHalfEven_near (q) : 2 * roundHalfEven q ≤ 2 * q + 1 ∧ 2 * q ≤ 2 * roundHalfEven q + 1 := by
  have hq := Int.floor_add_fract q
  have h0 := Int.fract_nonneg q
  have h1 := Int.fract_lt_one q
  unfold roundHalfEven
  split
  · push_cast
    constructor <;> grind
  · constructor <;> grind

private theorem roundHalfEven_mono {p q} (h : p ≤ q) : roundHalfEven p ≤ roundHalfEven q := by
  have hp := Int.floor_add_fract p
  have hq := Int.floor_add_fract q
  have hf := Int.floor_le_floor h
  unfold roundHalfEven
  rcases hf.lt_or_eq with hlt | heq
  · split <;> split <;> omega
  · rw [heq] at hp ⊢
    split <;> split <;> grind

def exactPercent (completed total : ℕ) : ℤ := roundHalfEven (completed / total * 100)

def SyncRuntime.exact (rt : SyncRuntime) : SyncRuntime := { rt with percent := exactPercent }

section

variable {c c' n : ℕ}

private theorem exactPercent_mono (h : c ≤ c') : exactPercent c n ≤ exactPercent c' n := by
  refine roundHalfEven_mono (mul_le_mul_of_nonneg_right ?_ (by norm_num))
  exact div_le_div_of_nonneg_right (by exact_mod_cast h) (Nat.cast_nonneg n)

private theorem exactPercent_zero : exactPercent 0 n = 0 := by
  unfold exactPercent
  simpa using roundHalfEven_intCast 0

variable (hn : 0 < n)

include hn

private theorem exactPercent_self : exactPercent n n = 100 := by
  have hn' : (n : ℚ) ≠ 0 := by exact_mod_cast hn.ne'
  unfold exactPercent
  rw [div_self hn']
  simpa using roundHalfEven_intCast 100

private theorem exactPercent_near :
    (2 * exactPercent c n - 1) * n ≤ 200 * c ∧ 200 * c ≤ (2 * exactPercent c n + 1) * n := by
  have hn' : (0 : ℚ) < n := by exact_mod_cast hn
  obtain ⟨hl, hu⟩ := roundHalfEven_near (c / n * 100)
  have hc : (c / n * 100 : ℚ) * n = 100 * c := by field_simp
  have hl' := mul_le_mul_of_nonneg_right hl hn'.le
  have hu' := mul_le_mul_of_nonneg_right hu hn'.le
  constructor
  · rw [← @Int.cast_le ℚ]
    push_cast [exactPercent]
    linarith
  · rw [← @Int.cast_le ℚ]
    push_cast [exactPercent]
    linarith

/-- Half a percent is rounded down to nothing. -/
private theorem exactPercent_eq_zero_iff : exactPercent c n = 0 ↔ 200 * c ≤ n := by
  constructor
  · intro h
    have hnr := (exactPercent_near hn (c := c)).2
    rw [h] at hnr
    omega
  · intro h
    have hq : (c / n * 100 : ℚ) ≤ 1 / 2 := by
      have hn' : (0 : ℚ) < n := by exact_mod_cast hn
      have h' : (200 * c : ℚ) ≤ n := by exact_mod_cast h
      rw [div_mul_eq_mul_div, div_le_iff₀ hn']
      linarith
    have hz : roundHalfEven (1 / 2) = 0 := by decide +kernel
    exact le_antisymm (hz ▸ roundHalfEven_mono hq) (exactPercent_zero.symm.le.trans (exactPercent_mono (Nat.zero_le c)))

/-- Half a percent that is missing is rounded up to everything. -/
private theorem exactPercent_eq_hundred_iff (hle : c ≤ n) : exactPercent c n = 100 ↔ 200 * (n - c) ≤ n := by
  constructor
  · intro h
    have hnr := (exactPercent_near hn (c := c)).1
    rw [h] at hnr
    omega
  · intro h
    have hq : (199 / 2 : ℚ) ≤ c / n * 100 := by
      have hn' : (0 : ℚ) < n := by exact_mod_cast hn
      have h' : (199 * n : ℚ) ≤ 200 * c := by exact_mod_cast (by omega : 199 * n ≤ 200 * c)
      rw [div_mul_eq_mul_div, le_div_iff₀ hn']
      linarith
    have hz : roundHalfEven (199 / 2) = 100 := by decide +kernel
    exact le_antisymm ((exactPercent_mono hle).trans (exactPercent_self hn).le) (hz ▸ roundHalfEven_mono hq)

end

/-! ### The roll-up -/

/-- The subtasks of a fetch; a record that cannot be read, or has no parent, counts for nothing. -/
def linkedSubtasks (rt : SyncRuntime) (records : List RawRecord) : List SubtaskItem :=
  records.filterMap (fun record => (subtaskOf rt record).toOption.join)

def SubtaskItem.completed (item : SubtaskItem) : Bool := isCompletedSubtaskStatus item.status

def calculateProgressFromSubtasks (rt : SyncRuntime) (statuses : List (Option String)) : ℤ :=
  if statuses.isEmpty then 0 else rt.percent (statuses.countP isCompletedSubtaskStatus) statuses.length

/-- The parents are distinct, and each has exactly its own subtasks. -/
structure Groups (items : List SubtaskItem) (rollups : List ParentRollup) : Prop where
  parents : (rollups.map ParentRollup.parentOpId).Nodup
  subtasks : ∀ r ∈ rollups, r.subtasks = items.filter (fun item => item.parentOpId = r.parentOpId) ∧ r.subtasks ≠ []
  all : ∀ item ∈ items, item.parentOpId ∈ rollups.map ParentRollup.parentOpId

structure ExactAtEnds (rt : SyncRuntime) (r : ParentRollup) : Prop where
  calculated : calculateProgressFromSubtasks rt (r.subtasks.map SubtaskItem.status) = r.progressPercent rt
  nonneg : 0 ≤ r.progressPercent rt
  le : r.progressPercent rt ≤ 100
  mono : ∀ before item after done, r.subtasks = before ++ item :: after → done.completed = true →
    r.progressPercent rt ≤ (ParentRollup.mk r.parentOpId (before ++ done :: after)).progressPercent rt
  all : r.progressPercent rt = 100 ↔ ∀ item ∈ r.subtasks, item.completed = true
  none : r.progressPercent rt = 0 ↔ ∀ item ∈ r.subtasks, item.completed = false

/-- There is none, or more than half a percent. -/
def Shows (part total : ℕ) : Prop := part = 0 ∨ total < 200 * part

/-- The completed subtasks of a parent show in its percentage, and so do the others. -/
def BothShow (subtasks : List SubtaskItem) : Prop :=
  Shows (subtasks.countP (fun item => item.completed)) subtasks.length ∧
    Shows (subtasks.countP (fun item => !item.completed)) subtasks.length

instance (part total : ℕ) : Decidable (Shows part total) := inferInstanceAs (Decidable (_ ∨ _))

instance (subtasks : List SubtaskItem) : Decidable (BothShow subtasks) := inferInstanceAs (Decidable (_ ∧ _))

variable {rt : SyncRuntime} {items : List SubtaskItem} {item : SubtaskItem}

private theorem mem_parentIds {id} : id ∈ parentIds items ↔ ∃ item ∈ items, item.parentOpId = id := by
  simp [parentIds]

private theorem parentRollups_groups (h : ∀ item ∈ items, 0 < item.parentOpId) :
    ∃ rollups, parentRollups items = .ok rollups ∧ Groups items rollups := by
  let rollup (id : ℤ) : ParentRollup := ⟨id, items.filter (fun item => item.parentOpId = id)⟩
  have hm : ((parentIds items).map rollup).map ParentRollup.parentOpId = parentIds items := by
    rw [map_map]
    exact map_id _
  refine ⟨(parentIds items).map rollup, mapM_eq_ok.2 (forall₂_map_right_iff.2 (forall₂_same.2 ?_)), ?_, ?_, ?_⟩
  · intro id hid
    obtain ⟨item, hi, rfl⟩ := mem_parentIds.1 hid
    exact bind_eq_ok.2 ⟨(), ensure_eq_ok.2 (h item hi), rfl⟩
  · rw [hm]
    exact nodup_reverse.2 (nodup_dedup _)
  · intro r hr
    obtain ⟨id, hid, rfl⟩ := mem_map.1 hr
    obtain ⟨item, hi, hp⟩ := mem_parentIds.1 hid
    exact ⟨rfl, ne_nil_of_mem (mem_filter.2 ⟨hi, decide_eq_true hp⟩)⟩
  · intro item hi
    rw [hm]
    exact mem_parentIds.2 ⟨item, hi, rfl⟩

private theorem parent_pos {rollups} (h : parentRollups items = .ok rollups) (hi : item ∈ items) :
    0 < item.parentOpId := by
  have hf : Forall₂ (fun id _ => 0 < id ∧ True) (parentIds items) rollups := (mapM_eq_ok.1 h).imp (fun _ _ hr => by
    obtain ⟨_, hp, -⟩ := bind_eq_ok.1 hr
    exact ⟨ensure_eq_ok.1 hp, trivial⟩)
  exact ((forall₂_and_left _ _).1 hf).1 _ (mem_parentIds.2 ⟨item, hi, rfl⟩)

/-- The range and the order always hold; the ends are exact if both kinds of subtasks show. -/
private theorem exactAtEnds_iff {r} (hne : r.subtasks ≠ []) : ExactAtEnds rt.exact r ↔ BothShow r.subtasks := by
  have hps : 0 < r.subtasks.length := length_pos_iff.2 hne
  have hle : r.completedCount ≤ r.subtasks.length := countP_le_length
  have hc : r.completedCount = r.subtasks.countP (fun item => item.completed) := rfl
  have ho : r.subtasks.countP (fun item => !item.completed) = r.subtasks.length - r.completedCount := by
    have hs := length_eq_countP_add_countP (fun item => item.completed) (l := r.subtasks)
    simp only [decide_not, Bool.decide_eq_true] at hs
    omega
  have hp : r.progressPercent rt.exact = exactPercent r.completedCount r.subtasks.length := rfl
  have hz := exactPercent_eq_zero_iff hps (c := r.completedCount)
  have hh := exactPercent_eq_hundred_iff hps hle
  have hall : (∀ item ∈ r.subtasks, item.completed = true) ↔ r.completedCount = r.subtasks.length := by
    rw [hc, countP_eq_length]
  have hnone : (∀ item ∈ r.subtasks, item.completed = false) ↔ r.completedCount = 0 := by
    rw [hc, countP_eq_zero]
    simp only [Bool.not_eq_true]
  constructor
  · intro h
    have hends := h.none
    have hends' := h.all
    rw [hp, hz, hnone] at hends
    rw [hp, hh, hall] at hends'
    unfold BothShow Shows
    rw [ho, ← hc]
    omega
  · intro hs
    unfold BothShow Shows at hs
    rw [ho, ← hc] at hs
    refine ⟨?_, ?_, ?_, ?_, ?_, ?_⟩
    · unfold calculateProgressFromSubtasks
      rw [if_neg (by simpa using hne), countP_map, length_map]
      rfl
    · exact exactPercent_zero.symm.le.trans (exactPercent_mono (Nat.zero_le _))
    · exact (exactPercent_mono hle).trans (exactPercent_self hps).le
    · intro before item after done hr hd
      rw [hp, hc, hr]
      change _ ≤ exactPercent ((before ++ done :: after).countP (fun item => item.completed))
        (before ++ done :: after).length
      simp only [length_append, length_cons, countP_append, countP_cons, hd, if_true]
      exact exactPercent_mono (by split <;> omega)
    · rw [hp, hh, hall]
      omega
    · rw [hp, hz, hnone]
      omega

/-- The roll-up groups the subtasks, and every percentage is exact at the ends, if and only if the parents are work
package ids and of every parent the completed subtasks and the others each are none or more than half a percent. -/
theorem rollup_exact_iff (rt : SyncRuntime) (records : List RawRecord) :
    (∃ rollups, parentRollups (linkedSubtasks rt records) = .ok rollups ∧ Groups (linkedSubtasks rt records) rollups ∧
      ∀ r ∈ rollups, ExactAtEnds rt.exact r) ↔
    ∀ item ∈ linkedSubtasks rt records, 0 < item.parentOpId ∧
      BothShow ((linkedSubtasks rt records).filter (fun i => i.parentOpId = item.parentOpId)) := by
  constructor
  · rintro ⟨rollups, hok, hg, hex⟩ item hi
    refine ⟨parent_pos hok hi, ?_⟩
    obtain ⟨r, hr, hid⟩ := mem_map.1 (hg.all item hi)
    obtain ⟨hs, hne⟩ := hg.subtasks r hr
    rw [← hid, ← hs]
    exact (exactAtEnds_iff hne).1 (hex r hr)
  · intro h
    obtain ⟨rollups, hok, hg⟩ := parentRollups_groups (fun item hi => (h item hi).1)
    refine ⟨rollups, hok, hg, fun r hr => ?_⟩
    obtain ⟨hs, hne⟩ := hg.subtasks r hr
    obtain ⟨item, hi⟩ := exists_mem_of_ne_nil _ hne
    rw [hs] at hi
    obtain ⟨hmem, hid⟩ := mem_filter.1 hi
    refine (exactAtEnds_iff hne).2 ?_
    rw [hs, ← of_decide_eq_true hid]
    exact (h item hmem).2

def linkedRecord (recordId : String) (parent : ℤ) (status : String) : RawRecord :=
  ⟨some recordId, [("parent_op_id", .int parent), ("subtask_status", .str status)]⟩

def statusRuntime : SyncRuntime :=
  { plainRuntime with str := fun
      | .str s => s
      | _ => "" }

/-- One of 200 subtasks is completed, and the percentage is `0`. -/
theorem rollup_misses_one : ∃ records rollups r, parentRollups (linkedSubtasks statusRuntime records) = .ok rollups ∧
    r ∈ rollups ∧ (∃ item ∈ r.subtasks, item.completed = true) ∧ r.progressPercent statusRuntime.exact = 0 := by
  obtain ⟨rollups, hok, r, hr, hd, hz⟩ : ∃ rollups, (parentRollups (linkedSubtasks statusRuntime
      ((range 200).map (fun i => linkedRecord ("rec" ++ toString i) 1 (if i = 0 then "Done" else "Open"))))).toOption =
        some rollups ∧ ∃ r ∈ rollups, (∃ item ∈ r.subtasks, item.completed = true) ∧
          r.progressPercent statusRuntime.exact = 0 := by
    decide +kernel
  exact ⟨_, rollups, r, toOption_eq_some.1 hok, hr, hd, hz⟩

/-! ### The stored rows -/

def SubtaskItem.row (item : SubtaskItem) : SubtaskRow := ⟨item.recordId, item.parentOpId, item.name, item.status⟩

def storedOver (row : Option SubtaskRow) (item : SubtaskItem) : Option SubtaskRow :=
  some (row.elim item.row (SubtaskRow.assign item))

variable {t : Table SubtaskRow.recordId} {tx tx' : SyncTx} {w w' : SyncWorld}

private theorem get_upsertedSubtasks (id) : (upsertedSubtasks t item).get id =
    if id = item.recordId then storedOver (t.get id) item else t.get id := by
  unfold upsertedSubtasks
  cases hg : t.get item.recordId with
  | some =>
    dsimp only
    rw [get_modify]
    split
    · next hid => rw [hid, hg]; rfl
    · rfl
  | none =>
    obtain ⟨t', ht'⟩ := insert_isSome (a := item.row) hg
    change ((t.insert item.row).getD t).get id = _
    rw [ht', Option.getD_some, get_insert ht']
    change (if id = item.recordId then _ else _) = _
    split
    · next hid => rw [hid, hg]; rfl
    · rfl

private theorem get_foldl_upserted (id) : (items.foldl upsertedSubtasks t).get id =
    (items.filter (fun item => id = item.recordId)).foldl storedOver (t.get id) := by
  induction items generalizing t with
  | nil => rfl
  | cons item items ih =>
    rw [foldl_cons, ih, get_upsertedSubtasks, filter_cons]
    by_cases hid : id = item.recordId
    · rw [if_pos hid, if_pos (decide_eq_true hid), foldl_cons]
    · rw [if_neg hid, if_neg (by simpa using hid)]

/-- What the fetches of one record leave in its row: the first parent, and the last name and the last status that were
there. -/
private theorem foldl_storedOver (row : SubtaskRow) : items.foldl storedOver (some row) =
    some ⟨row.recordId, row.parentOpId, items.foldl (fun name item => item.name.or name) row.name,
      items.foldl (fun status item => item.status.or status) row.status⟩ := by
  induction items generalizing row with
  | nil => rfl
  | cons item items ih =>
    rw [foldl_cons]
    exact ih _

private theorem foldl_or_eq {α β : Type} {f : α → Option β} {as : List α} {b : Option β} (a : α) :
    (f a).or (as.foldl (fun old a => (f a).or old) b) = f a ↔ f a = none → b = none ∧ ∀ a ∈ as, f a = none := by
  cases f a with
  | some => simp
  | none =>
    simp only [Option.none_or, true_imp_iff]
    induction as generalizing b with
    | nil => simp
    | cons a' as ih =>
      rw [foldl_cons, ih, Option.or_eq_none_iff, forall_mem_cons]
      tauto

/-- Of the items fetched for one record, the first has the parent of this one, and a name or a status that this one
lacks was in none of them. -/
structure Unchanged (fetched : List SubtaskItem) (item : SubtaskItem) : Prop where
  parent : ∀ first ∈ fetched.head?, first.parentOpId = item.parentOpId
  name : item.name = none → ∀ i ∈ fetched, i.name = none
  status : item.status = none → ∀ i ∈ fetched, i.status = none

private theorem foldl_storedOver_concat (hid : ∀ i ∈ items, item.recordId = i.recordId) :
    (items ++ [item]).foldl storedOver none = some item.row ↔ Unchanged (items ++ [item]) item := by
  cases items with
  | nil => exact iff_of_true rfl ⟨by simp, by simp, by simp⟩
  | cons first items =>
    have hf := (hid first mem_cons_self).symm
    rw [foldl_append, foldl_cons, foldl_cons, foldl_nil]
    change storedOver (items.foldl storedOver (some first.row)) item = _ ↔ _
    rw [foldl_storedOver, storedOver, Option.elim_some]
    simp only [SubtaskRow.assign, SubtaskItem.row, Option.some_inj, SubtaskRow.mk.injEq, hf, true_and]
    rw [foldl_or_eq (f := SubtaskItem.name), foldl_or_eq (f := SubtaskItem.status)]
    constructor
    · rintro ⟨hp, hn, hs⟩
      refine ⟨by simpa using hp, fun h => ?_, fun h => ?_⟩
      · exact forall_mem_append.2 ⟨forall_mem_cons.2 (hn h), forall_mem_singleton.2 h⟩
      · exact forall_mem_append.2 ⟨forall_mem_cons.2 (hs h), forall_mem_singleton.2 h⟩
    · rintro ⟨hp, hn, hs⟩
      refine ⟨hp first rfl, fun h => ?_, fun h => ?_⟩
      · exact forall_mem_cons.1 (fun i hi => hn h i (mem_append_left _ hi))
      · exact forall_mem_cons.1 (fun i hi => hs h i (mem_append_left _ hi))

/-! ### One run -/

section

open Failing (Keeps)

variable {b : Bool}

def SubtasksAre (t : Table SubtaskRow.recordId) (tx : SyncTx) : Prop := tx.store.subtasks = t

private theorem keeps_statement : Keeps (SubtasksAre t) (statement b) := by
  intro tx h
  unfold statement
  split <;> exact h

private theorem keeps_createLog (s) : Keeps (SubtasksAre t) (createLog b s) :=
  keeps_statement.bind (fun _ => (keeps_read _).bind (fun id =>
    Keeps.bind (keeps_modify (fun _ h => h)) (fun _ => keeps_pure id)))

private theorem keeps_succeedRun (i op) : Keeps (SubtasksAre t) (succeedRun b i op) := by
  refine (keeps_read _).bind (fun tx => Keeps.bind ?_ (fun _ => ?_))
  · exact keeps_statement.bind (fun _ => keeps_modify (fun _ h => h))
  · exact (keeps_lift _).bind (fun _ => keeps_pure _)

private theorem keeps_rollUpParents (rt) (parents rollups) :
    Keeps (SubtasksAre t) (attemptAll countProcessed (reportError rt) (rollUpParent rt parents) rollups) :=
  keeps_forEach (fun _ _ => keeps_attempt ((keeps_lift _).bind (fun _ =>
    keeps_statement.bind (fun _ => keeps_modify (fun _ h => h)))) (fun _ h => h) (fun _ _ h => h))

end

private theorem upsertSubtask_eq_ok {b u} (h : upsertSubtask b item tx = (.ok u, tx')) :
    tx'.store.subtasks = upsertedSubtasks tx.store.subtasks item := by
  obtain ⟨_, _, hs, h⟩ := Failing.bind_eq_ok h
  obtain ⟨_, _, hc, h⟩ := Failing.bind_eq_ok h
  obtain ⟨_, _, hr, h⟩ := Failing.bind_eq_ok h
  cases (statement_eq_ok hs).2
  cases hc
  cases hr
  rw [← (Prod.mk.inj h).2]

private theorem storeSubtasks_eq_ok (h : storeSubtasks rt records tx = (.ok items, tx')) :
    items = linkedSubtasks rt (records.map Prod.fst) ∧
      tx'.store.subtasks = items.foldl upsertedSubtasks tx.store.subtasks := by
  induction records generalizing tx items with
  | nil =>
    cases h
    exact ⟨rfl, rfl⟩
  | cons head rest ih =>
    obtain ⟨record, b⟩ := head
    unfold storeSubtasks at h
    unfold linkedSubtasks
    rw [map_cons, filterMap_cons]
    rcases hs : subtaskOf rt record with e | _ | item
    · rw [hs] at h
      have hr := ih h
      exact hr
    · rw [hs] at h
      exact ih h
    · rw [hs] at h
      obtain ⟨_, _, hup, h⟩ := Failing.bind_eq_ok h
      obtain ⟨items', _, hr, h⟩ := Failing.bind_eq_ok h
      cases h
      obtain ⟨hi, hf⟩ := ih hr
      rw [foldl_cons, ← upsertSubtask_eq_ok hup]
      exact ⟨congrArg _ hi, hf⟩

/-- A run that succeeds has stored the subtasks it fetched one after the other. -/
private theorem syncFeishuToOp_subtasks {input n errors}
    (hrc : input.records = .ok records) (h : syncFeishuToOp rt input w = (.ok (.success n errors), w')) :
    w'.store.subtasks = (linkedSubtasks rt (records.map Prod.fst)).foldl upsertedSubtasks w.store.subtasks := by
  obtain ⟨acquired, _, hl, h⟩ := Failing.bind_eq_ok h
  cases (Prod.mk.inj hl).2
  cases acquired with
  | false => cases h
  | true =>
    obtain ⟨tx, hrn, hw'⟩ := transaction_eq_ok h
    rw [hw']
    obtain ⟨logId, start, hlg, hrn⟩ := Failing.bind_eq_ok hrn
    obtain ⟨op, _, hop, hrn⟩ := Failing.bind_eq_ok hrn
    cases (Prod.mk.inj hop).2
    have hs : SubtasksAre w.store.subtasks (createLog input.createLog "feishu_to_op" w.begin).2 :=
      keeps_createLog _ _ rfl
    rw [hlg] at hs
    rcases Failing.catching_eq_ok hrn with hrn | ⟨e, _, -, hf⟩
    · obtain ⟨_, txb, hb, he⟩ := Failing.bind_eq_ok hrn
      have hsm : SubtasksAre txb.store.subtasks (succeedRun input.completeLog logId op txb).2 :=
        keeps_succeedRun _ _ _ rfl
      rw [he] at hsm
      rw [show tx.store.subtasks = _ from hsm]
      obtain ⟨_, _, hft, hb⟩ := Failing.bind_eq_ok hb
      rw [hrc] at hft
      cases hft
      obtain ⟨items, txs, hst, hb⟩ := Failing.bind_eq_ok hb
      obtain ⟨rollups, _, hr, hb⟩ := Failing.bind_eq_ok hb
      cases (Prod.mk.inj hr).2
      have hk : SubtasksAre txs.store.subtasks _ := keeps_rollUpParents rt input.parents rollups txs rfl
      rw [hb] at hk
      obtain ⟨rfl, hfl⟩ := storeSubtasks_eq_ok hst
      rw [show txb.store.subtasks = _ from hk, hfl, show start.store.subtasks = _ from hs]
    · -- a run that ends in the handler has failed
      obtain ⟨_, _, -, hf⟩ := Failing.bind_eq_ok hf
      obtain ⟨_, _, -, hf⟩ := Failing.bind_eq_ok hf
      obtain ⟨_, _, -, hf⟩ := Failing.bind_eq_ok hf
      cases hf

/-! ### Histories -/

/-- Runs that succeed, from an empty table, with what each of them fetched. -/
inductive Synced (rt : SyncRuntime) : List (List RawRecord) → SyncWorld → Prop
  | start {w : _} (h : w.store.subtasks = .empty) : Synced rt [] w
  | run {fetches w w' input records n errors} (h : Synced rt fetches w) (hrecords : input.records = .ok records)
      (hrun : syncFeishuToOp rt input w = (.ok (.success n errors), w')) :
        Synced rt (fetches ++ [records.map Prod.fst]) w'

private theorem Synced.subtasks (h : Synced rt fetches w) :
    w.store.subtasks = (fetches.flatMap (linkedSubtasks rt)).foldl upsertedSubtasks .empty := by
  induction h with
  | start h => exact h
  | run h hr hrn ih =>
    rw [syncFeishuToOp_subtasks hr hrn, ih, flatMap_append, foldl_append, flatMap_singleton]

/-- The items that the fetches of a history hold for one record. -/
def fetchedFor (rt : SyncRuntime) (recordId : String) (fetches : List (List RawRecord)) : List SubtaskItem :=
  (fetches.flatMap (linkedSubtasks rt)).filter (fun i => recordId = i.recordId)

/-- After a run the row of a fetched subtask is what was fetched if and only if the record has its first parent and
lacks neither a name nor a status that it once had; the ids in a fetch are distinct. -/
theorem subtasks_mirrored_iff {rt : SyncRuntime} {fetches : List (List RawRecord)} {records : List RawRecord}
    {w : SyncWorld}
    (h : Synced rt (fetches ++ [records]) w) (hids : ((linkedSubtasks rt records).map SubtaskItem.recordId).Nodup)
    (item : SubtaskItem) (hit : item ∈ linkedSubtasks rt records) :
    w.store.subtasks.get item.recordId = some item.row ↔
      Unchanged (fetchedFor rt item.recordId (fetches ++ [records])) item := by
  -- the fetched item is the last one of its record
  obtain ⟨before, after, hsp⟩ := append_of_mem hit
  have ha : after.filter (fun i => item.recordId = i.recordId) = [] := by
    rw [hsp, map_append, map_cons] at hids
    refine filter_eq_nil_iff.2 (fun i hi he => (nodup_cons.1 (nodup_append.1 hids).2.1).1 ?_)
    rw [of_decide_eq_true he]
    exact mem_map_of_mem hi
  obtain ⟨earlier, he⟩ : ∃ earlier, fetchedFor rt item.recordId (fetches ++ [records]) = earlier ++ [item] := by
    unfold fetchedFor
    rw [flatMap_append, flatMap_singleton, hsp, filter_append, filter_append, filter_cons_of_pos (by simp), ha,
      ← append_assoc]
    exact ⟨_, rfl⟩
  have hid : ∀ i ∈ earlier, item.recordId = i.recordId := fun i hi =>
    of_decide_eq_true (mem_filter.1 (he ▸ mem_append_left [item] hi : i ∈ fetchedFor rt item.recordId _)).2
  rw [h.subtasks, get_foldl_upserted]
  change (fetchedFor rt item.recordId (fetches ++ [records])).foldl storedOver none = _ ↔ _
  rw [he]
  exact foldl_storedOver_concat hid

/-- A run that fetches these records and in which nothing fails. -/
def fetchOf (records : List RawRecord) : FeishuInput where
  lock := .ok true
  createLog := true
  records := .ok (records.map (fun r => (r, true)))
  parents _ := ⟨.ok (), true⟩
  completeLog := true
  completeFailedLog := true
  commit := .committed

private theorem Synced.fetch (h : Synced rt fetches w) (records)
    (hok : (syncFeishuToOp rt (fetchOf records) w).1.toOption.any (fun r => r.status = "success") = true) :
    Synced rt (fetches ++ [records]) (syncFeishuToOp rt (fetchOf records) w).2 := by
  obtain ⟨r, hr, hs⟩ := Option.any_eq_true _ _ |>.1 hok
  have hrn : syncFeishuToOp rt (fetchOf records) w = (.ok r, _) := Prod.ext (toOption_eq_some.1 hr) rfl
  have hf : (records.map (fun r => (r, true))).map Prod.fst = records := by simp [Function.comp_def]
  cases r with
  | success =>
    have hsn := h.run rfl hrn
    rwa [hf] at hsn
  | failed => simp [SideResult.status] at hs
  | skipped => simp [SideResult.status] at hs

/-- A subtask is fetched twice and is done the second time. -/
theorem subtasks_mirrored_iff_done : ∃ w : SyncWorld,
    Synced statusRuntime [[linkedRecord "rec1" 1 "Open", linkedRecord "rec2" 1 ""], [linkedRecord "rec1" 1 "Done"]] w ∧
      w.store.subtasks.get "rec1" = some ⟨"rec1", 1, none, some "Done"⟩ := by
  have hs : Synced statusRuntime [] emptyWorld := .start rfl
  have hr := (hs.fetch [linkedRecord "rec1" 1 "Open", linkedRecord "rec2" 1 ""] (by decide +kernel)).fetch
    [linkedRecord "rec1" 1 "Done"] (by decide +kernel)
  refine ⟨_, hr, (subtasks_mirrored_iff hr (by decide +kernel) ⟨1, "rec1", none, some "Done"⟩ mem_cons_self).2 ?_⟩
  exact ⟨by decide +kernel, by decide +kernel, by decide +kernel⟩

/-- The subtask has been moved to another parent, and its row stays with the old one. -/
theorem moved_subtask_kept : ∃ w : SyncWorld,
    Synced plainRuntime [[linkedRecord "rec1" 1 ""], [linkedRecord "rec1" 2 ""]] w ∧
      (w.store.subtasks.get "rec1").map SubtaskRow.parentOpId = some 1 :=
  ⟨_, ((Synced.start (w := emptyWorld) rfl).fetch [linkedRecord "rec1" 1 ""] (by decide +kernel)).fetch
    [linkedRecord "rec1" 2 ""] (by decide +kernel), by decide +kernel⟩

end WisdoverseCell.Sync
