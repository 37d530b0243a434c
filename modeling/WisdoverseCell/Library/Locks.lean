import Mathlib.Order.Basic
import WisdoverseCell.Library.Transition

/-!
# Row locks

Transactions that lock rows one after the other and keep them until they end: a `LockProgram` says which rows come next,
from what is read then.  If all transactions lock their rows in the order of a rank, none waits in a cycle
(`CyclicWait.exists_breaks`).  Rows that are only locked behind another row, their guard, need no order.
-/

namespace WisdoverseCell

open List Option

variable {i j : Nat} {σ ρ κ ι β : Type}

/-- A transaction: the rows it has locked, the last one first, those it locks next, and where it is. -/
structure Locker (ρ κ ι : Type) where
  tx : ι
  held : List ρ
  wanted : List ρ
  point : κ

def Locker.requested (t : Locker ρ κ ι) : List ρ := t.held.reverse ++ t.wanted

theorem Locker.requested_lock (tx : ι) (held rest : List ρ) (r) (point : κ) :
    Locker.requested ⟨tx, r :: held, rest, point⟩ = Locker.requested ⟨tx, held, r :: rest, point⟩ := by
  simp [Locker.requested]

structure LockProgram (σ ρ κ ι : Type) where
  start : σ → ι → List ρ × κ
  resume : σ → κ → Option (List ρ × κ)

structure LockState (σ ρ κ ι : Type) where
  db : σ
  txs : List (Locker ρ κ ι)

inductive LockAct (σ ι : Type)
  | change (db : σ)
  | start (tx : ι)
  | lock (i : Nat)
  | resume (i : Nat)
  | finish (i : Nat)

/-! ### Exclusive rows -/

def HeldOnce (txs : List (Locker ρ κ ι)) : Prop :=
  ∀ (i j : Nat) (t u : Locker ρ κ ι) (r : ρ), txs[i]? = some t → txs[j]? = some u → r ∈ t.held → r ∈ u.held → i = j

theorem heldOnce_nil : HeldOnce ([] : List (Locker ρ κ ι)) := by
  intro i j t u r ht
  cases ht

variable {txs : List (Locker ρ κ ι)}

theorem HeldOnce.eraseIdx (h : HeldOnce txs) (k) : HeldOnce (txs.eraseIdx k) := by
  intro i j t u r ht hu hrt hru
  rw [getElem?_eraseIdx] at ht hu
  split at ht <;> split at hu
  · exact h i j t u r ht hu hrt hru
  · have := h i (j + 1) t u r ht hu hrt hru
    omega
  · have := h (i + 1) j t u r ht hu hrt hru
    omega
  · have := h (i + 1) (j + 1) t u r ht hu hrt hru
    omega

variable {t : Locker ρ κ ι}

theorem HeldOnce.append (h : HeldOnce txs) (ht : t.held = []) : HeldOnce (txs ++ [t]) := by
  have ho (i : Nat) (u : Locker ρ κ ι) (r : ρ) (hu : (txs ++ [t])[i]? = some u) (hr : r ∈ u.held) :
      txs[i]? = some u := by
    rw [getElem?_append] at hu
    split at hu
    · exact hu
    · obtain rfl := mem_singleton.1 (mem_of_getElem? hu)
      rw [ht] at hr
      cases hr
  intro i j u v r hu hv hru hrv
  exact h i j u v r (ho i u r hu hru) (ho j v r hv hrv) hru hrv

theorem HeldOnce.set (h : HeldOnce txs) {t'} (ht : txs[i]? = some t)
    (how : ∀ r ∈ t'.held, r ∈ t.held ∨ ∀ j u, j ≠ i → txs[j]? = some u → r ∉ u.held) : HeldOnce (txs.set i t') := by
  have ho {j : Nat} {u : Locker ρ κ ι} {r : ρ} (hr : r ∈ t'.held) (hu : txs[j]? = some u) (hru : r ∈ u.held) :
      i = j := by
    rcases how r hr with hm | hf
    · exact h i j t u r ht hu hm hru
    · by_contra hne
      exact hf j u (fun heq => hne heq.symm) hu hru
  intro j k u v r hu hv hru hrv
  rw [getElem?_set] at hu hv
  split at hu <;> split at hv
  · omega
  · rename_i hj hk
    split at hu
    · cases hu
      exact absurd (ho hru hv hrv) hk
    · cases hu
  · rename_i hj hk
    split at hv
    · cases hv
      exact absurd (ho hrv hu hru) hj
    · cases hv
  · exact h j k u v r hu hv hru hrv

/-! ### Steps -/

variable {P : LockProgram σ ρ κ ι} {s s' : LockState σ ρ κ ι} {ok : LockState σ ρ κ ι → LockAct σ ι → Prop}

section

variable [DecidableEq ρ]

def Locker.lock (t : Locker ρ κ ι) (others : List (Locker ρ κ ι)) : Option (Locker ρ κ ι) :=
  match t.wanted with
  | [] => none
  | r :: rest =>
    if others.any (fun u => r ∈ u.held) then none else some { t with held := r :: t.held, wanted := rest }

def Locker.resume (t : Locker ρ κ ι) (P : LockProgram σ ρ κ ι) (db : σ) : Option (Locker ρ κ ι) :=
  match t.wanted with
  | [] => (P.resume db t.point).map (fun next => { t with wanted := next.1, point := next.2 })
  | _ :: _ => none

def LockProgram.step (P : LockProgram σ ρ κ ι) (s : LockState σ ρ κ ι) : LockAct σ ι → Option (LockState σ ρ κ ι)
  | .change db => some { s with db := db }
  | .start tx => some { s with txs := s.txs ++ [⟨tx, [], (P.start s.db tx).1, (P.start s.db tx).2⟩] }
  | .lock i => s.txs[i]?.bind (fun t => (t.lock (s.txs.eraseIdx i)).map (fun u => { s with txs := s.txs.set i u }))
  | .resume i => s.txs[i]?.bind (fun t => (t.resume P s.db).map (fun u => { s with txs := s.txs.set i u }))
  | .finish i => if i < s.txs.length then some { s with txs := s.txs.eraseIdx i } else none

/-- What a step does to the transactions. -/
inductive LockProgram.Moves (P : LockProgram σ ρ κ ι) (s : LockState σ ρ κ ι) : List (Locker ρ κ ι) → Prop
  | change : Moves P s s.txs
  | start (tx : ι) : Moves P s (s.txs ++ [⟨tx, [], (P.start s.db tx).1, (P.start s.db tx).2⟩])
  | lock {i tx held rest r point} (ht : s.txs[i]? = some ⟨tx, held, r :: rest, point⟩)
      (hfree : ∀ j u, j ≠ i → s.txs[j]? = some u → r ∉ u.held) : Moves P s (s.txs.set i ⟨tx, r :: held, rest, point⟩)
  | resume {i tx held rows point point'} (ht : s.txs[i]? = some ⟨tx, held, [], point⟩)
      (hresume : P.resume s.db point = some (rows, point')) : Moves P s (s.txs.set i ⟨tx, held, rows, point'⟩)
  | finish (i : Nat) : Moves P s (s.txs.eraseIdx i)

theorem LockProgram.moves_of_step {a} (h : P.step s a = some s') : P.Moves s s'.txs := by
  cases a with
  | change =>
    cases h
    exact .change
  | start tx =>
    cases h
    exact .start tx
  | lock =>
    obtain ⟨⟨tx, held, wanted, point⟩, ht, hm⟩ := bind_eq_some_iff.1 h
    obtain ⟨u, hu, rfl⟩ := map_eq_some_iff.1 hm
    cases wanted with
    | nil => cases hu
    | cons =>
      unfold Locker.lock at hu
      obtain ⟨ha, hu⟩ := ite_none_left_eq_some.1 hu
      cases hu
      refine .lock ht (fun j u hj hu hr => ha ?_)
      exact any_eq_true.2 ⟨u, mem_eraseIdx_iff_getElem?.2 ⟨j, hj, hu⟩, decide_eq_true hr⟩
  | resume =>
    obtain ⟨⟨tx, held, wanted, point⟩, ht, hm⟩ := bind_eq_some_iff.1 h
    obtain ⟨u, hu, rfl⟩ := map_eq_some_iff.1 hm
    cases wanted with
    | nil =>
      obtain ⟨⟨rows, point'⟩, hrs, rfl⟩ := map_eq_some_iff.1 hu
      exact .resume ht hrs
    | cons => cases hu
  | finish i =>
    unfold LockProgram.step at h
    obtain ⟨-, h⟩ := ite_none_right_eq_some.1 h
    cases h
    exact .finish i

theorem Run.lockers {L : Locker ρ κ ι → Prop} (hrn : Run (Steps P.step) ok s s') (h0 : ∀ t ∈ s.txs, L t)
    (hs : ∀ db tx, L ⟨tx, [], (P.start db tx).1, (P.start db tx).2⟩)
    (hl : ∀ tx held r rest point, L ⟨tx, held, r :: rest, point⟩ → L ⟨tx, r :: held, rest, point⟩)
    (hr : ∀ db tx held point rows point', L ⟨tx, held, [], point⟩ → P.resume db point = some (rows, point') →
      L ⟨tx, held, rows, point'⟩) : ∀ t ∈ s'.txs, L t := by
  refine hrn.invariant (I := fun s => ∀ t ∈ s.txs, L t) h0 (fun s a s' hL _ hst => ?_)
  have hm := LockProgram.moves_of_step hst
  generalize s'.txs = txs at hm
  cases hm with
  | change => exact hL
  | start tx =>
    intro t ht
    rcases mem_concat.1 ht with ht | ht
    · exact hL t ht
    · rw [ht]
      exact hs s.db tx
  | lock ht =>
    intro t hmm
    rcases mem_or_eq_of_mem_set hmm with ho | rfl
    · exact hL t ho
    · exact hl _ _ _ _ _ (hL _ (mem_of_getElem? ht))
  | resume ht hrs =>
    intro t hmm
    rcases mem_or_eq_of_mem_set hmm with ho | rfl
    · exact hL t ho
    · exact hr _ _ _ _ _ _ (hL _ (mem_of_getElem? ht)) hrs
  | finish => exact fun t ht => hL t (eraseIdx_subset ht)

theorem Run.heldOnce (hrn : Run (Steps P.step) ok s s') (h0 : HeldOnce s.txs) : HeldOnce s'.txs := by
  refine hrn.invariant (I := fun s => HeldOnce s.txs) h0 (fun s a s' h _ hs => ?_)
  have hm := LockProgram.moves_of_step hs
  generalize s'.txs = txs at hm
  cases hm with
  | change => exact h
  | start => exact h.append rfl
  | @lock i tx held rest r point ht hf =>
    refine h.set ht (fun r' hr' => ?_)
    rcases mem_cons.1 hr' with rfl | hr'
    · exact .inr hf
    · exact .inl hr'
  | resume ht => exact h.set ht (fun r hr => .inl hr)
  | finish i => exact h.eraseIdx i

end

/-! ### Waiting -/

/-- The next row of the `i`th transaction is `r`, which the `j`th holds. -/
def Wants (txs : List (Locker ρ κ ι)) (i j : Nat) (r : ρ) : Prop :=
  i ≠ j ∧ ∃ t u, txs[i]? = some t ∧ txs[j]? = some u ∧ t.wanted.head? = some r ∧ r ∈ u.held

def Waits (txs : List (Locker ρ κ ι)) (i j : Nat) : Prop := ∃ r, Wants txs i j r

/-- A test for `Waits`. -/
def waitsFor [DecidableEq ρ] (txs : List (Locker ρ κ ι)) (i j : Nat) : Bool :=
  i ≠ j ∧ txs[i]?.any (fun t => txs[j]?.any (fun u => t.wanted.head?.any (fun r => r ∈ u.held)))

theorem waits_of_waitsFor [DecidableEq ρ] (h : waitsFor txs i j = true) : Waits txs i j := by
  simp only [waitsFor, decide_eq_true_eq, Option.any_eq_true] at h
  obtain ⟨hne, t, ht, u, hu, r, hr, hm⟩ := h
  exact ⟨r, hne, t, u, ht, hu, hr, hm⟩

def Locker.blockedOn [DecidableEq ρ] (txs : List (Locker ρ κ ι)) (kind : ρ → Bool) (t : Locker ρ κ ι) : Bool :=
  t.wanted.head?.any (fun r => kind r && txs.any (fun u => r ∈ u.held))

variable {r : ρ}

theorem Locker.blockedOn_of_waits [DecidableEq ρ] (kind) {rest} (ht : txs[i]? = some t)
    (hw : Waits txs i j) (hwn : t.wanted = r :: rest) (hk : kind r = true) : t.blockedOn txs kind = true := by
  obtain ⟨w, -, t', u, ht', hu, hw, hm⟩ := hw
  obtain rfl := some.inj (ht.symm.trans ht')
  rw [hwn] at hw
  cases hw
  unfold Locker.blockedOn
  rw [hwn]
  simp only [head?_cons, any_some, hk, Bool.true_and]
  exact any_eq_true.2 ⟨u, mem_of_getElem? hu, decide_eq_true hm⟩

def CyclicWait (txs : List (Locker ρ κ ι)) : Prop := ∃ i, Relation.TransGen (Waits txs) i i

/-- The next row of the transaction is beyond all rows that it holds, those behind a guard apart. -/
def Locker.Keeps [LT β] (rank : ρ → β) (guarded : ρ → Prop) (t : Locker ρ κ ι) : Prop :=
  ∀ r ∈ t.held, ¬ guarded r → ∀ w ∈ t.wanted.head?, rank r < rank w

variable {guarded : ρ → Prop} {rank : ρ → β}

theorem Locker.keeps_of_wanted_nil [LT β] (h : t.wanted = []) : t.Keeps rank guarded := by
  intro r _ _ w hw
  rw [h] at hw
  cases hw

/-- Nobody waits for a row that is only asked for by those who hold its guard. -/
theorem not_wants_of_guarded (hh : HeldOnce txs) {guard} (hg : ∀ t ∈ txs, r ∈ t.requested → guard ∈ t.held) :
    ¬ Wants txs i j r := by
  rintro ⟨hne, t, u, ht, hu, hw, hru⟩
  have hwn : r ∈ t.requested := mem_append_right _ (mem_of_mem_head? hw)
  have hhl : r ∈ u.requested := mem_append_left _ (mem_reverse.2 hru)
  exact hne (hh i j t u guard ht hu (hg t (mem_of_getElem? ht) hwn) (hg u (mem_of_getElem? hu) hhl))

theorem rank_lt_of_waits [Preorder β] (hg : ∀ i j r, Wants txs i j r → ¬ guarded r)
    (hk : ∀ (i j : Nat) (t : Locker ρ κ ι), txs[i]? = some t → Waits txs i j → t.Keeps rank guarded) {k}
    (hc : Relation.TransGen (Waits txs) i j) (hl : Waits txs j k) {u w} (ht : txs[i]? = some t)
    (hu : txs[j]? = some u) (hr : t.wanted.head? = some r) (hw : u.wanted.head? = some w) : rank r < rank w := by
  have ho {i j k : Nat} {t u : Locker ρ κ ι} {r w : ρ} (hij : Waits txs i j) (hjk : Waits txs j k)
      (ht : txs[i]? = some t) (hu : txs[j]? = some u) (hr : t.wanted.head? = some r) (hw : u.wanted.head? = some w) :
      rank r < rank w := by
    obtain ⟨r', hwn⟩ := hij
    have hf := hg i j r' hwn
    obtain ⟨-, t', u', ht', hu', hr', hm⟩ := hwn
    obtain rfl := some.inj (ht.symm.trans ht')
    obtain rfl := some.inj (hu.symm.trans hu')
    obtain rfl := some.inj (hr.symm.trans hr')
    exact hk j k u hu hjk r hm hf w hw
  induction hc generalizing k u w with
  | single hij => exact ho hij hl ht hu hr hw
  | tail hc hjk ih =>
    obtain ⟨v', -, v, -, hv, -, hv', -⟩ := id hjk
    exact (ih hjk hv hv').trans (ho hjk hl hv hu hv' hw)

theorem CyclicWait.exists_breaks [Preorder β] (rank : ρ → β) (h : CyclicWait txs)
    (hg : ∀ i j r, Wants txs i j r → ¬ guarded r) :
    ∃ i j t, txs[i]? = some t ∧ Waits txs i j ∧ ¬ t.Keeps rank guarded := by
  by_contra hn
  have hk (i j : Nat) (t : Locker ρ κ ι) (ht : txs[i]? = some t) (hw : Waits txs i j) : t.Keeps rank guarded := by
    by_contra hb
    exact hn ⟨i, j, t, ht, hw, hb⟩
  obtain ⟨i, hc⟩ := h
  obtain ⟨j, hf, -⟩ := Relation.TransGen.head'_iff.1 hc
  obtain ⟨r, -, t, -, ht, -, hr, -⟩ := id hf
  exact lt_irrefl _ (rank_lt_of_waits hg hk hc hf ht ht hr hr)

end WisdoverseCell
