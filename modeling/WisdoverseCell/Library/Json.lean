import Mathlib.Data.Rat.Defs
import Mathlib.Data.List.Sort

/-!
# JSON values and their text

Integers and floats are kept apart; a float is the decimal number its shortest text denotes, and the three values
without a JSON text are one constructor.  Objects are association lists in insertion order.  `dumps` is the text of a
value with sorted keys, in a `Style`.
-/

namespace WisdoverseCell

open List Option

variable {k : String}

inductive NonFinite
  | nan
  | infinity
  | negInfinity
  deriving DecidableEq

inductive Json
  | null
  | bool (b : Bool)
  | int (n : Int)
  | float (q : ℚ)
  | nonFinite (x : NonFinite)
  | str (s : String)
  | arr (xs : List Json)
  | obj (kvs : List (String × Json))

abbrev JsonObj := List (String × Json)

namespace Json

/-! ### Decidable equality -/

mutual

def decEq : (a b : Json) → Decidable (a = b)
  | .null, .null => isTrue rfl
  | .bool a, .bool b => if h : a = b then isTrue (h ▸ rfl) else isFalse (fun e => h (Json.bool.inj e))
  | .int a, .int b => if h : a = b then isTrue (h ▸ rfl) else isFalse (fun e => h (Json.int.inj e))
  | .float a, .float b => if h : a = b then isTrue (h ▸ rfl) else isFalse (fun e => h (Json.float.inj e))
  | .nonFinite a, .nonFinite b =>
    if h : a = b then isTrue (h ▸ rfl) else isFalse (fun e => h (Json.nonFinite.inj e))
  | .str a, .str b => if h : a = b then isTrue (h ▸ rfl) else isFalse (fun e => h (Json.str.inj e))
  | .arr a, .arr b =>
    match decEqList a b with
    | isTrue h => isTrue (h ▸ rfl)
    | isFalse h => isFalse (fun e => h (Json.arr.inj e))
  | .obj a, .obj b =>
    match decEqObj a b with
    | isTrue h => isTrue (h ▸ rfl)
    | isFalse h => isFalse (fun e => h (Json.obj.inj e))
  | .null, .bool _ | .null, .int _ | .null, .float _ | .null, .nonFinite _ | .null, .str _ | .null, .arr _
  | .null, .obj _ | .bool _, .null | .bool _, .int _ | .bool _, .float _ | .bool _, .nonFinite _
  | .bool _, .str _ | .bool _, .arr _ | .bool _, .obj _ | .int _, .null | .int _, .bool _ | .int _, .float _
  | .int _, .nonFinite _ | .int _, .str _ | .int _, .arr _ | .int _, .obj _ | .float _, .null
  | .float _, .bool _ | .float _, .int _ | .float _, .nonFinite _ | .float _, .str _ | .float _, .arr _
  | .float _, .obj _ | .nonFinite _, .null | .nonFinite _, .bool _ | .nonFinite _, .int _
  | .nonFinite _, .float _ | .nonFinite _, .str _ | .nonFinite _, .arr _ | .nonFinite _, .obj _
  | .str _, .null | .str _, .bool _ | .str _, .int _ | .str _, .float _ | .str _, .nonFinite _
  | .str _, .arr _ | .str _, .obj _ | .arr _, .null | .arr _, .bool _ | .arr _, .int _ | .arr _, .float _
  | .arr _, .nonFinite _ | .arr _, .str _ | .arr _, .obj _ | .obj _, .null | .obj _, .bool _ | .obj _, .int _
  | .obj _, .float _ | .obj _, .nonFinite _ | .obj _, .str _ | .obj _, .arr _ => isFalse (fun e => nomatch e)

def decEqList : (a b : List Json) → Decidable (a = b)
  | [], [] => isTrue rfl
  | [], _ :: _ | _ :: _, [] => isFalse (fun e => nomatch e)
  | a :: as, b :: bs =>
    match decEq a b, decEqList as bs with
    | isTrue h, isTrue h' => isTrue (h ▸ h' ▸ rfl)
    | isFalse h, _ => isFalse (fun e => h (cons.inj e).1)
    | _, isFalse h => isFalse (fun e => h (cons.inj e).2)

def decEqObj : (a b : List (String × Json)) → Decidable (a = b)
  | [], [] => isTrue rfl
  | [], _ :: _ | _ :: _, [] => isFalse (fun e => nomatch e)
  | (k, a) :: as, (l, b) :: bs =>
    if hk : k = l then
      match decEq a b, decEqObj as bs with
      | isTrue h, isTrue h' => isTrue (hk ▸ h ▸ h' ▸ rfl)
      | isFalse h, _ => isFalse (fun e => h (Prod.mk.inj (cons.inj e).1).2)
      | _, isFalse h => isFalse (fun e => h (cons.inj e).2)
    else isFalse (fun e => hk (Prod.mk.inj (cons.inj e).1).1)

end

instance : DecidableEq Json := decEq

/-! ### Objects -/

def truthy : Json → Bool
  | .null => false
  | .bool b => b
  | .int n => n ≠ 0
  | .float q => q ≠ 0
  | .nonFinite _ => true
  | .str s => s ≠ ""
  | .arr xs => !xs.isEmpty
  | .obj kvs => !kvs.isEmpty

/-- The value as an integer, where a text is read by `parseInt` and a float is truncated. -/
def toInt (parseInt : String → Option Int) : Json → Option Int
  | .bool b => some (if b then 1 else 0)
  | .int n => some n
  | .float q => some (q.num.tdiv q.den)
  | .str s => parseInt s
  | .null | .nonFinite _ | .arr _ | .obj _ => none

end Json

variable {o : JsonObj} {v : Json}

namespace JsonObj

def set (o : JsonObj) (k : String) (v : Json) : JsonObj :=
  if o.any (fun kv => kv.1 = k) then o.map (fun kv => if kv.1 = k then (k, v) else kv) else o ++ [(k, v)]

def pop (o : JsonObj) (k : String) : JsonObj := o.filter (fun kv => kv.1 ≠ k)

def has (o : JsonObj) (k : String) : Bool := (o.lookup k).isSome

theorem has_eq_false : has o k = false ↔ o.lookup k = none := by
  rw [has, isSome_eq_false_iff, isNone_iff_eq_none]

theorem lookup_set_self (o k v) : (set o k v).lookup k = some v := by
  unfold set
  split
  · rename_i ha
    induction o with
    | nil => exact absurd ha (by simp)
    | cons kv o ih =>
      rw [map_cons]
      by_cases hk : kv.1 = k
      · rw [if_pos hk, lookup_cons, beq_self_eq_true]
      · rw [if_neg hk, lookup_cons, beq_false_of_ne (Ne.symm hk)]
        rw [any_cons, decide_eq_false hk, Bool.false_or] at ha
        exact ih ha
  · rename_i ha
    induction o with
    | nil => simp
    | cons kv o ih =>
      rw [any_cons, Bool.or_eq_true, decide_eq_true_eq, not_or] at ha
      rw [cons_append, lookup_cons, beq_false_of_ne (Ne.symm ha.1)]
      exact ih ha.2

theorem lookup_set_of_ne {k'} (h : k' ≠ k) : (set o k v).lookup k' = o.lookup k' := by
  unfold set
  split
  · clear * - h
    induction o with
    | nil => rfl
    | cons kv o ih =>
      rw [map_cons, lookup_cons, lookup_cons, ih]
      by_cases hk : kv.1 = k
      · rw [if_pos hk, hk, beq_false_of_ne h]
      · rw [if_neg hk]
  · rw [lookup_append, lookup_cons, beq_false_of_ne h, lookup_nil, or_none]

def Assigned (o : JsonObj) (k : String) (v : Json) : Prop :=
  o.any (fun kv => kv.1 = k) = true ∧ ∀ kv ∈ o, kv.1 = k → kv.2 = v

theorem any_set (o) (k k') (v) :
    (set o k v).any (fun kv => kv.1 = k') = (o.any (fun kv => kv.1 = k') || decide (k = k')) := by
  unfold set
  split
  · rename_i ha
    rw [Bool.eq_iff_iff]
    simp only [List.any_eq_true, List.mem_map, decide_eq_true_eq, Bool.or_eq_true] at ha ⊢
    constructor
    · rintro ⟨_, ⟨kv, hkv, rfl⟩, hk⟩
      split at hk
      · exact .inr hk
      · exact .inl ⟨kv, hkv, hk⟩
    · rintro (⟨kv, hkv, hk⟩ | rfl)
      · refine ⟨_, ⟨kv, hkv, rfl⟩, ?_⟩
        by_cases h : kv.1 = k
        · rw [if_pos h, ← h, hk]
        · rw [if_neg h, hk]
      · obtain ⟨kv, hkv, hk⟩ := ha
        exact ⟨_, ⟨kv, hkv, rfl⟩, by rw [if_pos hk]⟩
  · rw [any_append, any_cons, any_nil, Bool.or_false]

theorem of_mem_set {kv} (h : kv ∈ set o k v) : kv = (k, v) ∨ (kv ∈ o ∧ kv.1 ≠ k) := by
  unfold set at h
  split at h
  · obtain ⟨kv', hkv', rfl⟩ := mem_map.1 h
    by_cases hk : kv'.1 = k
    · exact .inl (if_pos hk)
    · rw [if_neg hk]
      exact .inr ⟨hkv', hk⟩
  · rename_i ha
    rcases mem_append.1 h with hkv | hkv
    · exact .inr ⟨hkv, fun hk => ha (any_eq_true.2 ⟨kv, hkv, decide_eq_true hk⟩)⟩
    · exact .inl (mem_singleton.1 hkv)

theorem assigned_set_self (o k v) : Assigned (set o k v) k v := by
  refine ⟨by rw [any_set, decide_eq_true rfl, Bool.or_true], ?_⟩
  intro kv hkv hk
  rcases of_mem_set hkv with rfl | ⟨-, hne⟩
  · rfl
  · exact absurd hk hne

theorem Assigned.set_of_ne {k'} (h : Assigned o k v) (hne : k ≠ k') (v') : Assigned (set o k' v') k v := by
  refine ⟨by rw [any_set, h.1, Bool.true_or], ?_⟩
  intro kv hkv hk
  rcases of_mem_set hkv with rfl | ⟨hkv, -⟩
  · exact absurd hk.symm hne
  · exact h.2 kv hkv hk

theorem Assigned.set_eq_self (h : Assigned o k v) : set o k v = o := by
  rw [set, if_pos h.1]
  refine (map_congr_left (g := id) fun kv hkv => ?_).trans (map_id o)
  by_cases hk : kv.1 = k
  · rw [if_pos hk, ← hk, ← h.2 kv hkv hk, id]
  · rw [if_neg hk, id]

theorem lookup_pop_self (o k) : (pop o k).lookup k = none := by
  rw [lookup_eq_none_iff]
  intro kv hkv
  have hne : kv.1 ≠ k := by simpa using (mem_filter.1 hkv).2
  exact bne_iff_ne.2 (Ne.symm hne)

theorem lookup_pop_of_ne (o) {k'} (h : k' ≠ k) : (pop o k).lookup k' = o.lookup k' := by
  induction o with
  | nil => rfl
  | cons kv o ih =>
    unfold pop at ih ⊢
    rw [filter_cons, lookup_cons]
    by_cases hk : kv.1 = k
    · rw [if_neg (by simpa using hk), ih, beq_false_of_ne (hk ▸ h)]
    · rw [if_pos (by simpa using hk), lookup_cons, ih]

theorem pop_eq_self (h : o.lookup k = none) : pop o k = o := by
  rw [lookup_eq_none_iff] at h
  exact filter_eq_self.2 (fun kv hkv => decide_eq_true (Ne.symm (bne_iff_ne.1 (h kv hkv))))

end JsonObj

/-! ### Text -/

namespace Json

structure Style where
  itemSep : List Char
  keySep : List Char
  ascii : Bool
  allowNan : Bool

def hex4 (n : Nat) : List Char :=
  [Nat.digitChar (n / 4096 % 16), Nat.digitChar (n / 256 % 16), Nat.digitChar (n / 16 % 16), Nat.digitChar (n % 16)]

/-- One character of a string literal; a character outside the basic plane is a pair of surrogates. -/
def escapeChar (ascii : Bool) (c : Char) : List Char :=
  if c = '"' then ['\\', '"']
  else if c = '\\' then ['\\', '\\']
  else if c = '\n' then ['\\', 'n']
  else if c = '\r' then ['\\', 'r']
  else if c = '\t' then ['\\', 't']
  else if c.toNat = 8 then ['\\', 'b']
  else if c.toNat = 12 then ['\\', 'f']
  else if c.toNat < 32 ∨ (ascii = true ∧ 126 < c.toNat) then
    if c.toNat < 65536 then ['\\', 'u'] ++ hex4 c.toNat
    else
      ['\\', 'u'] ++ hex4 (55296 + (c.toNat - 65536) / 1024) ++ ['\\', 'u'] ++ hex4 (56320 + (c.toNat - 65536) % 1024)
  else [c]

def stringText (ascii : Bool) (s : String) : List Char :=
  ['"'] ++ s.toList.flatMap (escapeChar ascii) ++ ['"']

def intText : Int → List Char
  | .ofNat n => Nat.toDigits 10 n
  | .negSucc n => '-' :: Nat.toDigits 10 (n + 1)

def nonFiniteText : NonFinite → List Char
  | .nan => ['N', 'a', 'N']
  | .infinity => ['I', 'n', 'f', 'i', 'n', 'i', 't', 'y']
  | .negInfinity => ['-', 'I', 'n', 'f', 'i', 'n', 'i', 't', 'y']

def join (sep : List Char) : List (List Char) → List Char
  | [] => []
  | [x] => x
  | x :: xs => x ++ sep ++ join sep xs

mutual

/-- The text of a value as it stands, without sorting keys; `floatText` prints a finite float. -/
def text (st : Style) (floatText : ℚ → String) : Json → List Char
  | .null => ['n', 'u', 'l', 'l']
  | .bool true => ['t', 'r', 'u', 'e']
  | .bool false => ['f', 'a', 'l', 's', 'e']
  | .int n => intText n
  | .float q => (floatText q).toList
  | .nonFinite x => nonFiniteText x
  | .str s => stringText st.ascii s
  | .arr xs => ['['] ++ join st.itemSep (texts st floatText xs) ++ [']']
  | .obj kvs => ['{'] ++ join st.itemSep (members st floatText kvs) ++ ['}']

def texts (st : Style) (floatText : ℚ → String) : List Json → List (List Char)
  | [] => []
  | x :: xs => text st floatText x :: texts st floatText xs

def members (st : Style) (floatText : ℚ → String) : List (String × Json) → List (List Char)
  | [] => []
  | (k, v) :: kvs => (stringText st.ascii k ++ st.keySep ++ text st floatText v) :: members st floatText kvs

end

mutual

def sortKeys : Json → Json
  | .arr xs => .arr (sortKeysList xs)
  | .obj kvs => .obj ((sortKeysObj kvs).insertionSort (fun a b => a.1 ≤ b.1))
  | .null => .null
  | .bool b => .bool b
  | .int n => .int n
  | .float q => .float q
  | .nonFinite x => .nonFinite x
  | .str s => .str s

def sortKeysList : List Json → List Json
  | [] => []
  | x :: xs => sortKeys x :: sortKeysList xs

def sortKeysObj : List (String × Json) → List (String × Json)
  | [] => []
  | (k, v) :: kvs => (k, sortKeys v) :: sortKeysObj kvs

end

mutual

def isFinite : Json → Bool
  | .nonFinite _ => false
  | .arr xs => isFiniteList xs
  | .obj kvs => isFiniteObj kvs
  | .null | .bool _ | .int _ | .float _ | .str _ => true

def isFiniteList : List Json → Bool
  | [] => true
  | x :: xs => isFinite x && isFiniteList xs

def isFiniteObj : List (String × Json) → Bool
  | [] => true
  | (_, v) :: kvs => isFinite v && isFiniteObj kvs

end

/-- The text of a value with sorted keys; `none` when the style refuses one of its floats. -/
def dumps (st : Style) (floatText : ℚ → String) (j : Json) : Option String :=
  if st.allowNan || j.isFinite then some (String.ofList (text st floatText j.sortKeys)) else none

end Json

end WisdoverseCell
