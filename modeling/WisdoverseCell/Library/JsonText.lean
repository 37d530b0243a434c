import WisdoverseCell.Library.Json

/-!
# The text of a JSON value determines it

Two finite values with the same text are equal, for every style that separates items by commas.  With sorted keys the
text determines the value up to the order of members (`dumps_inj`), and with it every member
(`lookup_of_sortKeys_eq`).
-/

namespace WisdoverseCell.Json

open List

/-! ### Strings -/

def hexValue (c : Char) : Nat := if c.isDigit then c.toNat - 48 else c.toNat - 87

theorem hexValue_digitChar : ∀ d, d < 16 → hexValue (Nat.digitChar d) = d := by decide

def readHex4 (a b c d : Char) : Nat := hexValue a * 4096 + hexValue b * 256 + hexValue c * 16 + hexValue d

def unescape : List Char → Option (Char × List Char)
  | '\\' :: 'n' :: r => some ('\n', r)
  | '\\' :: 'r' :: r => some ('\r', r)
  | '\\' :: 't' :: r => some ('\t', r)
  | '\\' :: 'b' :: r => some (Char.ofNat 8, r)
  | '\\' :: 'f' :: r => some (Char.ofNat 12, r)
  | '\\' :: 'u' :: a :: b :: c :: d :: r =>
    let n := readHex4 a b c d
    -- the first half of a pair of surrogates
    if 55296 ≤ n ∧ n < 56320 then
      match r with
      | '\\' :: 'u' :: a' :: b' :: c' :: d' :: r' =>
        some (Char.ofNat (65536 + (n - 55296) * 1024 + (readHex4 a' b' c' d' - 56320)), r')
      | _ => none
    else some (Char.ofNat n, r)
  | '\\' :: c :: r => some (c, r)
  | c :: r => some (c, r)
  | [] => none

theorem readHex4_hex4 {n} (hn : n < 65536) :
    readHex4 (Nat.digitChar (n / 4096 % 16)) (Nat.digitChar (n / 256 % 16)) (Nat.digitChar (n / 16 % 16))
      (Nat.digitChar (n % 16)) = n := by
  unfold readHex4
  rw [hexValue_digitChar _ (Nat.mod_lt _ (by decide)), hexValue_digitChar _ (Nat.mod_lt _ (by decide)),
    hexValue_digitChar _ (Nat.mod_lt _ (by decide)), hexValue_digitChar _ (Nat.mod_lt _ (by decide))]
  omega

theorem unescape_unit {n} (hn : n < 65536) (hs : ¬ (55296 ≤ n ∧ n < 56320)) (r) :
    unescape (['\\', 'u'] ++ hex4 n ++ r) = some (Char.ofNat n, r) := by
  simp only [hex4, cons_append, nil_append, unescape, readHex4_hex4 hn, if_neg hs]

theorem unescape_pair {n m} (hn : 55296 ≤ n ∧ n < 56320) (hm : m < 65536) (r) :
    unescape (['\\', 'u'] ++ hex4 n ++ ['\\', 'u'] ++ hex4 m ++ r) =
      some (Char.ofNat (65536 + (n - 55296) * 1024 + (m - 56320)), r) := by
  have hn' : n < 65536 := hn.2.trans (by decide)
  simp only [hex4, cons_append, nil_append, unescape, readHex4_hex4 hn', readHex4_hex4 hm, if_pos hn]

theorem not_surrogate (c : Char) : c.toNat < 55296 ∨ 57343 < c.toNat := by
  rcases c.valid with h | h
  · exact .inl h
  · exact .inr h.1

theorem toNat_lt (c : Char) : c.toNat < 1114112 := by
  rcases c.valid with h | h
  · exact lt_trans h (by decide)
  · exact h.2

theorem unescape_escapeChar (ascii : Bool) (c : Char) (r) : unescape (escapeChar ascii c ++ r) = some (c, r) := by
  unfold escapeChar
  split
  · subst_vars; rfl
  split
  · subst_vars; rfl
  split
  · subst_vars; rfl
  split
  · subst_vars; rfl
  split
  · subst_vars; rfl
  split
  · rename_i h
    rw [← Char.ofNat_toNat c, h]
    rfl
  split
  · rename_i h
    rw [← Char.ofNat_toNat c, h]
    rfl
  split
  · split
    · rename_i hb
      have hp := not_surrogate c
      rw [unescape_unit hb (by omega), Char.ofNat_toNat]
    · rename_i ha
      have hlt := toNat_lt c
      rw [unescape_pair (by omega) (by omega)]
      have hc : 65536 + (55296 + (c.toNat - 65536) / 1024 - 55296) * 1024 +
          (56320 + (c.toNat - 65536) % 1024 - 56320) = c.toNat := by omega
      rw [hc, Char.ofNat_toNat]
  · rename_i hs _ _ _ _ _ _
    rw [singleton_append, unescape.eq_def]
    split <;> simp_all

theorem escaped_inj {ascii : Bool} {s s' r r' : List Char}
    (h : s.flatMap (escapeChar ascii) ++ '"' :: r = s'.flatMap (escapeChar ascii) ++ '"' :: r') : s = s' ∧ r = r' := by
  -- no character of a string is printed as the closing quote
  have hq (c : Char) (x : List Char) : escapeChar ascii c ++ x ≠ '"' :: r ∧ escapeChar ascii c ++ x ≠ '"' :: r' := by
    unfold escapeChar
    split_ifs <;> simp_all
  induction s generalizing s' with
  | nil =>
    cases s' with
    | nil => simpa using h
    | cons c =>
      rw [flatMap_cons, append_assoc] at h
      exact absurd h.symm (hq c _).1
  | cons c s ih =>
    cases s' with
    | nil =>
      rw [flatMap_cons, append_assoc] at h
      exact absurd h (hq c _).2
    | cons =>
      rw [flatMap_cons, flatMap_cons, append_assoc, append_assoc] at h
      have hr := congrArg unescape h
      rw [unescape_escapeChar, unescape_escapeChar, Option.some.injEq, Prod.mk.injEq] at hr
      obtain ⟨rfl, ht⟩ := hr
      obtain ⟨rfl, rfl⟩ := ih ht
      exact ⟨rfl, rfl⟩

theorem stringText_inj {ascii : Bool} {s s' : String} {r r' : List Char}
    (h : stringText ascii s ++ r = stringText ascii s' ++ r') : s = s' ∧ r = r' := by
  simp only [stringText, append_assoc, cons_append, nil_append, cons.injEq, true_and] at h
  obtain ⟨hs, hr⟩ := escaped_inj h
  exact ⟨String.toList_injective hs, hr⟩

/-! ### Numbers -/

def numeric (c : Char) : Bool := c.isDigit || c = '-' || c = '+' || c = '.' || c = 'e'

/-- How floats are printed: by numeric characters, no two alike and none like an integer. -/
structure FloatText (floatText : ℚ → String) : Prop where
  injective : Function.Injective floatText
  nonempty : ∀ q, (floatText q).toList ≠ []
  chars : ∀ q, ∀ c ∈ (floatText q).toList, numeric c = true
  notInt : ∀ q n, (floatText q).toList ≠ intText n

def Stops (r : List Char) : Prop := ∀ c ∈ r.head?, numeric c = false

theorem stops_nil : Stops [] := fun _ h => nomatch h

theorem takeWhile_numeric {t r} (ht : ∀ c ∈ t, numeric c = true) (hr : Stops r) : (t ++ r).takeWhile numeric = t := by
  induction t with
  | nil =>
    cases r with
    | nil => rfl
    | cons c => simp [hr c rfl]
  | cons c t ih =>
    rw [cons_append, takeWhile_cons_of_pos (ht c mem_cons_self), ih (fun x hx => ht x (mem_cons_of_mem _ hx))]

theorem number_inj {t t' r r'} (ht : ∀ c ∈ t, numeric c = true) (ht' : ∀ c ∈ t', numeric c = true)
    (hr : Stops r) (hr' : Stops r') (h : t ++ r = t' ++ r') : t = t' ∧ r = r' := by
  have htt : t = t' := by rw [← takeWhile_numeric ht hr, h, takeWhile_numeric ht' hr']
  subst htt
  exact ⟨rfl, append_cancel_left h⟩

theorem toDigits_inj {n m} (h : Nat.toDigits 10 n = Nat.toDigits 10 m) : n = m := by
  have hr := congrArg (fun ds => Nat.ofDigitChars 10 ds 0) h
  simpa only [Nat.ofDigitChars_toDigits (by decide : 1 < 10) (by decide : 10 ≤ 10)] using hr

theorem isDigit_of_mem_toDigits {n c} (h : c ∈ Nat.toDigits 10 n) : c.isDigit = true :=
  Nat.isDigit_of_mem_toDigits (by decide) (by decide) h

theorem intText_ne_nil (n) : intText n ≠ [] := by
  cases n with
  | ofNat => exact Nat.toDigits_ne_nil
  | negSucc => exact cons_ne_nil _ _

theorem numeric_intText (n) : ∀ c ∈ intText n, numeric c = true := by
  have hd (m : Nat) (c : Char) (hc : c ∈ Nat.toDigits 10 m) : numeric c = true := by
    simp [numeric, isDigit_of_mem_toDigits hc]
  intro c hc
  cases n with
  | ofNat n => exact hd n c hc
  | negSucc n =>
    rcases mem_cons.1 hc with rfl | hc
    · rfl
    · exact hd (n + 1) c hc

theorem intText_inj {n m} (h : intText n = intText m) : n = m := by
  -- a sign is no digit
  have hs (a b : Nat) : Nat.toDigits 10 a ≠ '-' :: Nat.toDigits 10 b := by
    intro heq
    have hd : ('-' : Char).isDigit = true := isDigit_of_mem_toDigits (n := a) (by rw [heq]; exact mem_cons_self)
    exact absurd hd (by decide)
  cases n <;> cases m
  · exact congrArg Int.ofNat (toDigits_inj h)
  · exact absurd h (hs _ _)
  · exact absurd h.symm (hs _ _)
  · exact congrArg Int.negSucc (Nat.succ.inj (toDigits_inj (cons.inj h).2))

theorem toList_toString_int (n) : (toString n).toList = intText n := by
  cases n with
  | ofNat => exact String.toList_ofList
  | negSucc n =>
    change ("-" ++ String.ofList (Nat.toDigits 10 (n + 1))).toList = _
    rw [String.toList_append]
    exact congrArg ("-".toList ++ ·) String.toList_ofList

theorem toString_int_inj {n m : Int} (h : toString n = toString m) : n = m := by
  have ht := congrArg String.toList h
  rw [toList_toString_int, toList_toString_int] at ht
  exact intText_inj ht

/-- A way to print rationals: numerator, point, denominator. -/
def fractionText (q : ℚ) : String := String.ofList (intText q.num ++ '.' :: Nat.toDigits 10 q.den)

theorem point_notMem_intText (n) : '.' ∉ intText n := by
  intro hm
  cases n with
  | ofNat => exact absurd (isDigit_of_mem_toDigits hm) (by decide)
  | negSucc =>
    rcases mem_cons.1 hm with hm | hm
    · exact absurd hm (by decide)
    · exact absurd (isDigit_of_mem_toDigits hm) (by decide)

theorem floatText_fractionText : FloatText fractionText := by
  have ht (q : ℚ) : (fractionText q).toList = intText q.num ++ '.' :: Nat.toDigits 10 q.den := String.toList_ofList
  refine ⟨fun q q' h => ?_, fun q => ?_, fun q c hc => ?_, fun q n h => ?_⟩
  · have htx := congrArg String.toList h
    rw [ht, ht] at htx
    have hn (q : ℚ) : '.' ∉ Nat.toDigits 10 q.den := fun hm => absurd (isDigit_of_mem_toDigits hm) (by decide)
    obtain ⟨hnm, -, hd⟩ := (append_cons_inj_of_notMem (point_notMem_intText q.num) (hn q)).1 htx
    exact Rat.ext (intText_inj hnm) (toDigits_inj hd)
  · rw [ht]
    exact append_ne_nil_of_right_ne_nil _ (cons_ne_nil _ _)
  · rw [ht] at hc
    rcases mem_append.1 hc with hc | hc
    · exact numeric_intText _ c hc
    · rcases mem_cons.1 hc with rfl | hc
      · decide
      · simp [numeric, isDigit_of_mem_toDigits hc]
  · rw [ht] at h
    exact point_notMem_intText n (h ▸ mem_append_right _ mem_cons_self)

/-! ### Values -/

/-- The kind of a value, and what its text starts with. -/
inductive Kind
  | null
  | bool (b : Bool)
  | number
  | str
  | arr
  | obj
  | other
  deriving DecidableEq

def kind : Json → Kind
  | .null => .null
  | .bool b => .bool b
  | .int _ | .float _ => .number
  | .nonFinite _ => .other
  | .str _ => .str
  | .arr _ => .arr
  | .obj _ => .obj

def kindOf (c : Char) : Kind :=
  if c = 'n' then .null else if c = 't' then .bool true else if c = 'f' then .bool false else if numeric c then .number
  else if c = '"' then .str else if c = '[' then .arr else if c = '{' then .obj else .other

theorem kindOf_numeric {c : Char} (h : numeric c = true) : kindOf c = .number := by
  have hne (d : Char) (hd : numeric d = false) : c ≠ d := by
    rintro rfl
    rw [h] at hd
    exact absurd hd (by decide)
  simp [kindOf, hne 'n' (by decide), hne 't' (by decide), hne 'f' (by decide), h]

theorem kind_ne_other {j : Json} (hj : j.isFinite = true) : j.kind ≠ .other := by
  cases j with
  | nonFinite => exact absurd hj (by simp [isFinite])
  | _ => exact Kind.noConfusion

/-- A style that separates items by commas. -/
structure Style.Plain (st : Style) : Prop where
  item : ∃ sep, st.itemSep = ',' :: sep

section

variable {st : Style} {floatText : ℚ → String}

theorem exists_head_text (hf : FloatText floatText) {j : Json} (hj : j.isFinite = true) :
    ∃ c t, text st floatText j = c :: t ∧ kindOf c = j.kind := by
  have hn {t : List Char} (hne : t ≠ []) (ht : ∀ c ∈ t, numeric c = true) :
      ∃ c t', t = c :: t' ∧ kindOf c = .number := by
    obtain ⟨c, t', rfl⟩ := exists_cons_of_ne_nil hne
    exact ⟨c, t', rfl, kindOf_numeric (ht c mem_cons_self)⟩
  cases j with
  | null => exact ⟨'n', _, rfl, by decide⟩
  | bool b =>
    cases b with
    | true => exact ⟨'t', _, rfl, by decide⟩
    | false => exact ⟨'f', _, rfl, by decide⟩
  | int n => exact hn (intText_ne_nil n) (numeric_intText n)
  | float q => exact hn (hf.nonempty q) (hf.chars q)
  | nonFinite => exact absurd hj (by simp [isFinite])
  | str => exact ⟨'"', _, rfl, (by decide : kindOf '"' = .str)⟩
  | arr => exact ⟨'[', _, rfl, (by decide : kindOf '[' = .arr)⟩
  | obj => exact ⟨'{', _, rfl, (by decide : kindOf '{' = .obj)⟩

theorem kind_eq_of_text (hf : FloatText floatText) {j k} (hj : j.isFinite = true) (hk : k.isFinite = true)
    {r r'} (h : text st floatText j ++ r = text st floatText k ++ r') : j.kind = k.kind := by
  obtain ⟨c, t, hc, hkn⟩ := @exists_head_text st floatText hf j hj
  obtain ⟨c', t', hc', hk'⟩ := @exists_head_text st floatText hf k hk
  rw [hc, hc'] at h
  rw [← hkn, ← hk', (cons.inj h).1]

def afterItem (sep : List Char) (close : Char) (items : List (List Char)) (r : List Char) : List Char :=
  match items with
  | [] => close :: r
  | y :: ys => sep ++ (join sep (y :: ys) ++ close :: r)

theorem join_cons_append (sep close x items r) :
    join sep (x :: items) ++ close :: r = x ++ afterItem sep close items r := by
  cases items with
  | nil => rfl
  | cons => simp [join, afterItem]

theorem stops_afterItem {sep close} (hcl : numeric close = false) (items r) :
    Stops (afterItem (',' :: sep) close items r) := by
  intro c hc
  cases items with
  | nil =>
    cases hc
    exact hcl
  | cons =>
    cases hc
    rfl

theorem join_eq_of_afterItem {sep close} (hc : close ≠ ',') {items items' r r'}
    (h : afterItem (',' :: sep) close items r = afterItem (',' :: sep) close items' r') :
    join (',' :: sep) items ++ close :: r = join (',' :: sep) items' ++ close :: r' := by
  cases items <;> cases items'
  · exact h
  · exact absurd (cons.inj h).1 hc
  · exact absurd (cons.inj h).1.symm hc
  · exact append_cancel_left h

mutual

theorem text_inj (hst : st.Plain) (hf : FloatText floatText) (j k) (hj : j.isFinite = true)
    (hk : k.isFinite = true) {r r'} (hr : Stops r) (hr' : Stops r')
    (h : text st floatText j ++ r = text st floatText k ++ r') : j = k ∧ r = r' := by
  have hkn := kind_eq_of_text hf hj hk h
  cases j with
  | null =>
    cases k with
    | null => exact ⟨rfl, append_cancel_left h⟩
    | _ => cases hkn
  | bool =>
    cases k with
    | bool =>
      obtain rfl := Kind.bool.inj hkn
      exact ⟨rfl, append_cancel_left h⟩
    | _ => cases hkn
  | int n =>
    cases k with
    | int m =>
      obtain ⟨ht, hrs⟩ := number_inj (numeric_intText n) (numeric_intText m) hr hr' h
      exact ⟨congrArg Json.int (intText_inj ht), hrs⟩
    | float q =>
      obtain ⟨ht, -⟩ := number_inj (numeric_intText n) (hf.chars q) hr hr' h
      exact absurd ht.symm (hf.notInt q n)
    | _ => cases hkn
  | float q =>
    cases k with
    | int n =>
      obtain ⟨ht, -⟩ := number_inj (hf.chars q) (numeric_intText n) hr hr' h
      exact absurd ht (hf.notInt q n)
    | float q' =>
      obtain ⟨ht, hrs⟩ := number_inj (hf.chars q) (hf.chars q') hr hr' h
      exact ⟨congrArg Json.float (hf.injective (String.toList_injective ht)), hrs⟩
    | _ => cases hkn
  | nonFinite => exact absurd hj (by simp [isFinite])
  | str =>
    cases k with
    | str =>
      obtain ⟨rfl, hrs⟩ := stringText_inj h
      exact ⟨rfl, hrs⟩
    | _ => cases hkn
  | arr xs =>
    cases k with
    | arr ys =>
      simp only [text, append_assoc, cons_append, nil_append, cons.injEq, true_and] at h
      obtain ⟨hxs, hrs⟩ := texts_inj hst hf xs ys hj hk h
      exact ⟨congrArg Json.arr hxs, hrs⟩
    | _ => cases hkn
  | obj kvs =>
    cases k with
    | obj kvs' =>
      simp only [text, append_assoc, cons_append, nil_append, cons.injEq, true_and] at h
      obtain ⟨hkv, hrs⟩ := members_inj hst hf kvs kvs' hj hk h
      exact ⟨congrArg Json.obj hkv, hrs⟩
    | _ => cases hkn

theorem texts_inj (hst : st.Plain) (hf : FloatText floatText) (xs ys) (hxs : isFiniteList xs = true)
    (hys : isFiniteList ys = true) {r r'}
    (h : join st.itemSep (texts st floatText xs) ++ ']' :: r = join st.itemSep (texts st floatText ys) ++ ']' :: r') :
    xs = ys ∧ r = r' := by
  -- no value starts with the closing bracket
  have hcl (j : Json) (hj : j.isFinite = true) (t u : List Char) : text st floatText j ++ t ≠ ']' :: u := by
    obtain ⟨c, t', hc, hk⟩ := @exists_head_text st floatText hf j hj
    rw [hc]
    intro heq
    rw [(cons.inj heq).1] at hk
    exact kind_ne_other hj hk.symm
  obtain ⟨sep, hs⟩ := hst.item
  rw [hs] at h
  cases xs with
  | nil =>
    cases ys with
    | nil => exact ⟨rfl, (cons.inj h).2⟩
    | cons y =>
      rw [isFiniteList, Bool.and_eq_true] at hys
      rw [texts, texts, join_cons_append] at h
      exact absurd h.symm (hcl y hys.1 _ _)
  | cons x xs =>
    rw [isFiniteList, Bool.and_eq_true] at hxs
    rw [texts, join_cons_append] at h
    cases ys with
    | nil => exact absurd h (hcl x hxs.1 _ _)
    | cons y ys =>
      rw [isFiniteList, Bool.and_eq_true] at hys
      rw [texts, join_cons_append] at h
      obtain ⟨rfl, hrs⟩ := text_inj hst hf x y hxs.1 hys.1 (stops_afterItem rfl _ _) (stops_afterItem rfl _ _) h
      have hjn := join_eq_of_afterItem (by decide) hrs
      rw [← hs] at hjn
      obtain ⟨rfl, hr⟩ := texts_inj hst hf xs ys hxs.2 hys.2 hjn
      exact ⟨rfl, hr⟩

theorem members_inj (hst : st.Plain) (hf : FloatText floatText) (kvs kvs')
    (hk : isFiniteObj kvs = true) (hk' : isFiniteObj kvs' = true) {r r'}
    (h : join st.itemSep (members st floatText kvs) ++ '}' :: r =
      join st.itemSep (members st floatText kvs') ++ '}' :: r') : kvs = kvs' ∧ r = r' := by
  obtain ⟨sep, hs⟩ := hst.item
  rw [hs] at h
  cases kvs with
  | nil =>
    cases kvs' with
    | nil => exact ⟨rfl, (cons.inj h).2⟩
    | cons =>
      rw [members, members, join_cons_append] at h
      exact absurd (cons.inj h).1 (by decide)
  | cons kv kvs =>
    obtain ⟨k, v⟩ := kv
    rw [isFiniteObj, Bool.and_eq_true] at hk
    rw [members, join_cons_append] at h
    cases kvs' with
    | nil => exact absurd (cons.inj h).1 (by decide)
    | cons kv' kvs' =>
      obtain ⟨k', v'⟩ := kv'
      rw [isFiniteObj, Bool.and_eq_true] at hk'
      rw [members, join_cons_append, append_assoc, append_assoc, append_assoc, append_assoc] at h
      obtain ⟨rfl, ht⟩ := stringText_inj h
      obtain ⟨rfl, hrs⟩ := text_inj hst hf v v' hk.1 hk'.1 (stops_afterItem rfl _ _) (stops_afterItem rfl _ _)
        (append_cancel_left ht)
      have hj := join_eq_of_afterItem (by decide) hrs
      rw [← hs] at hj
      obtain ⟨rfl, hr⟩ := members_inj hst hf kvs kvs' hk.2 hk'.2 hj
      exact ⟨rfl, hr⟩

end

/-! ### Sorted keys -/

theorem isFiniteObj_eq_all (kvs) : isFiniteObj kvs = kvs.all (fun kv => kv.2.isFinite) := by
  induction kvs with
  | nil => rfl
  | cons kv kvs ih => rw [isFiniteObj, ih, all_cons]

mutual

theorem isFinite_sortKeys (j : Json) : j.sortKeys.isFinite = j.isFinite := by
  cases j with
  | arr xs => exact isFiniteList_sortKeysList xs
  | obj kvs =>
    rw [sortKeys, isFinite, isFiniteObj_eq_all, (perm_insertionSort _ _).all_eq, ← isFiniteObj_eq_all]
    exact isFiniteObj_sortKeysObj kvs
  | _ => rfl

theorem isFiniteList_sortKeysList (xs) : isFiniteList (sortKeysList xs) = isFiniteList xs := by
  cases xs with
  | nil => rfl
  | cons x xs => rw [sortKeysList, isFiniteList, isFiniteList, isFinite_sortKeys x, isFiniteList_sortKeysList xs]

theorem isFiniteObj_sortKeysObj (kvs) : isFiniteObj (sortKeysObj kvs) = isFiniteObj kvs := by
  cases kvs with
  | nil => rfl
  | cons kv kvs => rw [sortKeysObj, isFiniteObj, isFiniteObj, isFinite_sortKeys kv.2, isFiniteObj_sortKeysObj kvs]

end

theorem dumps_eq_some (hn : st.allowNan = false) {j s} (h : dumps st floatText j = some s) :
    j.isFinite = true ∧ text st floatText j.sortKeys = s.toList := by
  unfold dumps at h
  rw [hn, Bool.false_or] at h
  split at h
  · rename_i hf
    cases h
    exact ⟨hf, (String.toList_ofList).symm⟩
  · cases h

theorem dumps_inj (hst : st.Plain) (hn : st.allowNan = false) (hf : FloatText floatText) {j k s}
    (hj : dumps st floatText j = some s) (hk : dumps st floatText k = some s) : j.sortKeys = k.sortKeys := by
  obtain ⟨hjf, hjt⟩ := dumps_eq_some hn hj
  obtain ⟨hkf, hkt⟩ := dumps_eq_some hn hk
  rw [← isFinite_sortKeys] at hjf hkf
  refine (text_inj hst hf _ _ hjf hkf stops_nil stops_nil ?_).1
  rw [hjt, hkt]

/-- Sorting by key keeps the first member of every key first. -/
theorem lookup_orderedInsert (k : String) (kv : String × Json) (kvs) :
    (kvs.orderedInsert (fun a b => a.1 ≤ b.1) kv).lookup k = (kv :: kvs).lookup k := by
  induction kvs with
  | nil => rfl
  | cons kv' kvs ih =>
    rw [orderedInsert_cons]
    split
    · rfl
    · rename_i hle
      rw [lookup_cons, ih, lookup_cons, lookup_cons, lookup_cons]
      by_cases hk : k = kv.1
      · have hne : kv.1 ≠ kv'.1 := fun h => hle (h ▸ String.le_refl _)
        rw [hk, beq_self_eq_true, beq_false_of_ne hne]
      · rw [beq_false_of_ne hk]

theorem lookup_insertionSort (k : String) (kvs : List (String × Json)) :
    (kvs.insertionSort (fun a b => a.1 ≤ b.1)).lookup k = kvs.lookup k := by
  induction kvs with
  | nil => rfl
  | cons kv kvs ih => rw [insertionSort_cons, lookup_orderedInsert, lookup_cons, lookup_cons, ih]

theorem lookup_sortKeysObj (k kvs) : (sortKeysObj kvs).lookup k = (kvs.lookup k).map sortKeys := by
  induction kvs with
  | nil => rfl
  | cons kv kvs ih =>
    rw [sortKeysObj, lookup_cons, lookup_cons, ih]
    cases k == kv.1 <;> rfl

/-- Objects that are the same up to the order of members have the same members. -/
theorem lookup_of_sortKeys_eq {kvs kvs'} (h : (obj kvs).sortKeys = (obj kvs').sortKeys)
    (k : String) : (kvs.lookup k).map sortKeys = (kvs'.lookup k).map sortKeys := by
  rw [sortKeys, sortKeys] at h
  rw [← lookup_sortKeysObj, ← lookup_sortKeysObj, ← lookup_insertionSort, Json.obj.inj h, lookup_insertionSort]

end

end WisdoverseCell.Json
