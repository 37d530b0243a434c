import Mathlib.Data.List.Basic

/-!
# Base64

The standard encoding and two decoders.  `decode` takes whole groups with canonical padding only, and a parameter says
whether bits behind the last byte may be set.  `a2bBase64` skips what is not in the alphabet and stops at a complete
padding.  Both invert `encode`.
-/

namespace WisdoverseCell.Base64

open List Option

variable {n : Nat} {c : Char}

def digit (n : Nat) : Char :=
  if n < 26 then Char.ofNat (65 + n)
  else if n < 52 then Char.ofNat (71 + n)
  else if n < 62 then Char.ofNat (n - 4)
  else if n = 62 then '+'
  else '/'

def sextet (c : Char) : Option Nat :=
  if 65 ≤ c.toNat ∧ c.toNat ≤ 90 then some (c.toNat - 65)
  else if 97 ≤ c.toNat ∧ c.toNat ≤ 122 then some (c.toNat - 71)
  else if 48 ≤ c.toNat ∧ c.toNat ≤ 57 then some (c.toNat + 4)
  else if c = '+' then some 62
  else if c = '/' then some 63
  else none

theorem sextet_digit (h : n < 64) : sextet (digit n) = some n := by
  have ha : ∀ n : Fin 64, sextet (digit n) = some n.1 := by decide
  exact ha ⟨n, h⟩

theorem digit_ne_pad (h : n < 64) : digit n ≠ '=' := by
  have ha : ∀ n : Fin 64, digit n ≠ '=' := by decide
  exact ha ⟨n, h⟩

theorem digit_ascii (h : n < 64) : (digit n).toNat < 128 := by
  have ha : ∀ n : Fin 64, (digit n).toNat < 128 := by decide
  exact ha ⟨n, h⟩

theorem ascii_of_sextet (h : sextet c = some n) : c.toNat < 128 := by
  unfold sextet at h
  split at h
  · omega
  split at h
  · omega
  split at h
  · omega
  split at h
  · subst c
    decide
  split at h
  · subst c
    decide
  · cases h

theorem ne_pad_of_sextet (h : sextet c = some n) : c ≠ '=' := by
  rintro rfl
  have hn : sextet '=' = none := by decide
  rw [hn] at h
  cases h

/-! ### Bytes of a group -/

def first (a b : Nat) : UInt8 := UInt8.ofNat (a * 4 + b / 16)

def second (b c : Nat) : UInt8 := UInt8.ofNat (b % 16 * 16 + c / 4)

def third (c d : Nat) : UInt8 := UInt8.ofNat (c % 4 * 64 + d)

theorem ofNat_eq_of_toNat {x} (h : n = x.toNat) : UInt8.ofNat n = x := by
  rw [h]
  exact UInt8.ofNat_toNat

theorem first_split (x y : UInt8) : first (x.toNat / 4) (x.toNat % 4 * 16 + y.toNat / 16) = x := by
  have hy := y.toNat_lt
  exact ofNat_eq_of_toNat (by omega)

theorem first_split_last (x) : first (x.toNat / 4) (x.toNat % 4 * 16) = x := ofNat_eq_of_toNat (by omega)

theorem second_split (x y z : UInt8) :
    second (x.toNat % 4 * 16 + y.toNat / 16) (y.toNat % 16 * 4 + z.toNat / 64) = y := by
  have hy := y.toNat_lt
  have hz := z.toNat_lt
  exact ofNat_eq_of_toNat (by omega)

theorem second_split_last (x y : UInt8) : second (x.toNat % 4 * 16 + y.toNat / 16) (y.toNat % 16 * 4) = y := by
  have hy := y.toNat_lt
  exact ofNat_eq_of_toNat (by omega)

theorem third_split (y z : UInt8) : third (y.toNat % 16 * 4 + z.toNat / 64) (z.toNat % 64) = z := by
  have hz := z.toNat_lt
  exact ofNat_eq_of_toNat (by omega)

def encode : List UInt8 → List Char
  | [] => []
  | [x] => [digit (x.toNat / 4), digit (x.toNat % 4 * 16), '=', '=']
  | [x, y] => [digit (x.toNat / 4), digit (x.toNat % 4 * 16 + y.toNat / 16), digit (y.toNat % 16 * 4), '=']
  | x :: y :: z :: rest =>
    digit (x.toNat / 4) :: digit (x.toNat % 4 * 16 + y.toNat / 16) :: digit (y.toNat % 16 * 4 + z.toNat / 64) ::
      digit (z.toNat % 64) :: encode rest

/-! ### Whole groups -/

def decodeLast (trailing : Bool) (a b c d : Char) : Option (List UInt8) := do
  let x ← sextet a
  let y ← sextet b
  if c = '=' ∧ d = '=' then
    if trailing ∨ y % 16 = 0 then some [first x y] else none
  else do
    let z ← sextet c
    if d = '=' then
      if trailing ∨ z % 4 = 0 then some [first x y, second y z] else none
    else do
      let w ← sextet d
      some [first x y, second y z, third z w]

def decode (trailing : Bool) : List Char → Option (List UInt8)
  | [] => some []
  | [a, b, c, d] => decodeLast trailing a b c d
  | a :: b :: c :: d :: rest => do
    let x ← sextet a
    let y ← sextet b
    let z ← sextet c
    let w ← sextet d
    let bytes ← decode trailing rest
    some (first x y :: second y z :: third z w :: bytes)
  | _ => none

theorem decode_group {trailing a b d x y z w} (ha : sextet a = some x) (hb : sextet b = some y)
    (hc : sextet c = some z) (hd : sextet d = some w) (rest) :
    decode trailing (a :: b :: c :: d :: rest) =
      (decode trailing rest).map (fun bytes => first x y :: second y z :: third z w :: bytes) := by
  cases rest with
  | nil =>
    simp [decode, decodeLast, ha, hb, hc, hd, ne_pad_of_sextet hd]
  | cons e rest =>
    simp only [decode, ha, hb, hc, hd]
    cases decode trailing (e :: rest) <;> rfl

theorem decode_encode (trailing : Bool) (bytes) : decode trailing (encode bytes) = some bytes := by
  induction bytes using encode.induct with
  | case1 => rfl
  | case2 x =>
    have hx := x.toNat_lt
    have ha := sextet_digit (n := x.toNat / 4) (by omega)
    have hb := sextet_digit (n := x.toNat % 4 * 16) (by omega)
    simp [encode, decode, decodeLast, ha, hb, first_split_last, Nat.mul_mod_left]
  | case3 x y =>
    have hx := x.toNat_lt
    have hy := y.toNat_lt
    have ha := sextet_digit (n := x.toNat / 4) (by omega)
    have hb := sextet_digit (n := x.toNat % 4 * 16 + y.toNat / 16) (by omega)
    have hc := sextet_digit (n := y.toNat % 16 * 4) (by omega)
    have hp := digit_ne_pad (n := y.toNat % 16 * 4) (by omega)
    simp [encode, decode, decodeLast, ha, hb, hc, hp, first_split, second_split_last, Nat.mul_mod_left]
  | case4 x y z rest ih =>
    have hx := x.toNat_lt
    have hy := y.toNat_lt
    have hz := z.toNat_lt
    rw [encode, decode_group (sextet_digit (by omega)) (sextet_digit (by omega)) (sextet_digit (by omega))
      (sextet_digit (by omega)), ih]
    simp only [map_some, first_split, second_split, third_split]

/-! ### Character by character -/

def a2bBase64 : (quadPos leftchar pads : Nat) → List Char → Option (List UInt8)
  | quadPos, _, _, [] => if quadPos = 0 then some [] else none
  | quadPos, leftchar, pads, c :: cs =>
    if c = '=' then
      if 2 ≤ quadPos then
        if 4 ≤ quadPos + (pads + 1) then some [] else a2bBase64 quadPos leftchar (pads + 1) cs
      else a2bBase64 quadPos leftchar pads cs
    else
      match sextet c with
      | none => a2bBase64 quadPos leftchar pads cs
      | some n =>
        match quadPos with
        | 0 => a2bBase64 1 n 0 cs
        | 1 => (a2bBase64 2 (n % 16) 0 cs).map (UInt8.ofNat (leftchar * 4 + n / 16) :: ·)
        | 2 => (a2bBase64 3 (n % 4) 0 cs).map (UInt8.ofNat (leftchar * 16 + n / 4) :: ·)
        | _ => (a2bBase64 0 0 0 cs).map (UInt8.ofNat (leftchar * 64 + n) :: ·)

def b64decode (text : List Char) : Option (List UInt8) :=
  if text.all (fun c => c.toNat < 128) then a2bBase64 0 0 0 text else none

section

variable {a b c d : Char} {x y z w : Nat} (cs : List Char)

theorem a2bBase64_two (ha : sextet a = some x) (hb : sextet b = some y) :
    a2bBase64 0 0 0 (a :: b :: cs) = (a2bBase64 2 (y % 16) 0 cs).map (first x y :: ·) := by
  simp only [a2bBase64, ha, hb, ne_pad_of_sextet ha, ne_pad_of_sextet hb, if_false]
  rfl

theorem a2bBase64_three (ha : sextet a = some x) (hb : sextet b = some y) (hc : sextet c = some z) :
    a2bBase64 0 0 0 (a :: b :: c :: cs) =
      (a2bBase64 3 (z % 4) 0 cs).map (fun bytes => first x y :: second y z :: bytes) := by
  rw [a2bBase64_two _ ha hb]
  simp only [a2bBase64, hc, ne_pad_of_sextet hc, if_false, Option.map_map]
  rfl

theorem a2bBase64_group (ha : sextet a = some x) (hb : sextet b = some y) (hc : sextet c = some z)
    (hd : sextet d = some w) :
    a2bBase64 0 0 0 (a :: b :: c :: d :: cs) =
      (a2bBase64 0 0 0 cs).map (fun bytes => first x y :: second y z :: third z w :: bytes) := by
  rw [a2bBase64_three _ ha hb hc]
  simp only [a2bBase64, hd, ne_pad_of_sextet hd, if_false, Option.map_map]
  rfl

end

theorem encode_ascii (bytes) : ∀ c ∈ encode bytes, c.toNat < 128 := by
  induction bytes using encode.induct with
  | case1 => simp [encode]
  | case2 x =>
    have hx := x.toNat_lt
    simp only [encode, forall_mem_cons]
    exact ⟨digit_ascii (by omega), digit_ascii (by omega), by decide, by decide, by simp⟩
  | case3 x y =>
    have hx := x.toNat_lt
    have hy := y.toNat_lt
    simp only [encode, forall_mem_cons]
    exact ⟨digit_ascii (by omega), digit_ascii (by omega), digit_ascii (by omega), by decide, by simp⟩
  | case4 x y z rest ih =>
    have hx := x.toNat_lt
    have hy := y.toNat_lt
    have hz := z.toNat_lt
    simp only [encode, forall_mem_cons]
    exact ⟨digit_ascii (by omega), digit_ascii (by omega), digit_ascii (by omega), digit_ascii (by omega), ih⟩

theorem b64decode_of_ascii {text} (h : ∀ c ∈ text, c.toNat < 128) : b64decode text = a2bBase64 0 0 0 text :=
  if_pos (all_eq_true.2 (fun c hc => decide_eq_true (h c hc)))

theorem b64decode_encode (bytes : List UInt8) : b64decode (encode bytes) = some bytes := by
  rw [b64decode_of_ascii (encode_ascii bytes)]
  induction bytes using encode.induct with
  | case1 => rfl
  | case2 x =>
    have hx := x.toNat_lt
    rw [encode, a2bBase64_two _ (sextet_digit (by omega)) (sextet_digit (by omega))]
    simp [a2bBase64, first_split_last]
  | case3 x y =>
    have hx := x.toNat_lt
    have hy := y.toNat_lt
    rw [encode, a2bBase64_three _ (sextet_digit (by omega)) (sextet_digit (by omega)) (sextet_digit (by omega))]
    simp [a2bBase64, first_split, second_split_last]
  | case4 x y z rest ih =>
    have hx := x.toNat_lt
    have hy := y.toNat_lt
    have hz := z.toNat_lt
    rw [encode, a2bBase64_group _ (sextet_digit (by omega)) (sextet_digit (by omega)) (sextet_digit (by omega))
      (sextet_digit (by omega)), ih]
    simp only [map_some, first_split, second_split, third_split]

/-- Both decoders read the digits with one padding character, whatever bits are left over. -/
theorem decode_pad {k cs} (hl : cs.length = 4 * k + 3) (hdg : ∀ c ∈ cs, (sextet c).isSome) :
    ∃ bytes, bytes.length = 3 * k + 2 ∧ decode true (cs ++ ['=']) = some bytes ∧
      a2bBase64 0 0 0 (cs ++ ['=']) = some bytes := by
  induction k generalizing cs with
  | zero =>
    obtain ⟨a, b, c, rfl⟩ := length_eq_three.1 hl
    simp only [forall_mem_cons, isSome_iff_exists] at hdg
    obtain ⟨⟨x, ha⟩, ⟨y, hb⟩, ⟨z, hc⟩, -⟩ := hdg
    refine ⟨[first x y, second y z], rfl, ?_, ?_⟩
    · simp [decode, decodeLast, ha, hb, hc, ne_pad_of_sextet hc]
    · rw [cons_append, cons_append, cons_append, a2bBase64_three _ ha hb hc]
      simp [a2bBase64]
  | succ k ih =>
    match cs, hl with
    | a :: b :: c :: d :: rest, hl =>
      simp only [forall_mem_cons, isSome_iff_exists] at hdg
      obtain ⟨⟨x, ha⟩, ⟨y, hb⟩, ⟨z, hc⟩, ⟨w, hd⟩, hr⟩ := hdg
      have hln : rest.length = 4 * k + 3 := by
        simp only [length_cons] at hl
        omega
      obtain ⟨bytes, hbt, hdc, ha2b⟩ := ih hln (fun e he => isSome_iff_exists.2 (hr e he))
      refine ⟨first x y :: second y z :: third z w :: bytes, ?_, ?_, ?_⟩
      · simp only [length_cons]
        omega
      · rw [cons_append, cons_append, cons_append, cons_append, decode_group ha hb hc hd, hdc]
        rfl
      · rw [cons_append, cons_append, cons_append, cons_append, a2bBase64_group _ ha hb hc hd, ha2b]
        rfl

end WisdoverseCell.Base64
