import Mathlib.Data.List.DropRight
import Mathlib.Data.List.Infix

/-!
# Text helpers

Stripping white space, ASCII lower case, and finding or removing a segment of a string, on the list of characters.
-/

namespace WisdoverseCell.Text

open List

/-- The characters a dynamic language's `strip` removes: white space and the information separators. -/
def isSpace (c : Char) : Bool :=
  let n := c.toNat
  (9 ≤ n && n ≤ 13) || (28 ≤ n && n ≤ 32) || n == 133 || n == 160 || n == 5760 || (8192 ≤ n && n ≤ 8202) ||
    n == 8232 || n == 8233 || n == 8239 || n == 8287 || n == 12288

def strip (s : String) : String :=
  String.ofList (((s.toList.dropWhile isSpace).reverse.dropWhile isSpace).reverse)

theorem strip_strip (s) : strip (strip s) = strip s := by
  unfold strip
  rw [String.toList_ofList]
  change String.ofList (rdropWhile isSpace ((rdropWhile isSpace (s.toList.dropWhile isSpace)).dropWhile
    isSpace)) = String.ofList (rdropWhile isSpace (s.toList.dropWhile isSpace))
  -- what is left starts like the text without its leading space
  have hs : (rdropWhile isSpace (s.toList.dropWhile isSpace)).dropWhile isSpace =
      rdropWhile isSpace (s.toList.dropWhile isSpace) := by
    obtain ⟨tail, ht⟩ := rdropWhile_prefix isSpace (s.toList.dropWhile isSpace)
    cases hu : rdropWhile isSpace (s.toList.dropWhile isSpace) with
    | nil => rfl
    | cons =>
      have hc := head?_dropWhile_not isSpace s.toList
      rw [← ht, hu, cons_append, head?_cons] at hc
      rw [dropWhile_cons, hc]
      rfl
  rw [hs, rdropWhile_idempotent]

theorem length_strip_le (s) : (strip s).length ≤ s.length := by
  unfold strip
  rw [String.length_ofList, length_reverse]
  calc ((s.toList.dropWhile isSpace).reverse.dropWhile isSpace).length
      ≤ (s.toList.dropWhile isSpace).reverse.length := (dropWhile_suffix isSpace).length_le
    _ = (s.toList.dropWhile isSpace).length := length_reverse
    _ ≤ s.toList.length := (dropWhile_suffix isSpace).length_le
    _ = s.length := String.length_toList

def lower (s : String) : String := String.ofList (s.toList.map Char.toLower)

/-- What follows the initial segment `p` of `s`, if `s` starts with it. -/
def removeStart (p s : String) : Option String :=
  if p.toList.isPrefixOf s.toList then some (String.ofList (s.toList.drop p.toList.length)) else none

def endsWith (s t : String) : Bool := t.toList.isSuffixOf s.toList

/-- `t in s`. -/
def contains (s t : String) : Bool := s.toList.tails.any (fun rest => t.toList.isPrefixOf rest)

theorem removeStart_append (p s) : removeStart p (p ++ s) = some s := by
  simp [removeStart]

theorem eq_append_of_removeStart {p s t} (h : removeStart p s = some t) : s = p ++ t := by
  obtain ⟨hp, h⟩ := Option.ite_none_right_eq_some.1 h
  obtain ⟨r, hr⟩ := isPrefixOf_iff_prefix.1 hp
  cases h
  apply String.toList_injective
  rw [String.toList_append, String.toList_ofList, ← hr, drop_left]

end WisdoverseCell.Text
