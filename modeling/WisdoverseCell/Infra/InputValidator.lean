import WisdoverseCell.Infra.ContextCompressor
import WisdoverseCell.Library.Checked

/-!
# Screening of payloads

`InputValidator.validate` bounds the size of a payload and searches its texts for the injection patterns.  The texts are
collected down to depth ten, and one that lies deeper is accepted whatever it says.
-/

namespace WisdoverseCell.Infra

open List

structure InputValidationError where
  reason : String
  detail : String
  deriving DecidableEq

/-- The patterns, all case-insensitive. -/
def injectionPatterns : List String :=
  ["ignore\\s+(all\\s+)?(previous|prior|above)\\s+instructions",
    "(show|reveal|print|output)\\s+(me\\s+)?(your|the)\\s+system\\s+prompt",
    "you\\s+are\\s+now\\s+\\w+.*?(without|no)\\s+(restrictions|rules|limits)",
    "(forget|disregard)\\s+(everything|all|your)\\s+(you|instructions|rules)", "<\\s*script\\b"]

mutual

def extractStrings (depth : ℕ) : Json → List String
  | .str s => if 10 < depth then [] else [s]
  | .obj kvs => if 10 < depth then [] else valueStrings (depth + 1) kvs
  | .arr xs => if 10 < depth then [] else itemStrings (depth + 1) xs
  | _ => []

def valueStrings (depth : ℕ) : JsonObj → List String
  | [] => []
  | (_, v) :: kvs => extractStrings depth v ++ valueStrings depth kvs

def itemStrings (depth : ℕ) : List Json → List String
  | [] => []
  | x :: xs => extractStrings depth x ++ itemStrings depth xs

end

/-- `search` is the search of a pattern in a text. -/
def validate (search : String → String → Bool) (floatText : ℚ → String) (maxPayloadBytes : ℕ) (payload : JsonObj) :
    Except InputValidationError Unit := do
  let size := jsonBytes floatText (.obj payload)
  ensure (size ≤ maxPayloadBytes)
    ⟨"payload_too_large", s!"Payload is {size} bytes, limit is {maxPayloadBytes}"⟩
  checkEach (fun text => checkEach (fun pattern => ensure (search pattern text = false)
      ⟨"injection_detected", "Suspicious pattern in input: " ++ pattern.take 60⟩) injectionPatterns)
    (extractStrings 0 (.obj payload))

/-- The text is a value of the document, under that many objects and lists. -/
inductive StringAt (s : String) : ℕ → Json → Prop
  | here : StringAt s 0 (.str s)
  | value {n k v kvs} (h : (k, v) ∈ kvs) (hv : StringAt s n v) : StringAt s (n + 1) (.obj kvs)
  | item {n x xs} (h : x ∈ xs) (hx : StringAt s n x) : StringAt s (n + 1) (.arr xs)

section

variable {s : String} {depth : ℕ}

private theorem mem_valueStrings {k v kvs} (h : (k, v) ∈ kvs) (hs : s ∈ extractStrings depth v) :
    s ∈ valueStrings depth kvs := by
  induction kvs with
  | nil => cases h
  | cons kv kvs ih =>
    rcases mem_cons.1 h with rfl | h
    · exact mem_append_left _ hs
    · exact mem_append_right _ (ih h)

private theorem mem_itemStrings {x xs} (h : x ∈ xs) (hs : s ∈ extractStrings depth x) : s ∈ itemStrings depth xs := by
  induction xs with
  | nil => cases h
  | cons y xs ih =>
    rcases mem_cons.1 h with rfl | h
    · exact mem_append_left _ hs
    · exact mem_append_right _ (ih h)

private theorem StringAt.mem_extractStrings {n j} (h : StringAt s n j) (hd : depth + n ≤ 10) :
    s ∈ extractStrings depth j := by
  induction h generalizing depth with
  | here =>
    rw [extractStrings, if_neg (by omega)]
    exact mem_singleton_self s
  | value h _ ih =>
    rw [extractStrings, if_neg (by omega)]
    exact mem_valueStrings h (ih (by omega))
  | item h _ ih =>
    rw [extractStrings, if_neg (by omega)]
    exact mem_itemStrings h (ih (by omega))

/-- The text under `n` lists. -/
def nested (text : String) (n : ℕ) : Json := (fun j => .arr [j])^[n] (.str text)

private theorem nested_succ (text n) : nested text (n + 1) = .arr [nested text n] :=
  Function.iterate_succ_apply' _ n _

private theorem stringAt_nested (text n) : StringAt text n (nested text n) := by
  induction n with
  | zero => exact .here
  | succ n ih =>
    rw [nested_succ]
    exact .item mem_cons_self ih

private theorem extractStrings_nested {text n} (h : 10 < depth + n) : extractStrings depth (nested text n) = [] := by
  induction n generalizing depth with
  | zero => exact if_pos h
  | succ n ih =>
    rw [nested_succ, extractStrings]
    split
    · rfl
    · rw [itemStrings, ih (by omega)]
      rfl

end

/-- If some text matches a pattern at all: the accepted payloads are screened at a depth exactly if it is at most
ten. -/
theorem screened_at_depth_iff (search : String → String → Bool) (floatText : ℚ → String) (n : ℕ)
    (hm : ∃ pattern ∈ injectionPatterns, ∃ text, search pattern text = true) :
    (∀ maxPayloadBytes payload, validate search floatText maxPayloadBytes payload = .ok () →
      ∀ s, StringAt s n (.obj payload) → ∀ pattern ∈ injectionPatterns, search pattern s = false) ↔ n ≤ 10 := by
  simp only [validate, eq_ok, checkEach_eq_ok, exists_const]
  constructor
  · intro h
    by_contra hn
    obtain ⟨pattern, hp, text, ht⟩ := hm
    obtain ⟨n, rfl⟩ : ∃ m, n = m + 1 := ⟨n - 1, by omega⟩
    have hx : extractStrings 0 (.obj [("", nested text n)]) = [] := by
      rw [extractStrings, if_neg (by decide), valueStrings, extractStrings_nested (by omega)]
      rfl
    have hs := h _ [("", nested text n)] ⟨le_rfl, by simp [hx]⟩ text (.value mem_cons_self (stringAt_nested text n))
    exact Bool.false_ne_true ((hs pattern hp).symm.trans ht)
  · intro hn _ payload h s hs
    exact h.2 s (hs.mem_extractStrings (by omega))

def scriptSearch (pattern text : String) : Bool := pattern = "<\\s*script\\b" ∧ text = "<script>"

/-- The deepest strings that are screened. -/
theorem screened_at_depth_iff_ten : (∃ pattern ∈ injectionPatterns, ∃ text, scriptSearch pattern text = true) ∧
    ∀ maxPayloadBytes payload, validate scriptSearch (fun _ => "") maxPayloadBytes payload = .ok () →
      ∀ s, StringAt s 10 (.obj payload) → ∀ pattern ∈ injectionPatterns, scriptSearch pattern s = false := by
  have hm : ∃ pattern ∈ injectionPatterns, ∃ text, scriptSearch pattern text = true :=
    ⟨_, getLast_mem (by decide), "<script>", by decide⟩
  exact ⟨hm, (screened_at_depth_iff scriptSearch (fun _ => "") 10 hm).2 le_rfl⟩

/-- A script under ten lists is accepted. -/
theorem nested_script_accepted :
    validate scriptSearch (fun _ => "") 1000000 [("note", nested "<script>" 10)] = .ok () ∧
      StringAt "<script>" 11 (.obj [("note", nested "<script>" 10)]) ∧
      scriptSearch "<\\s*script\\b" "<script>" = true :=
  ⟨by decide +kernel, .value mem_cons_self (stringAt_nested _ _), by decide⟩

end WisdoverseCell.Infra
