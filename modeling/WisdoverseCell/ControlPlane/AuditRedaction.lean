import WisdoverseCell.Library.Json
import WisdoverseCell.Library.Listing
import WisdoverseCell.Library.Text

/-!
# Redaction of audit details

The values under sensitive and free-form keys do not influence the redacted detail, which is bounded.  This holds for
any function in the place of the substitutions of `_redact_text`.
-/

namespace WisdoverseCell

open List

namespace AuditRetention

/-! ### Details and their keys -/

inductive Scalar
  | none
  | bool (b : Bool)
  | int (n : Int)
  | float (q : ℚ)
  | nonFinite (x : NonFinite)

structure IsoText where
  text : String
  short : text.length ≤ 32

/-- Lists and tuples are one kind of value, and so are the mappings. -/
inductive Detail
  | mapping (items : List (String × Detail))
  | list (items : List Detail)
  | text (s : String)
  | enum (value : Detail)
  | datetime (iso : IsoText)
  | scalar (value : Scalar)
  | unsupported

abbrev Items := List (String × Detail)

def maxDetailDepth : Nat := 8

def maxDetailItems : Nat := 100

def maxDetailStringLength : Nat := 4096

/-- The case folding of `(?i)`, for the ASCII letters. -/
def foldCase (c : Char) : Char :=
  if c = 'ſ' then 's' else if c = 'K' then 'k' else if c = 'İ' ∨ c = 'ı' then 'i' else c.toLower

def folded (key : String) : String := String.ofList (key.toList.map foldCase)

def sensitiveKey (key : String) : Bool :=
  ["secret", "token", "password", "passwd", "auth", "cookie", "credential", "apikey", "api_key", "api-key",
    "privatekey",
    "private_key", "private-key", "sessionkey", "session_key", "session-key"].any (Text.contains (folded key))

def separates (c : Char) : Bool := c = '_' || c = '-'

/-- The end of a word, `(?:$|[_-])`; `$` also stands before a final line feed. -/
def closes : List Char → Bool
  | [] => true
  | c :: rest => separates c || c = '\n' && rest.isEmpty

/-- The search for `(?:^|[_-])(?:words)(?:$|[_-])`. -/
def hasWord (words : List String) (key : String) : Bool :=
  ('_' :: (folded key).toList).tails.any fun
    | [] => false
    | c :: rest => separates c && words.any (fun word => word.toList.isPrefixOf rest && closes (rest.drop word.length))

def freeformKey (key : String) : Bool :=
  hasWord ["body", "request", "response", "prompt", "message", "content", "text", "note", "description", "metadata",
    "email",
    "phone", "address", "name", "user_agent", "ip_address"] key

def linkageKey (key : String) : Bool := hasWord ["id", "ids", "hash", "checksum", "digest"] key

/-! ### The redaction -/

def clip (n : Nat) (s : String) : String := String.ofList (s.toList.take n)

def Detail.unwrap : Detail → Detail
  | .enum value => value.unwrap
  | value => value

/-- The pair that an item of a mapping leaves, if any; `sanitize` is for the value. -/
def redactItem (sanitize : Detail → Detail) (item : String × Detail) : Option (String × Detail) :=
  let key := clip 128 item.1
  if freeformKey key && !linkageKey key then none
  else if sensitiveKey key then some (key, .text "[REDACTED]")
  else some (key, sanitize item.2)

/-- A dict; its order does not matter, since it is sorted in the end. -/
def assign (pairs : Items) (pair : String × Detail) : Items :=
  pairs.filter (fun p => p.1 ≠ pair.1) ++ [pair]

def truncatedItems (n : Nat) : Items :=
  if maxDetailItems < n then [("_truncated_items", .scalar (.int (n - maxDetailItems : Nat)))] else []

def redactPairs (sanitize : Detail → Detail) (items : Items) : Items :=
  let kept := ((sortBy Prod.fst items).take maxDetailItems).filterMap (redactItem sanitize)
  sortBy Prod.fst ((kept ++ truncatedItems items.length).foldl assign [])

def redactItems (sanitize : Detail → Detail) (items : List Detail) : List Detail :=
  (items.take maxDetailItems).map sanitize ++ if maxDetailItems < items.length then [.text "[TRUNCATED_ITEMS]"] else []

-- the two substitutions of `_redact_text`, one after the other
variable (substitute : String → String)

def redactText (value : String) : String := clip maxDetailStringLength (substitute value)

/-- `_sanitize_value`; `room` is the number of levels left, 9 at depth 0. -/
def sanitizeValue : Nat → Detail → Detail
  | 0, _ => .text "[TRUNCATED]"
  | room + 1, value =>
    match value.unwrap with
    | .mapping items => .mapping (redactPairs (sanitizeValue room) items)
    | .list items => .list (redactItems (sanitizeValue room) items)
    | .text s => .text (redactText substitute (clip maxDetailStringLength s))
    | .datetime iso => .text iso.text
    | .scalar value => .scalar value
    | .enum _ | .unsupported => .text "[UNSUPPORTED_VALUE]"

def sanitizeAuditDetail : Option Detail → Except String Detail
  | none => .ok (.mapping [])
  | some (.mapping items) => .ok (sanitizeValue substitute (maxDetailDepth + 1) (.mapping items))
  | some _ => .error "audit_detail_must_be_object"

variable {substitute} {sanitize : Detail → Detail} {items pairs : Items} {p q : String × Detail} {room : Nat}

/-! ### Hidden values -/

def hidden (key : String) : Bool := sensitiveKey key || freeformKey key && !linkageKey key

mutual

def mask : Detail → Detail
  | .mapping items => .mapping (sortBy Prod.fst (maskItems items))
  | .list items => .list (maskAll items)
  | value => value

def maskItems : Items → Items
  | [] => []
  | (key, value) :: items => (key, if hidden (clip 128 key) then .scalar .none else mask value) :: maskItems items

def maskAll : List Detail → List Detail
  | [] => []
  | item :: items => mask item :: maskAll items

end

def maskItem (item : String × Detail) : String × Detail :=
  (item.1, if hidden (clip 128 item.1) then .scalar .none else mask item.2)

private theorem maskItems_eq (items) : maskItems items = items.map maskItem := by
  induction items with
  | nil => rfl
  | cons item items ih => rw [maskItems, ih]; rfl

private theorem maskAll_eq (items) : maskAll items = items.map mask := by
  induction items with
  | nil => rfl
  | cons item items ih => rw [maskAll, ih]; rfl

private theorem redactItem_maskItem (sanitize) (h : ∀ value, sanitize (mask value) = sanitize value)
    (item) : redactItem sanitize (maskItem item) = redactItem sanitize item := by
  by_cases hh : hidden (clip 128 item.1) = true
  · rcases Bool.or_eq_true .. ▸ hh with hk | hk <;> simp [redactItem, maskItem, hk]
  · simp [redactItem, maskItem, hh, h]

private theorem sortBy_maskItems (items) :
    sortBy Prod.fst (sortBy Prod.fst (maskItems items)) = (sortBy Prod.fst items).map maskItem := by
  have hk (item : String × Detail) : (maskItem item).1 = item.1 := by rw [maskItem]
  rw [sortBy_eq_self (pairwise_sortBy _ _), maskItems_eq, sortBy_map items hk]

private theorem redactPairs_maskItems (sanitize) (h : ∀ value, sanitize (mask value) = sanitize value) (items) :
    redactPairs sanitize (sortBy Prod.fst (maskItems items)) = redactPairs sanitize items := by
  have hl : (sortBy Prod.fst (maskItems items)).length = items.length := by
    rw [(sortBy_perm _ _).length_eq, maskItems_eq, length_map]
  have hi : redactItem sanitize ∘ maskItem = redactItem sanitize := by
    funext item
    rw [Function.comp_apply, redactItem_maskItem sanitize h]
  simp only [redactPairs, sortBy_maskItems, hl]
  rw [← map_take, filterMap_map, hi]

private theorem sanitizeValue_mask (room) (value) :
    sanitizeValue substitute room (mask value) = sanitizeValue substitute room value := by
  induction room generalizing value with
  | zero => rfl
  | succ room ih =>
    cases value with
    | mapping => simp only [mask, sanitizeValue, Detail.unwrap, redactPairs_maskItems _ ih]
    | list =>
      have hi : sanitizeValue substitute room ∘ mask = sanitizeValue substitute room := funext ih
      simp only [mask, sanitizeValue, Detail.unwrap, redactItems, maskAll_eq, length_map, ← map_take, map_map, hi]
    | text | enum | datetime | scalar | unsupported => simp only [mask]

private theorem sanitizeAuditDetail_mask (value) :
    sanitizeAuditDetail substitute (some (mask value)) = sanitizeAuditDetail substitute (some value) := by
  cases value with
  | mapping items =>
    have h : sanitizeValue substitute 9 (mask (.mapping items)) = _ := sanitizeValue_mask 9 (.mapping items)
    rw [mask] at h
    exact congrArg Except.ok h
  | list | text | enum | datetime | scalar | unsupported => simp only [mask, sanitizeAuditDetail]

/-! ### The pairs of a mapping -/

private theorem length_clip_le (n s) : (clip n s).length ≤ n := by
  rw [clip, String.length_ofList]
  exact length_take_le n _

private theorem of_redactItem {item} (h : redactItem sanitize item = some p) :
    p.1 = clip 128 item.1 ∧ (freeformKey p.1 && !linkageKey p.1) = false ∧
      (sensitiveKey p.1 = true ∧ p.2 = .text "[REDACTED]" ∨ hidden p.1 = false ∧ p.2 = sanitize item.2) := by
  unfold redactItem at h
  extract_lets key at h
  obtain ⟨hk, h⟩ := Option.ite_none_left_eq_some.1 h
  split at h
  · rename_i hs
    cases h
    exact ⟨rfl, Bool.eq_false_of_not_eq_true hk, .inl ⟨hs, rfl⟩⟩
  · rename_i hp
    cases h
    have hk := Bool.eq_false_of_not_eq_true hk
    exact ⟨rfl, hk, .inr ⟨by rw [hidden, hk, Bool.eq_false_of_not_eq_true hp]; rfl, rfl⟩⟩

private theorem mem_of_mem_assign (h : p ∈ assign pairs q) : p ∈ pairs ∨ p = q := by
  rcases mem_append.1 h with h | h
  · exact .inl (mem_filter.1 h).1
  · exact .inr (mem_singleton.1 h)

private theorem dict_spec (entries acc : Items) : (∀ p ∈ entries.foldl assign acc, p ∈ acc ∨ p ∈ entries) ∧
    (entries.foldl assign acc).length ≤ acc.length + entries.length := by
  induction entries generalizing acc with
  | nil => simp
  | cons q entries ih =>
    obtain ⟨hm, hl⟩ := ih (assign acc q)
    refine ⟨fun p hp => ?_, hl.trans ?_⟩
    · rcases hm p hp with hp | hp
      · exact (mem_of_mem_assign hp).imp_right (fun heq : p = q => heq ▸ mem_cons_self)
      · exact .inr (mem_cons_of_mem q hp)
    · have := length_filter_le (fun p => decide (p.1 ≠ q.1)) acc
      simp only [assign, length_append, length_cons, length_nil]
      omega

private theorem of_mem_redactPairs (h : p ∈ redactPairs sanitize items) :
    (∃ item ∈ (sortBy Prod.fst items).take maxDetailItems, redactItem sanitize item = some p) ∨
      p ∈ truncatedItems items.length := by
  have hm := (sortBy_perm _ _).mem_iff.1 h
  rcases (dict_spec _ []).1 p hm with hp | hp
  · cases hp
  · exact (mem_append.1 hp).imp_left mem_filterMap.1

private theorem length_truncatedItems_le (n) : (truncatedItems n).length ≤ 1 := by
  unfold truncatedItems
  split <;> simp

private theorem length_redactPairs_le : (redactPairs sanitize items).length ≤ 101 := by
  have hd := (dict_spec (((sortBy Prod.fst items).take maxDetailItems).filterMap (redactItem sanitize) ++
    truncatedItems items.length) []).2
  have hk := length_filterMap_le (redactItem sanitize) ((sortBy Prod.fst items).take maxDetailItems)
  have ht := length_take_le maxDetailItems (sortBy Prod.fst items)
  have hm := length_truncatedItems_le items.length
  rw [redactPairs, (sortBy_perm _ _).length_eq]
  simp only [length_append, length_nil, maxDetailItems] at *
  omega

private theorem of_mem_truncatedItems {n} (h : p ∈ truncatedItems n) :
    maxDetailItems < n ∧ ∃ m : Int, p = ("_truncated_items", .scalar (.int m)) := by
  unfold truncatedItems at h
  split at h
  · exact ⟨‹_›, _, mem_singleton.1 h⟩
  · cases h

/-! ### Bounds -/

/-- At most `depth` levels, 101 entries in a container and 4096 characters in a text. -/
def Within : Nat → Detail → Prop
  | 0, _ => False
  | depth + 1, .mapping items => items.length ≤ 101 ∧ ∀ item ∈ items, item.1.length ≤ 4096 ∧ Within depth item.2
  | depth + 1, .list items => items.length ≤ 101 ∧ ∀ item ∈ items, Within depth item
  | _ + 1, .text s => s.length ≤ 4096
  | _ + 1, _ => True

private theorem within_redactPairs (h : ∀ value, Within (room + 1) (sanitize value)) :
    Within (room + 2) (.mapping (redactPairs sanitize items)) := by
  refine ⟨length_redactPairs_le, fun p hp => ?_⟩
  rcases of_mem_redactPairs hp with ⟨item, -, hi⟩ | hm
  · obtain ⟨hk, -, hv⟩ := of_redactItem hi
    refine ⟨hk ▸ (length_clip_le 128 _).trans (by decide), ?_⟩
    rcases hv with ⟨-, hv⟩ | ⟨-, hv⟩
    · rw [hv, Within]
      decide
    · rw [hv]
      exact h item.2
  · obtain ⟨-, m, rfl⟩ := of_mem_truncatedItems hm
    have hm : "_truncated_items".length ≤ 4096 := by decide
    exact ⟨hm, trivial⟩

private theorem within_redactItems {items} (h : ∀ value, Within (room + 1) (sanitize value)) :
    Within (room + 2) (.list (redactItems sanitize items)) := by
  have ht := length_take_le maxDetailItems items
  have hc : ∀ item ∈ (items.take maxDetailItems).map sanitize, Within (room + 1) item :=
    forall_mem_map.2 (fun value _ => h value)
  have hm : Within (room + 1) (.text "[TRUNCATED_ITEMS]") := by
    rw [Within]
    decide
  unfold redactItems
  split
  · refine ⟨?_, forall_mem_append.2 ⟨hc, forall_mem_singleton.2 hm⟩⟩
    rw [length_append, length_map]
    exact Nat.add_le_add_right ht 1
  · rw [append_nil]
    exact ⟨(length_map sanitize).trans_le (ht.trans (by decide)), hc⟩

private theorem within_sanitizeValue (room) (value) : Within (room + 1) (sanitizeValue substitute room value) := by
  induction room generalizing value with
  | zero =>
    rw [sanitizeValue, Within]
    decide
  | succ room ih =>
    unfold sanitizeValue
    split
    · exact within_redactPairs ih
    · exact within_redactItems ih
    · exact length_clip_le _ _
    · rename_i iso _
      exact iso.short.trans (by decide)
    · trivial
    · rw [Within]
      decide
    · rw [Within]
      decide

/-- Details that differ under hidden keys only, at any depth, have equal redactions, and a redaction is bounded. -/
theorem redaction_noninterfering (substitute : String → String) : (∀ value value', mask value = mask value' →
      sanitizeAuditDetail substitute (some value) = sanitizeAuditDetail substitute (some value')) ∧
    ∀ value detail, sanitizeAuditDetail substitute value = .ok detail → Within 10 detail := by
  constructor
  · intro value value' heq
    rw [← sanitizeAuditDetail_mask value, heq, sanitizeAuditDetail_mask value']
  · intro value detail h
    match value, h with
    | none, h =>
      cases h
      exact ⟨by decide, fun _ hi => absurd hi not_mem_nil⟩
    | some (.mapping items), h =>
      cases h
      exact within_sanitizeValue 9 _

/-- A login with its address and its token, and a step below it with a password. -/
def login (address token password : String) : Detail :=
  .mapping [("attempt_id", .text "7"), ("ip_address", .text address),
    ("login", .mapping [("steps", .list [.mapping [("password", .text password), ("ok", .scalar (.bool true))]]),
      ("token", .text token)])]

theorem redaction_noninterfering_token :
    sanitizeAuditDetail id (some (login "10.0.0.1" "a" "b")) = sanitizeAuditDetail id (some (login "::1" "c" "d")) :=
  (redaction_noninterfering id).1 _ _ (by
    have hh : ∀ key ∈ ["ip_address", "password", "token"], hidden (clip 128 key) = true := by decide
    simp only [login, mask, maskItems, maskAll, hh _ (by decide : "ip_address" ∈ _), hh _ (by decide : "password" ∈ _),
      hh _ (by decide : "token" ∈ _), if_true])

end AuditRetention

end WisdoverseCell
