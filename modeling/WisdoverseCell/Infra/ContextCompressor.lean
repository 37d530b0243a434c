import Mathlib.Algebra.GroupWithZero.Nat
import Mathlib.Algebra.Ring.Int.Defs
import Mathlib.Data.Int.Cast.Lemmas
import Mathlib.Data.List.Forall2
import WisdoverseCell.Library.Json

/-!
# The context compressor

`micro_compact` and `trim_tool_results` clear the contents of old tool results, and `summarize_history` replaces old
messages by a summary.  Clearing costs no tokens exactly if the placeholder does not make the old results longer,
taken together (`clearing_saves_iff`).
-/

namespace WisdoverseCell.Infra

open List

/-! ### Messages -/

inductive Content
  | text (s : String)
  | blocks (bs : List Json)

structure Message where
  role : String
  content : Content

def Message.blocks (m : Message) : List Json :=
  match m.content with
  | .text _ => []
  | .blocks bs => bs

/-- `block.get(key)`, if the block is a dict. -/
def field (key : String) : Json → Option Json
  | .obj o => o.lookup key
  | _ => none

def isToolResult (b : Json) : Bool := field "type" b = some (.str "tool_result")

def blocksOf (ms : List Message) : List Json := ms.flatMap Message.blocks

/-! ### The token estimate -/

def utf8Size (cs : List Char) : ℕ := (String.ofList cs).utf8ByteSize

def plainStyle : Json.Style := ⟨[',', ' '], [':', ' '], false, true⟩

section

variable (floatText : ℚ → String) (stale : Json → Bool) (cfg : CompressorConfig)

def jsonBytes (j : Json) : ℕ := utf8Size (j.text plainStyle floatText)

def messageBytes (m : Message) : ℕ :=
  (match m.content with
    | .text s => s.utf8ByteSize
    | .blocks bs => (bs.map (jsonBytes floatText)).sum) + jsonBytes floatText (.obj [("role", .str m.role)])

def totalBytes (ms : List Message) : ℕ := (ms.map (messageBytes floatText)).sum

/-- The total of `estimate_tokens`. -/
def estimateTokens (ms : List Message) : ℕ := totalBytes floatText ms / 4

/-! ### Clearing tool results -/

def trimmedPlaceholder : String := "[old tool result cleared]"

def cleared : Json → Json
  | .obj o => .obj (JsonObj.set o "content" (.str trimmedPlaceholder))
  | b => b

/-- Clears the first `n` blocks that are `stale`. -/
def clearBlocks (stale : Json → Bool) : ℕ → List Json → List Json
  | 0, bs => bs
  | _ + 1, [] => []
  | n + 1, b :: bs => if stale b then cleared b :: clearBlocks stale n bs else b :: clearBlocks stale (n + 1) bs

def Message.clear (n : ℕ) (m : Message) : Message :=
  match m.content with
  | .text _ => m
  | .blocks bs => { m with content := .blocks (clearBlocks stale n bs) }

def clearMessages (stale : Json → Bool) : ℕ → List Message → List Message
  | _, [] => []
  | n, m :: ms => m.clear stale n :: clearMessages stale (n - m.blocks.countP stale) ms

/-- Clears all but the last `keepRecent` stale blocks. -/
def clearOld (keepRecent : ℤ) (ms : List Message) : List Message :=
  clearMessages stale ((blocksOf ms).countP stale - keepRecent).toNat ms

def trimToolResults (keepRecent : ℤ) (ms : List Message) : List Message := clearOld isToolResult keepRecent ms

def notCleared (b : Json) : Bool := isToolResult b && field "content" b ≠ some (.str trimmedPlaceholder)

def microCompact (keepRecent : ℤ) (ms : List Message) : List Message := clearOld notCleared keepRecent ms

/-! ### Summaries -/

inductive Layer
  | none
  | micro
  | l1
  | l2

structure CompactionResult where
  messages : List Message
  tokensBefore : ℕ
  tokensAfter : ℕ
  layer : Layer
  summary : Option String

structure CompressionStats where
  totalCompressions : ℕ
  totalTokensSaved : ℤ
  lastLayer : Layer
  consecutiveL2Failures : ℕ

/-- The thresholds are the effective ones; `underused` says whether that many tokens are below `auto_compact_ratio` of
the window, if there is one. -/
structure CompressorConfig where
  l1Threshold : ℤ
  l2Threshold : ℤ
  keepRecentMessages : ℤ
  keepRecentToolResults : ℤ
  microCompactKeepRecent : ℤ
  underused : ℕ → Bool

def findSnipIndices (ms : List Message) : List ℕ :=
  (ms.zipIdx.filter (fun mi => mi.1.blocks.any isToolResult)).map (fun mi => mi.2 + 1)

def findSplitPoint (total : ℕ) (snipIndices : List ℕ) (keepRecent : ℤ) : ℤ :=
  ((snipIndices.filter (fun si : ℕ => (si : ℤ) ≤ total - keepRecent)).getLast?.map Int.ofNat).getD (total - keepRecent)

/-- What is left of the messages when a summary is made. -/
def recentMessages (ms : List Message) (keep : ℤ) (snipIndices : Option (List ℕ)) : List Message :=
  ms.drop (match snipIndices with
    | some snips => findSplitPoint ms.length snips keep
    | none => ms.length - keep).toNat

def compacted (summary : String) (recent : List Message) : List Message :=
  ⟨"user", .text ("[conversation compacted] " ++ summary)⟩ ::
    ⟨"assistant", .text "Understood. I have the prior conversation context."⟩ :: recent

/-- `answer` is what the model returns, if it does. -/
def summarizeHistory (ms : List Message) (keep : ℤ) (snipIndices : Option (List ℕ))
    (answer : Option String) : CompactionResult :=
  let before := estimateTokens floatText ms
  if ms.length ≤ keep then ⟨ms, before, before, .l2, none⟩
  else
    let recent := recentMessages ms keep snipIndices
    match answer.filter (· ≠ "") with
    | none => ⟨recent, before, estimateTokens floatText recent, .l2, none⟩
    | some summary =>
      ⟨compacted summary recent, before, estimateTokens floatText (compacted summary recent), .l2, some summary⟩

/-- `reactive_compact`; `none` stands for a `ContentSizeError`. -/
def reactiveCompact (ms : List Message) (answer : Option String) :
    Option CompactionResult :=
  let result := summarizeHistory floatText ms (max 3 (cfg.keepRecentMessages / 2)) none answer
  if result.summary.isSome then some result else none

def CompressorConfig.micro (ms : List Message) : List Message :=
  microCompact cfg.microCompactKeepRecent ms

def CompressorConfig.trimmed (ms : List Message) : List Message :=
  trimToolResults cfg.keepRecentToolResults (cfg.micro ms)

/-- `compress_if_needed`; `restored` is what `post_compact_restore` returns, if it is there and does not fail. -/
def compressIfNeeded (stats : CompressionStats) (ms : List Message)
    (answer : Option String) (restored : List Message) : CompactionResult × CompressionStats :=
  let before := estimateTokens floatText ms
  let tokens := estimateTokens floatText (cfg.micro ms)
  let stats := { stats with totalTokensSaved := stats.totalTokensSaved + (before - tokens) }
  if cfg.underused tokens ∨ tokens < cfg.l1Threshold then
    (⟨cfg.micro ms, before, tokens, if before ≠ tokens then .micro else .none, none⟩, stats)
  else
    let after := estimateTokens floatText (cfg.trimmed ms)
    let stats := { stats with
      totalCompressions := stats.totalCompressions + 1
      totalTokensSaved := stats.totalTokensSaved + (tokens - after)
      lastLayer := .l1 }
    if after < cfg.l2Threshold ∨ 3 ≤ stats.consecutiveL2Failures then
      (⟨cfg.trimmed ms, tokens, after, .l1, none⟩, stats)
    else
      let snips := findSnipIndices (cfg.trimmed ms)
      let l2 := summarizeHistory floatText (cfg.trimmed ms) cfg.keepRecentMessages (some snips) answer
      match l2.summary with
      | none => (l2, { stats with consecutiveL2Failures := stats.consecutiveL2Failures + 1 })
      | some _ =>
        let messages := l2.messages ++ restored
        ({ l2 with messages := messages, tokensBefore := tokens, tokensAfter := estimateTokens floatText messages },
          { stats with
            consecutiveL2Failures := 0
            totalTokensSaved := stats.totalTokensSaved + (l2.tokensBefore - l2.tokensAfter)
            lastLayer := .l2 })

end

/-! ### What clearing does -/

variable {stale : Json → Bool} {n : ℕ} {keep : ℤ} {bs bs' : List Json} {b : Json} {m : Message} {ms : List Message}
  {floatText : ℚ → String}

private theorem clearBlocks_append :
    clearBlocks stale n (bs ++ bs') = clearBlocks stale n bs ++ clearBlocks stale (n - bs.countP stale) bs' := by
  induction bs generalizing n with
  | nil => cases n <;> rfl
  | cons b bs ih =>
    cases n with
    | zero => simp [clearBlocks]
    | succ =>
      by_cases hb : stale b = true
      · simp [clearBlocks, hb, ih]
      · simp [clearBlocks, hb, ih]

private theorem length_clearBlocks : (clearBlocks stale n bs).length = bs.length := by
  fun_induction clearBlocks stale n bs <;> simp_all

theorem blocks_clear : (m.clear stale n).blocks = clearBlocks stale n m.blocks := by
  obtain ⟨role, s | bs⟩ := m
  · cases n <;> rfl
  · rfl

private theorem blocksOf_clearMessages : blocksOf (clearMessages stale n ms) = clearBlocks stale n (blocksOf ms) := by
  induction ms generalizing n with
  | nil => cases n <;> rfl
  | cons m ms ih =>
    change (m.clear stale n).blocks ++ blocksOf (clearMessages stale _ ms) =
      clearBlocks stale n (m.blocks ++ blocksOf ms)
    rw [clearBlocks_append, blocks_clear, ih]

/-- A message apart from its blocks. -/
def Message.shape (m : Message) : String × (String ⊕ ℕ) :=
  (m.role, match m.content with
    | .text s => .inl s
    | .blocks bs => .inr bs.length)

theorem shape_clear : (m.clear stale n).shape = m.shape := by
  obtain ⟨role, s | bs⟩ := m
  · rfl
  · simp only [Message.clear, Message.shape, length_clearBlocks]

theorem map_clearMessages {α : Type} {f : Message → α} (h : ∀ n m, f (m.clear stale n) = f m) :
    (clearMessages stale n ms).map f = ms.map f := by
  induction ms generalizing n with
  | nil => rfl
  | cons m ms ih => rw [clearMessages, map_cons, map_cons, h, ih]

/-- Only stale blocks with at least `keep` newer ones are different, and only in their content. -/
structure ClearsOld (stale : Json → Bool) (keep : ℤ) (ms ms' : List Message) : Prop where
  shape : ms'.map Message.shape = ms.map Message.shape
  blocks : ∀ before b after, blocksOf ms = before ++ b :: after →
    (blocksOf ms')[before.length]? = some (if stale b = true ∧ keep ≤ after.countP stale then cleared b else b)

private theorem clearsOld (keep ms) : ClearsOld stale keep ms (clearOld stale keep ms) := by
  refine ⟨map_clearMessages (fun _ _ => shape_clear), fun before b after hms => ?_⟩
  unfold clearOld
  rw [blocksOf_clearMessages, hms, clearBlocks_append, getElem?_append_right length_clearBlocks.le, length_clearBlocks,
    Nat.sub_self]
  have hc : (before ++ b :: after).countP stale = before.countP stale + after.countP stale + if stale b then
    1 else 0 := by
    rw [countP_append, countP_cons, Nat.add_assoc]
  generalize hn : (((before ++ b :: after).countP stale : ℤ) - keep).toNat - before.countP stale = n
  by_cases hb : stale b = true
  · rw [hc, if_pos hb] at hn
    cases n with
    | zero =>
      rw [if_neg (by omega)]
      rfl
    | succ =>
      rw [if_pos ⟨hb, by omega⟩]
      simp [clearBlocks, hb]
  · rw [if_neg (fun h => hb h.1)]
    cases n <;> simp [clearBlocks, hb]

/-! ### What clearing costs -/

/-- What the placeholder adds to the JSON text of a block. -/
def placeholderCost (floatText : ℚ → String) (b : Json) : ℤ :=
  (jsonBytes floatText (cleared b) : ℤ) - jsonBytes floatText b

/-- What the placeholder adds to the stale blocks that are older than the window. -/
def clearingCost (floatText : ℚ → String) (stale : Json → Bool) (keep : ℤ) (ms : List Message) : ℤ :=
  ((((blocksOf ms).filter stale).take ((blocksOf ms).countP stale - keep).toNat).map (placeholderCost floatText)).sum

/-- So many bytes more are not a token more. -/
def Absorbs (floatText : ℚ → String) (ms : List Message) (cost : ℤ) : Prop :=
  cost + (totalBytes floatText ms % 4 : ℕ) < 4

private theorem bytes_clearBlocks : (((clearBlocks stale n bs).map (jsonBytes floatText)).sum : ℤ) =
    (bs.map (jsonBytes floatText)).sum + (((bs.filter stale).take n).map (placeholderCost floatText)).sum := by
  fun_induction clearBlocks stale n bs with
  | case1 => simp
  | case2 => simp
  | case3 n b bs hb ih =>
    rw [filter_cons_of_pos hb]
    simp only [map_cons, sum_cons, take_succ_cons, Nat.cast_add, ih, placeholderCost]
    omega
  | case4 n b bs hb ih =>
    rw [filter_cons_of_neg hb]
    simp only [map_cons, sum_cons, Nat.cast_add, ih, Nat.succ_eq_add_one]
    omega

private theorem messageBytes_clear : (messageBytes floatText (m.clear stale n) : ℤ) =
    messageBytes floatText m + (((m.blocks.filter stale).take n).map (placeholderCost floatText)).sum := by
  obtain ⟨role, s | bs⟩ := m
  · simp [Message.clear, Message.blocks]
  · simp only [Message.clear, Message.blocks, messageBytes, Nat.cast_add, bytes_clearBlocks]
    omega

private theorem totalBytes_clearOld : (totalBytes floatText (clearOld stale keep ms) : ℤ) =
    totalBytes floatText ms + clearingCost floatText stale keep ms := by
  unfold clearOld clearingCost
  generalize ((((blocksOf ms).countP stale : ℕ) : ℤ) - keep).toNat = n
  induction ms generalizing n with
  | nil => simp [clearMessages, blocksOf, totalBytes]
  | cons m ms ih =>
    have hl : (m.blocks.filter stale).length = m.blocks.countP stale := countP_eq_length_filter.symm
    have hb : blocksOf (m :: ms) = m.blocks ++ blocksOf ms := rfl
    have ht (ms) : totalBytes floatText (m :: ms) = messageBytes floatText m + totalBytes floatText ms := rfl
    have hc : totalBytes floatText (clearMessages stale n (m :: ms)) = messageBytes floatText (m.clear stale n) +
        totalBytes floatText (clearMessages stale (n - m.blocks.countP stale) ms) := rfl
    rw [hb, filter_append, take_append, map_append, sum_append, hl, hc, ht, Nat.cast_add, Nat.cast_add,
      messageBytes_clear, ih]
    omega

/-- The estimate does not grow exactly if the division by four absorbs what is added. -/
private theorem estimateTokens_le_iff {ms' cost} (h : (totalBytes floatText ms' : ℤ) = totalBytes floatText ms + cost) :
    estimateTokens floatText ms' ≤ estimateTokens floatText ms ↔ Absorbs floatText ms cost := by
  unfold estimateTokens Absorbs
  omega

/-! ### What a call saves -/

section

variable (floatText : ℚ → String) (cfg : CompressorConfig)

/-- The tool results are trimmed, since after `micro_compact` the list is at the L1 threshold. -/
def ReachesL1 (ms : List Message) : Prop :=
  ¬(cfg.underused (estimateTokens floatText (cfg.micro ms)) ∨ estimateTokens floatText (cfg.micro ms) < cfg.l1Threshold)

/-- The list is still at the L2 threshold after L1. -/
def ReachesL2 (ms : List Message) : Prop :=
  ReachesL1 floatText cfg ms ∧ ¬estimateTokens floatText (cfg.trimmed ms) < cfg.l2Threshold

/-- The model is asked for a summary. -/
def Asks (stats : CompressionStats) (ms : List Message) : Prop :=
  ReachesL2 floatText cfg ms ∧ stats.consecutiveL2Failures < 3 ∧ cfg.keepRecentMessages < ms.length

instance (ms : List Message) : Decidable (ReachesL1 floatText cfg ms) := inferInstanceAs (Decidable (¬_))

instance (ms : List Message) : Decidable (ReachesL2 floatText cfg ms) := inferInstanceAs (Decidable (_ ∧ _))

instance (stats : CompressionStats) (ms : List Message) : Decidable (Asks floatText cfg stats ms) :=
  inferInstanceAs (Decidable (_ ∧ _))

/-- The messages that a summary leaves as they are. -/
def CompressorConfig.recent (ms : List Message) : List Message :=
  recentMessages ms cfg.keepRecentMessages (some (findSnipIndices ms))

/-- What a summary adds to a list that is trimmed. -/
def summaryCost (ms : List Message) (summary : String) : ℤ :=
  (totalBytes floatText (compacted summary (cfg.recent ms)) : ℤ) - totalBytes floatText ms

/-- What a call adds to the list, up to the messages that are restored. -/
def callCost (stats : CompressionStats) (ms : List Message) (answer : Option String) : ℤ :=
  clearingCost floatText notCleared cfg.microCompactKeepRecent ms +
    (if ReachesL1 floatText cfg ms then
      clearingCost floatText isToolResult cfg.keepRecentToolResults (cfg.micro ms) else 0) +
    if Asks floatText cfg stats ms then
      (answer.filter (· ≠ "")).elim 0 (summaryCost floatText cfg (cfg.trimmed ms))
    else 0

end

variable {cfg : CompressorConfig} {stats : CompressionStats} {answer : Option String} {restored : List Message}
  {snips : Option (List ℕ)}

theorem length_trimmed (cfg : CompressorConfig) (ms) : (cfg.trimmed ms).length = ms.length := by
  have h (stale : Json → Bool) (n : ℕ) (ms : List Message) : (clearMessages stale n ms).length = ms.length := by
    have hs : (clearMessages stale n ms).map Message.shape = ms.map Message.shape :=
      map_clearMessages (fun _ _ => shape_clear)
    simpa using congrArg length hs
  exact (h _ _ _).trans (h _ _ _)

theorem summarizeHistory_short (h : ms.length ≤ keep) : summarizeHistory floatText ms keep snips answer =
    ⟨ms, estimateTokens floatText ms, estimateTokens floatText ms, .l2, none⟩ := by
  dsimp only [summarizeHistory]
  rw [if_pos h]

theorem summarizeHistory_failed (h : keep < ms.length) (ha : answer.filter (· ≠ "") = none) :
    summarizeHistory floatText ms keep snips answer =
      ⟨recentMessages ms keep snips, estimateTokens floatText ms,
        estimateTokens floatText (recentMessages ms keep snips),
        .l2, none⟩ := by
  dsimp only [summarizeHistory]
  rw [if_neg (not_le.2 h), ha]

theorem summarizeHistory_made {summary} (h : keep < ms.length) (ha : answer.filter (· ≠ "") = some summary) :
    summarizeHistory floatText ms keep snips answer =
      ⟨compacted summary (recentMessages ms keep snips), estimateTokens floatText ms,
        estimateTokens floatText (compacted summary (recentMessages ms keep snips)), .l2, some summary⟩ := by
  dsimp only [summarizeHistory]
  rw [if_neg (not_le.2 h), ha]

/-- What a call saves is the difference of the estimates of its list and of what it has made of it. -/
private theorem saved_eq (floatText cfg stats ms answer restored) : ∃ ms', (totalBytes floatText ms' : ℤ) =
      totalBytes floatText ms + callCost floatText cfg stats ms answer ∧
    (compressIfNeeded floatText cfg stats ms answer restored).2.totalTokensSaved =
      stats.totalTokensSaved + (estimateTokens floatText ms - estimateTokens floatText ms') := by
  have hm : (totalBytes floatText (cfg.micro ms) : ℤ) = _ := totalBytes_clearOld
  have ht : (totalBytes floatText (cfg.trimmed ms) : ℤ) = _ := totalBytes_clearOld
  have hl := length_trimmed cfg ms
  unfold callCost
  dsimp only [compressIfNeeded]
  by_cases h1 : ReachesL1 floatText cfg ms
  · rw [if_neg h1, if_pos h1]
    by_cases h2 : estimateTokens floatText (cfg.trimmed ms) < cfg.l2Threshold ∨ 3 ≤ stats.consecutiveL2Failures
    · have ha : ¬Asks floatText cfg stats ms := fun ha => h2.elim ha.1.2 (not_le.2 ha.2.1)
      rw [if_pos h2, if_neg ha]
      exact ⟨cfg.trimmed ms, by omega, by dsimp only; omega⟩
    · obtain ⟨h2, hf⟩ := not_or.1 h2
      rw [if_neg (not_or.2 ⟨h2, hf⟩)]
      by_cases hk : cfg.keepRecentMessages < ms.length
      · have ha : Asks floatText cfg stats ms := ⟨⟨h1, h2⟩, not_le.1 hf, hk⟩
        rw [if_pos ha]
        cases hs : answer.filter (· ≠ "") with
        | none =>
          rw [summarizeHistory_failed (hl ▸ hk) hs]
          exact ⟨cfg.trimmed ms, by rw [Option.elim_none]; omega, by dsimp only; omega⟩
        | some summary =>
          rw [summarizeHistory_made (hl ▸ hk) hs]
          refine ⟨compacted summary (cfg.recent (cfg.trimmed ms)), ?_, by dsimp only [CompressorConfig.recent]; omega⟩
          rw [Option.elim_some, summaryCost]
          omega
      · have ha : ¬Asks floatText cfg stats ms := fun ha => hk ha.2.2
        rw [if_neg ha, summarizeHistory_short (hl ▸ not_lt.1 hk)]
        exact ⟨cfg.trimmed ms, by omega, by dsimp only; omega⟩
  · have ha : ¬Asks floatText cfg stats ms := fun ha => h1 ha.1.1
    rw [if_pos (not_not.1 h1), if_neg h1, if_neg ha]
    exact ⟨cfg.micro ms, by omega, rfl⟩

/-- `micro_compact` and `trim_tool_results` change only the contents of old tool results, neither estimate grows, and
a call does not lower the tokens saved, if and only if each of them adds no more bytes than the division by four
absorbs. -/
theorem clearing_saves_iff (floatText : ℚ → String) (keep : ℤ) (ms : List Message) (cfg : CompressorConfig)
    (stats : CompressionStats) (answer : Option String) (restored : List Message) :
    (ClearsOld notCleared keep ms (microCompact keep ms) ∧ ClearsOld isToolResult keep ms (trimToolResults keep ms) ∧
      estimateTokens floatText (microCompact keep ms) ≤ estimateTokens floatText ms ∧
      estimateTokens floatText (trimToolResults keep ms) ≤ estimateTokens floatText ms ∧
      stats.totalTokensSaved ≤ (compressIfNeeded floatText cfg stats ms answer restored).2.totalTokensSaved) ↔
    (Absorbs floatText ms (clearingCost floatText notCleared keep ms) ∧
      Absorbs floatText ms (clearingCost floatText isToolResult keep ms) ∧
      Absorbs floatText ms (callCost floatText cfg stats ms answer)) := by
  obtain ⟨ms', hb, hs⟩ := saved_eq floatText cfg stats ms answer restored
  have hms' := estimateTokens_le_iff hb
  have hsv : stats.totalTokensSaved ≤ (compressIfNeeded floatText cfg stats ms answer restored).2.totalTokensSaved ↔
      estimateTokens floatText ms' ≤ estimateTokens floatText ms := by omega
  have hmc : ClearsOld notCleared keep ms (microCompact keep ms) := clearsOld keep ms
  have htr : ClearsOld isToolResult keep ms (trimToolResults keep ms) := clearsOld keep ms
  rw [and_iff_right hmc, and_iff_right htr, hsv, hms']
  exact and_congr (estimateTokens_le_iff totalBytes_clearOld)
    (and_congr_left' (estimateTokens_le_iff totalBytes_clearOld))

def resultMessage (id content : String) : Message :=
  ⟨"user", .blocks [.obj [("type", .str "tool_result"), ("tool_use_id", .str id), ("content", .str content)]]⟩

def noFloat (_ : ℚ) : String := ""

/-- A short result is replaced by the longer placeholder. -/
theorem clearing_costs : estimateTokens noFloat [resultMessage "t1" "ok"] <
    estimateTokens noFloat (microCompact 0 [resultMessage "t1" "ok"]) := by
  decide +kernel

end WisdoverseCell.Infra
