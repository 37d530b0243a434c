import WisdoverseCell.Infra.ContextCompressor

/-!
# What compaction keeps

The messages that are left start somewhere in the history, so a tool result loses its tool use exactly if it is in the
first of them: `find_split_point` falls back to any index, and `reactive_compact` has no safe ones.  The breaker
counts a list that is too short to be summarised as a failure of the model.
-/

namespace WisdoverseCell.Infra

open List

variable {stale : Json → Bool} {n : ℕ} {keep : ℤ} {bs : List Json} {b : Json} {m : Message}
  {ms ms' restored : List Message} {uses uses' : List (Option Json)} {floatText : ℚ → String} {cfg : CompressorConfig}
  {stats : CompressionStats} {answer : Option String} {snips : Option (List ℕ)}

/-! ### Tool pairing -/

def resultId (b : Json) : Option (Option Json) := if isToolResult b then some (field "tool_use_id" b) else none

def useId (b : Json) : Option (Option Json) :=
  if field "type" b = some (.str "tool_use") then some (field "id" b) else none

def Message.resultIds (m : Message) : List (Option Json) := m.blocks.filterMap resultId

def Message.useIds (m : Message) : List (Option Json) := if m.role = "assistant" then m.blocks.filterMap useId else []

/-- Each tool result refers to a tool use of the assistant message right before; `uses` are those before the list. -/
def paired (uses : List (Option Json)) : List Message → Bool
  | [] => true
  | m :: ms => m.resultIds.all (· ∈ uses) && paired m.useIds ms

private theorem field_cleared {key} (h : key ≠ "content") (b) : field key (cleared b) = field key b := by
  cases b with
  | obj => exact JsonObj.lookup_set_of_ne h
  | _ => rfl

private theorem filterMap_clearBlocks {α : Type} {f : Json → Option α} (h : ∀ b, f (cleared b) = f b) :
    (clearBlocks stale n bs).filterMap f = bs.filterMap f := by
  fun_induction clearBlocks stale n bs <;> simp_all [filterMap_cons]

private theorem resultIds_clear : (m.clear stale n).resultIds = m.resultIds := by
  unfold Message.resultIds
  rw [blocks_clear]
  refine filterMap_clearBlocks (fun b => ?_)
  unfold resultId isToolResult
  rw [field_cleared (by decide), field_cleared (by decide)]

private theorem useIds_clear : (m.clear stale n).useIds = m.useIds := by
  have hr : (m.clear stale n).role = m.role := congrArg Prod.fst shape_clear
  unfold Message.useIds
  rw [hr, blocks_clear]
  refine ite_congr rfl (fun _ => filterMap_clearBlocks (fun b => ?_)) (fun _ => rfl)
  unfold useId
  rw [field_cleared (by decide), field_cleared (by decide)]

private theorem paired_clearMessages : paired uses (clearMessages stale n ms) = paired uses ms := by
  induction ms generalizing uses n with
  | nil => rfl
  | cons m ms ih => rw [clearMessages, paired, paired, resultIds_clear, useIds_clear, ih]

/-- No tool result stands in the first message. -/
def startsClean (ms : List Message) : Bool := ms.head?.all (fun m => m.resultIds.isEmpty)

/-- The tool uses that a result in the next message may refer to. -/
def lastUses (ms : List Message) : List (Option Json) := (ms.getLast?.map Message.useIds).getD []

/-- A tool result in the first message refers to nothing, and every other one still to the message before. -/
private theorem paired_drop (h : paired uses ms = true) : paired [] (ms.drop n) = startsClean (ms.drop n) := by
  induction n generalizing uses ms with
  | zero =>
    cases ms with
    | nil => rfl
    | cons m ms =>
      rw [drop_zero, paired, (Bool.and_eq_true_iff.1 h).2, Bool.and_true]
      change _ = m.resultIds.isEmpty
      cases m.resultIds <;> rfl
  | succ n ih =>
    cases ms with
    | nil => rfl
    | cons m ms => exact ih (Bool.and_eq_true_iff.1 h).2

private theorem paired_append : paired uses (ms ++ ms') =
    (paired uses ms && paired ((ms.getLast?.map Message.useIds).getD uses) ms') := by
  induction ms generalizing uses with
  | nil => rfl
  | cons m ms ih =>
    rw [cons_append, paired, paired, ih, Bool.and_assoc]
    cases ms with
    | nil => rfl
    | cons m' ms => rw [getLast?_cons_cons, getLast?_eq_some_getLast (cons_ne_nil m' ms)]; rfl

private theorem paired_compacted {summary} (h : paired [] ms = true) :
    paired [] (compacted summary (ms.drop n) ++ restored) =
      (startsClean (ms.drop n) && paired (lastUses (ms.drop n)) restored) := by
  have hu : (Message.mk "assistant" (.text "Understood. I have the prior conversation context.")).useIds = [] := by
    simp [Message.useIds, Message.blocks]
  rw [compacted, cons_append, cons_append, paired, paired, hu, paired_append, paired_drop h]
  rfl

/-! ### What is left of the list -/

private theorem map_trimmed {α : Type} {f : Message → α} (h : ∀ stale n m, f (Message.clear stale n m) = f m) :
    (cfg.trimmed ms).map f = ms.map f :=
  (map_clearMessages (h _)).trans (map_clearMessages (h _))

private theorem findSnipIndices_trimmed : findSnipIndices (cfg.trimmed ms) = findSnipIndices ms := by
  have hf (ms) : findSnipIndices ms =
      ((ms.map (fun m => m.blocks.any isToolResult)).zipIdx.filter Prod.fst).map (fun mi => mi.2 + 1) := by
    simp [findSnipIndices, zipIdx_map, filter_map, Function.comp_def]
  rw [hf, hf, map_trimmed (fun stale n m => ?_)]
  have hm : (clearBlocks stale n m.blocks).filterMap (fun b => some (isToolResult b)) = _ :=
    filterMap_clearBlocks (fun b => by rw [isToolResult, field_cleared (by decide)]; rfl)
  have ha (bs : List Json) : bs.any isToolResult = (bs.filterMap (fun b => some (isToolResult b))).any id := by
    rw [any_filterMap]
    rfl
  rw [blocks_clear, ha, ha, hm]

/-- The messages that a summary leaves of a trimmed list are those that it would leave of the list, apart from their
contents. -/
private theorem map_recent {α : Type} {f : Message → α} (h : ∀ stale n m, f (Message.clear stale n m) = f m) :
    (cfg.recent (cfg.trimmed ms)).map f = (cfg.recent ms).map f := by
  unfold CompressorConfig.recent recentMessages
  rw [findSnipIndices_trimmed, length_trimmed, map_drop, map_drop, map_trimmed h]

private theorem startsClean_recent : startsClean (cfg.recent (cfg.trimmed ms)) = startsClean (cfg.recent ms) := by
  have hs (ms) : startsClean ms = (ms.map Message.resultIds).head?.all isEmpty := by
    rw [startsClean, head?_map, Option.all_map]
  rw [hs, hs, map_recent (fun _ _ _ => resultIds_clear)]

private theorem lastUses_recent : lastUses (cfg.recent (cfg.trimmed ms)) = lastUses (cfg.recent ms) := by
  unfold lastUses
  rw [← getLast?_map, ← getLast?_map, map_recent (fun _ _ _ => useIds_clear)]

private theorem messages_eq (floatText) (cfg : CompressorConfig) (stats) (ms answer restored) :
    (compressIfNeeded floatText cfg stats ms answer restored).1.messages =
      if Asks floatText cfg stats ms then
        (answer.filter (· ≠ "")).elim (cfg.recent (cfg.trimmed ms))
          (fun summary => compacted summary (cfg.recent (cfg.trimmed ms)) ++ restored)
      else if ReachesL1 floatText cfg ms then cfg.trimmed ms else cfg.micro ms := by
  have hl := length_trimmed cfg ms
  dsimp only [compressIfNeeded]
  by_cases h1 : ReachesL1 floatText cfg ms
  · rw [if_neg h1, if_pos h1]
    by_cases h2 : estimateTokens floatText (cfg.trimmed ms) < cfg.l2Threshold ∨ 3 ≤ stats.consecutiveL2Failures
    · rw [if_pos h2, if_neg (fun ha => h2.elim ha.1.2 (not_le.2 ha.2.1))]
    · obtain ⟨h2, hf⟩ := not_or.1 h2
      rw [if_neg (not_or.2 ⟨h2, hf⟩)]
      by_cases hk : cfg.keepRecentMessages < ms.length
      · rw [if_pos ⟨⟨h1, h2⟩, not_le.1 hf, hk⟩]
        cases hs : answer.filter (· ≠ "") with
        | none =>
          rw [summarizeHistory_failed (hl ▸ hk) hs]
          rfl
        | some summary =>
          rw [summarizeHistory_made (hl ▸ hk) hs]
          rfl
      · rw [if_neg (fun ha => hk ha.2.2), summarizeHistory_short (hl ▸ not_lt.1 hk)]
  · have ha : ¬Asks floatText cfg stats ms := fun ha => h1 ha.1.1
    rw [if_pos (not_not.1 h1), if_neg h1, if_neg ha]

/-- The messages that `reactive_compact` leaves as they are. -/
def CompressorConfig.reactiveKeep (cfg : CompressorConfig) : ℤ := max 3 (cfg.keepRecentMessages / 2)

/-- Compaction keeps tool results paired if and only if, where the model is asked, no tool result stands in the first
message that is left, and where it answers those that are restored are paired behind the last one; and the same,
without restored messages, for `reactive_compact`. -/
theorem compaction_paired_iff (floatText : ℚ → String) (cfg : CompressorConfig) (stats : CompressionStats)
    (ms : List Message) (answer answer' : Option String) (restored : List Message) (h : paired [] ms = true) :
    (paired [] (compressIfNeeded floatText cfg stats ms answer restored).1.messages = true ∧
      ∀ r ∈ reactiveCompact floatText cfg ms answer', paired [] r.messages = true) ↔
    (Asks floatText cfg stats ms → startsClean (cfg.recent ms) = true ∧
      ((answer.filter (· ≠ "")).isSome → paired (lastUses (cfg.recent ms)) restored = true)) ∧
    (cfg.reactiveKeep < ms.length → (answer'.filter (· ≠ "")).isSome →
      startsClean (recentMessages ms cfg.reactiveKeep none) = true) := by
  have hm : paired [] (cfg.micro ms) = true := paired_clearMessages.trans h
  have ht : paired [] (cfg.trimmed ms) = true := paired_clearMessages.trans hm
  refine and_congr ?_ ?_
  · rw [messages_eq]
    by_cases ha : Asks floatText cfg stats ms
    · rw [if_pos ha, ← startsClean_recent, ← lastUses_recent, forall_prop_of_true ha]
      cases answer.filter (· ≠ "") with
      | none =>
        rw [Option.elim_none, CompressorConfig.recent, recentMessages, paired_drop ht]
        simp
      | some summary =>
        rw [Option.elim_some, CompressorConfig.recent, recentMessages, paired_compacted ht, Bool.and_eq_true_iff]
        simp
    · rw [if_neg ha]
      refine iff_of_true ?_ (fun ha' => absurd ha' ha)
      split
      · exact ht
      · exact hm
  · unfold reactiveCompact CompressorConfig.reactiveKeep
    by_cases hk : max 3 (cfg.keepRecentMessages / 2) < ms.length
    · rw [forall_prop_of_true hk]
      cases hs : answer'.filter (· ≠ "") with
      | none =>
        rw [summarizeHistory_failed hk hs]
        simp
      | some summary =>
        rw [summarizeHistory_made hk hs]
        have hp : paired [] (compacted summary (recentMessages ms (max 3 (cfg.keepRecentMessages / 2)) none)) =
            startsClean (recentMessages ms (max 3 (cfg.keepRecentMessages / 2)) none) := by
          rw [← append_nil (compacted _ _), recentMessages, paired_compacted h, paired, Bool.and_true]
        simpa using hp
    · rw [summarizeHistory_short (not_lt.1 hk)]
      simp [hk]

def toolUse (id : String) : Message :=
  ⟨"assistant", .blocks [.obj [("type", .str "tool_use"), ("id", .str id)]]⟩

def said (role : String) : Message := ⟨role, .text "ok"⟩

def eager : CompressorConfig := ⟨0, 0, 3, 0, 0, fun _ => false⟩

def fresh : CompressionStats := ⟨0, 0, .none, 0⟩

/-- Two pairs, and a third one that is restored. -/
theorem compaction_paired_iff_two :
    let ms :=
      [toolUse "t0", resultMessage "t0" "ok", toolUse "t1", resultMessage "t1" "ok", said "assistant", said "user",
      said "assistant"]
    paired [] (compressIfNeeded noFloat eager fresh ms (some "summary")
      [toolUse "t2", resultMessage "t2" "ok"]).1.messages = true :=
  ((compaction_paired_iff noFloat eager fresh _ (some "summary") none _ (by decide +kernel)).2 (by decide +kernel)).1

/-- The tool use is summarised, and its result is kept. -/
theorem reactive_orphans : let ms := [said "user", toolUse "t1", resultMessage "t1" "ok", said "assistant", said "user"]
    paired [] ms = true ∧
      (reactiveCompact noFloat eager ms (some "summary")).any (fun r => paired [] r.messages = false) = true := by
  decide +kernel

/-! ### The breaker -/

/-- A compressor with the outcomes of its attempts to get a summary, the last one first. -/
structure Compressor where
  stats : CompressionStats
  attempts : List Bool

structure CompressCall where
  messages : List Message
  answer : Option String
  restored : List Message

def Compressor.Skips (floatText : ℚ → String) (cfg : CompressorConfig) (c : Compressor) (ms : List Message) : Prop :=
  ReachesL2 floatText cfg ms ∧ (3 ≤ c.stats.consecutiveL2Failures ∨ ms.length ≤ cfg.keepRecentMessages)

instance {c : Compressor} : Decidable (c.Skips floatText cfg ms) := inferInstanceAs (Decidable (_ ∧ _))

/-- The model is asked where the list is at the L2 threshold and no summary is skipped. -/
theorem asks_iff {c : Compressor} :
    Asks floatText cfg c.stats ms ↔ ReachesL2 floatText cfg ms ∧ ¬c.Skips floatText cfg ms := by
  unfold Asks Compressor.Skips
  grind

/-- Where the model is not asked, its answer does not matter. -/
theorem compressIfNeeded_of_not_asks (h : ¬Asks floatText cfg stats ms) (answer answer' restored restored') :
    compressIfNeeded floatText cfg stats ms answer restored =
      compressIfNeeded floatText cfg stats ms answer' restored' := by
  dsimp only [compressIfNeeded]
  by_cases h1 : ReachesL1 floatText cfg ms
  · rw [if_neg h1, if_neg h1]
    by_cases h2 : estimateTokens floatText (cfg.trimmed ms) < cfg.l2Threshold ∨ 3 ≤ stats.consecutiveL2Failures
    · rw [if_pos h2, if_pos h2]
    · obtain ⟨h2, hf⟩ := not_or.1 h2
      have hk : (cfg.trimmed ms).length ≤ cfg.keepRecentMessages := by
        rw [length_trimmed]
        exact not_lt.1 (fun hk => h ⟨⟨h1, h2⟩, not_le.1 hf, hk⟩)
      rw [summarizeHistory_short hk, summarizeHistory_short hk]
  · rw [if_pos (not_not.1 h1), if_pos (not_not.1 h1)]

def Compressor.compress (floatText : ℚ → String) (cfg : CompressorConfig) (c : Compressor) (call : CompressCall) :
    Compressor where
  stats := (compressIfNeeded floatText cfg c.stats call.messages call.answer call.restored).2
  attempts :=
    if ReachesL2 floatText cfg call.messages ∧ ¬ c.Skips floatText cfg call.messages then
      (call.answer.filter (· ≠ "")).isSome :: c.attempts
    else c.attempts

def Compressor.run (floatText : ℚ → String) (cfg : CompressorConfig) (calls : List CompressCall) : Compressor :=
  calls.foldl (Compressor.compress floatText cfg) ⟨fresh, []⟩

/-- The counter counts the attempts that failed since the last that did not. -/
def Compressor.Counts (c : Compressor) : Prop := c.stats.consecutiveL2Failures = (c.attempts.takeWhile (! ·)).length

private theorem failures_eq (hl : ReachesL2 floatText cfg ms → cfg.keepRecentMessages < ms.length) :
    (compressIfNeeded floatText cfg stats ms answer restored).2.consecutiveL2Failures =
      if ReachesL2 floatText cfg ms ∧ stats.consecutiveL2Failures < 3 then
        if (answer.filter (· ≠ "")).isSome then 0 else stats.consecutiveL2Failures + 1
      else stats.consecutiveL2Failures := by
  dsimp only [compressIfNeeded]
  split
  · next hl1 => exact (if_neg (fun h => h.1.1 hl1)).symm
  next hl1 =>
  split
  · next hl2 => exact (if_neg (fun h => hl2.elim h.1.2 (not_le.2 h.2))).symm
  next hl2 =>
  obtain ⟨hl2, hf⟩ := not_or.1 hl2
  rw [if_pos ⟨⟨hl1, hl2⟩, not_le.1 hf⟩]
  have hl := hl ⟨hl1, hl2⟩
  rw [← length_trimmed cfg] at hl
  cases hs : answer.filter (· ≠ "") with
  | none =>
    rw [summarizeHistory_failed hl hs]
    rfl
  | some summary =>
    rw [summarizeHistory_made hl hs]
    rfl

private theorem Compressor.Counts.compress {c : Compressor} {call} (h : c.Counts)
    (hl : ReachesL2 floatText cfg call.messages → cfg.keepRecentMessages < call.messages.length) :
    (c.compress floatText cfg call).Counts := by
  unfold Compressor.Counts at h ⊢
  dsimp only [Compressor.compress]
  rw [failures_eq hl]
  have ha : ReachesL2 floatText cfg call.messages ∧ ¬ c.Skips floatText cfg call.messages ↔
      ReachesL2 floatText cfg call.messages ∧ c.stats.consecutiveL2Failures < 3 := by
    rw [← asks_iff]
    exact and_congr_right (fun hl2 => and_iff_left (hl hl2))
  by_cases hc : ReachesL2 floatText cfg call.messages ∧ c.stats.consecutiveL2Failures < 3
  · rw [if_pos hc, if_pos (ha.2 hc)]
    cases (call.answer.filter (· ≠ "")).isSome
    · exact congrArg (· + 1) h
    · rfl
  · rw [if_neg hc, if_neg (ha.not.2 hc), h]

/-- If every list at the L2 threshold is longer than what is kept, a summary is skipped only after three attempts that
failed. -/
theorem skips_only_after_failures (floatText : ℚ → String) (cfg : CompressorConfig) (calls : List CompressCall)
    (ms : List Message)
    (hl : ∀ l ∈ ms :: calls.map CompressCall.messages, ReachesL2 floatText cfg l → cfg.keepRecentMessages < l.length)
    (hs : (Compressor.run floatText cfg calls).Skips floatText cfg ms) :
    (Compressor.run floatText cfg calls).attempts.take 3 = [false, false, false] := by
  have hcn : (Compressor.run floatText cfg calls).Counts := by
    refine foldlRecOn calls _ (motive := Compressor.Counts) rfl (fun c hc call hcl => hc.compress (hl _ ?_))
    exact mem_cons_of_mem _ (mem_map_of_mem hcl)
  generalize Compressor.run floatText cfg calls = c at *
  have hsh := hl ms mem_cons_self hs.1
  have ht : 3 ≤ (c.attempts.takeWhile (! ·)).length := hcn ▸ hs.2.resolve_right (not_le.2 hsh)
  generalize c.attempts = l at ht ⊢
  rcases l with _ | ⟨_ | _, _ | ⟨_ | _, _ | ⟨_ | _, l⟩⟩⟩ <;> simp_all

/-- Answers of the model to a list of four messages, and a list that is too short for a summary. -/
def askedFor (answer : Option String) : CompressCall := ⟨replicate 4 (said "user"), answer, []⟩

def tooShort : CompressCall := ⟨[said "user"], none, []⟩

/-- Three attempts fail before one is skipped. -/
theorem skips_after_three : (Compressor.run noFloat eager [askedFor (some "a"), askedFor none, askedFor (some ""),
    askedFor none]).attempts.take 3 = [false, false, false] :=
  skips_only_after_failures noFloat eager _ (askedFor none).messages (by decide +kernel) (by decide +kernel)

/-- After three short lists no summary is made, though the model has not been asked for one. -/
theorem skips_without_attempt : let c := Compressor.run noFloat eager [tooShort, tooShort, tooShort]
    c.Skips noFloat eager (askedFor none).messages ∧ eager.keepRecentMessages < (askedFor none).messages.length ∧
      c.attempts = [] := by
  decide +kernel

end WisdoverseCell.Infra
