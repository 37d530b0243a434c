import WisdoverseCell.Infra.ContextCompressor

/-!
# The conversation engine

One `run` of the engine, given what the model, the tools and the summaries return in each turn.  All tool uses of a
response are executed before they are compared with `max_tool_calls`, so the limit holds exactly if no response asks
for more tools than are left of it (`conversation_bounded_iff`).
-/

namespace WisdoverseCell.Infra

open List

/-! ### Events and answers -/

inductive StopReason
  | endTurn
  | maxTurns
  | maxToolCalls
  | error

inductive ConversationEvent
  | llmResponse (text : String)
  | toolExecution (toolName toolUseId result : String) (isError : Bool)
  | compression (layer : Layer) (tokensBefore tokensAfter : ℕ)
  | errorRecovery (errorType action : String)
  | turnComplete (reason : StopReason) (text : String)

def ConversationEvent.isTurnComplete : ConversationEvent → Bool
  | .turnComplete .. => true
  | .llmResponse .. | .toolExecution .. | .compression .. | .errorRecovery .. => false

structure ToolUse where
  id : String
  name : String
  input : Json

/-- The usage is left out. -/
structure Response where
  stopReason : String
  content : List (String ⊕ ToolUse)

def Response.text (r : Response) : String := String.join (r.content.filterMap Sum.getLeft?)

def Response.toolUses (r : Response) : List ToolUse := r.content.filterMap Sum.getRight?

inductive Reply
  | response (r : Response)
  | contentSizeError
  /-- Any other exception; it escapes. -/
  | raised

/-- What the outside returns in one turn; `tool` is the outcome of each tool use. -/
structure TurnWorld where
  summary : Option String
  restored : List Message
  reply : Reply
  reactiveSummary : Option String
  tool : ℕ → Except String String
  finalReply : Reply

structure ConversationConfig where
  maxToolCalls : ℤ
  maxTurns : ℤ
  hasToolExecutor : Bool
  compressor : CompressorConfig

/-! ### The loop -/

/-- The engine in a run, with the `create_messages` calls and tool executions so far. -/
structure Conversation where
  messages : List Message
  stats : CompressionStats
  cumulativeToolCalls : ℕ
  hasReactiveCompacted : Bool
  events : List ConversationEvent
  calls : ℕ
  tools : ℕ

namespace Conversation

def emit (c : Conversation) (events : List ConversationEvent) : Conversation := { c with events := c.events ++ events }

def complete (c : Conversation) (reason : StopReason) (text : String) : Conversation :=
  c.emit [.turnComplete reason text]

def stillTooLong (c : Conversation) : Conversation :=
  c.complete .error
    "Conversation context is still too long after compaction. Use /clear to reset history and try again."

/-- Appends what the assistant says, and the event of the response if it says something. -/
def say (c : Conversation) (text default : String) : Conversation :=
  { c with messages := c.messages ++ [⟨"assistant", .text (if text = "" then default else text)⟩] }

def respond (c : Conversation) (text : String) : Conversation := if text = "" then c else c.emit [.llmResponse text]

variable (floatText : ℚ → String) (cfg : ConversationConfig)

def compress (w : TurnWorld) (c : Conversation) : Conversation :=
  let result := compressIfNeeded floatText cfg.compressor c.stats c.messages w.summary w.restored
  { c with
    messages := result.1.messages
    stats := result.2
    events := c.events ++ match result.1.layer with
      | .none => []
      | layer => [.compression layer result.1.tokensBefore result.1.tokensAfter]
    calls := c.calls + 1 }

def toolOutcome (w : TurnWorld) (i : ℕ) : String × Bool :=
  if cfg.hasToolExecutor then
    match w.tool i with
    | .ok result => (result, false)
    | .error e => ("Tool error: " ++ e, true)
  else ("", false)

def toolResult (u : ToolUse) (outcome : String × Bool) : Json :=
  .obj ([("type", .str "tool_result"), ("tool_use_id", .str u.id), ("content", .str outcome.1)] ++
    if outcome.2 then [("is_error", .bool true)] else [])

def historyBlock : String ⊕ ToolUse → Json
  | .inl s => .obj [("type", .str "text"), ("text", .str s)]
  | .inr u => .obj [("type", .str "tool_use"), ("id", .str u.id), ("name", .str u.name), ("input", u.input)]

def executeTools (w : TurnWorld) (r : Response) (c : Conversation) : Conversation :=
  let outcomes := r.toolUses.zipIdx.map (fun ui => (ui.1, toolOutcome cfg w ui.2))
  { c with
    cumulativeToolCalls := c.cumulativeToolCalls + r.toolUses.length
    messages := c.messages ++ [⟨"assistant", .blocks (r.content.map historyBlock)⟩,
      ⟨"user", .blocks (outcomes.map (fun uo => toolResult uo.1 uo.2))⟩]
    events := c.events ++ outcomes.map (fun uo => .toolExecution uo.1.name uo.1.id uo.2.1 uo.2.2)
    tools := c.tools + if cfg.hasToolExecutor then r.toolUses.length else 0 }

/-- How a turn ends: with the next turn, with a turn-complete event, or with an exception. -/
inductive TurnEnd
  | next (c : Conversation)
  | done (c : Conversation)
  | escaped (c : Conversation)

/-- The call after the limit of tool calls is reached. -/
def finalCall (w : TurnWorld) (c : Conversation) : TurnEnd :=
  let c := { c with calls := c.calls + 1 }
  match w.finalReply with
  | .raised => .escaped c
  | .contentSizeError => .done c.stillTooLong
  | .response r => .done (((c.say r.text "(limit reached)").respond r.text).complete .maxToolCalls r.text)

def recover (w : TurnWorld) (c : Conversation) : TurnEnd :=
  if c.hasReactiveCompacted then .done c.stillTooLong
  else
    let c := { c.emit [.errorRecovery "content_size" "reactive_compact"] with hasReactiveCompacted := true }
    match reactiveCompact floatText cfg.compressor c.messages w.reactiveSummary with
    | none => .done c.stillTooLong
    | some r => .next { c with messages := r.messages }

def turn (w : TurnWorld) (c : Conversation) : TurnEnd :=
  let c := c.compress floatText cfg w
  match w.reply with
  | .raised => .escaped c
  | .contentSizeError => c.recover floatText cfg w
  | .response r =>
    let c := c.respond r.text
    if r.stopReason ≠ "tool_use" ∨ r.toolUses = [] then .done ((c.say r.text "(no response)").complete .endTurn r.text)
    else
      let c := c.executeTools cfg w r
      if cfg.maxToolCalls ≤ c.cumulativeToolCalls then c.finalCall w else .next c

/-- The turns that are left, and whether no exception escapes. -/
def runTurns (floatText : ℚ → String) (cfg : ConversationConfig) :
    ℕ → (ℕ → TurnWorld) → Conversation → Conversation × Bool
  | 0, _, c => (c.complete .maxTurns "", true)
  | n + 1, ws, c =>
    match c.turn floatText cfg (ws 0) with
    | .next c => runTurns floatText cfg n (fun i => ws (i + 1)) c
    | .done c => (c, true)
    | .escaped c => (c, false)

end Conversation

def Conversation.start (history : List Message) (stats : CompressionStats) (message : String) : Conversation :=
  ⟨history ++ [⟨"user", .text message⟩], stats, 0, false, [], 0, 0⟩

/-- `ConversationEngine.run`, with the answers of each turn. -/
def runConversation (floatText : ℚ → String) (cfg : ConversationConfig) (history : List Message)
    (stats : CompressionStats) (message : String) (ws : ℕ → TurnWorld) : Conversation × Bool :=
  Conversation.runTurns floatText cfg cfg.maxTurns.toNat ws (Conversation.start history stats message)

/-! ### Calls and the last event -/

namespace Conversation

variable {floatText : ℚ → String} {cfg : ConversationConfig} {w : TurnWorld} {c : Conversation} {n : ℕ}

/-- At most `n` calls, and no turn-complete event yet. -/
structure Open (n : ℕ) (c : Conversation) : Prop where
  calls : c.calls ≤ n
  events : ∀ e ∈ c.events, e.isTurnComplete = false

def Completed (n : ℕ) (c : Conversation) : Prop := ∃ c₀ reason text, c = complete c₀ reason text ∧ Open n c₀

private theorem Open.mono (h : Open n c) {m} (hnm : n ≤ m) : Open m c := ⟨h.calls.trans hnm, h.events⟩

private theorem Open.respond (h : Open n c) (text) : Open n (c.respond text) := by
  unfold Conversation.respond
  split
  · exact h
  · exact ⟨h.calls, forall_mem_append.2 ⟨h.events, by simp [ConversationEvent.isTurnComplete]⟩⟩

private theorem Open.say (h : Open n c) (text default) : Open n (c.say text default) := ⟨h.calls, h.events⟩

private theorem Open.compress (h : Open n c) (floatText) (cfg : ConversationConfig) (w) :
    Open (n + 1) (c.compress floatText cfg w) := by
  refine ⟨Nat.succ_le_succ h.calls, forall_mem_append.2 ⟨h.events, ?_⟩⟩
  split <;> simp [ConversationEvent.isTurnComplete]

private theorem Open.executeTools (h : Open n c) (cfg : ConversationConfig) (w r) :
    Open n (c.executeTools cfg w r) := by
  refine ⟨h.calls, forall_mem_append.2 ⟨h.events, fun e he => ?_⟩⟩
  obtain ⟨uo, -, rfl⟩ := mem_map.1 he
  rfl

/-- What a turn leaves, with the calls made before it. -/
def TurnEnd.Bounded (n : ℕ) : TurnEnd → Prop
  | .next c => Open (n + 1) c
  | .done c => Completed (n + 2) c
  | .escaped c => Open (n + 2) c

private theorem recover_bounded (h : Open (n + 1) c) : (c.recover floatText cfg w).Bounded n := by
  unfold Conversation.recover
  split
  · exact ⟨_, _, _, rfl, h.mono (Nat.le_succ _)⟩
  · have he := forall_mem_append.2 ⟨h.events, forall_mem_singleton.2
      (rfl : (ConversationEvent.errorRecovery "content_size" "reactive_compact").isTurnComplete = false)⟩
    dsimp only
    split
    · exact ⟨_, _, _, rfl, ⟨h.calls.trans (Nat.le_succ _), he⟩⟩
    · exact ⟨h.calls, he⟩

private theorem finalCall_bounded (h : Open (n + 1) c) : (c.finalCall w).Bounded n := by
  have h' : Open (n + 2) { c with calls := c.calls + 1 } := ⟨Nat.succ_le_succ h.calls, h.events⟩
  unfold Conversation.finalCall
  dsimp only
  split
  · exact h'
  · exact ⟨_, _, _, rfl, h'⟩
  · exact ⟨_, _, _, rfl, (h'.say _ _).respond _⟩

private theorem turn_bounded (floatText) (cfg : ConversationConfig) (w) (h : Open n c) :
    (c.turn floatText cfg w).Bounded n := by
  have hc := h.compress floatText cfg w
  unfold Conversation.turn
  dsimp only
  split
  · exact hc.mono (Nat.le_succ _)
  · exact recover_bounded hc
  · next r hr =>
    have hr' := hc.respond r.text
    split
    · exact ⟨_, _, _, rfl, (hr'.say _ _).mono (Nat.le_succ _)⟩
    · have hx := hr'.executeTools cfg w r
      split
      · exact finalCall_bounded hx
      · exact hx

/-- Every turn makes one call, and the last one at most one more. -/
private theorem runTurns_bounded (floatText) (cfg : ConversationConfig) (m) (ws) (h : Open n c) :
    let r := runTurns floatText cfg m ws c
    if r.2 then Completed (n + m + 1) r.1 else Open (n + m + 1) r.1 := by
  induction m generalizing n c ws with
  | zero => exact ⟨_, _, _, rfl, h.mono (Nat.le_succ _)⟩
  | succ m ih =>
    have ht := turn_bounded floatText cfg (ws 0) h
    unfold runTurns
    split
    · next hn =>
      rw [hn] at ht
      rw [show n + (m + 1) = n + 1 + m by omega]
      exact ih _ ht
    · next hd =>
      rw [hd] at ht
      obtain ⟨c₀, reason, text, hc, h₀⟩ := ht
      exact ⟨c₀, reason, text, hc, h₀.mono (by omega)⟩
    · next he =>
      rw [he] at ht
      exact Open.mono ht (by omega)

/-! ### Tools -/

def TurnEnd.state : TurnEnd → Conversation
  | .next c | .done c | .escaped c => c

/-- The tools that the response of a turn has executed. -/
def batch (cfg : ConversationConfig) (w : TurnWorld) : ℕ :=
  match w.reply with
  | .response r => if r.stopReason = "tool_use" ∧ cfg.hasToolExecutor then r.toolUses.length else 0
  | .contentSizeError | .raised => 0

/-- In each of the turns that are reached, the response asks for no more tools than are left of the limit. -/
def BatchesFit (floatText : ℚ → String) (cfg : ConversationConfig) : ℕ → (ℕ → TurnWorld) → Conversation → Prop
  | 0, _, _ => True
  | n + 1, ws, c => c.tools + batch cfg (ws 0) ≤ cfg.maxToolCalls ∧
      ∀ c', c.turn floatText cfg (ws 0) = .next c' → BatchesFit floatText cfg n (fun i => ws (i + 1)) c'

private theorem tools_respond (text) : (c.respond text).tools = c.tools := by
  unfold Conversation.respond
  split <;> rfl

private theorem tools_finalCall : (c.finalCall w).state.tools = c.tools := by
  unfold Conversation.finalCall
  dsimp only
  split
  · rfl
  · rfl
  · exact tools_respond _

private theorem tools_recover : (c.recover floatText cfg w).state.tools = c.tools := by
  unfold Conversation.recover
  split
  · rfl
  · dsimp only
    split <;> rfl

private theorem tools_turn (floatText) (cfg : ConversationConfig) (w) (c : Conversation) :
    (c.turn floatText cfg w).state.tools = c.tools + batch cfg w := by
  unfold Conversation.turn batch
  cases w.reply with
  | raised => rfl
  | contentSizeError => exact tools_recover
  | response r =>
    dsimp only
    have hc : ((c.compress floatText cfg w).respond r.text).tools = c.tools := tools_respond _
    split
    · next hs =>
      have hb : (if r.stopReason = "tool_use" ∧ cfg.hasToolExecutor then r.toolUses.length else 0) = 0 := by
        rcases hs with hs | hs <;> simp [hs]
      rw [hb]
      exact hc
    · next hs =>
      have hx : (((c.compress floatText cfg w).respond r.text).executeTools cfg w r).tools =
          c.tools + if cfg.hasToolExecutor then r.toolUses.length else 0 := congrArg (· + _) hc
      simp only [not_not.1 (not_or.1 hs).1, true_and, ← hx]
      split
      · exact tools_finalCall
      · rfl

/-- The limit holds after a run exactly if it holds before and every batch fits. -/
private theorem tools_runTurns (m) {ws} : (runTurns floatText cfg m ws c).1.tools ≤ cfg.maxToolCalls ↔
    c.tools ≤ cfg.maxToolCalls ∧ BatchesFit floatText cfg m ws c := by
  induction m generalizing c ws with
  | zero => exact (and_iff_left trivial).symm
  | succ m ih =>
    have ht := tools_turn floatText cfg (ws 0) c
    have hb : (c.tools + batch cfg (ws 0) : ℤ) ≤ cfg.maxToolCalls → c.tools ≤ cfg.maxToolCalls := by omega
    unfold runTurns BatchesFit
    generalize c.turn floatText cfg (ws 0) = e at ht
    cases e with
    | next c' =>
      change c'.tools = _ at ht
      simp only [TurnEnd.next.injEq, forall_eq', ih, ht, Nat.cast_add]
      exact ⟨fun h => ⟨hb h.1, h⟩, And.right⟩
    | done c' =>
      change c'.tools = _ at ht
      simp only [reduceCtorEq, false_imp_iff, implies_true, and_true, ht, Nat.cast_add]
      exact ⟨fun h => ⟨hb h, h⟩, And.right⟩
    | escaped c' =>
      change c'.tools = _ at ht
      simp only [reduceCtorEq, false_imp_iff, implies_true, and_true, ht, Nat.cast_add]
      exact ⟨fun h => ⟨hb h, h⟩, And.right⟩

end Conversation

/-- A run executes at most `max_tool_calls` tools if and only if that is not negative and no response that is reached
asks for more tools than are left.  It makes at most `max_turns + 1` calls if and only if that is not negative.
Unless an exception escapes, its last event is the only turn-complete event. -/
theorem conversation_bounded_iff (floatText : ℚ → String) (cfg : ConversationConfig) (history : List Message)
    (stats : CompressionStats) (message : String) (ws : ℕ → TurnWorld) :
    let r := runConversation floatText cfg history stats message ws
    (r.1.tools ≤ cfg.maxToolCalls ↔ 0 ≤ cfg.maxToolCalls ∧
      Conversation.BatchesFit floatText cfg cfg.maxTurns.toNat ws (.start history stats message)) ∧
    (r.1.calls ≤ cfg.maxTurns + 1 ↔ 0 ≤ cfg.maxTurns + 1) ∧
    (r.2 = true →
      ∃ events reason text, r.1.events = events ++ [.turnComplete reason text] ∧
        ∀ e ∈ events, e.isTurnComplete = false) := by
  have ho : Conversation.Open 0 (.start history stats message) := ⟨le_rfl, forall_mem_nil _⟩
  have h := Conversation.runTurns_bounded floatText cfg cfg.maxTurns.toNat ws ho
  rw [Nat.zero_add] at h
  change if (runConversation _ _ _ _ _ _).2 then _ else _ at h
  have hc : (runConversation floatText cfg history stats message ws).1.calls ≤ cfg.maxTurns.toNat + 1 := by
    split at h
    · obtain ⟨c₀, reason, text, hc, h₀⟩ := h
      exact hc ▸ h₀.calls
    · exact h.calls
  refine ⟨Conversation.tools_runTurns _, ⟨fun hl => by omega, fun hp => ?_⟩, fun hr => ?_⟩
  · by_cases hz : cfg.maxTurns.toNat = 0
    · have hn : (runConversation floatText cfg history stats message ws).1.calls = 0 := by
        unfold runConversation
        rw [hz]
        rfl
      omega
    · omega
  · rw [if_pos hr] at h
    obtain ⟨c₀, reason, text, hc, h₀⟩ := h
    exact ⟨c₀.events, reason, text, hc ▸ rfl, h₀.events⟩

def toolTurn (uses : ℕ) : TurnWorld where
  summary := none
  restored := []
  reply := .response ⟨"tool_use", replicate uses (.inr ⟨"t1", "search", .null⟩)⟩
  reactiveSummary := none
  tool _ := .ok "ok"
  finalReply := .response ⟨"end_turn", [.inl "done"]⟩

def oneTool : ConversationConfig := ⟨1, 5, true, ⟨100, 100, 10, 5, 8, fun _ => false⟩⟩

/-- A response with two tool uses goes beyond a limit of one. -/
theorem conversation_exceeds_limit :
    (runConversation noFloat oneTool [] ⟨0, 0, .none, 0⟩ "hi" (fun _ => toolTurn 2)).1.tools = 2 ∧
      oneTool.maxToolCalls = 1 := by
  decide +kernel

end WisdoverseCell.Infra
