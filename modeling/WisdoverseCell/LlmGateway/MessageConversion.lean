import WisdoverseCell.Infra.Compaction

/-!
# Messages for the provider

A message with tool results becomes its text, if there is some, and then one tool message for each result.  So the
text of a message that answers tool calls comes between the calls and their results; they are adjacent exactly if
there is no such text (`conversion_adjacent_iff`).
-/

namespace WisdoverseCell.LlmGateway

open List
open Infra (Message Content field)

/-- `str` of a value, and the text of a float. -/
structure Printer where
  str : Json → String
  floatText : ℚ → String

structure ToolCall where
  id : Option Json
  name : Option Json
  arguments : String

inductive OpenAiMessage
  | message (role : String) (content : Option String) (toolCalls : List ToolCall)
  | tool (toolCallId : Option Json) (content : String)

def blockText (p : Printer) (b : Json) : Option String :=
  if field "type" b = some (.str "text") then ((field "text" b).filter Json.truthy).map p.str else none

def toolCall (p : Printer) (b : Json) : Option ToolCall :=
  if field "type" b = some (.str "tool_use") then
    let input := ((field "input" b).filter Json.truthy).getD (.obj [])
    some ⟨field "id" b, field "name" b, String.ofList (input.text Infra.plainStyle p.floatText)⟩
  else none

def resultText (p : Printer) : Option Json → String
  | some (.str s) => s
  | some v => p.str v
  | none => "None"

def toolMessage (p : Printer) (b : Json) : Option OpenAiMessage :=
  if Infra.isToolResult b then some (.tool (field "tool_use_id" b) (resultText p (field "content" b))) else none

def messageTexts (p : Printer) (m : Message) : List String :=
  match m.content with
  | .text s => [s]
  | .blocks bs => bs.filterMap (blockText p)

/-- `_anthropic_content_to_openai_messages`. -/
def openaiMessages (p : Printer) (m : Message) : List OpenAiMessage :=
  match m.content with
  | .text s => [.message m.role (some s) []]
  | .blocks bs =>
    let texts := bs.filterMap (blockText p)
    let text := "\n".intercalate texts
    let results := bs.filterMap (toolMessage p)
    if results.isEmpty then [.message m.role (if text = "" then none else some text) (bs.filterMap (toolCall p))]
    else (if texts.isEmpty then [] else [.message m.role (some text) []]) ++ results

def messagesToLitellm (p : Printer) (system : String) (ms : List Message) : List OpenAiMessage :=
  (if system = "" then [] else [.message "system" (some system) []]) ++ ms.flatMap (openaiMessages p)

/-! ### Adjacency -/

/-- The ids of an assistant message's tool calls. -/
def OpenAiMessage.callIds : OpenAiMessage → List (Option Json)
  | .message role _ toolCalls => if role = "assistant" then toolCalls.map ToolCall.id else []
  | .tool .. => []

/-- The id of a tool message. -/
def OpenAiMessage.toolId : OpenAiMessage → Option (Option Json)
  | .message .. => none
  | .tool id _ => some id

/-- Right after a message with tool calls there is one tool message for each of them. -/
def adjacent : List OpenAiMessage → Bool
  | [] => true
  | m :: ms => ((ms.take m.callIds.length).map OpenAiMessage.toolId).isPerm (m.callIds.map some) && adjacent ms

/-- After a message with tool uses, and no results itself, there is one with a result for each of them. -/
def answered : List Message → Bool
  | [] => true
  | m :: ms => (!m.resultIds.isEmpty || m.useIds.isEmpty || ms.head?.any (fun u => u.resultIds.isPerm m.useIds)) &&
      answered ms

/-- The message after one with tool uses, and no results itself, has no text. -/
def answeredSilently (p : Printer) : List Message → Bool
  | [] => true
  | m :: ms => (!m.resultIds.isEmpty || m.useIds.isEmpty || ms.head?.all (fun u => (messageTexts p u).isEmpty)) &&
      answeredSilently p ms

variable {p : Printer} {m : Message} {ms : List Message} {as bs : List OpenAiMessage}

private theorem map_toolMessages (js : List Json) :
    (js.filterMap (toolMessage p)).map OpenAiMessage.toolId = (js.filterMap Infra.resultId).map some := by
  rw [map_filterMap, map_filterMap]
  refine filterMap_congr (fun b _ => ?_)
  unfold toolMessage Infra.resultId
  split <;> rfl

private theorem toolMessages_eq_nil {js : List Json} :
    js.filterMap (toolMessage p) = [] ↔ js.filterMap Infra.resultId = [] := by
  rw [← map_eq_nil_iff (f := OpenAiMessage.toolId), map_toolMessages, map_eq_nil_iff]

private theorem map_toolCalls (js : List Json) :
    (js.filterMap (toolCall p)).map ToolCall.id = js.filterMap Infra.useId := by
  rw [map_filterMap]
  refine filterMap_congr (fun b _ => ?_)
  unfold toolCall Infra.useId
  split <;> rfl

private theorem openaiMessages_of_results (h : m.resultIds ≠ []) (ht : messageTexts p m = []) :
    (openaiMessages p m).map OpenAiMessage.toolId = m.resultIds.map some := by
  obtain ⟨role, s | js⟩ := m
  · exact absurd rfl h
  · have hne : js.filterMap (toolMessage p) ≠ [] := mt toolMessages_eq_nil.1 h
    change js.filterMap (blockText p) = [] at ht
    simp only [openaiMessages, List.isEmpty_iff, if_neg hne, ht, if_true, nil_append]
    exact map_toolMessages js

private theorem openaiMessages_of_texts (h : m.resultIds ≠ []) (ht : messageTexts p m ≠ []) :
    ∃ content rest, openaiMessages p m = .message m.role content [] :: rest := by
  obtain ⟨role, s | js⟩ := m
  · exact absurd rfl h
  · have hne : js.filterMap (toolMessage p) ≠ [] := mt toolMessages_eq_nil.1 h
    change js.filterMap (blockText p) ≠ [] at ht
    simp only [openaiMessages, List.isEmpty_iff, if_neg hne, if_neg ht]
    exact ⟨_, _, rfl⟩

private theorem callIds_of_results (h : m.resultIds ≠ []) : ∀ x ∈ openaiMessages p m, x.callIds = [] := by
  obtain ⟨role, s | js⟩ := m
  · exact absurd rfl h
  · have hne : js.filterMap (toolMessage p) ≠ [] := mt toolMessages_eq_nil.1 h
    simp only [openaiMessages, List.isEmpty_iff, if_neg hne]
    refine forall_mem_append.2 ⟨?_, fun x hx => ?_⟩
    · split <;> simp [OpenAiMessage.callIds]
    · obtain ⟨b, -, hb⟩ := mem_filterMap.1 hx
      obtain ⟨-, hb⟩ := Option.ite_none_right_eq_some.1 hb
      cases hb
      rfl

private theorem openaiMessages_of_none (h : m.resultIds = []) :
    ∃ x, openaiMessages p m = [x] ∧ x.callIds = m.useIds := by
  obtain ⟨role, s | js⟩ := m
  · exact ⟨_, rfl, by simp [OpenAiMessage.callIds, Message.useIds, Message.blocks]⟩
  · have hn : js.filterMap (toolMessage p) = [] := toolMessages_eq_nil.2 h
    simp only [openaiMessages, hn, isEmpty_nil, if_true]
    refine ⟨_, rfl, ?_⟩
    simp only [OpenAiMessage.callIds, Message.useIds, map_toolCalls]
    rfl

private theorem adjacent_append (h : ∀ x ∈ as, x.callIds = []) : adjacent (as ++ bs) = adjacent bs := by
  induction as with
  | nil => rfl
  | cons x as ih =>
    obtain ⟨hx, has⟩ := forall_mem_cons.1 h
    rw [cons_append, adjacent, hx, ih has]
    exact Bool.true_and _

/-- The tool messages for the calls of `m` follow at once exactly if the message that answers has no text. -/
private theorem take_isPerm {u : Message} (hu : m.useIds ≠ []) (hp : u.resultIds.Perm m.useIds) :
    (((openaiMessages p u ++ bs).take m.useIds.length).map OpenAiMessage.toolId).isPerm (m.useIds.map some) =
      (messageTexts p u).isEmpty := by
  have hur : u.resultIds ≠ [] := fun hn => hu (nil_perm.1 (hn ▸ hp))
  by_cases ht : messageTexts p u = []
  · have hmp := openaiMessages_of_results hur ht
    have hl : m.useIds.length = (openaiMessages p u).length := by
      rw [← hp.length_eq, ← length_map (f := some), ← hmp, length_map]
    rw [hl, take_left, hmp, ht, isEmpty_nil, isPerm_iff]
    exact hp.map some
  · obtain ⟨content, rest, hx⟩ := openaiMessages_of_texts hur ht
    obtain ⟨n, hn⟩ := Nat.exists_eq_succ_of_ne_zero (mt length_eq_zero_iff.1 hu)
    rw [isEmpty_eq_false_iff.2 ht, hx, hn, cons_append, take_succ_cons, map_cons, Bool.eq_false_iff, ne_eq, isPerm_iff]
    intro hperm
    have hnone := hperm.subset mem_cons_self
    simp [OpenAiMessage.toolId] at hnone

private theorem adjacent_flatMap (h : answered ms = true) :
    adjacent (ms.flatMap (openaiMessages p)) = answeredSilently p ms := by
  induction ms with
  | nil => rfl
  | cons m ms ih =>
    obtain ⟨hm, hms⟩ := Bool.and_eq_true_iff.1 h
    rw [flatMap_cons, answeredSilently, ← ih hms]
    by_cases hr : m.resultIds = []
    · obtain ⟨x, hx, hi⟩ := openaiMessages_of_none (p := p) hr
      rw [hx, singleton_append, adjacent, hi]
      congr 1
      by_cases hu : m.useIds = []
      · simp only [hu, length_nil, take_zero, map_nil, isEmpty_nil, Bool.or_true, Bool.true_or]
        rfl
      · -- the next message answers
        simp only [hr, isEmpty_nil, Bool.not_true, Bool.false_or, List.isEmpty_iff, hu, Bool.or_eq_true, false_or] at hm
        cases ms with
        | nil => simp at hm
        | cons u rest =>
          have hp : u.resultIds.Perm m.useIds := isPerm_iff.1 (by simpa using hm)
          rw [flatMap_cons, take_isPerm hu hp]
          simp [hr, hu]
    · rw [adjacent_append (callIds_of_results hr)]
      simp [hr]

private theorem text_kept (h : messageTexts p m ≠ []) :
    ∃ content calls, .message m.role content calls ∈ openaiMessages p m ∧
      content.getD "" = "\n".intercalate (messageTexts p m) := by
  obtain ⟨role, s | js⟩ := m
  · exact ⟨some s, [], mem_singleton_self _, rfl⟩
  · change js.filterMap (blockText p) ≠ [] at h
    simp only [openaiMessages, messageTexts, List.isEmpty_iff, if_neg h]
    split
    · refine ⟨_, _, mem_singleton_self _, ?_⟩
      split
      · next he => exact he.symm
      · rfl
    · exact ⟨_, _, mem_append_left _ (mem_singleton_self _), rfl⟩

/-- Every message with tool calls is followed by one tool message for each call, and no text is lost, exactly if no
message that answers tool calls has a text. -/
theorem conversion_adjacent_iff (p : Printer) (system : String) (ms : List Message) (h : answered ms = true) :
    (adjacent (messagesToLitellm p system ms) = true ∧ ∀ m ∈ ms, messageTexts p m ≠ [] →
      ∃ content calls, .message m.role content calls ∈ messagesToLitellm p system ms ∧
        content.getD "" = "\n".intercalate (messageTexts p m)) ↔ answeredSilently p ms = true := by
  have ha : adjacent (messagesToLitellm p system ms) = answeredSilently p ms := by
    refine (adjacent_append ?_).trans (adjacent_flatMap h)
    split <;> simp [OpenAiMessage.callIds]
  rw [ha]
  refine and_iff_left (fun m hm hne => ?_)
  obtain ⟨content, calls, hc, htx⟩ := text_kept hne
  exact ⟨content, calls, mem_append_right _ (mem_flatMap.2 ⟨m, hm, hc⟩), htx⟩

def plainPrinter : Printer := ⟨fun
  | .str s => s
  | _ => "", Infra.noFloat⟩

def note : Json := .obj [("type", .str "text"), ("text", .str "note")]

def called (id : String) : Json := .obj [("type", .str "tool_use"), ("id", .str id)]

def returned (id : String) : Json :=
  .obj [("type", .str "tool_result"), ("tool_use_id", .str id), ("content", .str "ok")]

/-- Two calls and their results, and then a text beside a result that answers none. -/
def twoCalls : List Message :=
  [⟨"assistant", .blocks [note, called "t1", called "t2"]⟩, ⟨"user", .blocks [returned "t2", returned "t1"]⟩,
    ⟨"user", .blocks [returned "t0", note]⟩]

/-- Two calls that are answered in the other order, and a text beside a result that answers none. -/
theorem conversion_adjacent_iff_two :
    answered twoCalls = true ∧ adjacent (messagesToLitellm plainPrinter "system" twoCalls) = true := by
  have h : answered twoCalls = true := by decide +kernel
  exact ⟨h, ((conversion_adjacent_iff plainPrinter "system" twoCalls h).2 (by decide +kernel)).1⟩

/-- The text in the answer stands between the tool call and its result. -/
theorem text_before_result : let ms := [⟨"assistant", .blocks [called "t1"]⟩, ⟨"user", .blocks [returned "t1", note]⟩]
    answered ms = true ∧ adjacent (messagesToLitellm plainPrinter "" ms) = false := by
  decide +kernel

end WisdoverseCell.LlmGateway
