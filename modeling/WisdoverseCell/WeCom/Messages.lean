import Mathlib.Data.String.Basic

/-!
# The messages of WeCom

`parse_received_message` is a fold over the events of an XML reader, with the last opened tag in a register.  Every
text and every CDATA section of a field replaces what was there, so a field keeps its last chunk only
(`field_full_text_iff`).
-/

namespace WisdoverseCell.WeCom

open List

inductive MessageField
  | fromUserName | msgType | msgId | content | recognition | title | description | event | eventKey | responseCode
      | taskId
  | cardType

def MessageField.tag : MessageField → String
  | .fromUserName => "FromUserName"
  | .msgType => "MsgType"
  | .msgId => "MsgId"
  | .content => "Content"
  | .recognition => "Recognition"
  | .title => "Title"
  | .description => "Description"
  | .event => "Event"
  | .eventKey => "EventKey"
  | .responseCode => "ResponseCode"
  | .taskId => "TaskId"
  | .cardType => "CardType"

private theorem MessageField.tag_ne_empty (f : MessageField) : f.tag ≠ "" := by cases f <;> decide

def ReceivedMessage : Type := MessageField → String

/-- What the reader returns up to the end of the file; entity references and empty elements are among the `other`
events. -/
inductive XmlEvent
  | start (name : String)
  | text (chunk : String)
  | cData (chunk : String)
  | close
  | other
  | error
  deriving DecidableEq

def applyReceivedMessageText (message : ReceivedMessage) (tag text : String) : ReceivedMessage :=
  fun f => if f.tag = tag then text else message f

/-- The loop of `parse_received_message`; `none` is `InvalidXml`. -/
def parseEvents : String → ReceivedMessage → List XmlEvent → Option ReceivedMessage
  | _, message, [] => some message
  | currentTag, message, e :: es =>
    match e with
    | .start name => parseEvents name message es
    | .text chunk | .cData chunk => parseEvents currentTag (applyReceivedMessageText message currentTag chunk) es
    | .close => parseEvents "" message es
    | .other => parseEvents currentTag message es
    | .error => none

def parseReceivedMessage (es : List XmlEvent) : Option ReceivedMessage := parseEvents "" (fun _ => "") es

def XmlEvent.chunk : XmlEvent → Option String
  | .text chunk | .cData chunk => some chunk
  | .start _ | .close | .other | .error => none

/-- The texts and CDATA sections in a part of the stream. -/
def chunks (es : List XmlEvent) : List String := es.filterMap XmlEvent.chunk

/-! ### The last chunk counts -/

variable {f : MessageField} {tag : String} {message : ReceivedMessage} {es : List XmlEvent}

private theorem parse_outside (ht : tag ≠ f.tag) (hs : .start f.tag ∉ es) (he : .error ∉ es) :
    ∃ message' tag', message' f = message f ∧ tag' ≠ f.tag ∧
      ∀ rest, parseEvents tag message (es ++ rest) = parseEvents tag' message' rest := by
  induction es generalizing tag message with
  | nil => exact ⟨message, tag, rfl, ht, fun _ => rfl⟩
  | cons e es ih =>
    rw [mem_cons, not_or] at hs he
    cases e with
    | start => exact ih (fun h => hs.1 (congrArg _ h.symm)) hs.2 he.2
    | text chunk | cData chunk =>
      obtain ⟨message', tag', hsm, ht', hp⟩ := @ih tag (applyReceivedMessageText message tag chunk) ht hs.2 he.2
      exact ⟨message', tag', hsm.trans (if_neg ht.symm), ht', hp⟩
    | close => exact ih f.tag_ne_empty.symm hs.2 he.2
    | other => exact ih ht hs.2 he.2
    | error => exact absurd rfl he.1

private theorem parse_inside (hl : ∀ e ∈ es, e = .other ∨ e.chunk.isSome) :
    ∃ message', message' f = (chunks es).getLast?.getD (message f) ∧
      ∀ rest, parseEvents f.tag message (es ++ rest) = parseEvents f.tag message' rest := by
  induction es generalizing message with
  | nil => exact ⟨message, rfl, fun _ => rfl⟩
  | cons e es ih =>
    obtain ⟨he, hes⟩ := forall_mem_cons.1 hl
    have hn := fun message => @ih message hes
    cases e with
    | text chunk | cData chunk =>
      obtain ⟨message', hls, hp⟩ := hn (applyReceivedMessageText message f.tag chunk)
      refine ⟨message', hls.trans ?_, hp⟩
      rw [applyReceivedMessageText, if_pos rfl]
      exact (congrArg (Option.getD · _) (getLast?_cons (a := chunk))).symm
    | other => exact hn message
    | start | close | error => simp [XmlEvent.chunk] at he

private theorem join_eq_empty_iff (xs) : String.join xs = "" ↔ ∀ x ∈ xs, x = "" := by
  induction xs with
  | nil => simp
  | cons x xs ih => simp [ih]

private theorem last_eq_join_iff (xs) : xs.getLast?.getD "" = String.join xs ↔ ∀ x ∈ xs.dropLast, x = "" := by
  rcases eq_nil_or_concat xs with rfl | ⟨ys, x, rfl⟩
  · simp
  · rw [concat_eq_append, getLast?_concat, dropLast_concat, String.join_append, ← join_eq_empty_iff]
    change x = String.join ys ++ String.join [x] ↔ _
    rw [String.join_cons, String.join_nil, String.append_empty, eq_comm, String.append_eq_right_iff]

/-- A field whose tag occurs once, as a leaf, has the full text of its element exactly if nothing stands before its last
chunk. -/
theorem field_full_text_iff (f : MessageField) (before inside after : List XmlEvent)
    (herror : .error ∉ before ∧ .error ∉ after) (honce : .start f.tag ∉ before ∧ .start f.tag ∉ after)
    (hleaf : ∀ e ∈ inside, e = .other ∨ e.chunk.isSome) :
    ∃ message, parseReceivedMessage (before ++ .start f.tag :: (inside ++ .close :: after)) = some message ∧
      (message f = String.join (chunks inside) ↔ ∀ chunk ∈ (chunks inside).dropLast, chunk = "") := by
  obtain ⟨message₁, tag₁, he, -, hb⟩ := @parse_outside f "" (fun _ => "") before f.tag_ne_empty.symm honce.1 herror.1
  obtain ⟨message₂, hl, hi⟩ := @parse_inside f message₁ inside hleaf
  obtain ⟨message₃, tag₃, hs, -, ha⟩ := @parse_outside f "" message₂ after f.tag_ne_empty.symm honce.2 herror.2
  refine ⟨message₃, ?_, ?_⟩
  · calc parseReceivedMessage (before ++ .start f.tag :: (inside ++ .close :: after))
      _ = parseEvents tag₁ message₁ (.start f.tag :: (inside ++ .close :: after)) := hb _
      _ = parseEvents f.tag message₂ (.close :: after) := hi _
      _ = parseEvents "" message₂ (after ++ []) := by rw [append_nil]; rfl
      _ = some message₃ := ha []
  · rw [hs, hl, he]
    exact last_eq_join_iff _

theorem field_full_text_iff_hello :
    ∃ message, parseReceivedMessage ([.start "xml"] ++ .start MessageField.content.tag ::
        ([.text "", .other, .cData "hello"] ++ .close :: [.close])) = some message ∧ message .content = "hello" := by
  obtain ⟨message, hp, hi⟩ :=
    field_full_text_iff .content [.start "xml"] [.text "", .other, .cData "hello"] [.close] (by decide) (by decide)
      (by decide)
  exact ⟨message, hp, (hi.2 (by decide)).trans (by decide)⟩

/-- Two CDATA sections; the first one is lost. -/
theorem first_chunk_lost :
    ∃ message, parseReceivedMessage [.start "xml", .start "Content", .cData "a]]", .cData ">b", .close, .close] =
      some message ∧ message .content = ">b" ∧ message .content ≠ String.join (chunks [.cData "a]]", .cData ">b"]) :=
  ⟨_, rfl, rfl, by decide⟩

end WisdoverseCell.WeCom
