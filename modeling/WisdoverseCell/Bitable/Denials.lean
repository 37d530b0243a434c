import WisdoverseCell.Bitable.Callbacks

/-!
# Remembered rejections

The check before a proposal asks for a denial of the user, the action and the table that the tool call names.  The
reject button of the card carries only its action, so the gateway sends no table and the denial is one of the default
table.
-/

namespace WisdoverseCell.Bitable

open List

/-- Keys with the times at which they expire. -/
structure Denials where
  clock : Nat
  entries : List (String × Nat)

def denialTtl : Nat := 3600000

/-- `_key`; `digest` is the beginning of the MD5 digest of a text. -/
def denialKey (digest : String → String) (userId actionType tableId : String) : String :=
  "denial:chat-agent:" ++ userId ++ ":" ++ actionType ++ ":" ++ digest tableId

def Denials.record (s : Denials) (key : String) : Denials :=
  { s with entries := s.entries.filter (fun e => e.1 ≠ key) ++ [(key, s.clock + denialTtl)] }

def Denials.has (s : Denials) (key : String) : Bool := s.entries.any (fun e => e.1 = key ∧ s.clock < e.2)

/-! ### The reject button -/

def Kind.text : Kind → String
  | .update => "update"
  | .create => "create"

/-- The value of the reject button on the card of a proposal. -/
def rejectButton (kind : Kind) : Json := .obj [("action", .str ("reject_bitable_" ++ kind.text))]

structure RejectRequest where
  actionType : String
  userId : String
  fields : JsonObj
  tableId : String
  recordId : String

/-- What the gateway posts for a click with this value. -/
def forwardReject (value : Json) (operator : String) : Option RejectRequest :=
  let request (kind : Kind) : RejectRequest :=
    ⟨kind.text, operator, objectField value "fields", stringField value "table_id", stringField value "record_id"⟩
  if stringField value "action" = "reject_bitable_update" then some (request .update)
  else if stringField value "action" = "reject_bitable_create" then some (request .create)
  else none

def rejectOperation (digest : String → String) (s : Denials) (request : RejectRequest) : Denials :=
  if request.actionType = "" ∨ request.userId = "" then s
  else s.record (denialKey digest request.userId request.actionType request.tableId)

def pressReject (digest : String → String) (s : Denials) (userId : String) (kind : Kind) : Denials :=
  ((forwardReject (rejectButton kind) userId).map (rejectOperation digest s)).getD s

/-- `_chat_tool_executor` on `propose_bitable_update` and `propose_bitable_create`: the check before a proposal. -/
def refused (digest : String → String) (s : Denials) (userId : String) (kind : Kind) (tableId : String) : Bool :=
  s.has (denialKey digest userId kind.text tableId)

inductive DenialEvent
  | tick (ms : Nat)
  | press (userId : String) (kind : Kind)

def Denials.event (digest : String → String) (s : Denials) : DenialEvent → Denials
  | .tick ms => { s with clock := s.clock + ms }
  | .press userId kind => pressReject digest s userId kind

variable {digest : String → String} {s : Denials} {userId key tableId : String} {kind : Kind} {deadline : Nat}

private theorem pressReject_eq (h : userId ≠ "") (s kind) :
    pressReject digest s userId kind = s.record (denialKey digest userId kind.text "") := by
  cases kind <;> exact if_neg (by simp [h, Kind.text])

/-- The key does not expire before the deadline, which is at most one lifetime away. -/
def Denials.Held (s : Denials) (key : String) (deadline : Nat) : Prop :=
  (∃ e ∈ s.entries, e.1 = key ∧ deadline ≤ e.2) ∧ deadline ≤ s.clock + denialTtl

private theorem Denials.Held.record (h : s.Held key deadline) (key') : (s.record key').Held key deadline := by
  obtain ⟨⟨e, he, hk, hd⟩, hc⟩ := h
  refine ⟨?_, hc⟩
  by_cases heq : key = key'
  · exact ⟨_, mem_append_right _ mem_cons_self, heq.symm, hc⟩
  · exact ⟨e, mem_append_left _ (mem_filter.2 ⟨he, decide_eq_true (hk ▸ heq)⟩), hk, hd⟩

private theorem Denials.Held.event (h : s.Held key deadline) (event) : (s.event digest event).Held key deadline := by
  cases event with
  | tick ms => exact ⟨h.1, h.2.trans (by dsimp only [Denials.event]; omega)⟩
  | press userId kind =>
    by_cases hu : userId = ""
    · subst hu
      cases kind <;> exact h
    · dsimp only [Denials.event]
      rw [pressReject_eq hu]
      exact h.record _

private theorem Denials.Held.run (h : s.Held key deadline) (events : List DenialEvent) :
    (events.foldl (Denials.event digest) s).Held key deadline := by
  induction events generalizing s with
  | nil => exact h
  | cons event events ih => exact ih (h.event event)

private theorem denialKey_eq_iff {tableId'} :
    denialKey digest userId kind.text tableId = denialKey digest userId kind.text tableId' ↔
      digest tableId = digest tableId' := by
  unfold denialKey
  exact String.append_right_inj _

/-- A rejection is remembered for an hour, whatever else is rejected, exactly if it is one of a known user for a table
that has the same digest as the default one. -/
theorem rejection_remembered_iff (digest : String → String) (userId : String) (kind : Kind) (tableId : String) :
    (∀ (s : Denials) (events : List DenialEvent) (s' : Denials),
      s' = events.foldl (Denials.event digest) (pressReject digest s userId kind) → s'.clock < s.clock + denialTtl →
        refused digest s' userId kind tableId = true) ↔ userId ≠ "" ∧ digest tableId = digest "" := by
  constructor
  · intro h
    have hc : 0 < 0 + denialTtl := by decide
    have hr := h ⟨0, []⟩ [] _ rfl
    by_cases hu : userId = ""
    · subst hu
      cases kind <;> cases hr hc
    · rw [foldl_nil, pressReject_eq hu] at hr
      obtain ⟨e, hm, he⟩ := any_eq_true.1 (hr hc)
      obtain rfl := mem_singleton.1 hm
      exact ⟨hu, denialKey_eq_iff.1 (of_decide_eq_true he).1.symm⟩
  · rintro ⟨hu, ht⟩ s events _ rfl hc
    have hh : (pressReject digest s userId kind).Held (denialKey digest userId kind.text "") (s.clock + denialTtl) := by
      rw [pressReject_eq hu]
      exact ⟨⟨_, mem_append_right _ mem_cons_self, rfl, Nat.le_refl _⟩, Nat.le_refl _⟩
    obtain ⟨⟨e, hm, hke, hd⟩, -⟩ := hh.run events
    unfold refused
    rw [denialKey_eq_iff.2 ht]
    exact any_eq_true.2 ⟨e, hm, decide_eq_true ⟨hke, Nat.lt_of_lt_of_le hc hd⟩⟩

/-- The rejected proposal was one for another table. -/
theorem rejection_forgotten : refused id (pressReject id ⟨0, []⟩ "ou_1" .update) "ou_1" .update "tbl_1" = false := by
  decide +kernel

end WisdoverseCell.Bitable
