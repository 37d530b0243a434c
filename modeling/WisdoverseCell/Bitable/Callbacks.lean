import WisdoverseCell.Bitable.Fields
import WisdoverseCell.Library.Pool

/-!
# Proposals and card callbacks

A tool call stores a proposed change under a new action id and sends a card.  The gateway forwards a confirmation unless
it has forwarded its value within the last 30 seconds; the chat agent looks the action id up and writes, or writes what
the body says if there is none.  `history` and `named` are read by no function of the source.
-/

namespace WisdoverseCell.Bitable

/-! ### States -/

/-- A proposal as it is stored; the record is there for an update, the table if the tool call named one. -/
structure PendingOp where
  actionId : String
  recordId : Option String
  fields : JsonObj
  proposerId : String
  tableId : Option String
  expiresAt : Nat
  deriving DecidableEq

inductive Kind
  | update
  | create
  deriving DecidableEq

structure Request where
  kind : Kind
  recordId : String
  fields : JsonObj
  tableId : String
  userId : String
  actionId : String

inductive Target
  | update (recordId : String)
  | create
  deriving DecidableEq

/-- A write to the table; the empty table id is that of the default table. -/
structure Write where
  target : Target
  tableId : String
  fields : JsonObj
  userId : String
  actionId : String
  deriving DecidableEq

inductive Happening
  | wrote (w : Write)
  | rejected (actionId : String)
  deriving DecidableEq

/-- Both Redis servers and the histories; times are in milliseconds. -/
structure Store where
  clock : Nat
  pending : List PendingOp
  dedup : List (String × Nat)
  named : List String
  history : List Happening

inductive Stage
  | lookup
  | write (target : Target) (tableId : String) (fields : JsonObj)
  | answered
  deriving DecidableEq

structure Task where
  request : Request
  stage : Stage

/-! ### Proposals -/

def pendingOpTtl : Nat := 1800000

structure Proposal where
  recordId : Option String
  fields : JsonObj
  userId : String
  chatId : String
  tableId : String

def propose (s : Store) (actionId : String) (p : Proposal) : Option Store :=
  if p.userId = "" ∧ p.chatId = "" then none
  else if actionId = "" ∨ actionId ∈ s.named ∨ ∃ op ∈ s.pending, op.actionId = actionId then none
  else some { s with
    pending := s.pending ++ [⟨actionId, p.recordId, p.fields, p.userId, if p.tableId = "" then none else some p.tableId,
      s.clock + pendingOpTtl⟩] }

def getPendingOp (s : Store) (actionId : String) : Option PendingOp :=
  s.pending.find? (fun op => op.actionId = actionId ∧ s.clock < op.expiresAt)

/-! ### The gateway -/

/-- The key of a value and of the action, with a digest of the text of the value. -/
structure Gateway where
  digest : Json → String

def Gateway.dedupKey (gw : Gateway) (kind : Kind) (value : Json) : String :=
  "dedup:bitable:" ++ (match kind with
    | .update => "confirm_update"
    | .create => "confirm_create") ++ ":" ++ gw.digest value

def dedupTtl : Nat := 30000

def dedupBitableAction (s : Store) (key : String) (serverFails : Bool) : Store × Bool :=
  if serverFails then (s, true)
  else if s.dedup.any (fun k => k.1 = key ∧ s.clock < k.2) then (s, false)
  else ({ s with dedup := s.dedup ++ [(key, s.clock + dedupTtl)] }, true)

def kindOf (value : Json) : Option Kind :=
  if stringField value "action" = "confirm_bitable_update" then some .update
  else if stringField value "action" = "confirm_bitable_create" then some .create
  else none

def forwardOf (kind : Kind) (value : Json) (operator : String) : Request where
  kind := kind
  recordId := match kind with
    | .update => stringField value "record_id"
    | .create => ""
  fields := objectField value "fields"
  tableId := stringField value "table_id"
  userId := operator
  actionId := stringField value "action_id"

inductive Arrival
  | callback (operator : String) (value : Json) (serverFails : Bool)
  | request (request : Request)

def Gateway.forward (gw : Gateway) (s : Store) : Arrival → Option (Store × Request)
  | .callback operator value serverFails =>
    (kindOf value).bind (fun kind =>
      match dedupBitableAction s (gw.dedupKey kind value) serverFails with
      | (s', true) => some (s', forwardOf kind value operator)
      | (_, false) => none)
  | .request request => some (s, request)

/-! ### The chat agent -/

/-- The first half of `confirm_update` and `create_record`: the stored operation replaces what the body says. -/
def lookupOperation (s : Store) (request : Request) : Stage :=
  let target (recordId : String) : Target := match request.kind with
    | .update => .update recordId
    | .create => .create
  if request.actionId = "" then .write (target request.recordId) request.tableId request.fields
  else match getPendingOp s request.actionId with
    | none => .answered
    | some op => .write (target (op.recordId.getD request.recordId)) (op.tableId.getD request.tableId) op.fields

structure Reply where
  view : LinkView
  applied : Bool

def writeOperation (s : Store) (request : Request) (target : Target) (tableId : String) (fields : JsonObj)
    (reply : Reply) : Store :=
  match sanitizeFields fields with
  | none => s
  | some cleaned =>
    if reply.applied then
      { s with history := s.history ++
        [.wrote ⟨target, tableId, resolveDuplexLinks reply.view cleaned, request.userId, request.actionId⟩] }
    else s

inductive Event
  | tick (ms : Nat)
  | propose (actionId : String) (p : Proposal)
  /-- A click on the other button of a card; the chat agent records the denial. -/
  | reject (actionId : String)

def Store.event (s : Store) : Event → Option Store
  | .tick ms => some { s with clock := s.clock + ms }
  | .propose actionId p => propose s actionId p
  | .reject actionId =>
    if ∃ op ∈ s.pending, op.actionId = actionId then some { s with history := s.history ++ [.rejected actionId] }
    else none

def Store.accept (gw : Gateway) (s : Store) (arrival : Arrival) : Option (Store × Task) :=
  (gw.forward s arrival).map (fun r => ({ r.1 with named := r.1.named ++ [r.2.actionId] }, ⟨r.2, .lookup⟩))

def Store.serve (s : Store) (task : Task) (reply : Reply) : Option (Store × Task) :=
  match task.stage with
  | .lookup => some (s, { task with stage := lookupOperation s task.request })
  | .write target tableId fields =>
    some (writeOperation s task.request target tableId fields reply, { task with stage := .answered })
  | .answered => none

def chatAgent (gw : Gateway) : Program Store Task Event Arrival Reply where
  env := Store.event
  start := Store.accept gw
  next := Store.serve

end WisdoverseCell.Bitable
