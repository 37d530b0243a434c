import WisdoverseCell.Library.Json
import WisdoverseCell.Library.Text

/-!
# Field values of a confirmed operation

`sanitizeFields` brings the values of a proposal into the form that the table service takes, and `resolveDuplexLinks`
replaces users by their member records.  A value of a shape that the Python code trips over gives `none`.
-/

namespace WisdoverseCell.Bitable

open JsonObj

/-! ### The gateway -/

def member (value : Json) (field : String) : Json :=
  match value with
  | .obj kvs => (kvs.lookup field).getD .null
  | _ => .null

def stringField (value : Json) (field : String) : String :=
  match member value field with
  | .str s => s
  | _ => ""

def objectField (value : Json) (field : String) : JsonObj :=
  match member value field with
  | .obj kvs => kvs
  | _ => []

/-! ### Sanitized values -/

/-- `item.get("record_ids") or []`, as a list to extend another with. -/
def recordIds : Json → Option (List Json)
  | .obj item =>
    let ids := (item.lookup "record_ids").getD .null
    if ids.truthy then
      match ids with
      | .arr xs => some xs
      | .str s => some (s.toList.map (fun c => .str (String.singleton c)))
      | .obj kvs => some (kvs.map (fun kv => .str kv.1))
      | _ => none
    else some []
  | _ => none

def personId : Json → Option (Option Json)
  | .obj item => some ((item.lookup "id").map (fun id => .obj [("id", id)]))
  -- "id" in a text or a list is a test for a part of it, and there is no member to read then
  | .str s => if Text.contains s "id" then none else some none
  | .arr xs => if xs.contains (.str "id") then none else some none
  | _ => none

def startsWithOu (s : String) : Bool := (Text.removeStart "ou_" s).isSome

def isUser (item : JsonObj) : Bool :=
  match item.lookup "id" with
  | some (.str id) => startsWithOu id
  | _ => false

def sanitizeValue (value : Json) : Option (Option Json) :=
  match value with
  | .null => some none
  | .arr (.obj first :: rest) =>
    let items := .obj first :: rest
    if has first "record_ids" then do
      let ids := (← items.mapM recordIds).flatten
      some (if ids = [] then none else some (.arr ids))
    else if isUser first then do
      some (some (.arr (← items.mapM personId).reduceOption))
    else some (some value)
  | _ => some (some value)

def sanitizeFields (fields : JsonObj) : Option JsonObj := do
  let cleaned ← fields.mapM (fun kv => (sanitizeValue kv.2).map (fun v => v.map (fun v => (kv.1, v))))
  return cleaned.reduceOption

/-! ### Links to the member table -/

/-- What the table service answers while links are resolved: `none` for a call that fails. -/
structure LinkView where
  memberTable : Bool
  duplexFields : Option (List String)
  members : Option (List (String × List Json))

def openIds : Json → List String
  | .arr (.obj first :: rest) =>
    (.obj first :: rest).filterMap (fun item => match item with
      | .obj item => match item.lookup "id" with
        | some (.str id) => if startsWithOu id then some id else none
        | _ => none
      | _ => none)
  | _ => []

def memberRecord (members : List (String × List Json)) (openId : String) : Option String :=
  (members.filter (fun m => m.2.any (fun value => match value with
    | .arr items => items.any (fun item => member item "id" = .str openId)
    | _ => false))).getLast?.map Prod.fst

def resolveDuplexLinks (view : LinkView) (fields : JsonObj) : JsonObj :=
  if view.memberTable then
    match view.duplexFields, view.members with
    | some duplexFields, some members =>
      fields.map (fun kv =>
        let records := (openIds kv.2).filterMap (memberRecord members)
        if duplexFields.contains kv.1 ∧ records ≠ [] then (kv.1, .arr (records.map .str)) else kv)
    | _, _ => fields
  else fields

end WisdoverseCell.Bitable
