import WisdoverseCell.Library.Checked
import WisdoverseCell.Library.Json
import WisdoverseCell.Library.Table
import WisdoverseCell.Library.Text

/-!
# The values of the sync capability

Work packages and Bitable records as they are fetched, their normalized forms with the checks on them, the decision
whether a work package updates its record or gets a new one, and the rollup of subtasks to their parents.
-/

namespace WisdoverseCell.Sync

/-- Exceptions; after one of the store the transaction is lost. -/
inductive SyncError
  | store
  | notANumber
  | external (message : String)
  | invalid (message : String)
  | conflict (message : String)
  deriving DecidableEq

/-- `int` of a text, the texts of a value and of an exception, and `round(completed / total * 100)`. -/
structure SyncRuntime where
  parseInt : String → Option Int
  str : Json → String
  errorText : SyncError → String
  percent : Nat → Nat → Int

structure RawRecord where
  recordId : Option String
  fields : JsonObj

/-! ### Work packages -/

structure RawWorkPackage where
  id : Option Int
  subject : String
  description : Option String
  dueDate : Option String
  percentageDone : Int
  typeTitle : String
  statusTitle : String
  priorityTitle : String
  projectHref : Option String
  projectTitle : String
  parentHref : Option String
  assigneeHref : Option String
  assigneeTitle : String

structure WorkPackageData where
  opId : Int
  title : String
  description : Option String
  status : String
  assignee : Option String
  dueDate : Option String
  progress : Int
  priority : Option String
  projectId : Option Int
  parentId : Option Int

/-- `value or None`. -/
def nonempty (s : String) : Option String := if s = "" then none else some s

def lastSegment (href : String) : String := String.ofList (href.toList.reverse.takeWhile (· ≠ '/')).reverse

variable (rt : SyncRuntime)

/-- The id at the end of a link; a link that is missing, empty or has no number there counts as none. -/
def linkedId (href : Option String) : Option Int :=
  (href.bind nonempty).bind (fun h => rt.parseInt (lastSegment h))

/-- `op_to_work_package_data`, with the checks of `WorkPackageData`. -/
def opToWorkPackageData (wp : RawWorkPackage) : Except SyncError WorkPackageData := do
  let opId ← require wp.id .notANumber
  ensure (0 < opId) (.invalid "work package id must be positive")
  ensure (wp.subject ≠ "") (.invalid "work package title is required")
  ensure (0 ≤ wp.percentageDone ∧ wp.percentageDone ≤ 100) (.invalid "work package progress must be between 0 and 100")
  return {
    opId := opId
    title := wp.subject
    description := wp.description
    status := wp.statusTitle
    assignee := nonempty wp.assigneeTitle
    dueDate := wp.dueDate.bind nonempty
    progress := wp.percentageDone
    priority := nonempty wp.priorityTitle
    projectId := (linkedId rt wp.projectHref).filter (fun id => id ≠ 0)
    parentId := (linkedId rt wp.parentHref).filter (fun id => id ≠ 0) }

def firstText : JsonObj → Option String
  | [] => none
  | (_, .str s) :: rest => if s = "" then firstText rest else some s
  | _ :: rest => firstText rest

/-- `build_member_map`; a later record of a name takes the place of an earlier one, so it stands before it. -/
def buildMemberMap (records : List RawRecord) : List (String × String) :=
  records.foldl (fun names record =>
    match record.recordId.bind nonempty, firstText record.fields with
    | some recordId, some name => (name, recordId) :: names
    | _, _ => names) []

def fieldOpId : String := "关联 Feature ID (关键字段)"

def workPackageToFeishuFields (wp : WorkPackageData) (memberMap : List (String × String)) : JsonObj :=
  (fieldOpId, .int wp.opId) :: ("任务(动宾短语)", .str wp.title) ::
    ((if wp.status = "" then [] else [("状态", .str wp.status)]) ++
    (match wp.assignee with
      | none => []
      | some assignee =>
        if memberMap.isEmpty then [("DRI (负责人)", .str assignee)]
        else
          match (memberMap.lookup assignee).bind nonempty with
          | some recordId => [("DRI (负责人)", .arr [.str recordId])]
          | none => []) ++
    (wp.dueDate.toList.map (fun d => ("计划完成日期", .str d))) ++ (wp.priority.toList.map (fun p => ("优先级", .str p))) ++
    [("完成百分比", .int wp.progress)])

/-! ### Mappings -/

/-- `feishu_record_id`: a record id that is blank counts as none. -/
def feishuRecordId (raw : Option String) : Option String := raw.bind (fun r => nonempty (Text.strip r))

structure MappingRow where
  opId : Int
  recordId : Option String
  projectId : Option Int
  title : Option String

/-- Whether a work package gets a new record or updates this one. -/
inductive MappingAction
  | create
  | update (recordId : String)

def decideWorkPackageProjection (wp : WorkPackageData) (mapping : Option MappingRow) : Except SyncError MappingAction :=
  match mapping with
  | none => .ok .create
  | some m => do
    ensure (m.opId = wp.opId) (.conflict "mapping work package id does not match projection work package id")
    ensure (∀ p ∈ m.projectId, ∀ q ∈ wp.projectId, p = q)
      (.conflict "mapping project id does not match projection project id")
    match feishuRecordId m.recordId with
    | none => return .create
    | some recordId => return .update recordId

/-! ### Subtasks -/

structure FeishuRecordData where
  recordId : Option String
  opId : Option Int
  title : Option Json
  subtaskName : Option Json
  subtaskStatus : Option String
  parentOpId : Option Int

/-- `fields.get`, where a field that holds null is as good as none. -/
def fieldValue (fields : JsonObj) (name : String) : Option Json := (fields.lookup name).filter (fun v => v ≠ .null)

def truncated (v : Json) : Except SyncError Json :=
  match v with
  | .float _ | .nonFinite _ => (require (v.toInt rt.parseInt) .notANumber).map .int
  | v => .ok v

def fieldId (fields : JsonObj) (name : String) : Except SyncError (Option Int) :=
  match fields.lookup name with
  | none => .ok none
  | some raw => do
    let v ← truncated rt raw
    if v.truthy then (require (v.toInt rt.parseInt) .notANumber).map some else return none

def feishuSubtaskStatus (raw : Option Json) : Option String := raw.bind (fun v => nonempty (Text.strip (rt.str v)))

def feishuToRecordData (record : RawRecord) : Except SyncError FeishuRecordData := do
  let opId ← fieldId rt record.fields fieldOpId
  let parentOpId ← fieldId rt record.fields "parent_op_id"
  return {
    recordId := feishuRecordId record.recordId
    opId := opId
    title := fieldValue record.fields "任务(动宾短语)"
    subtaskName := fieldValue record.fields "subtask_name"
    subtaskStatus := feishuSubtaskStatus rt (fieldValue record.fields "subtask_status")
    parentOpId := parentOpId }

structure SubtaskItem where
  parentOpId : Int
  recordId : String
  name : Option Json
  status : Option String

def subtaskRollupItem (data : FeishuRecordData) : Except SyncError (Option SubtaskItem) :=
  match data.parentOpId with
  | none => .ok none
  | some parentOpId => do
    let recordId ← require data.recordId (.conflict "parent-linked Feishu subtask requires a record id")
    return some ⟨parentOpId, recordId, data.subtaskName, data.subtaskStatus⟩

/-- The grouped subtasks of one parent; there is at least one. -/
structure ParentRollup where
  parentOpId : Int
  subtasks : List SubtaskItem

def completedSubtaskStatuses : List String := ["已完成", "完成", "Done", "Closed", "已关闭"]

def isCompletedSubtaskStatus (status : Option String) : Bool :=
  status.any (fun s => (nonempty (Text.strip s)).any (· ∈ completedSubtaskStatuses))

def ParentRollup.completedCount (r : ParentRollup) : Nat :=
  r.subtasks.countP (fun item => isCompletedSubtaskStatus item.status)

def ParentRollup.progressPercent (r : ParentRollup) : Int := rt.percent r.completedCount r.subtasks.length

def parentIds (items : List SubtaskItem) : List Int := (items.map SubtaskItem.parentOpId).reverse.dedup.reverse

def parentRollups (items : List SubtaskItem) : Except SyncError (List ParentRollup) :=
  (parentIds items).mapM (fun parentId => do
    ensure (0 < parentId) (.invalid "rollup parent work package id must be positive")
    return ⟨parentId, items.filter (fun item => item.parentOpId = parentId)⟩)

end WisdoverseCell.Sync
