import WisdoverseCell.Library.Failing
import WisdoverseCell.Sync.Values

/-!
# The sync engines

Work packages of OpenProject are mirrored to Bitable, and subtasks in Bitable are rolled up to their parents, each side
in one transaction.  The answers from outside, and whether the store executes a statement or commit, are part of the
input; a statement that fails costs the transaction.
-/

namespace WisdoverseCell.Sync

open Failing

/-! ### The status of a sync operation -/

inductive SyncSide
  | openproject
  | feishuBitable

def SyncSide.text : SyncSide → String
  | .openproject => "openproject"
  | .feishuBitable => "feishu_bitable"

inductive SyncOperationStatus
  | pending
  | running
  | succeeded
  | partialFailure
  | failed
  | skipped
  deriving DecidableEq

namespace SyncOperationStatus

def text : SyncOperationStatus → String
  | pending => "pending"
  | running => "running"
  | succeeded => "succeeded"
  | partialFailure => "partial_failure"
  | failed => "failed"
  | skipped => "skipped"

def next : SyncOperationStatus → List SyncOperationStatus
  | pending => [running, skipped]
  | running => [succeeded, partialFailure, failed]
  | succeeded | partialFailure | failed | skipped => []

end SyncOperationStatus

structure SyncOperationStatusChanged where
  operationId : String
  side : SyncSide
  fromStatus : SyncOperationStatus
  toStatus : SyncOperationStatus
  processedCount : Nat

structure SyncOperation where
  operationId : String
  side : SyncSide
  status : SyncOperationStatus
  processedCount : Nat
  events : List SyncOperationStatusChanged

namespace SyncOperation

def new (operationId : String) (side : SyncSide) : SyncOperation := ⟨operationId, side, .pending, 0, []⟩

def transitionTo (op : SyncOperation) (target : SyncOperationStatus) (processedDelta : Nat) :
    Except SyncError SyncOperation := do
  ensure (target ∈ op.status.next) (.invalid ("SyncOperation " ++ op.operationId ++ " (" ++ op.side.text ++
    "): illegal transition " ++ op.status.text ++ " -> " ++ target.text))
  let processed := op.processedCount + processedDelta
  return { op with
    status := target
    processedCount := processed
    events := op.events ++ [⟨op.operationId, op.side, op.status, target, processed⟩] }

end SyncOperation

/-! ### The store -/

structure SubtaskRow where
  recordId : String
  parentOpId : Int
  name : Option Json
  status : Option String

structure LogRow where
  id : Nat
  syncType : String
  status : String
  recordsProcessed : Nat
  error : Option String

structure SyncEvent where
  eventType : String
  payload : JsonObj

/-- The tables of the sync capability apart from the locks. -/
structure SyncStore where
  mappings : Table MappingRow.opId
  subtasks : Table SubtaskRow.recordId
  logs : Table LogRow.id
  nextLog : Nat
  outbox : List SyncEvent

structure BitableRecord where
  recordId : Option String
  fields : JsonObj
  deriving DecidableEq

def BitableRecord.mirrors (opId : Int) (r : BitableRecord) : Bool := r.fields.lookup fieldOpId = some (.int opId)

/-- A transaction with the variables of the function that runs it, and the records made so far by any run. -/
structure SyncTx where
  store : SyncStore
  alive : Bool
  processed : Nat
  errors : List String
  created : List BitableRecord

abbrev SyncM := Failing SyncTx SyncError

def statement (succeeds : Bool) : SyncM Unit := fun tx =>
  if tx.alive && succeeds then (.ok (), tx) else (.error .store, { tx with alive := false })

theorem statement_eq_ok {b tx tx' u} (h : statement b tx = (.ok u, tx')) : tx.alive = true ∧ tx' = tx := by
  unfold statement at h
  split at h
  · next hc => exact ⟨(Bool.and_eq_true_iff.1 hc).1, (Prod.mk.inj h).2.symm⟩
  · cases h

def changeStore (f : SyncStore → SyncStore) : SyncM Unit := modify (fun tx => { tx with store := f tx.store })

def createLog (succeeds : Bool) (syncType : String) : SyncM Nat := do
  statement succeeds
  let id ← read (fun tx => tx.store.nextLog)
  changeStore (fun s => { s with
    logs := (s.logs.insert ⟨id, syncType, "started", 0, none⟩).getD s.logs
    nextLog := id + 1 })
  return id

def LogRow.complete (processed : Nat) (error : Option String) (log : LogRow) : LogRow :=
  { log with
    status := if (error.bind nonempty).isSome then "failed" else "completed"
    recordsProcessed := processed
    error := error }

theorem LogRow.complete_id (processed : Nat) (error : Option String) (log : LogRow) :
    (log.complete processed error).id = log.id :=
  rfl

def completeLog (succeeds : Bool) (id processed : Nat) (error : Option String) : SyncM Unit := do
  statement succeeds
  changeStore (fun s =>
    { s with logs := s.logs.modify id (LogRow.complete processed error) (LogRow.complete_id processed error) })

def getMappingByOpId (succeeds : Bool) (opId : Int) : SyncM (Option MappingRow) := do
  statement succeeds
  read (fun tx => tx.store.mappings.get opId)

def MappingRow.assign (recordId : Option String) (wp : WorkPackageData) (m : MappingRow) : MappingRow :=
  { m with recordId := recordId, projectId := wp.projectId.or m.projectId, title := some wp.title }

theorem MappingRow.assign_opId (recordId : Option String) (wp : WorkPackageData) (m : MappingRow) :
    (m.assign recordId wp).opId = m.opId := rfl

def upsertedMappings (t : Table MappingRow.opId) (recordId : Option String) (wp : WorkPackageData) :
    Table MappingRow.opId :=
  match t.get wp.opId with
  | some _ => t.modify wp.opId (MappingRow.assign recordId wp) (MappingRow.assign_opId recordId wp)
  | none => (t.insert ⟨wp.opId, recordId, wp.projectId, some wp.title⟩).getD t

def upsertMapping (succeeds : Bool) (recordId : Option String) (wp : WorkPackageData) : SyncM Unit := do
  statement succeeds
  changeStore (fun s => { s with mappings := upsertedMappings s.mappings recordId wp })

def SubtaskRow.assign (item : SubtaskItem) (row : SubtaskRow) : SubtaskRow :=
  { row with name := item.name.or row.name, status := item.status.or row.status }

theorem SubtaskRow.assign_recordId (item : SubtaskItem) (row : SubtaskRow) :
    (row.assign item).recordId = row.recordId := rfl

def upsertedSubtasks (t : Table SubtaskRow.recordId) (item : SubtaskItem) : Table SubtaskRow.recordId :=
  match t.get item.recordId with
  | some _ => t.modify item.recordId (SubtaskRow.assign item) (SubtaskRow.assign_recordId item)
  | none => (t.insert ⟨item.recordId, item.parentOpId, item.name, item.status⟩).getD t

/-- `upsert_subtask`; the row is checked after it has been written, and a row that is there keeps its parent. -/
def upsertSubtask (succeeds : Bool) (item : SubtaskItem) : SyncM Unit := do
  statement succeeds
  changeStore (fun s => { s with subtasks := upsertedSubtasks s.subtasks item })
  let row ← read (fun tx => tx.store.subtasks.get item.recordId)
  lift (ensure (∀ r ∈ row, 0 < r.parentOpId) (.invalid "sync subtask parent work package id must be positive"))

def stageEvent (succeeds : Bool) (event : SyncEvent) : SyncM Unit := do
  statement succeeds
  changeStore (fun s => { s with outbox := s.outbox ++ [event] })

def countProcessed (tx : SyncTx) : SyncTx := { tx with processed := tx.processed + 1 }

section

variable (rt : SyncRuntime) (cfg : SyncConfig)

def reportError (e : SyncError) (tx : SyncTx) : SyncTx :=
  { tx with errors := tx.errors ++ [rt.errorText e] }

/-! ### From OpenProject to Bitable -/

inductive CreateAnswer
  | created (recordId : Option String)
  /-- The record has been made, but the call fails. -/
  | lost (recordId : Option String) (message : String)
  | refused (message : String)

/-- What the outside does while one work package is mirrored. -/
structure PackageWorld where
  lookup : Bool
  create : CreateAnswer
  update : Except String Unit
  upsert : Bool
  stage : Bool

def createRecord (answer : CreateAnswer) (fields : JsonObj) : SyncM (Option String) :=
  let make (recordId : Option String) : SyncM Unit :=
    modify (fun tx => { tx with created := tx.created ++ [⟨recordId, fields⟩] })
  match answer with
  | .created recordId => do
    make recordId
    return recordId
  | .lost recordId message => do
    make recordId
    lift (.error (.external message))
  | .refused message => lift (.error (.external message))

/-- The event publisher and the filter of projects are optional. -/
structure SyncConfig where
  publishes : Bool
  decomposeFilter : Option (Option Int → Bool)
  hasMemberTable : Bool

def needsDecompose (wp : RawWorkPackage) (data : WorkPackageData) : Bool :=
  (wp.typeTitle = "Feature" || wp.typeTitle = "Epic") && data.parentId.isNone

def needsRefinement (wp : RawWorkPackage) (data : WorkPackageData) (parentIds : List Int) : Bool :=
  wp.typeTitle = "Task" && !parentIds.contains data.opId

def decomposeEvent (wp : RawWorkPackage) (data : WorkPackageData) (assigneeId : Option Int) : SyncEvent where
  eventType := "sync.task-needs-decompose"
  payload := [("wp_id", .int data.opId), ("subject", .str data.title), ("description", .str (data.description.getD "")),
    ("wp_type", .str (if needsDecompose wp data then wp.typeTitle else "Task")),
    ("project_id", (data.projectId.map Json.int).getD .null), ("project_name", .str wp.projectTitle),
    ("assignee", .str (data.assignee.getD "")), ("assignee_id", (assigneeId.map Json.int).getD .null)]

def assigneeId (wp : RawWorkPackage) : Except SyncError (Option Int) :=
  match wp.assigneeHref.bind nonempty with
  | none => .ok none
  | some href => (require (rt.parseInt (lastSegment href)) .notANumber).map some

def maybeStageDecompose (parentIds : List Int) (wp : RawWorkPackage)
    (data : WorkPackageData) (succeeds : Bool) : SyncM Unit :=
  match cfg.decomposeFilter with
  | none => pure ()
  | some wanted =>
    if cfg.publishes && (needsDecompose wp data || needsRefinement wp data parentIds) && wanted data.projectId then do
      let assignee ← lift (assigneeId rt wp)
      stageEvent succeeds (decomposeEvent wp data assignee)
    else pure ()

def projectRecord (data : WorkPackageData) (fields : JsonObj) (world : PackageWorld) : MappingAction → SyncM Unit
  | .update _ => lift (world.update.mapError .external)
  | .create => do
    let recordId ← createRecord world.create fields
    upsertMapping world.upsert recordId data

def syncSingleWorkPackage (memberMap : List (String × String)) (parentIds : List Int)
    (wp : RawWorkPackage) (data : WorkPackageData) (world : PackageWorld) : SyncM Unit := do
  let mapping ← getMappingByOpId world.lookup data.opId
  let fields := workPackageToFeishuFields data memberMap
  let decision ← lift (decideWorkPackageProjection data mapping)
  projectRecord data fields world decision
  maybeStageDecompose rt cfg parentIds wp data world.stage

def mirrorWorkPackage (memberMap : List (String × String)) (parentIds : List Int)
    (item : RawWorkPackage × PackageWorld) : SyncM Unit := do
  let data ← lift (opToWorkPackageData rt item.1)
  syncSingleWorkPackage rt cfg memberMap parentIds item.1 data item.2

/-- What a commit does; one whose answer is lost has taken effect. -/
inductive CommitAnswer
  | committed
  | lost
  | refused
  deriving DecidableEq

structure OpInput where
  lock : Except SyncError Bool
  createLog : Bool
  members : Except String (List RawRecord)
  workPackages : Except String (List (RawWorkPackage × PackageWorld))
  completeLog : Bool
  completeFailedLog : Bool
  commit : CommitAnswer

inductive SideResult
  | success (processed : Nat) (errors : List String)
  | failed (processed : Nat) (error : String)
  | skipped (reason : String)

/-- `_load_member_map`; an error leaves the map empty. -/
def loadMemberMap (members : Except String (List RawRecord)) : List (String × String) :=
  if cfg.hasMemberTable then
    match members with
    | .ok records => buildMemberMap records
    | .error _ => []
  else []

def parentIdsOf (packages : List (RawWorkPackage × PackageWorld)) : List Int :=
  packages.filterMap (fun item => linkedId rt item.1.parentHref)

def succeedRun (succeeds : Bool) (logId : Nat) (op : SyncOperation) : SyncM SideResult := do
  let tx ← read id
  completeLog succeeds logId tx.processed none
  let _ ← lift (op.transitionTo .succeeded tx.processed)
  return .success tx.processed tx.errors

def failRun (succeeds : Bool) (logId : Nat) (op : SyncOperation) (e : SyncError) : SyncM SideResult := do
  let processed ← read SyncTx.processed
  completeLog succeeds logId processed (some (rt.errorText e))
  let _ ← lift (op.transitionTo .failed 0)
  return .failed processed (rt.errorText e)

/-- The tables and the records made in Bitable. -/
structure SyncWorld where
  store : SyncStore
  created : List BitableRecord

def SyncWorld.begin (w : SyncWorld) : SyncTx := ⟨w.store, true, 0, [], w.created⟩

/-- `transaction`: what the body wrote stays if it returns and the commit takes effect; the records stay in any case. -/
def transaction {α : Type} (commit : CommitAnswer) (body : SyncM α) : Failing SyncWorld SyncError α := fun w =>
  match body w.begin with
  | (.error e, tx) => (.error e, ⟨w.store, tx.created⟩)
  | (.ok a, tx) =>
    match tx.alive, commit with
    | true, .committed => (.ok a, ⟨tx.store, tx.created⟩)
    | true, .lost => (.error .store, ⟨tx.store, tx.created⟩)
    | true, .refused | false, _ => (.error .store, ⟨w.store, tx.created⟩)

/-- What a transaction that returns has written stays. -/
theorem transaction_eq_ok {α : Type} {commit w w'} {body : SyncM α} {a} (h : transaction commit body w = (.ok a, w')) :
    ∃ tx, body w.begin = (.ok a, tx) ∧ w'.store = tx.store := by
  unfold transaction at h
  rcases hb : body w.begin with ⟨⟨e⟩ | ⟨a'⟩, tx⟩
  · rw [hb] at h
    cases h
  · rw [hb] at h
    refine ⟨tx, ?_⟩
    dsimp only at h
    split at h
    · cases h
      exact ⟨rfl, rfl⟩
    all_goals cases h

def runSide (syncType : String) (side : SyncSide) (createLogOk completeLogOk completeFailedLogOk : Bool)
    (body : SyncM Unit) : SyncM SideResult := do
  let logId ← createLog createLogOk syncType
  let op ← lift ((SyncOperation.new (toString logId) side).transitionTo .running 0)
  catching (body >>= fun _ => succeedRun completeLogOk logId op) (failRun rt completeFailedLogOk logId op)

def mirrorAll (input : OpInput) : SyncM Unit := do
  let packages ← lift (input.workPackages.mapError .external)
  attemptAll countProcessed (reportError rt)
    (mirrorWorkPackage rt cfg (loadMemberMap cfg input.members) (parentIdsOf rt packages)) packages

def doSyncToBitable (input : OpInput) : Failing SyncWorld SyncError SideResult :=
  transaction input.commit
    (runSide rt "op_to_feishu" .openproject input.createLog input.completeLog input.completeFailedLog
      (mirrorAll rt cfg input))

def underLock (lock : Except SyncError Bool) (run : Failing SyncWorld SyncError SideResult) :
    Failing SyncWorld SyncError SideResult := do
  let acquired ← lift lock
  if acquired then run else return .skipped "lock_held"

def syncOpToFeishu (input : OpInput) : Failing SyncWorld SyncError SideResult :=
  underLock input.lock (doSyncToBitable rt cfg input)

/-! ### From Bitable to OpenProject -/

/-- What the outside does with the progress of a parent. -/
structure ParentWorld where
  update : Except String Unit
  stage : Bool

structure FeishuInput where
  lock : Except SyncError Bool
  createLog : Bool
  /-- Each record with whether its row can be stored. -/
  records : Except String (List (RawRecord × Bool))
  parents : Int → ParentWorld
  completeLog : Bool
  completeFailedLog : Bool
  commit : CommitAnswer

def progressUpdatedEvent (r : ParentRollup) : SyncEvent where
  eventType := "sync.progress-updated"
  payload := [("parent_op_id", .int r.parentOpId), ("progress_percent", .int (r.progressPercent rt)),
    ("subtask_count", .int r.subtasks.length), ("completed_subtask_count", .int r.completedCount),
    ("scope", .str "feishu_bitable")]

def subtaskOf (record : RawRecord) : Except SyncError (Option SubtaskItem) :=
  feishuToRecordData rt record >>= subtaskRollupItem

def storeSubtasks (rt : SyncRuntime) : List (RawRecord × Bool) → SyncM (List SubtaskItem)
  | [] => pure []
  | (record, stored) :: rest =>
    match subtaskOf rt record with
    | .error e => modify (reportError rt e) >>= fun _ => storeSubtasks rt rest
    | .ok none => storeSubtasks rt rest
    | .ok (some item) => do
      upsertSubtask stored item
      let items ← storeSubtasks rt rest
      return item :: items

def rollUpParent (parents : Int → ParentWorld) (r : ParentRollup) : SyncM Unit := do
  lift ((parents r.parentOpId).update.mapError .external)
  stageEvent (parents r.parentOpId).stage (progressUpdatedEvent rt r)

def rollUpAll (input : FeishuInput) : SyncM Unit := do
  let records ← lift (input.records.mapError .external)
  let subtasks ← storeSubtasks rt records
  let rollups ← lift (parentRollups subtasks)
  attemptAll countProcessed (reportError rt) (rollUpParent rt input.parents) rollups

def doSyncProgressToOpenproject (input : FeishuInput) : Failing SyncWorld SyncError SideResult :=
  transaction input.commit
    (runSide rt "feishu_to_op" .feishuBitable input.createLog input.completeLog input.completeFailedLog
      (rollUpAll rt input))

def syncFeishuToOp (input : FeishuInput) : Failing SyncWorld SyncError SideResult :=
  underLock input.lock (doSyncProgressToOpenproject rt input)

end

/-! ### Both sides -/

namespace SideResult

def status : SideResult → String
  | success _ _ => "success"
  | failed _ _ => "failed"
  | skipped _ => "skipped"

def processed : SideResult → Nat
  | success n _ | failed n _ => n
  | skipped _ => 0

end SideResult

def statusToEnum : List (String × SyncOperationStatus) :=
  [("success", .succeeded), ("succeeded", .succeeded), ("failed", .failed), ("partial_failure", .partialFailure),
    ("skipped", .skipped), ("running", .running), ("pending", .pending)]

def coerceStatus (raw : String) : SyncOperationStatus := (statusToEnum.lookup raw).getD .partialFailure

def enumToStatus : SyncOperationStatus → String
  | .succeeded => "success"
  | .failed => "failed"
  | .partialFailure => "partial_failure"
  | .skipped => "skipped"
  | .running => "running"
  | .pending => "pending"

def combineSideStatuses (op feishu : SyncOperationStatus) : SyncOperationStatus :=
  if op = .failed ∧ feishu = .failed then .failed
  else if op = .failed ∨ feishu = .failed then .partialFailure
  else if op = .succeeded ∧ feishu = .succeeded then .succeeded
  else .partialFailure

structure FullResult where
  status : String
  totalProcessed : Nat
  opToFeishu : SideResult
  feishuToOp : SideResult

def fullResult (op feishu : SideResult) : FullResult :=
  let opStatus := coerceStatus op.status
  let feishuStatus := coerceStatus feishu.status
  let combined :=
    if opStatus = .skipped ∧ feishuStatus = .skipped then .skipped else combineSideStatuses opStatus feishuStatus
  ⟨enumToStatus combined, op.processed + feishu.processed, op, feishu⟩

def fullSync (rt : SyncRuntime) (cfg : SyncConfig) (opInput : OpInput) (feishuInput : FeishuInput) :
    Failing SyncWorld SyncError FullResult := do
  let op ← syncOpToFeishu rt cfg opInput
  let feishu ← syncFeishuToOp rt feishuInput
  return fullResult op feishu

/-! ### An empty world -/

def plainRuntime : SyncRuntime where
  parseInt _ := none
  str _ := ""
  errorText
    | .store => "store"
    | .notANumber => "not a number"
    | .external message | .invalid message | .conflict message => message
  percent completed total := completed * 100 / total

def plainConfig : SyncConfig := ⟨false, none, false⟩

def plainPackage (id : Int) : RawWorkPackage where
  id := some id
  subject := "Login"
  description := none
  dueDate := none
  percentageDone := 0
  typeTitle := "Task"
  statusTitle := "New"
  priorityTitle := ""
  projectHref := none
  projectTitle := ""
  parentHref := none
  assigneeHref := none
  assigneeTitle := ""

def emptyWorld : SyncWorld := ⟨⟨.empty, .empty, .empty, 0, []⟩, []⟩

end WisdoverseCell.Sync
