import WisdoverseCell.Library.Checked
import WisdoverseCell.Library.Json
import WisdoverseCell.Library.Table
import WisdoverseCell.Library.Text

/-!
# Decisions of the coordinator and their dispatch

The events that decisions are turned into, by the target agent, and the two stores that keep decisions and the states of
agents: one in memory, where an exception leaves what was stored before it, and one in the database.
-/

namespace WisdoverseCell.Coordinator

open List

structure Decision where
  targetAgent : String
  action : String
  taskId : String
  instruction : String
  workflowId : Option String
  reasoning : String
  context : JsonObj
  commandId : Option String
  traceId : Option String
  status : Option String
  summary : Option String
  scratchpadRef : Option String

inductive CoordinatorError
  | validation
  | invalid (message : String)
  | store
  deriving DecidableEq

/-! ### Dispatch -/

inductive DispatchTarget
  | requirementManager
  | pjmAgent
  | devAgent
  | qaAgent
  | chatAgent

def DispatchTarget.ofText : String → Option DispatchTarget
  | "requirement-manager" => some .requirementManager
  | "pjm-agent" => some .pjmAgent
  | "dev-agent" => some .devAgent
  | "qa-agent" => some .qaAgent
  | "chat-agent" => some .chatAgent
  | _ => none

structure DispatchEvent where
  eventId : String
  eventType : String
  payload : JsonObj
  traceId : Option String
  deriving DecidableEq

def optionalText (s : Option String) : Json := (s.map Json.str).getD .null

def textOr (s : Option String) (default : String) : String :=
  match s with
  | some v => if v = "" then default else v
  | none => default

def Decision.field (d : Decision) (name : String) (default : Json) : Json := (d.context.lookup name).getD default

def coordinatorResponse (d : Decision) : Except CoordinatorError JsonObj := do
  let status := textOr d.status "completed"
  ensure (status ∈ ["completed", "in_progress", "failed"]) .validation
  return [("command_id", .str (textOr d.commandId "")), ("status", .str status),
    ("summary", .str (textOr d.summary "")),
    ("details", .obj []), ("follow_up", .null)]

def envelopeFor (d : Decision) : Except CoordinatorError (String × JsonObj) :=
  match DispatchTarget.ofText d.targetAgent with
  | some .devAgent =>
    .ok ("pm.tasks-ready-for-dev", [("wp_id", d.field "wp_id" .null), ("tasks", d.field "tasks" (.arr [])),
      ("instruction", .str d.instruction), ("workflow_id", optionalText d.workflowId)])
  | some .qaAgent =>
    .ok ("qa.run-requested", [("agent_name", d.field "agent_name" .null), ("commit_sha", d.field "commit_sha" .null),
      ("mr_iid", d.field "mr_iid" .null), ("gitlab_project_id", d.field "gitlab_project_id" .null),
      ("files_changed", d.field "files_changed" (.arr [])), ("requested_by", .str "coordinator"),
      ("instruction", .str d.instruction), ("workflow_id", optionalText d.workflowId)])
  | some .chatAgent => (coordinatorResponse d).map (fun payload => ("coordinator.response", payload))
  | some .requirementManager | some .pjmAgent | none =>
    .ok ("coordinator.dispatch", [("target_agent", .str d.targetAgent), ("task_id", .str d.taskId),
      ("instruction", .str d.instruction), ("workflow_id", optionalText d.workflowId),
      ("scratchpad_ref", optionalText d.scratchpadRef)])

def decisionToEvent (eventId : String) (d : Decision) : Except CoordinatorError DispatchEvent := do
  let (eventType, payload) ← envelopeFor d
  return ⟨eventId, eventType, payload, d.traceId⟩

def Decision.traced (trace : Option String) (d : Decision) : Decision :=
  if textOr trace "" = "" then d
  else if textOr d.traceId "" = "" then { d with traceId := trace } else d

def outgoing (trace : Option String) (decisions : List (Decision × String)) :
    Except CoordinatorError (List (Decision × DispatchEvent)) :=
  decisions.mapM (fun (d, eventId) => do
    let event ← decisionToEvent eventId (d.traced trace)
    return (d.traced trace, event))

/-! ### The stores -/

inductive StoreKind
  | inMemory
  | database
  deriving DecidableEq

def stripped (s : String) : Option String := if Text.strip s = "" then none else some (Text.strip s)

structure DecisionRecord where
  workflowId : Option String
  reasoning : String
  action : String
  targetAgent : String
  taskId : Option String
  deriving DecidableEq

def DecisionRecord.create (d : Decision) : Except CoordinatorError DecisionRecord := do
  let targetAgent ← require (stripped d.targetAgent) (.invalid "coordinator agent id must not be empty")
  ensure ((stripped d.action).isSome = true) (.invalid "coordinator decision action must not be empty")
  return ⟨d.workflowId.bind stripped, d.reasoning, d.action, targetAgent, stripped d.taskId⟩

/-- A decision that `CoordinatorDecisionRecord.create` takes. -/
def Decision.Valid (d : Decision) : Prop := stripped d.targetAgent ≠ none ∧ stripped d.action ≠ none

instance (d : Decision) : Decidable d.Valid := inferInstanceAs (Decidable (_ ∧ _))

theorem DecisionRecord.exists_create_iff {d : Decision} : (∃ record, create d = .ok record) ↔ d.Valid := by
  unfold create Decision.Valid
  constructor
  · rintro ⟨record, h⟩
    obtain ⟨agent, ha, h⟩ := bind_eq_ok.1 h
    obtain ⟨u, hc, -⟩ := bind_eq_ok.1 h
    rw [require_eq_ok.1 ha]
    exact ⟨Option.some_ne_none agent, Option.isSome_iff_ne_none.1 (ensure_eq_ok.1 hc)⟩
  · rintro ⟨ha, hc⟩
    obtain ⟨agent, ha⟩ := Option.ne_none_iff_exists'.1 ha
    refine ⟨_, bind_eq_ok.2 ⟨agent, require_eq_ok.2 ha, bind_eq_ok.2 ⟨(), ensure_eq_ok.2 ?_, rfl⟩⟩⟩
    exact Option.isSome_iff_ne_none.2 hc

inductive AgentStatus
  | idle
  | working
  | blocked
  | error

structure AgentState where
  agentId : String
  status : AgentStatus
  currentTask : Option String

def AgentState.replace (state old : AgentState) : AgentState := { state with agentId := old.agentId }

private theorem AgentState.replace_agentId (state old : AgentState) : (state.replace old).agentId = old.agentId := rfl

structure Persisted where
  record : DecisionRecord
  event : DispatchEvent
  deriving DecidableEq

structure StateStore where
  decisions : List Persisted
  agents : Table AgentState.agentId

def StateStore.empty : StateStore := ⟨[], .empty⟩

variable {p : Persisted} {s : StateStore}

namespace StateStore

def putAgent (s : StateStore) (state : AgentState) : StateStore :=
  { s with agents :=
      match s.agents.get state.agentId with
      | some _ => s.agents.modify state.agentId state.replace state.replace_agentId
      | none => (s.agents.insert state).getD s.agents }

/-- `update_agent_state`; the store in memory strips the agent id and refuses a blank one, the database takes any
text. -/
def updateAgentState (kind : StoreKind) (s : StateStore) (agentId taskId : String) :
    Except CoordinatorError StateStore :=
  match kind with
  | .inMemory => do
    let id ← require (stripped agentId) (.invalid "coordinator agent id must not be empty")
    return s.putAgent ⟨id, .working, stripped taskId⟩
  | .database => return s.putAgent ⟨agentId, .working, some taskId⟩

def append (s : StateStore) (record : DecisionRecord) (event : DispatchEvent) : StateStore :=
  putAgent { s with decisions := s.decisions ++ [⟨record, event⟩] } ⟨record.targetAgent, .working, record.taskId⟩

def trim (s : StateStore) : StateStore := { s with decisions := s.decisions.drop (s.decisions.length - 100) }

def persistInMemory (s : StateStore) : List (Decision × DispatchEvent) → Except CoordinatorError Unit × StateStore
  | [] => (.ok (), s.trim)
  | (d, event) :: rest =>
    match DecisionRecord.create d with
    | .error e => (.error e, s)
    | .ok record => (s.append record event).persistInMemory rest

def rowOf (d : Decision) : DecisionRecord := ⟨d.workflowId, d.reasoning, d.action, d.targetAgent, some d.taskId⟩

def persistInDatabase (s : StateStore) (decisions : List (Decision × DispatchEvent)) : StateStore :=
  (decisions.foldl (fun s item => s.append (rowOf item.1) item.2) s).trim

theorem decisions_updateAgentState {kind agentId taskId} {s' : StateStore}
    (h : s.updateAgentState kind agentId taskId = .ok s') : s'.decisions = s.decisions := by
  cases kind with
  | inMemory =>
    obtain ⟨_, -, h⟩ := bind_eq_ok.1 h
    rw [← pure_eq_ok.1 h]
    rfl
  | database =>
    rw [← pure_eq_ok.1 h]
    rfl

theorem persistInMemory_of_valid {decisions : List (Decision × DispatchEvent)} (h : ∀ item ∈ decisions, item.1.Valid) :
    (s.persistInMemory decisions).1 = .ok () := by
  induction decisions generalizing s with
  | nil => rfl
  | cons item rest ih =>
    obtain ⟨record, hr⟩ := DecisionRecord.exists_create_iff.2 (h item mem_cons_self)
    unfold persistInMemory
    rw [hr]
    exact ih (fun i hi => h i (mem_cons_of_mem item hi))

private theorem of_mem_append {record event} (h : p ∈ (s.append record event).decisions) :
    p ∈ s.decisions ∨ p = ⟨record, event⟩ := (mem_append.1 h).imp_right mem_singleton.1

theorem mem_of_mem_trim (h : p ∈ s.trim.decisions) : p ∈ s.decisions := mem_of_mem_drop h

/-- Only decisions of the list come into the store. -/
theorem of_mem_persistInMemory {decisions}
    (h : p ∈ (s.persistInMemory decisions).2.decisions) : p ∈ s.decisions ∨ p.event ∈ decisions.map Prod.snd := by
  induction decisions generalizing s with
  | nil => exact .inl (mem_of_mem_trim h)
  | cons item rest ih =>
    unfold persistInMemory at h
    rcases hc : DecisionRecord.create item.1 with e | record
    · rw [hc] at h
      exact .inl h
    · rw [hc] at h
      rcases ih h with ho | hn
      · rcases of_mem_append ho with ho | rfl
        · exact .inl ho
        · exact .inr mem_cons_self
      · exact .inr (mem_cons_of_mem _ hn)

theorem of_mem_persistInDatabase {decisions}
    (h : p ∈ (s.persistInDatabase decisions).decisions) : p ∈ s.decisions ∨ p.event ∈ decisions.map Prod.snd := by
  replace h := mem_of_mem_trim h
  induction decisions generalizing s with
  | nil => exact .inl h
  | cons item rest ih =>
    rcases ih h with ho | hn
    · rcases of_mem_append ho with ho | rfl
      · exact .inl ho
      · exact .inr mem_cons_self
    · exact .inr (mem_cons_of_mem _ hn)

end StateStore

end WisdoverseCell.Coordinator
