import WisdoverseCell.Library.Transition
import WisdoverseCell.NativeExecutor.Contracts

/-!
# The ledger and concurrent calls

Any number of calls of `execute` share one ledger.  A step is one statement with its commit, or the begin or the end of
the handler; a call may stop at any point, and a statement of `complete` may be committed although the call sees an
exception.
-/

namespace WisdoverseCell.NativeExecutor

open Option Table
open ControlPlane (optionalText)
open ControlPlane (Runtime)

variable {response : ExecutorResponse}

/-! ### The ledger -/

inductive RowState
  | running
  | uncertain
  | completed (status : ResponseStatus)
  deriving DecidableEq

structure Row where
  runId : String
  companyId : String
  requestHash : String
  state : RowState
  response : Option Json
  createdAt : Nat
  updatedAt : Nat

abbrev Ledger := Table Row.runId

section

variable (rt : Runtime)

def claimRow (r : ExecutorRequest) (now : Nat) : Row :=
  ⟨r.runId, r.companyId, requestDigest rt r, .running, none, now, now⟩

def Row.openFor (row : Row) (runId requestHash : String) : Bool :=
  row.runId = runId ∧ row.requestHash = requestHash ∧ row.state = .running

def Ledger.complete (ledger : Ledger) (runId requestHash : String) (response : ExecutorResponse) (now : Nat) :
    Option Ledger :=
  if ledger.rows.any (fun row => row.openFor runId requestHash) then
    some (ledger.update (fun row => row.openFor runId requestHash) (fun row => { row with
      state := .completed response.status
      response := some response.modelDump
      updatedAt := now }) (by intro; rfl))
  else none

def Ledger.markUncertain (ledger : Ledger) (runId requestHash : String) (now : Nat) : Ledger :=
  ledger.update (fun row => row.openFor runId requestHash)
    (fun row => { row with state := .uncertain, updatedAt := now }) (by intro; rfl)

def claimFromRow (row : Row) : Option (Option ExecutorResponse) :=
  match row.response with
  | none => some none
  | some j => (ExecutorResponse.modelValidate j).map some

inductive ReplayError
  | native (refusal : Refusal)
  | validation

def replay (r : ExecutorRequest) (row : Row) : Except ReplayError ExecutorResponse :=
  if row.companyId ≠ r.companyId ∨ row.requestHash ≠ requestDigest rt r then
    -- a conflicting run that may still have effects is refused like an uncertain one
    .error (.native ⟨"executor_request_conflict", if row.state = .running ∨ row.state = .uncertain then 503 else 409⟩)
  else
    match claimFromRow row with
    | none => .error .validation
    | some none => .error (.native ⟨"executor_effects_uncertain", 503⟩)
    | some (some response) => .ok response

def Ledger.lookup (ledger : Ledger) (companyId runId : String) : Option ExecutorResponse :=
  ((ledger.get runId).filter (fun row => row.companyId = companyId)).bind (fun row => (claimFromRow row).join)

/-! ### Checks before the claim -/

def requestedAction (r : ExecutorRequest) : Json :=
  if r.action = "wakeup" then (r.input.lookup "action").getD .null else .str r.action

def Executor.accept (executor : Executor) (r : ExecutorRequest) (idempotencyKey : String) : Except Refusal String := do
  ensure (r.companyId = executor.companyId) ⟨"executor_company_not_owned", 403⟩
  ensure (idempotencyKey = r.runId) ⟨"executor_idempotency_key_mismatch", 422⟩
  let action ← require (ExecutorResponse.strOf (requestedAction r)) ⟨"executor_action_not_supported", 422⟩
  ensure (action ∈ executor.allowedActions) ⟨"executor_action_not_supported", 422⟩
  ensure ((r.input.lookup "action").getD (.str action) = .str action ∧ r.input.lookup "_executor_context" = none)
    ⟨"executor_input_context_conflict", 422⟩
  ensure ((r.input.lookup "trace_id").getD (optionalText r.traceId) = optionalText r.traceId)
    ⟨"executor_trace_id_conflict", 422⟩
  pure action

def nativeInput (executor : Executor) (r : ExecutorRequest) (action : String) : JsonObj :=
  (JsonObj.set (JsonObj.set r.input "action" (.str action)) "trace_id" (optionalText r.traceId)).set
    "_executor_context" (.obj (executorContext rt executor r))

/-! ### States -/

inductive Stage
  | claiming
  | reading
  | permitted
  | handling
  | completing (response : ExecutorResponse)
  | failing
  | answering (response : ExecutorResponse)

structure Call where
  executor : Executor
  request : ExecutorRequest
  action : String
  stage : Stage

structure Invocation where
  request : ExecutorRequest
  native : JsonObj

/-- What happened so far; no step reads it. -/
structure History where
  invocations : List Invocation
  answers : List (ExecutorRequest × ExecutorResponse)
  receipts : List (String × ExecutorResponse)

structure Sys where
  ledger : Ledger
  calls : List Call
  history : History

inductive Act
  | execute (executor : Executor) (request : ExecutorRequest) (idempotencyKey : String)
  | claim (i now : Nat)
  | read (i : Nat)
  | invoke (i : Nat)
  /-- The handler has ended; without a result it raised, ran into the timeout or was cancelled. -/
  | finish (i : Nat) (result : Option HandlerResult)
  /-- `lost`: the statement is committed, but the call sees an exception. -/
  | complete (i now : Nat) (lost : Bool)
  /-- The statement of `complete` fails and is not committed. -/
  | failComplete (i : Nat)
  | markUncertain (i now : Nat)
  | answer (i : Nat)
  | stop (i : Nat)
  | lookup (companyId runId : String)

/-! ### Steps -/

def Sys.move (s : Sys) (i : Nat) (c : Call) (stage : Stage) : Sys :=
  { s with calls := s.calls.set i { c with stage := stage } }

def Sys.leave (s : Sys) (i : Nat) : Sys := { s with calls := s.calls.eraseIdx i }

def execute (s : Sys) (executor : Executor) (r : ExecutorRequest) (idempotencyKey : String) : Option Sys :=
  match executor.accept r idempotencyKey with
  | .error _ => none
  | .ok action => some { s with calls := s.calls ++ [⟨executor, r, action, .claiming⟩] }

/-- `INSERT … ON CONFLICT DO NOTHING`, committed before the handler may be called. -/
def claim (s : Sys) (i now : Nat) (c : Call) : Sys :=
  match s.ledger.insert (claimRow rt c.request now) with
  | some ledger => { s.move i c .permitted with ledger := ledger }
  | none => s.move i c .reading

def readRow (s : Sys) (i : Nat) (c : Call) : Sys :=
  match (s.ledger.get c.request.runId).map (replay rt c.request) with
  | some (.ok response) => s.move i c (.answering response)
  | some (.error _) | none => s.leave i

def invoke (s : Sys) (i : Nat) (c : Call) : Sys :=
  { s.move i c .handling with
    history := { s.history with
      invocations := s.history.invocations ++ [⟨c.request, nativeInput rt c.executor c.request c.action⟩] } }

def finish (s : Sys) (i : Nat) (c : Call) (result : Option HandlerResult) : Sys :=
  match result.bind (buildResponse rt c.executor c.request) with
  | some response => s.move i c (.completing response)
  | none => s.move i c .failing

def complete (rt : Runtime) (s : Sys) (i now : Nat) (c : Call) (response : ExecutorResponse) (lost : Bool) : Sys :=
  match s.ledger.complete c.request.runId (requestDigest rt c.request) response now with
  | some ledger => { s.move i c (if lost then .failing else .answering response) with ledger := ledger }
  | none => s.move i c .failing

def markUncertain (rt : Runtime) (s : Sys) (i now : Nat) (c : Call) : Sys :=
  { s.leave i with ledger := s.ledger.markUncertain c.request.runId (requestDigest rt c.request) now }

def answer (s : Sys) (i : Nat) (c : Call) (response : ExecutorResponse) : Sys :=
  { s.leave i with history := { s.history with answers := s.history.answers ++ [(c.request, response)] } }

/-- A call of `execute` goes on to its next await. -/
def stepCall (s : Sys) (c : Call) : Act → Option Sys
  | .claim i now => match c.stage with
    | .claiming => some (claim rt s i now c)
    | _ => none
  | .read i => match c.stage with
    | .reading => some (readRow rt s i c)
    | _ => none
  | .invoke i => match c.stage with
    | .permitted => some (invoke rt s i c)
    | _ => none
  | .finish i result => match c.stage with
    | .handling => some (finish rt s i c result)
    | _ => none
  | .complete i now lost => match c.stage with
    | .completing response => some (complete rt s i now c response lost)
    | _ => none
  | .failComplete i => match c.stage with
    | .completing _ => some (s.move i c .failing)
    | _ => none
  | .markUncertain i now => match c.stage with
    | .failing => some (markUncertain rt s i now c)
    | _ => none
  | .answer i => match c.stage with
    | .answering response => some (answer s i c response)
    | _ => none
  | .stop i => some (s.leave i)
  | .execute _ _ _ | .lookup _ _ => none

def Act.index : Act → Option Nat
  | .claim i _ | .read i | .invoke i | .finish i _ | .complete i _ _ | .failComplete i | .markUncertain i _ | .answer i
  | .stop i => some i
  | .execute _ _ _ | .lookup _ _ => none

def step (s : Sys) : Act → Option Sys
  | .execute executor r idempotencyKey => execute s executor r idempotencyKey
  | .lookup companyId runId =>
    some { s with history := { s.history with
      receipts := s.history.receipts ++ (s.ledger.lookup companyId runId).toList.map (fun r => (runId, r)) } }
  | a => (a.index.bind (fun i => s.calls[i]?)).bind (fun c => stepCall rt s c a)

end

/-! ### The effect of a step -/

def Ledger.Stores (ledger : Ledger) (runId : String) (response : ExecutorResponse) (row : Row) : Prop :=
  row ∈ ledger ∧ row.runId = runId ∧ ∃ j, row.response = some j ∧ ExecutorResponse.modelValidate j = some response

/-- The moves of a call that change neither the ledger nor the history. -/
inductive Moves (rt : Runtime) (s : Sys) (c : Call) : Stage → Prop
  | conflict (hstage : c.stage = .claiming) : Moves rt s c .reading
  | replayed {row response} (hstores : s.ledger.Stores c.request.runId response row)
      (hhash : row.requestHash = requestDigest rt c.request) : Moves rt s c (.answering response)
  | built {result response}
      (hbuilt : buildResponse rt c.executor c.request result = some response) : Moves rt s c (.completing response)
  | failed : Moves rt s c .failing

inductive Effect (rt : Runtime) (s : Sys) : Sys → Prop
  | arrived (c : Call) (hstage : c.stage = .claiming) : Effect rt s { s with calls := s.calls ++ [c] }
  | left (i : Nat) : Effect rt s (s.leave i)
  | moved {i c stage} (hc : s.calls[i]? = some c) (hmoves : Moves rt s c stage) : Effect rt s (s.move i c stage)
  | granted {i now c} {ledger : Ledger} (hc : s.calls[i]? = some c)
      (hinsert : s.ledger.insert (claimRow rt c.request now) = some ledger) :
      Effect rt s { s.move i c .permitted with ledger := ledger }
  | invoked {i c} (hc : s.calls[i]? = some c) (hstage : c.stage = .permitted) : Effect rt s (invoke rt s i c)
  | completed {i now c response} {ledger : Ledger} {stage : _}
      (hc : s.calls[i]? = some c) (hstage : c.stage = .completing response)
      (hledger : s.ledger.complete c.request.runId (requestDigest rt c.request) response now = some ledger)
      (hnext : stage = .failing ∨ stage = .answering response) :
      Effect rt s { s.move i c stage with ledger := ledger }
  | uncertain {i now c} : Effect rt s (markUncertain rt s i now c)
  | answered {i c response} (hc : s.calls[i]? = some c)
      (hstage : c.stage = .answering response) : Effect rt s (answer s i c response)
  | lookedUp (receipts : List (String × ExecutorResponse))
      (hreceipts : ∀ q ∈ receipts, ∃ row, s.ledger.Stores q.1 q.2 row) :
      Effect rt s { s with history := { s.history with receipts := s.history.receipts ++ receipts } }

variable {rt : Runtime} {s t : Sys} {a : Act} {c : Call} {row : Row}

private theorem claimFromRow_eq_some (h : claimFromRow row = some (some response)) :
    ∃ j, row.response = some j ∧ ExecutorResponse.modelValidate j = some response := by
  unfold claimFromRow at h
  split at h
  · cases h
  · rename_i j hj
    obtain ⟨response', hv, hs⟩ := map_eq_some_iff.1 h
    cases hs
    exact ⟨j, hj, hv⟩

private theorem replay_eq_ok {r} (h : replay rt r row = .ok response) :
    row.requestHash = requestDigest rt r ∧ claimFromRow row = some (some response) := by
  unfold replay at h
  split at h
  · cases h
  · rename_i hs
    rw [not_or, not_not, not_not] at hs
    split at h
    · cases h
    · cases h
    · rename_i hc
      cases h
      exact ⟨hs.2, hc⟩

private theorem Ledger.lookup_eq_some {ledger : Ledger} {companyId runId}
    (h : ledger.lookup companyId runId = some response) : ∃ row, ledger.Stores runId response row := by
  obtain ⟨row, hr, hj⟩ := bind_eq_some_iff.1 h
  obtain ⟨hm, hrn⟩ := get_eq_some.1 (filter_eq_some_iff.1 hr).1
  exact ⟨row, hm, hrn, claimFromRow_eq_some (join_eq_some_iff.1 hj)⟩

private theorem stepCall_effect (hc : (a.index.bind (fun i => s.calls[i]?)) = some c) (h : stepCall rt s c a = some t) :
    Effect rt s t := by
  cases a with
  | execute => cases h
  | lookup => cases h
  | claim =>
    simp only [stepCall] at h
    split at h
    · rename_i hs
      cases h
      unfold claim
      split
      · rename_i ledger hi
        exact .granted hc hi
      · exact .moved hc (.conflict hs)
    · cases h
  | read i =>
    simp only [stepCall] at h
    split at h
    · cases h
      unfold readRow
      split
      · rename_i response hr
        obtain ⟨row, hg, hok⟩ := map_eq_some_iff.1 hr
        obtain ⟨hh, hcl⟩ := replay_eq_ok hok
        obtain ⟨hm, hrn⟩ := get_eq_some.1 hg
        exact .moved hc (.replayed ⟨hm, hrn, claimFromRow_eq_some hcl⟩ hh)
      · exact .left i
      · exact .left i
    · cases h
  | invoke =>
    simp only [stepCall] at h
    split at h
    · rename_i hs
      cases h
      exact .invoked hc hs
    · cases h
  | finish i result =>
    simp only [stepCall] at h
    split at h
    · cases h
      unfold finish
      split
      · rename_i response hb
        obtain ⟨result, -, hb⟩ := bind_eq_some_iff.1 hb
        exact .moved hc (.built hb)
      · exact .moved hc .failed
    · cases h
  | complete i now lost =>
    simp only [stepCall] at h
    split at h
    · rename_i response hs
      cases h
      unfold complete
      split
      · rename_i ledger hl
        exact .completed hc hs hl (by cases lost <;> simp)
      · exact .moved hc .failed
    · cases h
  | failComplete =>
    simp only [stepCall] at h
    split at h
    · cases h
      exact .moved hc .failed
    · cases h
  | markUncertain =>
    simp only [stepCall] at h
    split at h
    · cases h
      exact .uncertain
    · cases h
  | answer =>
    simp only [stepCall] at h
    split at h
    · rename_i response hs
      cases h
      exact .answered hc hs
    · cases h
  | stop i =>
    cases h
    exact .left i

/-- What a step does to the rows and to the effects outside. -/
theorem step_effect (h : step rt s a = some t) : Effect rt s t := by
  unfold step at h
  split at h
  · unfold execute at h
    split at h
    · cases h
    · cases h
      exact .arrived _ rfl
  · cases h
    refine .lookedUp _ (fun q hq => ?_)
    obtain ⟨response, hr, rfl⟩ := List.mem_map.1 hq
    exact Ledger.lookup_eq_some (mem_toList.1 hr)
  · obtain ⟨c, hc, hs⟩ := bind_eq_some_iff.1 h
    exact stepCall_effect hc hs

end WisdoverseCell.NativeExecutor
