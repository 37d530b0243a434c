import WisdoverseCell.Library.Indexed
import WisdoverseCell.Library.Pool
import WisdoverseCell.QaAgent.Acceptance

/-!
# Recording acceptance runs

A call of `run_acceptance` looks for the run of its trigger event, waits for the checks, and stores the run with its
events in one transaction; a unique index decides between calls for one trigger.  `_persist_result` swallows every other
exception, so a call may return although nothing was stored.
-/

namespace WisdoverseCell.QaAgent

open List Option Table

variable {markdown : Option String} {report : Report} {result : ExecutionResult}

/-! ### The database -/

structure RunRow where
  id : String
  traceId : Option String
  triggerEventId : Option String
  request : RunRequest
  result : ExecutionResult

structure QaDb where
  runs : Indexed RunRow.id RunRow.triggerEventId
  outbox : Table QaEvent.eventId

namespace QaDb

/-- The transaction of `_persist_result`; `none` is an `IntegrityError`. -/
def save (db : QaDb) (row : RunRow) (events : List QaEvent) : Option QaDb :=
  (db.runs.insert row).bind (fun runs => (db.outbox.insertAll events).map (fun outbox => ⟨runs, outbox⟩))

def existing (db : QaDb) (trigger : Option String) : Option RunRow :=
  (trigger.filter (fun e => e ≠ "")).bind db.runs.find

def eventCount (db : QaDb) (type : QaEventType) (runId : String) : Nat :=
  db.outbox.rows.countP (fun e => e.eventType = type ∧ e.runId = runId)

def Announced (db : QaDb) (row : RunRow) : Prop :=
  db.eventCount .acceptanceCompleted row.id = 1 ∧
    db.eventCount .gateFailed row.id = if row.result.verdict.isBlocking then 1 else 0

def Recorded (db : QaDb) (trigger : String) : Prop :=
  ∃ row, db.runs.table.rows.filter (fun r => r.triggerEventId = some trigger) = [row] ∧ db.Announced row

structure Consistent (db : QaDb) : Prop where
  announced : ∀ row ∈ db.runs, db.Announced row
  run_of_event : ∀ e ∈ db.outbox, ∃ row ∈ db.runs, row.id = e.runId

end QaDb

/-! ### Calls -/

inductive Phase
  | looking
  | checking
  | persisting (report : Report) (result : ExecutionResult)
  | rechecking
  /-- With the `run_id` of the result. -/
  | returned (runId : String)
  | raised

structure Call where
  request : RunRequest
  traceId : Option String
  trigger : Option String
  phase : Phase

inductive StoreOutcome
  | committed
  | refused
  /-- The commit takes effect and raises. -/
  | lost
  deriving DecidableEq

inductive Answer
  | lookup (ok : Bool)
  /-- The report and its Markdown, or an exception. -/
  | runner (report : Option (Report × Option String))
  /-- The ids that are generated, and what becomes of the transaction. -/
  | store (runId completedId gateFailedId : String) (outcome : StoreOutcome)

namespace Call

def goto (c : Call) (phase : Phase) : Call := { c with phase := phase }

/-- `_persist_result` with its two exception filters. -/
def persist (rt : QaRuntime) (db : QaDb) (c : Call) (report : Report) (result : ExecutionResult)
    (runId completedId gateFailedId : String) (outcome : StoreOutcome) : QaDb × Call :=
  match AcceptanceRun.build rt runId c.request report.summary report.durationSeconds with
  | .error _ => (db, c.goto (.returned ""))
  | .ok run =>
    if outcome = .refused then (db, c.goto (.returned ""))
    else
      match db.save ⟨runId, c.traceId, c.trigger, c.request, result⟩
        (run.events completedId gateFailedId c.traceId) with
      | none => (db, c.goto .rechecking)
      | some db' => (db', c.goto (.returned (if outcome = .lost then "" else runId)))

/-- `run_acceptance`, up to the next answer of the store or the runner. -/
def next (rt : QaRuntime) (db : QaDb) (c : Call) (answer : Answer) : Option (QaDb × Call) :=
  match c.phase, answer with
  | .looking, .lookup false | .rechecking, .lookup false | .checking, .runner none => some (db, c.goto .raised)
  | .looking, .lookup true =>
    match db.existing c.trigger with
    | some row => some (db, c.goto (.returned row.id))
    | none => some (db, c.goto .checking)
  | .checking, .runner (some (report, markdown)) =>
    match runChecks rt report markdown with
    | .ok result => some (db, c.goto (.persisting report result))
    | .error _ => some (db, c.goto .raised)
  | .persisting report result, .store runId completedId gateFailedId outcome =>
    some (c.persist rt db report result runId completedId gateFailedId outcome)
  | .rechecking, .lookup true => some (db, c.goto (.returned (((db.existing c.trigger).map RunRow.id).getD "")))
  | _, _ => none

end Call

def acceptance (rt : QaRuntime) : Program QaDb Call Empty (RunRequest × Option String × Option String) Answer where
  env _ e := e.elim
  start db r := some (db, ⟨r.1, r.2.1, r.2.2, .looking⟩)
  next := Call.next rt

def Call.Storable (db : QaDb) (c : Call) (runId completedId gateFailedId : String) (outcome : StoreOutcome) : Prop :=
  match c.phase with
  | .persisting _ result =>
    (∃ row ∈ db.runs.table.rows, row.triggerEventId = c.trigger) ∨
      (result.verdict.l0FailureCount + result.verdict.l1WarningCount ≤ result.totalChecks ∧ outcome ≠ .refused ∧
        runId ≠ "" ∧ (∀ row ∈ db.runs.table.rows, row.id ≠ runId) ∧ completedId ≠ gateFailedId ∧
        ∀ e ∈ db.outbox.rows, e.eventId ≠ completedId ∧ e.eventId ≠ gateFailedId)
  | _ => True

instance {db : QaDb} {c : Call} {runId completedId gateFailedId : String} {outcome : StoreOutcome} :
    Decidable (c.Storable db runId completedId gateFailedId outcome) := by
  unfold Call.Storable
  split <;> infer_instance

def Reliable (s : Pool QaDb Call) : PoolAct Empty (RunRequest × Option String × Option String) Answer → Prop
  | .next i (.store runId completedId gateFailedId outcome) =>
    ∀ c ∈ s.procs[i]?, c.trigger.isSome → c.Storable s.shared runId completedId gateFailedId outcome
  | _ => True

instance {s : Pool QaDb Call} (a : PoolAct Empty (RunRequest × Option String × Option String) Answer) :
    Decidable (Reliable s a) := by
  unfold Reliable
  split <;> infer_instance

variable {rt : QaRuntime} {db db' : QaDb} {row : RunRow} {events : List QaEvent} {c c' : Call} {answer : Answer}
  {runId completedId gateFailedId : String} {traceId : Option String} {run : AcceptanceRun}

private theorem summaryInt_of_totalChecksOf {summary n} (h : totalChecksOf summary = .ok n) :
    summaryInt rt summary "total_checks" = .ok (n : Int) := by
  unfold totalChecksOf at h
  unfold summaryInt
  split at h
  · rename_i hn
    cases h
    rw [hn]
    rfl
  · rename_i m hm
    obtain rfl : m = (n : Int) := Int.mem_toNat?.1 (require_eq_ok.1 h)
    rw [hm]
    by_cases hz : n = 0 <;> simp [Json.truthy, Json.toInt, require, hz]
  · cases h

private theorem build_eq_ok {request} (hr : runChecks rt report markdown = .ok result) :
    AcceptanceRun.build rt runId request report.summary report.durationSeconds = .ok run ↔
      (runId ≠ "" ∧ result.verdict.l0FailureCount + result.verdict.l1WarningCount ≤ result.totalChecks) ∧
        run = ⟨runId, request, .completed, some result.verdict, result.totalChecks⟩ := by
  have hl : request.level ≠ "" := fun h => absurd request.level_mem (by rw [h]; decide)
  have ht : request.trigger ≠ "" := fun h => absurd request.trigger_mem (by rw [h]; decide)
  simp only [runChecks, bind_eq_ok] at hr
  obtain ⟨verdict, hv, total, htt, findings, -, hr⟩ := hr
  split at hr
  · rename_i hd
    obtain rfl := pure_eq_ok.1 hr
    simp only [AcceptanceRun.build, AcceptanceRun.requested, AcceptanceRun.start, AcceptanceRun.recordCompletion,
      validateRunIdentity, hv, summaryInt_of_totalChecksOf htt, eq_ok, exists_const, hl, ht, request.agentName_ne, hd,
        ne_eq, not_false_eq_true, true_and]
    constructor
    · rintro ⟨_, ⟨⟨hid, -⟩, rfl⟩, _, ⟨-, rfl⟩, -, _, heq, _, hc, -, n, hn, hle, rfl⟩
      cases heq
      cases hc
      obtain rfl : total = n := Int.ofNat.inj (Int.mem_toNat?.1 hn)
      exact ⟨⟨hid, hle⟩, rfl⟩
    · rintro ⟨⟨hid, hle⟩, rfl⟩
      exact ⟨_, ⟨⟨hid, trivial⟩, rfl⟩, _, ⟨rfl, rfl⟩, rfl, _, rfl, _, rfl,
        ⟨hid, request.agentName_ne, by decide, by decide⟩, total, Int.mem_toNat?.2 rfl, hle, rfl⟩
  · cases hr

/-! ### The transaction -/

private theorem QaDb.save_eq_some (h : db.save row events = some db') :
    (∀ r, r ∈ db'.runs ↔ r ∈ db.runs ∨ r = row) ∧ (∀ r ∈ db.runs, r.id ≠ row.id) ∧
      db'.outbox.rows = db.outbox.rows ++ events := by
  obtain ⟨runs, hr, hm⟩ := bind_eq_some_iff.1 h
  obtain ⟨outbox, ho, rfl⟩ := map_eq_some_iff.1 hm
  exact ⟨fun r => Indexed.mem_insert hr, (insert_eq_some (Indexed.insert_eq_some hr).1).2, insertAll_eq_some ho⟩

private theorem QaDb.eventCount_save (h : db.save row events = some db') (type : QaEventType) (runId) :
    db'.eventCount type runId =
      db.eventCount type runId + events.countP (fun e => e.eventType = type ∧ e.runId = runId) := by
  unfold eventCount
  rw [(save_eq_some h).2.2, countP_append]

private theorem AcceptanceRun.of_mem_events {e} (he : e ∈ run.events completedId gateFailedId traceId) :
    e.runId = run.runId ∧ (e.eventId = completedId ∨ e.eventId = gateFailedId) := by
  rcases mem_cons.1 he with rfl | he
  · exact ⟨rfl, .inl rfl⟩
  · split at he
    · obtain rfl := mem_singleton.1 he
      exact ⟨rfl, .inr rfl⟩
    · cases he

private theorem QaDb.Consistent.save (h : db.Consistent)
    (hs : db.save row (run.events completedId gateFailedId traceId) = some db') (hid : run.runId = row.id)
      (hv : run.verdict = some row.result.verdict) : db'.Consistent := by
  obtain ⟨hrn, hnw, ho⟩ := save_eq_some hs
  refine ⟨fun r hr => ?_, fun e he => ?_⟩
  · unfold QaDb.Announced
    rw [eventCount_save hs, eventCount_save hs]
    rcases (hrn r).1 hr with hol | rfl
    · -- the new events are of another run
      have hot (type : QaEventType) : (run.events completedId gateFailedId traceId).countP
          (fun e => e.eventType = type ∧ e.runId = r.id) = 0 := by
        refine countP_eq_zero.2 (fun e he hc => hnw r hol ?_)
        rw [← (of_decide_eq_true hc).2, (AcceptanceRun.of_mem_events he).1, hid]
      rw [hot, hot]
      exact h.announced r hol
    · -- the run had no events before
      have hnn (type : QaEventType) : db.eventCount type r.id = 0 := by
        refine countP_eq_zero.2 (fun e he hc => ?_)
        obtain ⟨r', hr', heq⟩ := h.run_of_event e he
        exact hnw r' hr' (heq.trans (of_decide_eq_true hc).2)
      rw [hnn, hnn]
      have hb : run.isBlocking = r.result.verdict.isBlocking := by
        rw [AcceptanceRun.isBlocking, hv]
        rfl
      unfold AcceptanceRun.events
      rw [hb, hid]
      cases r.result.verdict.isBlocking <;> simp
  · rw [← mem_rows, ho, mem_append] at he
    rcases he with hol | hn
    · obtain ⟨r, hr, heq⟩ := h.run_of_event e hol
      exact ⟨r, (hrn r).2 (.inl hr), heq⟩
    · exact ⟨row, (hrn row).2 (.inr rfl), by rw [(AcceptanceRun.of_mem_events hn).1, hid]⟩

/-! ### Every interleaving -/

def QaDb.HasRun (db : QaDb) (trigger : Option String) : Prop :=
  trigger.isSome → ∃ row ∈ db.runs, row.triggerEventId = trigger

/-- What holds of a call: a result comes from its report, and a call that has returned has its run. -/
def Call.Sound (rt : QaRuntime) (db : QaDb) (c : Call) : Prop :=
  match c.phase with
  | .persisting report result => ∃ markdown, runChecks rt report markdown = .ok result
  | .rechecking | .returned _ => db.HasRun c.trigger
  | .looking | .checking | .raised => True

private theorem QaDb.hasRun_of_existing {trigger} (h : db.existing trigger = some row) : db.HasRun trigger := by
  obtain ⟨e, he, hf⟩ := bind_eq_some_iff.1 h
  obtain ⟨hr, hi⟩ := Indexed.find_eq_some.1 hf
  exact fun _ => ⟨row, hr, hi.trans (filter_eq_some_iff.1 he).1.symm⟩

private theorem Call.Sound.mono (h : c.Sound rt db) (hk : ∀ r ∈ db.runs, r ∈ db'.runs) : c.Sound rt db' := by
  have hrn (ho : db.HasRun c.trigger) : db'.HasRun c.trigger := by
    intro ht
    obtain ⟨r, hr, heq⟩ := ho ht
    exact ⟨r, hk r hr, heq⟩
  obtain ⟨request, traceId, trigger, phase⟩ := c
  cases phase with
  | persisting => exact h
  | rechecking | returned => exact hrn h
  | looking | checking | raised => trivial

private theorem QaDb.hasRun_of_save
    (h : db.save row (run.events completedId gateFailedId traceId) = none) (hid : ∀ r ∈ db.runs, r.id ≠ row.id)
    (hne : completedId ≠ gateFailedId)
    (hev : ∀ e ∈ db.outbox, e.eventId ≠ completedId ∧ e.eventId ≠ gateFailedId) : db.HasRun row.triggerEventId := by
  by_contra hnn
  obtain ⟨-, hnn⟩ := Classical.not_imp.1 hnn
  obtain ⟨runs, hrn⟩ := Indexed.insert_isSome hid (fun r hr i hi heq => hnn ⟨r, hr, heq.trans hi.symm⟩)
  have hn : ((run.events completedId gateFailedId traceId).map QaEvent.eventId).Nodup := by
    unfold AcceptanceRun.events
    split <;> simp [hne]
  have hf : ∀ e ∈ run.events completedId gateFailedId traceId, db.outbox.get e.eventId = none := by
    intro e he
    refine get_eq_none.2 (fun e' he' heq => ?_)
    obtain ⟨hc, hg⟩ := hev e' he'
    rcases (AcceptanceRun.of_mem_events he).2 with hid | hid
    · exact hc (heq.trans hid)
    · exact hg (heq.trans hid)
  obtain ⟨outbox, ho⟩ := insertAll_isSome hn hf
  rw [QaDb.save, hrn, bind_some, ho] at h
  cases h

private theorem Call.Sound.persist {outcome} (hdb : db.Consistent)
    (hrs : runChecks rt report markdown = .ok result) (hp : c.phase = .persisting report result)
    (hok : c.trigger.isSome → c.Storable db runId completedId gateFailedId outcome)
    (h : c.persist rt db report result runId completedId gateFailedId outcome = (db', c')) :
    db'.Consistent ∧ (∀ r ∈ db.runs, r ∈ db'.runs) ∧ c'.Sound rt db' := by
  simp only [Call.Storable, hp] at hok
  unfold Call.persist at h
  split at h
  · rename_i hb
    cases h
    refine ⟨hdb, fun _ hr => hr, fun ht => ?_⟩
    rcases hok ht with hru | ⟨hc, -, hid, -⟩
    · exact hru
    · have hbl : AcceptanceRun.build rt runId c.request report.summary report.durationSeconds = .ok _ :=
        (build_eq_ok hrs).2 ⟨⟨hid, hc⟩, rfl⟩
      rw [hb] at hbl
      cases hbl
  · rename_i run hb
    obtain ⟨-, rfl⟩ := (build_eq_ok hrs).1 hb
    split at h
    · rename_i hrf
      cases h
      refine ⟨hdb, fun _ hr => hr, fun ht => ?_⟩
      rcases hok ht with hru | ⟨-, hd, -⟩
      · exact hru
      · exact absurd hrf hd
    · split at h
      · rename_i hs
        cases h
        refine ⟨hdb, fun _ hr => hr, fun ht => ?_⟩
        rcases hok ht with hru | ⟨-, -, -, hid, hne, he⟩
        · exact hru
        · exact QaDb.hasRun_of_save hs hid hne he ht
      · rename_i db₁ hs
        cases h
        have hrn := (QaDb.save_eq_some hs).1
        exact ⟨hdb.save hs rfl rfl, fun r hr => (hrn r).2 (.inl hr), fun _ => ⟨_, (hrn _).2 (.inr rfl), rfl⟩⟩

private theorem Call.Sound.next (hdb : db.Consistent) (h : c.Sound rt db)
    (hok : ∀ runId completedId gateFailedId outcome, answer = .store runId completedId gateFailedId outcome →
      c.trigger.isSome → c.Storable db runId completedId gateFailedId outcome)
    (hn : c.next rt db answer = some (db', c')) :
    db'.Consistent ∧ (∀ r ∈ db.runs, r ∈ db'.runs) ∧ c'.Sound rt db' := by
  unfold Call.next at hn
  split at hn
  · cases hn
    exact ⟨hdb, fun _ hr => hr, trivial⟩
  · cases hn
    exact ⟨hdb, fun _ hr => hr, trivial⟩
  · cases hn
    exact ⟨hdb, fun _ hr => hr, trivial⟩
  · split at hn
    · rename_i row hrw
      cases hn
      exact ⟨hdb, fun _ hr => hr, QaDb.hasRun_of_existing hrw⟩
    · cases hn
      exact ⟨hdb, fun _ hr => hr, trivial⟩
  · split at hn
    · rename_i result hrs
      cases hn
      exact ⟨hdb, fun _ hr => hr, _, hrs⟩
    · cases hn
      exact ⟨hdb, fun _ hr => hr, trivial⟩
  · rename_i report result runId completedId gateFailedId outcome hp
    simp only [Call.Sound, hp] at h
    obtain ⟨markdown, hrs⟩ := h
    exact persist hdb hrs hp (hok _ _ _ _ rfl) (some.inj hn)
  · rename_i hp
    cases hn
    simp only [Call.Sound, hp] at h
    exact ⟨hdb, fun _ hr => hr, h⟩
  · cases hn

private theorem QaDb.Consistent.recorded {e} (h : db.Consistent) (hrn : db.HasRun (some e)) : db.Recorded e := by
  obtain ⟨row, hrw, hi⟩ := hrn rfl
  refine ⟨row, ?_, h.announced row hrw⟩
  exact filter_eq_singleton.2 ⟨hrw, decide_eq_true hi,
    fun r hr hs => Indexed.eq_of_index_eq hr hrw (of_decide_eq_true hs) hi⟩

/-- In every interleaving of calls in which the results for trigger events can be stored, a call for a trigger event
that returns has exactly one run, with its events. -/
theorem result_recorded {rt : QaRuntime} {s t : Pool QaDb Call} (hcalls : s.procs = []) (hdb : s.shared.Consistent)
    (hrun : Run (Steps (Pool.step (acceptance rt))) Reliable s t) :
    ∀ c ∈ t.procs, ∀ runId e, c.phase = .returned runId → c.trigger = some e → t.shared.Recorded e := by
  obtain ⟨he, hs⟩ := hrun.pool (S := QaDb.Consistent) (L := fun db c => c.Sound rt db)
    (G := fun db db' => ∀ r ∈ db.runs, r ∈ db'.runs) hdb (by rw [hcalls]; exact forall_mem_nil _)
    (fun _ _ c hk hc => hc.mono hk) (fun _ e => e.elim)
    (fun s request b p hS _ hst => by
      cases hst
      exact ⟨hS, fun _ hr => hr, trivial⟩)
    (fun s i answer p b q hS hp hg hok hn =>
      Call.Sound.next hS hp (fun _ _ _ _ heq => by subst heq; exact hok p hg) hn)
  intro c hc runId e hph ht
  have hs := hs c hc
  simp only [Call.Sound, hph, ht] at hs
  exact he.recorded hs

/-! ### A gate that fails -/

def plainRuntime : QaRuntime := ⟨fun | .str s => s | _ => "", fun _ => none⟩

def gateFails (failures totalChecks : Int) : Report :=
  ⟨[("l0_gate", .str "FAIL"), ("l1_check", .str "PASS"), ("total_checks", .int totalChecks),
    ("l0_failures", .int failures)],
    [], 1, 0⟩

def handled (report : Report) : List (PoolAct Empty (RunRequest × Option String × Option String) Answer) :=
  [.start (⟨"dev-agent", "all", none, none, none, "event", by decide, by decide, by decide⟩, none, some "evt_1"),
    .next 0 (.lookup true), .next 0 (.runner (some (report, none))), .next 0 (.store "run_1" "qa_1" "qa_2" .committed)]

def noRuns : Pool QaDb Call := ⟨⟨.empty, .empty⟩, []⟩

def hasReturned (t : Pool QaDb Call) (runId : String) : Bool :=
  match t.procs with
  | [⟨_, _, some "evt_1", .returned id⟩] => id = runId
  | _ => false

private theorem exists_of_hasReturned {t runId} (h : hasReturned t runId = true) :
    ∃ c ∈ t.procs, c.phase = .returned runId ∧ c.trigger = some "evt_1" := by
  unfold hasReturned at h
  split at h
  · rename_i hp
    cases of_decide_eq_true h
    exact ⟨_, hp ▸ mem_singleton_self _, rfl, rfl⟩
  · cases h

/-- The report counts a failure but no check: the call returns, and the failure of the gate is not recorded. -/
theorem failed_gate_lost :
    noRuns.procs = [] ∧ noRuns.shared.Consistent ∧ ∃ t, exec (Pool.step (acceptance plainRuntime)) Always noRuns
      (handled (gateFails 1 0)) = some t ∧ (∃ c ∈ t.procs, c.phase = .returned "" ∧ c.trigger = some "evt_1") ∧
        t.shared.runs.table.rows = [] ∧ t.shared.outbox.rows = [] := by
  have hex : (exec (Pool.step (acceptance plainRuntime)) Always noRuns (handled (gateFails 1 0))).any
      (fun t => hasReturned t "" && t.shared.runs.table.rows.isEmpty && t.shared.outbox.rows.isEmpty) = true := by
    decide +kernel
  obtain ⟨t, ht, hts⟩ := (any_eq_true _ _).1 hex
  simp only [Bool.and_eq_true, List.isEmpty_iff] at hts
  exact ⟨rfl, ⟨fun _ hr => absurd hr (Indexed.not_mem_empty _), fun _ he => absurd he (not_mem_empty _)⟩, t, ht,
    exists_of_hasReturned hts.1.1, hts.1.2, hts.2⟩

/-- A failed gate is recorded with both events. -/
theorem result_recorded_failed_gate : ∃ t, Run (Steps (Pool.step (acceptance plainRuntime))) Reliable noRuns t ∧
      (∃ c ∈ t.procs, c.phase = .returned "run_1" ∧ c.trigger = some "evt_1") ∧ t.shared.Recorded "evt_1" := by
  refine exists_run_with (handled (gateFails 1 3)) (fun t => hasReturned t "run_1") (by decide +kernel)
    (fun t hrn ht => ?_)
  obtain ⟨c, hc, hp, htr⟩ := exists_of_hasReturned ht
  exact ⟨⟨c, hc, hp, htr⟩, result_recorded rfl
    ⟨fun _ hr => absurd hr (Indexed.not_mem_empty _), fun _ he => absurd he (not_mem_empty _)⟩ hrn c hc _ _ hp
    htr⟩

end WisdoverseCell.QaAgent
