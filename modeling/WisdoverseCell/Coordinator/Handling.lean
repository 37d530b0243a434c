import WisdoverseCell.Coordinator.Decisions
import WisdoverseCell.Library.Transition

/-!
# Handling an event and dispatching its decisions

The handler thinks, stores the decisions, appends them to the scratchpad and returns their events; only then the runtime
stages each event in the outbox and hands it to the bus.  Every step may fail, and the process may die between any two
steps.
-/

namespace WisdoverseCell.Coordinator

open List Table

variable {event out : DispatchEvent} {accepted marks : Bool} {decisions : List (Decision × DispatchEvent)}

/-- What becomes of a transaction; a lost one has taken effect, but its caller sees an error. -/
inductive StoreAnswer
  | done
  | lost
  | refused
  deriving DecidableEq

structure InboundEvent where
  eventType : String
  payload : JsonObj
  traceId : Option String

/-- The schemas of the payloads; a progress report gives its agent and its task. -/
structure Schemas where
  command : JsonObj → Bool
  notification : JsonObj → Bool
  progress : JsonObj → Option (String × String)

inductive Classified
  | command
  | notification
  | progress (agentId taskId : String)
  | event

def Schemas.classifyEvent (schemas : Schemas) (event : InboundEvent) : Except CoordinatorError Classified :=
  if event.eventType = "coordinator.command" then do
    ensure (schemas.command event.payload = true) .validation
    return .command
  else if event.eventType = "task.notification" then do
    ensure (schemas.notification event.payload = true) .validation
    return .notification
  else if event.eventType = "task.progress" then do
    let (agentId, taskId) ← require (schemas.progress event.payload) .validation
    return .progress agentId taskId
  else return .event

structure OutboxRow where
  event : DispatchEvent
  published : Bool
  attempts : Nat

def OutboxRow.eventId (row : OutboxRow) : String := row.event.eventId

def OutboxRow.mark (published : Bool) (row : OutboxRow) : OutboxRow :=
  { row with published := published, attempts := row.attempts + 1 }

private theorem OutboxRow.mark_eventId (published : Bool) (row : OutboxRow) :
    (row.mark published).eventId = row.eventId := rfl

inductive Phase
  | idle
  | thinking (traceId : Option String)
  | persisting (decisions : List (Decision × DispatchEvent))
  | projecting (events : List DispatchEvent)
  | publishing (left : List DispatchEvent)
  | relaying (event : DispatchEvent) (left : List DispatchEvent)

def Phase.inHand : Phase → List DispatchEvent
  | .idle | .thinking _ | .persisting _ => []
  | .projecting events => events
  | .publishing left | .relaying _ left => left

def Phase.toPersist : Phase → Option (List (Decision × DispatchEvent))
  | .persisting decisions => some decisions
  | .idle | .thinking _ | .projecting _ | .publishing _ | .relaying _ _ => none

structure CoordSys where
  store : StateStore
  outbox : Table OutboxRow.eventId
  /-- What the bus has accepted. -/
  accepted : List DispatchEvent
  phase : Phase

inductive CoordAct
  | begin (event : InboundEvent)
  | think (decisions : List (Decision × String))
  | persist (answer : StoreAnswer)
  | project (succeeds : Bool)
  | stage (answer : StoreAnswer)
  | relay (accepted marks : Bool)
  | dispatch (eventId : String) (accepted marks : Bool)
  | abort
  | crash

variable {answer : StoreAnswer}

namespace CoordSys

def persisted (kind : StoreKind) (s : StateStore) (decisions : List (Decision × DispatchEvent)) (answer : StoreAnswer) :
    Except CoordinatorError Unit × StateStore :=
  match kind, answer with
  | .inMemory, _ => s.persistInMemory decisions
  | .database, .done => (.ok (), s.persistInDatabase decisions)
  | .database, .lost => (.error .store, s.persistInDatabase decisions)
  | .database, .refused => (.error .store, s)

def publishStaged (s : CoordSys) (event : DispatchEvent) (accepted marks : Bool) : CoordSys :=
  { s with
    accepted := if accepted then s.accepted ++ [event] else s.accepted
    outbox := if marks then s.outbox.modify event.eventId (OutboxRow.mark accepted) (OutboxRow.mark_eventId accepted)
      else s.outbox }

def crash (kind : StoreKind) (s : CoordSys) : CoordSys :=
  { s with
    store := match kind with
      | .inMemory => .empty
      | .database => s.store
    phase := .idle }

def beginEvent (schemas : Schemas) (kind : StoreKind) (s : CoordSys) (event : InboundEvent) : CoordSys :=
  match schemas.classifyEvent event with
  | .error _ => s
  | .ok (.progress agentId taskId) =>
    match s.store.updateAgentState kind agentId taskId with
    | .error _ => s
    | .ok store => { s with store := store }
  | .ok .command | .ok .notification | .ok .event => { s with phase := .thinking event.traceId }

def thought (s : CoordSys) (trace : Option String) (decisions : List (Decision × String)) : CoordSys :=
  match outgoing trace decisions with
  | .error _ => { s with phase := .idle }
  | .ok items => { s with phase := .persisting items }

def persistDecisions (kind : StoreKind) (s : CoordSys) (decisions : List (Decision × DispatchEvent))
    (answer : StoreAnswer) :
    CoordSys :=
  match persisted kind s.store decisions answer with
  | (.error _, store) => { s with store := store, phase := .idle }
  | (.ok (), store) =>
    { s with store := store, phase := if decisions.isEmpty then .publishing [] else
      .projecting (decisions.map Prod.snd) }

/-- `add`; an event that the outbox does not take is logged and dropped. -/
def stageEvent (s : CoordSys) (event : DispatchEvent) (left : List DispatchEvent) (answer : StoreAnswer) : CoordSys :=
  match answer, s.outbox.insert ⟨event, false, 0⟩ with
  | .done, some outbox => { s with outbox := outbox, phase := .relaying event left }
  | .lost, some outbox => { s with outbox := outbox, phase := .publishing left }
  | .refused, _ | _, none => { s with phase := .publishing left }

/-- One step of the handler, the runtime or the dispatcher; `none` where it is not their turn. -/
def step (schemas : Schemas) (kind : StoreKind) (s : CoordSys) : CoordAct → Option CoordSys
  | .begin event =>
    match s.phase with
    | .idle | .publishing [] => some ({ s with phase := .idle }.beginEvent schemas kind event)
    | _ => none
  | .think decisions =>
    match s.phase with
    | .thinking trace => some (s.thought trace decisions)
    | _ => none
  | .persist answer =>
    match s.phase with
    | .persisting decisions => some (s.persistDecisions kind decisions answer)
    | _ => none
  | .project succeeds =>
    match s.phase with
    | .projecting events => some { s with phase := if succeeds then .publishing events else .idle }
    | _ => none
  | .stage answer =>
    match s.phase with
    | .publishing (event :: left) => some (s.stageEvent event left answer)
    | _ => none
  | .relay accepted marks =>
    match s.phase with
    | .relaying event left => some { s.publishStaged event accepted marks with phase := .publishing left }
    | _ => none
  | .dispatch eventId accepted marks =>
    match s.outbox.get eventId with
    | some row => if row.published then none else some (s.publishStaged row.event accepted marks)
    | none => none
  | .abort =>
    match s.phase with
    | .thinking _ | .persisting _ | .projecting _ => some { s with phase := .idle }
    | _ => none
  | .crash => some (s.crash kind)

/-! ### Decisions with their events -/

def Dispatched (s : CoordSys) (event : DispatchEvent) : Prop :=
  (∃ row ∈ s.outbox, row.event = event) ∨ event ∈ s.accepted

/-- Each stored decision has its event dispatched, or the process still holds it. -/
def Accounted (s : CoordSys) : Prop := ∀ p ∈ s.store.decisions, s.Dispatched p.event ∨ p.event ∈ s.phase.inHand

/-- No decision is stored by a `persist` that raises.  In memory that is one whose first decision is refused; in the
database one that has not taken effect. -/
def StoresAllOrNone (kind : StoreKind) (decisions : List (Decision × DispatchEvent)) (answer : StoreAnswer) : Prop :=
  match kind with
  | .inMemory => (∀ item ∈ decisions, item.1.Valid) ∨ ∃ item ∈ decisions.head?, ¬ item.1.Valid
  | .database => answer ≠ .lost ∨ decisions = []

instance (kind decisions answer) : Decidable (StoresAllOrNone kind decisions answer) :=
  match kind with
  | .inMemory => inferInstanceAs (Decidable (_ ∨ _))
  | .database => inferInstanceAs (Decidable (_ ∨ _))

def Undisturbed (kind : StoreKind) (s : CoordSys) : CoordAct → Prop
  | .begin _ | .think _ | .relay _ _ | .dispatch _ _ _ => True
  | .persist answer => ∀ decisions ∈ s.phase.toPersist, StoresAllOrNone kind decisions answer
  | .project succeeds => succeeds = true ∨ s.phase.inHand = []
  | .stage answer => answer ≠ .refused ∧ ∀ event ∈ s.phase.inHand.head?, s.outbox.get event.eventId = none
  | .abort => s.phase.inHand = []
  | .crash => kind = .inMemory ∨ s.phase.inHand = []

instance (kind : StoreKind) (s : CoordSys) : DecidablePred (Undisturbed kind s) := by
  intro a
  unfold Undisturbed
  split <;> infer_instance

variable {schemas : Schemas} {kind : StoreKind} {s t : CoordSys} {a : CoordAct}

private theorem Dispatched.mono (h : s.Dispatched event) (ho : ∀ row ∈ s.outbox, ∃ row' ∈ t.outbox,
    row'.event = row.event) (ha : ∀ e ∈ s.accepted, e ∈ t.accepted) : t.Dispatched event := by
  rcases h with ⟨row, hr, rfl⟩ | hac
  · exact .inl (ho row hr)
  · exact .inr (ha event hac)

private theorem publishStaged_dispatched (h : s.Dispatched event) :
    (s.publishStaged out accepted marks).Dispatched event := by
  refine h.mono (fun row hr => ?_) (fun e he => ?_)
  · unfold publishStaged
    cases marks with
    | false => exact ⟨row, hr, rfl⟩
    | true =>
      refine ⟨_, update_mem (OutboxRow.mark_eventId accepted) hr, ?_⟩
      split
      · rfl
      · rfl
  · unfold publishStaged
    cases accepted with
    | false => exact he
    | true => exact mem_append_left _ he

private theorem Accounted.of_eq (h : s.Accounted) (ho : t.outbox = s.outbox) (ha : t.accepted = s.accepted)
    (hdc : ∀ p ∈ t.store.decisions, p ∈ s.store.decisions ∨ p.event ∈ t.phase.inHand)
    (hh : ∀ e ∈ s.phase.inHand, e ∈ t.phase.inHand) : t.Accounted := by
  intro p hp
  rcases hdc p hp with hol | hn
  · rcases h p hol with hd | hin
    · refine .inl (hd.mono (fun row hr => ⟨row, ?_, rfl⟩) (fun e he => ?_))
      · rw [ho]
        exact hr
      · rw [ha]
        exact he
    · exact .inr (hh _ hin)
  · exact .inr hn

private theorem of_mem_persisted {store p} (h : p ∈ (persisted kind store decisions answer).2.decisions) :
    p ∈ store.decisions ∨ p.event ∈ decisions.map Prod.snd := by
  unfold persisted at h
  split at h
  · exact StateStore.of_mem_persistInMemory h
  · exact StateStore.of_mem_persistInDatabase h
  · exact StateStore.of_mem_persistInDatabase h
  · exact .inl h

private theorem accounted_beginEvent {event} (h : s.Accounted) (hh : s.phase.inHand = []) :
    (s.beginEvent schemas kind event).Accounted := by
  have he (t : CoordSys) : ∀ e ∈ s.phase.inHand, e ∈ t.phase.inHand := by
    rw [hh]
    exact forall_mem_nil _
  unfold beginEvent
  split
  · exact h
  · split
    · exact h
    · next hu =>
      refine h.of_eq rfl rfl (fun p hp => .inl ?_) (he _)
      rw [← StateStore.decisions_updateAgentState hu]
      exact hp
  all_goals exact h.of_eq rfl rfl (fun p hp => .inl hp) (he _)

private theorem persisted_of_allOrNone (store) (h : StoresAllOrNone kind decisions answer) :
    (persisted kind store decisions answer).1 = .ok () ∨
      ∀ p ∈ (persisted kind store decisions answer).2.decisions, p ∈ store.decisions := by
  cases kind with
  | inMemory =>
    rcases h with hv | ⟨item, hm, hv⟩
    · exact .inl (StateStore.persistInMemory_of_valid hv)
    · obtain ⟨rest, rfl⟩ := head?_eq_some_iff.1 hm
      refine .inr (fun p hp => ?_)
      change p ∈ (store.persistInMemory (item :: rest)).2.decisions at hp
      unfold StateStore.persistInMemory at hp
      rcases hc : DecisionRecord.create item.1 with e | record
      · rw [hc] at hp
        exact hp
      · exact absurd (DecisionRecord.exists_create_iff.1 ⟨record, hc⟩) hv
  | database =>
    cases answer with
    | done => exact .inl rfl
    | refused => exact .inr (fun _ hp => hp)
    | lost =>
      rcases h with h | rfl
      · exact absurd rfl h
      · exact .inr (fun _ hp => StateStore.mem_of_mem_trim hp)

private theorem accounted_persistDecisions (h : s.Accounted) (hh : s.phase.inHand = [])
    (hok : StoresAllOrNone kind decisions answer) : (s.persistDecisions kind decisions answer).Accounted := by
  have he (t : CoordSys) : ∀ e ∈ s.phase.inHand, e ∈ t.phase.inHand := by
    rw [hh]
    exact forall_mem_nil _
  have hm := @of_mem_persisted decisions answer kind s.store
  have hst := persisted_of_allOrNone s.store hok
  unfold persistDecisions
  rcases hr : persisted kind s.store decisions answer with ⟨⟨e⟩ | ⟨u⟩, store⟩
  · -- an exception: nothing was stored
    rw [hr] at hst
    rcases hst with hst | hst
    · cases hst
    · exact h.of_eq rfl rfl (fun p hp => .inl (hst p hp)) (he _)
  · refine h.of_eq rfl rfl (fun p hp => ?_) (he _)
    have hp' : p ∈ (persisted kind s.store decisions answer).2.decisions := by
      rw [hr]
      exact hp
    refine (hm hp').imp id (fun hn => ?_)
    cases decisions with
    | nil => cases hn
    | cons => exact hn

private theorem accounted_stageEvent {left} (h : s.Accounted)
    (hph : s.phase = .publishing (event :: left)) (ha : answer ≠ .refused) (hn : s.outbox.get event.eventId = none) :
    (s.stageEvent event left answer).Accounted := by
  obtain ⟨outbox, hi⟩ := insert_isSome (a := OutboxRow.mk event false 0) hn
  have hs (t : CoordSys) (ho : t.outbox = outbox) (hac : t.accepted = s.accepted) (hst : t.store = s.store)
      (hh : t.phase.inHand = left) : t.Accounted := by
    intro p hp
    rw [hst] at hp
    rcases h p hp with hd | hin
    · refine .inl (hd.mono (fun row hr => ⟨row, ?_, rfl⟩) (fun e he => ?_))
      · rw [ho]
        exact (mem_insert hi).2 (.inl hr)
      · rw [hac]
        exact he
    · rw [hph] at hin
      rcases mem_cons.1 hin with heq | hl
      · refine .inl (.inl ⟨⟨event, false, 0⟩, ?_, heq.symm⟩)
        rw [ho]
        exact (mem_insert hi).2 (.inr rfl)
      · rw [hh]
        exact .inr hl
  unfold stageEvent
  rw [hi]
  cases answer with
  | done => exact hs _ rfl rfl rfl rfl
  | lost => exact hs _ rfl rfl rfl rfl
  | refused => exact absurd rfl ha

private theorem accounted_publishStaged {phase} (h : s.Accounted) (hh : phase.inHand = s.phase.inHand) :
    Accounted { s.publishStaged out accepted marks with phase := phase } := by
  intro p hp
  rcases h p hp with hd | hin
  · exact .inl (publishStaged_dispatched hd)
  · refine .inr ?_
    change p.event ∈ phase.inHand
    rw [hh]
    exact hin

private theorem Accounted.step (h : s.Accounted) (hok : Undisturbed kind s a) (hs : s.step schemas kind a = some t) :
    t.Accounted := by
  have hi (hh : s.phase.inHand = []) : Accounted { s with phase := .idle } := by
    refine h.of_eq rfl rfl (fun p hp => .inl hp) ?_
    rw [hh]
    exact forall_mem_nil _
  cases a with
  | begin =>
    simp only [CoordSys.step] at hs
    split at hs
    · next hph =>
      cases hs
      exact accounted_beginEvent (hi (by rw [hph]; rfl)) rfl
    · next hph =>
      cases hs
      exact accounted_beginEvent (hi (by rw [hph]; rfl)) rfl
    · cases hs
  | think =>
    simp only [CoordSys.step] at hs
    split at hs
    · next trace hph =>
      cases hs
      have hh : s.phase.inHand = [] := by rw [hph]; rfl
      unfold thought
      split
      · exact hi hh
      · refine h.of_eq rfl rfl (fun p hp => .inl hp) ?_
        rw [hh]
        exact forall_mem_nil _
    · cases hs
  | persist =>
    simp only [CoordSys.step] at hs
    split at hs
    · next decisions hph =>
      cases hs
      refine accounted_persistDecisions h (by rw [hph]; rfl) (hok decisions ?_)
      rw [hph]
      rfl
    · cases hs
  | project =>
    simp only [CoordSys.step] at hs
    split at hs
    · next events hph =>
      cases hs
      rcases hok with rfl | hh
      · refine h.of_eq rfl rfl (fun p hp => .inl hp) ?_
        rw [hph]
        exact fun e he => he
      · refine h.of_eq rfl rfl (fun p hp => .inl hp) ?_
        rw [hh]
        exact forall_mem_nil _
    · cases hs
  | stage =>
    simp only [CoordSys.step] at hs
    split at hs
    · next event left hph =>
      cases hs
      refine accounted_stageEvent h hph hok.1 (hok.2 event ?_)
      rw [hph]
      rfl
    · cases hs
  | relay =>
    simp only [CoordSys.step] at hs
    split at hs
    · next event left hph =>
      cases hs
      exact accounted_publishStaged h (by rw [hph]; rfl)
    · cases hs
  | dispatch =>
    simp only [CoordSys.step] at hs
    split at hs
    · split at hs
      · cases hs
      · cases hs
        exact accounted_publishStaged h rfl
    · cases hs
  | abort =>
    simp only [CoordSys.step] at hs
    split at hs
    · cases hs
      exact hi hok
    · cases hs
      exact hi hok
    · cases hs
      exact hi hok
    · cases hs
  | crash =>
    cases hs
    rcases hok with rfl | hh
    · exact fun p hp => absurd hp not_mem_nil
    · cases kind with
      | inMemory => exact fun p hp => absurd hp not_mem_nil
      | database => exact hi hh

end CoordSys

open CoordSys in
/-- In every state in which the process holds no event of a stored decision, each stored decision has its event in the
outbox or accepted by the bus, provided that nothing went wrong between storing and staging. -/
theorem decisions_dispatched {schemas : Schemas} {kind : StoreKind} {s t : CoordSys} (hs : s.store.decisions = [])
    (hrun : Run (Steps (CoordSys.step schemas kind)) (Undisturbed kind) s t) (hhand : t.phase.inHand = []) :
    ∀ p ∈ t.store.decisions, (∃ row ∈ t.outbox, row.event = p.event) ∨ p.event ∈ t.accepted := by
  have hinit : s.Accounted := by
    intro p hp
    rw [hs] at hp
    cases hp
  have hacc : t.Accounted := hrun.invariant hinit (fun _ _ _ hI hok hstep => hI.step hok hstep)
  intro p hp
  rcases hacc p hp with hd | hin
  · exact hd
  · rw [hhand] at hin
    cases hin

def laxSchemas : Schemas := ⟨fun _ => true, fun _ => true, fun _ => none⟩

def idleCoordinator : CoordSys := ⟨.empty, .empty, [], .idle⟩

def decomposeDecision (action : String) : Decision where
  targetAgent := "pjm-agent"
  action := action
  taskId := "task_1"
  instruction := "Decompose the epic"
  workflowId := some "wf_1"
  reasoning := ""
  context := []
  commandId := none
  traceId := none
  status := none
  summary := none
  scratchpadRef := none

def decided : List CoordAct :=
  [.begin ⟨"coordinator.command", [], none⟩, .think [(decomposeDecision "dispatch", "evt_1")]]

open CoordSys in
/-- One decision is stored, staged, and survives a crash with its event. -/
theorem decisions_dispatched_once :
    ∃ t, Run (Steps (CoordSys.step laxSchemas .database)) (Undisturbed .database) idleCoordinator t ∧
      t.store.decisions.length = 1 ∧
      ∀ p ∈ t.store.decisions, (∃ row ∈ t.outbox, row.event = p.event) ∨ p.event ∈ t.accepted :=
  exists_run_with (decided ++ [.persist .done, .project true, .stage .done, .crash])
    (fun t => t.store.decisions.length = 1 ∧ t.phase.inHand = []) (by decide +kernel)
    (fun _ hrun ⟨hl, hh⟩ => ⟨hl, decisions_dispatched rfl hrun hh⟩)

/-- A stored decision has no event, neither in the outbox nor on the bus nor in the hand of the process. -/
def HasLostDispatch (s : CoordSys) : Prop :=
  ∃ p ∈ s.store.decisions, (∀ row ∈ s.outbox.rows, row.event ≠ p.event) ∧ p.event ∉ s.accepted ∧ s.phase.inHand = []

instance : DecidablePred HasLostDispatch := fun s =>
  inferInstanceAs (Decidable (∃ p ∈ s.store.decisions, (∀ row ∈ s.outbox.rows, row.event ≠ p.event) ∧
    p.event ∉ s.accepted ∧ s.phase.inHand = []))

def decidedBlank : List CoordAct :=
  [.begin ⟨"coordinator.command", [], none⟩,
    .think [(decomposeDecision "dispatch", "evt_1"), (decomposeDecision " ", "evt_2")]]

/-- A dispatch is lost if the store in memory rejects a later decision of the list, and if the process dies before the
event is staged. -/
theorem dispatch_lost :
    (∃ t, Run (Steps (CoordSys.step laxSchemas .inMemory)) Always idleCoordinator t ∧ HasLostDispatch t) ∧
    (∃ t, Run (Steps (CoordSys.step laxSchemas .database)) Always idleCoordinator t ∧ HasLostDispatch t) := by
  refine ⟨exists_run_exec (decidedBlank ++ [.persist .done]) ?_,
    exists_run_exec (decided ++ [.persist .done, .crash]) ?_⟩
  · decide +kernel
  · decide +kernel

example : (exec (CoordSys.step laxSchemas .inMemory) Always idleCoordinator
    (decided ++ [.persist .done, .project true, .stage .refused])).any (fun t => HasLostDispatch t) = true := by
  decide +kernel

end WisdoverseCell.Coordinator
