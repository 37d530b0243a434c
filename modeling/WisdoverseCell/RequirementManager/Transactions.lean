import WisdoverseCell.Library.Pool
import WisdoverseCell.RequirementManager.DeliveryHandoff

/-!
# Concurrent transactions

A confirmation, rejection or update reads its row without a lock, and later writes to it and commits; a handoff locks
the row when it reads it.  A lock belongs to a session, whose transaction cannot commit once it has ended.
`confirmedText` and `handedOver` are read by no step.
-/

namespace WisdoverseCell.RequirementManager

open Function

variable {command : MutationCommand} {loaded : Requirement} {receipt : DeliveryHandoffReceipt} {q : HandoffRequest}

structure RequirementStore where
  requirements : Table Requirement.id
  receipts : Table DeliveryHandoffReceipt.requirementId
  outbox : Table Event.eventId
  locks : String → Option Nat
  sessions : Nat
  confirmedText : String → Option (String × String)
  handedOver : String → Option ConfirmedRequirementSnapshot

namespace RequirementStore

def lock (store : RequirementStore) (requirementId : String) : RequirementStore :=
  { store with
    locks := update store.locks requirementId (some store.sessions)
    sessions := store.sessions + 1 }

def unlock (store : RequirementStore) (requirementId : String) : RequirementStore :=
  { store with locks := update store.locks requirementId none }

/-- Write a mutation with its event; `none` when the event's key is taken. -/
def commit (store : RequirementStore) (command : MutationCommand) (loaded : Requirement) (m : Mutation)
    (eventId : String) : Option RequirementStore :=
  (store.outbox.insert ⟨eventId, m.payload, none, none⟩).map (fun outbox =>
    { store with
      requirements := store.requirements.modify loaded.id m.write m.write_id
      outbox := outbox
      confirmedText :=
        match command with
        | .confirm _ => update store.confirmedText loaded.id (some (loaded.title, loaded.description))
        | .reject _ _ | .update _ => store.confirmedText })

/-- `save`: the mapping with its two unique keys, then the event. -/
def save (store : RequirementStore) (receipt : DeliveryHandoffReceipt) (event : Event) :
    Except RequirementError RequirementStore := do
  ensure (∀ r ∈ store.receipts.rows,
      (r.companyId, r.projectId, r.wpId) ≠ (receipt.companyId, receipt.projectId, receipt.wpId))
    (.value "handoff_work_package_already_mapped")
  let receipts ← require (store.receipts.insert receipt) .integrity
  let outbox ← require (store.outbox.insert event) .integrity
  return { store with receipts := receipts, outbox := outbox }

/-- `DeliveryHandoffUseCase.execute` behind the lock. -/
def handoff (rt : HandoffRuntime) (store : RequirementStore) (q : HandoffRequest)
    (locked : ConfirmedRequirementSnapshot) (verified : Bool) :
    Except RequirementError (DeliveryHandoffReceipt × RequirementStore) :=
  match store.receipts.get q.requirementId with
  | some existing => do
    ensure (existing.commandHash = q.command.digest rt ∧ existing.companyId = q.command.companyId)
      (.value "handoff_mapping_conflict")
    return (existing, store)
  | none => do
    locked.assertReviewed rt q.command
    ensure (verified = true) .context
    let saved ← store.save (q.receipt rt) (q.event rt locked)
    return (q.receipt rt, { saved with handedOver := update saved.handedOver q.requirementId (some locked) })

end RequirementStore

/-! ### Transactions -/

inductive Outcome
  | notFound
  | mutated
  | returned (receipt : DeliveryHandoffReceipt)
  | failed (error : RequirementError)
  deriving DecidableEq

inductive Transaction
  | mutation (command : MutationCommand) (loaded : Requirement)
  | handoff (session : Nat) (request : HandoffRequest) (locked : ConfirmedRequirementSnapshot)
  | ended (outcome : Outcome)
  deriving DecidableEq

inductive RequirementRequest
  | mutate (requirementId : String) (command : MutationCommand)
  | handoff (request : HandoffRequest)

inductive StoreEvent
  | create (id title description priority category : String)
  | endSession (requirementId : String)

/-- A new event id, and whether the delivery context of a handoff is verified. -/
structure TransactionAnswer where
  eventId : String
  verified : Bool

section

variable (rt : HandoffRuntime) (store : RequirementStore)

def storeEvent : StoreEvent → Option RequirementStore
  | .create id title description priority category =>
    (store.requirements.insert ⟨id, title, description, .pending, priority, category, none, none, []⟩).map
      (fun requirements => { store with requirements := requirements })
  | .endSession requirementId => some (store.unlock requirementId)

def beginMutation (requirementId : String) (command : MutationCommand) : Transaction :=
  match store.requirements.get requirementId with
  | none => .ended .notFound
  | some r => .mutation command r

def beginHandoff (q : HandoffRequest) : Option (RequirementStore × Transaction) :=
  match q.check rt, store.requirements.get q.requirementId with
  | .error e, _ => some (store, .ended (.failed e))
  | .ok (), none => some (store, .ended (.failed (.value "requirement_not_found")))
  | .ok (), some r =>
    if store.locks q.requirementId = none then
      some (store.lock q.requirementId, .handoff store.sessions q r.snapshot)
    else none

def endMutation (command : MutationCommand) (loaded : Requirement) (answer : TransactionAnswer) :
    Option (RequirementStore × Transaction) :=
  match command.mutation loaded with
  | .error e => some (store, .ended (.failed e))
  | .ok none => some (store, .ended .mutated)
  | .ok (some m) =>
    if store.locks loaded.id = none then
      match store.commit command loaded m answer.eventId with
      | none => some (store, .ended (.failed .integrity))
      | some committed => some (committed, .ended .mutated)
    else none

def endHandoff (session : Nat) (q : HandoffRequest) (locked : ConfirmedRequirementSnapshot)
    (answer : TransactionAnswer) : RequirementStore × Transaction :=
  if store.locks q.requirementId = some session then
    match store.handoff rt q locked answer.verified with
    | .error e => (store.unlock q.requirementId, .ended (.failed e))
    | .ok (receipt, committed) => (committed.unlock q.requirementId, .ended (.returned receipt))
  else (store, .ended (.failed .session))

end

def requirementManager (rt : HandoffRuntime) :
    Program RequirementStore Transaction StoreEvent RequirementRequest TransactionAnswer where
  env := storeEvent
  start store
    | .mutate requirementId command => some (store, beginMutation store requirementId command)
    | .handoff request => beginHandoff rt store request
  next store transaction answer :=
    match transaction with
    | .mutation command loaded => endMutation store command loaded answer
    | .handoff session request locked => some (endHandoff rt store session request locked answer)
    | .ended _ => none

/-! ### What the steps do -/

section

variable {rt : HandoffRuntime} {store store' : RequirementStore} {tx : Transaction}

theorem commit_eq_some {m eventId} (h : store.commit command loaded m eventId = some store') :
    ∃ outbox confirmedText, store.outbox.insert ⟨eventId, m.payload, none, none⟩ = some outbox ∧
      store' = { store with
        requirements := store.requirements.modify loaded.id m.write m.write_id
        outbox := outbox
        confirmedText := confirmedText } ∧
      (∀ id, id ≠ loaded.id → confirmedText id = store.confirmedText id) ∧
      ∀ confirmedBy, command = .confirm confirmedBy →
        confirmedText loaded.id = some (loaded.title, loaded.description) := by
  obtain ⟨outbox, hi, rfl⟩ := Option.map_eq_some_iff.1 h
  refine ⟨outbox, _, hi, rfl, fun id hid => ?_, ?_⟩
  · cases command with
    | confirm => exact update_of_ne hid _ _
    | reject => rfl
    | update => rfl
  · rintro confirmedBy rfl
    exact update_self _ _ _

/-- A mutation ends without a write or with its commit. -/
theorem endMutation_cases {answer} (h : endMutation store command loaded answer = some (store', tx)) :
    (∃ outcome, tx = .ended outcome) ∧ (store' = store ∨
      ∃ m, command.mutation loaded = .ok (some m) ∧ store.locks loaded.id = none ∧
        store.commit command loaded m answer.eventId = some store') := by
  unfold endMutation at h
  split at h
  · cases h
    exact ⟨⟨_, rfl⟩, .inl rfl⟩
  · cases h
    exact ⟨⟨_, rfl⟩, .inl rfl⟩
  · rename_i m hm
    obtain ⟨hf, h⟩ := Option.ite_none_right_eq_some.1 h
    split at h
    · cases h
      exact ⟨⟨_, rfl⟩, .inl rfl⟩
    · rename_i committed hc
      cases h
      exact ⟨⟨_, rfl⟩, .inr ⟨m, hm, hf, hc⟩⟩

theorem save_eq_ok {event} (h : store.save receipt event = .ok store') :
    (∀ r ∈ store.receipts, (r.companyId, r.projectId, r.wpId) ≠ (receipt.companyId, receipt.projectId, receipt.wpId)) ∧
      ∃ receipts outbox, store.receipts.insert receipt = some receipts ∧ store.outbox.insert event = some outbox ∧
        store' = { store with receipts := receipts, outbox := outbox } := by
  simp only [RequirementStore.save, eq_ok] at h
  obtain ⟨-, hf, receipts, hr, outbox, ho, rfl⟩ := h
  exact ⟨hf, receipts, outbox, hr, ho, rfl⟩

/-- A handoff returns the receipt that is there, or makes one. -/
theorem handoff_eq_ok {locked verified} (h : store.handoff rt q locked verified = .ok (receipt, store')) :
    (store.receipts.get q.requirementId = some receipt ∧ receipt.commandHash = q.command.digest rt ∧ store' = store) ∨
      (store.receipts.get q.requirementId = none ∧ receipt = q.receipt rt ∧ locked.status = .confirmed ∧
        contentHash rt locked.requirementId locked.title locked.description = q.command.requirementHash ∧
        ∃ saved, store.save (q.receipt rt) (q.event rt locked) = .ok saved ∧
          store' = { saved with handedOver := update saved.handedOver q.requirementId (some locked) }) := by
  unfold RequirementStore.handoff at h
  split at h
  · rename_i existing hg
    simp only [eq_ok, Prod.mk.injEq] at h
    obtain ⟨-, ⟨hh, -⟩, rfl, rfl⟩ := h
    exact .inl ⟨hg, hh, rfl⟩
  · rename_i hg
    simp only [ConfirmedRequirementSnapshot.assertReviewed, eq_ok, Prod.mk.injEq] at h
    obtain ⟨-, ⟨-, ⟨hc, -⟩, -, hh, -⟩, -, -, saved, hs, rfl, rfl⟩ := h
    exact .inr ⟨hg, rfl, hc, hh, saved, hs, rfl⟩

theorem locks_of_unlock {requirementId id n} (h : (store.unlock requirementId).locks id = some n) :
    store.locks id = some n := by
  change update store.locks requirementId none id = some n at h
  by_cases hid : id = requirementId
  · subst hid
    rw [update_self] at h
    cases h
  · rwa [update_of_ne hid] at h

theorem endHandoff_frame (rt store) (session) (q) (locked answer) :
    (endHandoff rt store session q locked answer).1.requirements = store.requirements ∧
      (endHandoff rt store session q locked answer).1.confirmedText = store.confirmedText ∧
      (endHandoff rt store session q locked answer).1.sessions = store.sessions ∧
      ∀ id n, (endHandoff rt store session q locked answer).1.locks id = some n → store.locks id = some n := by
  unfold endHandoff
  split
  · split
    · exact ⟨rfl, rfl, rfl, fun _ _ => locks_of_unlock⟩
    · rename_i receipt committed hok
      rcases handoff_eq_ok hok with ⟨-, -, rfl⟩ | ⟨-, -, -, -, saved, hs, rfl⟩
      · exact ⟨rfl, rfl, rfl, fun _ _ => locks_of_unlock⟩
      · obtain ⟨-, receipts, outbox, -, -, rfl⟩ := save_eq_ok hs
        exact ⟨rfl, rfl, rfl, fun _ _ => locks_of_unlock⟩
  · exact ⟨rfl, rfl, rfl, fun _ _ h => h⟩

theorem endHandoff_ended (rt store) (session) (q) (locked answer) :
    ∃ outcome, (endHandoff rt store session q locked answer).2 = .ended outcome := by
  unfold endHandoff
  split
  · split
    · exact ⟨_, rfl⟩
    · exact ⟨_, rfl⟩
  · exact ⟨_, rfl⟩

theorem beginHandoff_cases (h : beginHandoff rt store q = some (store', tx)) :
    ((∃ outcome, tx = .ended outcome) ∧ store' = store) ∨
      ∃ r, store.requirements.get q.requirementId = some r ∧ store.locks q.requirementId = none ∧
        store' = store.lock q.requirementId ∧ tx = .handoff store.sessions q r.snapshot := by
  unfold beginHandoff at h
  split at h
  · cases h
    exact .inl ⟨⟨_, rfl⟩, rfl⟩
  · cases h
    exact .inl ⟨⟨_, rfl⟩, rfl⟩
  · rename_i r _ hg
    split at h
    · rename_i hf
      cases h
      exact .inr ⟨r, hg, hf, rfl, rfl⟩
    · cases h

end

end WisdoverseCell.RequirementManager
