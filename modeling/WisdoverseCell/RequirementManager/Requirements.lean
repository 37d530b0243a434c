import WisdoverseCell.Library.Checked
import WisdoverseCell.Library.Table

/-!
# Requirements

The lifecycle of a requirement and the three mutations of it.  A mutation is decided on the row that its transaction has
loaded, and writes to the row that is stored when it commits: the columns that it assigned and that differ from what it
had loaded, or those named in the request (update).
-/

namespace WisdoverseCell.RequirementManager

open Option

/-! ### The lifecycle -/

inductive RequirementStatus
  | pending
  | confirmed
  | changed
  | rejected
  deriving DecidableEq

def validTransitions : RequirementStatus → List RequirementStatus
  | .pending => [.confirmed, .rejected, .changed]
  | .confirmed => [.changed, .rejected]
  | .changed => [.confirmed, .rejected]
  | .rejected => []

def CanTransition (source target : RequirementStatus) : Prop := target ∈ validTransitions source

instance (source target : RequirementStatus) : Decidable (CanTransition source target) :=
  inferInstanceAs (Decidable (_ ∈ _))

structure HistoryEntry where
  action : String
  detail : String
  actor : String
  deriving DecidableEq

structure Requirement where
  id : String
  title : String
  description : String
  status : RequirementStatus
  priority : String
  category : String
  confirmedBy : Option String
  rejectionReason : Option String
  history : List HistoryEntry
  deriving DecidableEq

inductive RequirementError
  | invalidTransition (requirementId : String) (source target : RequirementStatus)
  | value (message : String)
  | integrity
  | context
  | session
  deriving DecidableEq

namespace Requirement

def transitionTo (r : Requirement) (target : RequirementStatus) : Except RequirementError RequirementStatus := do
  ensure (CanTransition r.status target) (.invalidTransition r.id r.status target)
  return target

def addHistory (r : Requirement) (action detail actor : String) : Requirement :=
  { r with history := r.history ++ [⟨action, detail, actor⟩] }

def markConfirmed (r : Requirement) (confirmedBy : String) : Requirement :=
  { r with status := .confirmed, confirmedBy := some confirmedBy }.addHistory "confirmed" "需求已确认" confirmedBy

def markRejected (r : Requirement) (reason rejectedBy : String) : Requirement :=
  { r with status := .rejected, rejectionReason := some reason }.addHistory "rejected" ("需求已拒绝: " ++ reason)
    rejectedBy

def recordUpdated (r : Requirement) (changedFields : List String) (changedBy : String) : Requirement :=
  let names := changedFields.map (fun f => "\x27" ++ f ++ "\x27")
  r.addHistory "updated" ("Updated fields: [" ++ ", ".intercalate names ++ "]") changedBy

end Requirement

/-! ### Writing back -/

def flushed {α : Type} [DecidableEq α] (loaded assigned stored : α) : α :=
  if assigned = loaded then stored else assigned

def Requirement.flush (loaded assigned stored : Requirement) : Requirement :=
  { stored with
    status := flushed loaded.status assigned.status stored.status
    confirmedBy := flushed loaded.confirmedBy assigned.confirmedBy stored.confirmedBy
    rejectionReason := flushed loaded.rejectionReason assigned.rejectionReason stored.rejectionReason
    history := flushed loaded.history assigned.history stored.history }

/-- The fields of an update request; the ones it does not set are `none`. -/
structure RequirementChanges where
  title : Option String
  description : Option String
  priority : Option String
  category : Option String
  comment : Option String
  deriving DecidableEq

namespace RequirementChanges

def fields (c : RequirementChanges) : List String :=
  (if c.title.isSome then ["title"] else []) ++ (if c.description.isSome then ["description"] else []) ++
    (if c.priority.isSome then ["priority"] else []) ++ (if c.category.isSome then ["category"] else [])

/-- `comment or "system"`. -/
def changedBy (c : RequirementChanges) : String :=
  match c.comment with
  | none | some "" => "system"
  | some comment => comment

def set (c : RequirementChanges) (status : Option RequirementStatus) (stored : Requirement) : Requirement :=
  { stored with
    title := c.title.getD stored.title
    description := c.description.getD stored.description
    priority := c.priority.getD stored.priority
    category := c.category.getD stored.category
    status := status.getD stored.status }

end RequirementChanges

/-! ### Events -/

structure SyncTaskNeedsDecomposePayload where
  wpId : Nat
  projectId : Nat
  subject : String
  description : String
  wpType : String
  projectName : String
  companyId : String
  requirementId : String
  requirementHash : String
  goalId : String
  workItemId : String

inductive EventPayload
  | requirementConfirmed (requirementId title priority category confirmedBy : String)
  | requirementRejected (requirementId title reason : String)
  | requirementChanged (requirementId title : String) (changedFields : List String) (changedBy : String)
  | taskNeedsDecompose (payload : SyncTaskNeedsDecomposePayload)

structure Event where
  eventId : String
  payload : EventPayload
  traceId : Option String
  correlationId : Option String

/-! ### Mutations -/

/-- What a mutation writes to the stored row, and the event that it puts into the outbox. -/
structure Mutation where
  write : Requirement → Requirement
  payload : EventPayload
  write_id : ∀ r, (write r).id = r.id

def confirm (loaded : Requirement) (confirmedBy : String) : Except RequirementError Mutation := do
  let _ ← loaded.transitionTo .confirmed
  return {
    write := loaded.flush (loaded.markConfirmed confirmedBy)
    payload := .requirementConfirmed loaded.id loaded.title loaded.priority loaded.category confirmedBy
    write_id := fun _ => rfl }

def reject (loaded : Requirement) (reason rejectedBy : String) : Except RequirementError Mutation := do
  let _ ← loaded.transitionTo .rejected
  return {
    write := loaded.flush (loaded.markRejected reason rejectedBy)
    payload := .requirementRejected loaded.id loaded.title reason
    write_id := fun _ => rfl }

def changedStatus (loaded : Requirement) : Except RequirementError (Option RequirementStatus) :=
  if loaded.status = .changed then .ok none
  else do
    let status ← loaded.transitionTo .changed
    return some status

def updateRequirement (loaded : Requirement) (changes : RequirementChanges) : Except RequirementError Mutation := do
  let status ← changedStatus loaded
  return {
    write := fun stored =>
      changes.set status (loaded.flush (loaded.recordUpdated changes.fields changes.changedBy) stored)
    payload := .requirementChanged loaded.id (changes.title.getD loaded.title) changes.fields changes.changedBy
    write_id := fun _ => rfl }

inductive MutationCommand
  | confirm (confirmedBy : String)
  | reject (reason rejectedBy : String)
  | update (changes : RequirementChanges)
  deriving DecidableEq

def MutationCommand.mutation (loaded : Requirement) : MutationCommand → Except RequirementError (Option Mutation)
  | .confirm confirmedBy => do
    let m ← RequirementManager.confirm loaded confirmedBy
    return some m
  | .reject reason rejectedBy => do
    let m ← RequirementManager.reject loaded reason rejectedBy
    return some m
  | .update changes =>
    if changes.fields = [] then .ok none
    else do
      let m ← updateRequirement loaded changes
      return some m

/-! ### What a mutation writes -/

private theorem transitionTo_eq_ok {r : Requirement} {target status}
    (h : r.transitionTo target = .ok status) : CanTransition r.status target ∧ status = target := by
  simp only [Requirement.transitionTo, eq_ok] at h
  obtain ⟨-, hc, rfl⟩ := h
  exact ⟨hc, rfl⟩

private theorem not_canTransition_self (status) : ¬ CanTransition status status := by
  cases status <;> decide

private theorem flushed_of_ne {α : Type} [DecidableEq α] {loaded assigned} (h : assigned ≠ loaded) (stored : α) :
    flushed loaded assigned stored = assigned := if_neg h

@[simp] theorem flushed_self {α : Type} [DecidableEq α] (loaded stored : α) : flushed loaded loaded stored = stored :=
  if_pos rfl

/-- The mutation keeps the status or moves it along a valid transition, and only a confirmation confirms, which leaves
the text alone. -/
structure Mutation.Respects (m : Mutation) (command : MutationCommand) (stored : Requirement) : Prop where
  status : (m.write stored).status = stored.status ∨ CanTransition stored.status (m.write stored).status
  confirmed : (m.write stored).status = .confirmed → (∃ confirmedBy, command = .confirm confirmedBy) ∧
    (m.write stored).title = stored.title ∧ (m.write stored).description = stored.description

section

variable {loaded stored : Requirement} {command : MutationCommand} {m : Mutation}

private theorem flushed_status {target} (hc : CanTransition loaded.status target) (hs : stored.status = loaded.status) :
    flushed loaded.status target stored.status = target ∧ CanTransition stored.status target := by
  have hne : target ≠ loaded.status := fun heq => not_canTransition_self _ (heq ▸ hc)
  exact ⟨flushed_of_ne hne _, hs ▸ hc⟩

private theorem confirm_respects {confirmedBy : String} (h : confirm loaded confirmedBy = .ok m)
    (hs : stored.status = loaded.status) : m.Respects (.confirm confirmedBy) stored := by
  obtain ⟨_, hto, h⟩ := bind_eq_ok.1 h
  obtain ⟨hc, -⟩ := transitionTo_eq_ok hto
  obtain rfl := pure_eq_ok.1 h
  obtain ⟨hn, hc⟩ := flushed_status hc hs
  refine ⟨.inr ?_, fun _ => ⟨⟨confirmedBy, rfl⟩, rfl, rfl⟩⟩
  change CanTransition stored.status (flushed loaded.status .confirmed stored.status)
  rwa [hn]

private theorem reject_respects {reason rejectedBy : String} (h : reject loaded reason rejectedBy = .ok m)
    (hs : stored.status = loaded.status) : m.Respects (.reject reason rejectedBy) stored := by
  obtain ⟨_, hto, h⟩ := bind_eq_ok.1 h
  obtain ⟨hcn, -⟩ := transitionTo_eq_ok hto
  obtain rfl := pure_eq_ok.1 h
  obtain ⟨hn, hcn⟩ := flushed_status hcn hs
  constructor
  · right
    change CanTransition stored.status (flushed loaded.status .rejected stored.status)
    rwa [hn]
  · intro hc
    change flushed loaded.status .rejected stored.status = .confirmed at hc
    rw [hn] at hc
    cases hc

private theorem updateRequirement_respects {changes : RequirementChanges} (h : updateRequirement loaded changes = .ok m)
    (hs : stored.status = loaded.status) : m.Respects (.update changes) stored := by
  obtain ⟨status, hc, h⟩ := bind_eq_ok.1 h
  obtain rfl := pure_eq_ok.1 h
  have hw : status.getD (flushed loaded.status loaded.status stored.status) = .changed ∧
      (stored.status = .changed ∨ CanTransition stored.status .changed) := by
    rw [flushed_self]
    unfold changedStatus at hc
    split at hc
    · rename_i heq
      cases hc
      have hst : stored.status = .changed := hs.trans heq
      exact ⟨hst, .inl hst⟩
    · obtain ⟨_, hto, hsm⟩ := bind_eq_ok.1 hc
      obtain ⟨hca, rfl⟩ := transitionTo_eq_ok hto
      obtain rfl := pure_eq_ok.1 hsm
      exact ⟨rfl, .inr (hs ▸ hca)⟩
  obtain ⟨hn, hf⟩ := hw
  constructor
  · change status.getD (flushed loaded.status loaded.status stored.status) = stored.status ∨
      CanTransition stored.status (status.getD (flushed loaded.status loaded.status stored.status))
    rw [hn]
    exact hf.imp Eq.symm id
  · intro hcn
    change status.getD (flushed loaded.status loaded.status stored.status) = .confirmed at hcn
    rw [hn] at hcn
    cases hcn

theorem mutation_eq_ok (h : command.mutation loaded = .ok (some m)) :
    match command with
    | .confirm confirmedBy => confirm loaded confirmedBy = .ok m
    | .reject reason rejectedBy => reject loaded reason rejectedBy = .ok m
    | .update changes => updateRequirement loaded changes = .ok m := by
  cases command with
  | confirm =>
    obtain ⟨m', hm, hs⟩ := bind_eq_ok.1 h
    exact some.inj (pure_eq_ok.1 hs) ▸ hm
  | reject =>
    obtain ⟨m', hm, hs⟩ := bind_eq_ok.1 h
    exact some.inj (pure_eq_ok.1 hs) ▸ hm
  | update =>
    simp only [MutationCommand.mutation] at h
    split at h
    · cases h
    · obtain ⟨m', hm, hs⟩ := bind_eq_ok.1 h
      exact some.inj (pure_eq_ok.1 hs) ▸ hm

/-- A mutation on an unchanged status respects the lifecycle. -/
theorem mutation_respects (h : command.mutation loaded = .ok (some m)) (hs : stored.status = loaded.status) :
    m.Respects command stored := by
  have hm := mutation_eq_ok h
  cases command with
  | confirm => exact confirm_respects hm hs
  | reject => exact reject_respects hm hs
  | update => exact updateRequirement_respects hm hs

end

end WisdoverseCell.RequirementManager
