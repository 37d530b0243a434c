import WisdoverseCell.ControlPlane.OutcomeStore

/-!
# Status updates of work items

A status update is refused while an execution lease holds the work item, follows the lifecycle table, and may
complete the item only when an accepted artifact of its latest run is linked to it.
-/

namespace WisdoverseCell.ControlPlane

open List

variable {companyId resource : String} {db : Db} {rt : Runtime}

def workResource (workItemId : String) : String := "work:" ++ workItemId

def agentResource (agentId : String) : String := "agent:" ++ agentId

theorem workResource_inj {a b} : workResource a = workResource b ↔ a = b := String.append_right_inj _

theorem workResource_ne_agentResource (a b) : workResource a ≠ agentResource b := by
  intro h
  have := congrArg String.toList h
  simp [workResource, agentResource] at this

def Db.activeLease (db : Db) (companyId resource : String) : Option ExecutionLease :=
  db.leases.rows.find? (fun l => l.companyId = companyId ∧ l.resourceId = resource ∧ l.state.active)

theorem Db.activeLease_eq_none : db.activeLease companyId resource = none ↔
      ∀ l ∈ db.leases, l.companyId = companyId → l.resourceId = resource → l.state.active = false := by
  unfold Db.activeLease
  rw [find?_eq_none]
  simp only [decide_eq_true_eq, not_and, Bool.not_eq_true]
  exact Iff.rfl

theorem Db.mem_of_activeLease {l} (h : db.activeLease companyId resource = some l) :
    l ∈ db.leases ∧ l.companyId = companyId ∧ l.resourceId = resource ∧ l.state.active = true := by
  unfold Db.activeLease at h
  have hp := find?_some h
  rw [decide_eq_true_eq] at hp
  exact ⟨mem_of_find?_eq_some h, hp⟩

/-! ### Status updates -/

def WorkItem.withStatus (w : WorkItem) (status : WorkItemStatus) (ownerAgentId ownerUserId : Option String)
    (now : Time) : WorkItem :=
  { w with
    status := status
    ownerAgentId := ownerAgentId <|> w.ownerAgentId
    ownerUserId := ownerUserId <|> w.ownerUserId
    updatedAt := now }

theorem WorkItem.withStatus_workItemId (w : WorkItem) (status : WorkItemStatus) (ownerAgentId ownerUserId now) :
    (w.withStatus status ownerAgentId ownerUserId now).workItemId = w.workItemId := rfl

def requireAcceptedFor (rt : Runtime) (db : Db) (work : WorkItem) (status : WorkItemStatus) : Except Failure Unit :=
  if status = .completed then requireAccepted rt db work else .ok ()

private theorem requireAcceptedFor_eq_ok {work status x} :
    requireAcceptedFor rt db work status = .ok x ↔ (status = .completed → requireAccepted rt db work = .ok ()) := by
  unfold requireAcceptedFor
  split <;> simp [*]

def updateWorkItemStatus (rt : Runtime) (now : Time) (db : Db) (workItemId : String) (status : WorkItemStatus)
    (ownerAgentId ownerUserId : Option String) : Except Failure (Option Db) :=
  match db.workItems.get workItemId with
  | none => .ok none
  | some w => do
    ensure (db.activeLease w.companyId (workResource workItemId) = none)
      (Failure.denied ⟨"execution_control_or_recovery_required", 409⟩)
    let _ ← w.transitionTo status
    requireAcceptedFor rt db w status
    return some (db.setWorkItem workItemId (fun w => w.withStatus status ownerAgentId ownerUserId now)
      (fun w => w.withStatus_workItemId status ownerAgentId ownerUserId now))

structure StatusUpdate where
  companyId : String
  workItemId : String
  status : WorkItemStatus
  ownerAgentId : Option String
  ownerUserId : Option String
  actorId : String

def updateWorkItemStatusWithAudit (rt : Runtime) (now : Time) (db : Db) (u : StatusUpdate) : Except Failure Db := do
  let w ← require (db.workItems.get u.workItemId) (Failure.workItemNotFound u.workItemId)
  ensure (w.companyId = u.companyId) (Failure.workItemNotFound u.workItemId)
  let _ ← w.transitionTo u.status
  let updated ← updateWorkItemStatus rt now db u.workItemId u.status u.ownerAgentId u.ownerUserId
  let db' ← require updated (Failure.workItemNotFound u.workItemId)
  return db'.appendAudit ⟨u.companyId, "work_item.updated", "work_item", u.workItemId, "user", u.actorId, none,
    some u.workItemId⟩

/-- What a status update has checked, and what it writes. -/
theorem updateWorkItemStatusWithAudit_eq_ok {now db' u} : updateWorkItemStatusWithAudit rt now db u = .ok db' ↔
    ∃ w, db.workItems.get u.workItemId = some w ∧ w.companyId = u.companyId ∧ w.mayBecome u.status = true ∧
      db.activeLease u.companyId (workResource u.workItemId) = none ∧
      (u.status = .completed → requireAccepted rt db w = .ok ()) ∧
      db' = (db.setWorkItem u.workItemId (fun w => w.withStatus u.status u.ownerAgentId u.ownerUserId now)
        (fun w => w.withStatus_workItemId u.status u.ownerAgentId u.ownerUserId now)).appendAudit
          ⟨u.companyId, "work_item.updated", "work_item", u.workItemId, "user", u.actorId, none,
            some u.workItemId⟩ := by
  unfold updateWorkItemStatusWithAudit
  simp only [eq_ok, WorkItem.transitionTo_eq_ok]
  constructor
  · rintro ⟨w, hw, -, hc, s, ⟨-, hm⟩, updated, hup, db₁, hs, rfl⟩
    unfold updateWorkItemStatus at hup
    simp only [hw, eq_ok, requireAcceptedFor_eq_ok, hc] at hup
    obtain ⟨-, ha, -, -, -, hac, rfl⟩ := hup
    cases hs
    exact ⟨w, hw, hc, hm, ha, hac, rfl⟩
  · rintro ⟨w, hw, hc, hm, ha, hac, rfl⟩
    refine ⟨w, hw, (), hc, u.status, ⟨rfl, hm⟩, _, ?_, _, rfl, rfl⟩
    unfold updateWorkItemStatus
    simp only [hw, eq_ok, requireAcceptedFor_eq_ok, hc, WorkItem.transitionTo_eq_ok]
    exact ⟨(), ha, u.status, ⟨rfl, hm⟩, (), hac, trivial⟩

end WisdoverseCell.ControlPlane
