import WisdoverseCell.ControlPlane.Refinement

/-!
# What a step commits to work items, runs, acceptances and approvals

The journal of `Ledger` follows leases, reservations and budgets.  Work items with their acceptances and approvals are
followed here: every step is a granted claim, a status update that was asked for, or a sequence of commits
(`step_commits`).
-/

namespace WisdoverseCell.ControlPlane

open Option Table
open Relation (ReflTransGen)

variable {rt : Runtime} {f : ExecutionLease → ExecutionLease} {p : ExecutionLease → Bool} {ticket : ExecutionTicket}
  {runId companyId actorId : String} {ctx : WakeupContext} {inputEvent : JsonObj}
  {answer : Except AgentWakeupError AgentWakeupResult} {ids : EvidenceIds}

def SameExecutions (leases leases' : Table ExecutionLease.executionId) : Prop :=
  ∀ id, (∃ l ∈ leases, l.executionId = id) ↔ ∃ l ∈ leases', l.executionId = id

inductive Commit (rt : Runtime) (clock : Time) (db : Db) : Db → Prop
  /-- The ledger's own tables and the registry; no execution is added. -/
  | ledger (companies : Table (id : String → String)) (roles : Table (fun r : AgentRole => (r.companyId, r.agentId)))
      (leases : Table ExecutionLease.executionId)
      (reservations : Table (fun r : ExecutionReservation => (r.executionId, r.budgetId)))
      (policies : Table BudgetPolicy.budgetId) (usage : List BudgetUsage) (audits : List AuditEvent)
      (hleases : SameExecutions db.leases leases) :
      Commit rt clock db { db with
        companies := companies
        agentRoles := roles
        leases := leases
        reservations := reservations
        budgetPolicies := policies
        budgetUsage := usage
        auditEvents := audits }
  | cost (runId : String) (cost : ℚ≥0) (estimated : Bool) : Commit rt clock db { db with
        agentRuns := db.agentRuns.update (fun r => r.runId = runId)
          (fun r => { r with
            costUsd := cost
            metadata := JsonObj.set r.metadata "cost_is_estimate" (.bool estimated) }) (fun _ => rfl) }
  | close {ctx inputEvent c ids db'}
      (h : closeAgentWakeupRun rt clock db ctx inputEvent c ids = .ok db') : Commit rt clock db db'
  | move (work : Option WorkItem) {state : _} (hstate : state ≠ .completed) (audits : List AuditEvent) :
      Commit rt clock db { db with
        workItems := movedWorkItems clock db.workItems work state
        auditEvents := audits }
  /-- A status update that does not complete its item. -/
  | update {u db'} (hstatus : u.status ≠ .completed)
      (h : updateWorkItemStatusWithAudit rt clock db u = .ok db') : Commit rt clock db db'
  | review {r db'} (h : review rt clock db r = .ok db') : Commit rt clock db db'
  | ask {approvals : _} (h : AsksApproval db.approvals approvals) :
      Commit rt clock db { db with approvals := approvals }
  | resolve {approvalId status resolvedBy db'}
      (h : resolveApproval clock db approvalId status resolvedBy = some db') : Commit rt clock db db'
  | createWorkItem {work db'} (h : createWorkItem db work = some db') : Commit rt clock db db'
  | createArtifact {artifact artifacts}
      (h : db.artifacts.insert artifact = some artifacts) : Commit rt clock db { db with artifacts := artifacts }

abbrev Commits (rt : Runtime) (clock : Time) : Db → Db → Prop := ReflTransGen (Commit rt clock)

/-- A relation that every commit establishes holds across a sequence of commits. -/
theorem Commits.relates {clock : Time} {Q : Db → Db → Prop} {db db'} (h : Commits rt clock db db')
    (hr : ∀ db, Q db db) (ht : ∀ db db' db'', Q db db' → Q db' db'' → Q db db'')
    (hcm : ∀ db db', Commit rt clock db db' → Q db db') : Q db db' := by
  induction h with
  | refl => exact hr _
  | tail _ hc ih => exact ht _ _ _ ih (hcm _ _ hc)

section

variable {rt : Runtime} {now clock : Time} {db db' : Db}

private theorem sameExecutions_update {leases} (hf : ∀ l, (f l).executionId = l.executionId) :
    SameExecutions leases (leases.update p f hf) := by
  have hid (l : ExecutionLease) : (if p l then f l else l).executionId = l.executionId := by
    split
    · exact hf l
    · rfl
  intro id
  constructor
  · rintro ⟨l, hl, rfl⟩
    exact ⟨_, update_mem hf hl, hid l⟩
  · rintro ⟨l', hl', rfl⟩
    obtain ⟨l, hl, rfl⟩ := of_mem_update hf hl'
    exact ⟨l, hl, (hid l).symm⟩

private theorem commit_audits (audits) : Commit rt clock db { db with auditEvents := audits } :=
  .ledger db.companies db.agentRoles db.leases db.reservations db.budgetPolicies db.budgetUsage audits
    (fun _ => Iff.rfl)

private theorem commit_leases (hf : ∀ l, (f l).executionId = l.executionId) (audits) :
    Commit rt clock db { db with leases := db.leases.update p f hf, auditEvents := audits } :=
  .ledger db.companies db.agentRoles _ db.reservations db.budgetPolicies db.budgetUsage audits
    (sameExecutions_update hf)

private theorem commits_registry (companies)
    (roles : Table (fun r : AgentRole => (r.companyId, r.agentId))) (policies usage) : Commits rt clock db { db with
      companies := companies, agentRoles := roles, budgetPolicies := policies, budgetUsage := usage } :=
  .single (.ledger companies roles db.leases db.reservations policies usage db.auditEvents (fun _ => Iff.rfl))

private theorem denial_commits (h : DenialWrites now clock db companyId db') : Commits rt clock db db' := by
  cases h with
  | nothing audits => exact .single (commit_audits audits)
  | abandoned lease _ _ _ audits => exact .single (commit_leases (by intro; rfl) audits)
  | awaiting approvals work audits ha =>
    exact .tail (.single (.ask ha)) (.move work (by decide) audits)

private theorem settle_commits {cost failed estimated}
    (h : settle clock db ticket cost failed estimated = .ok db') : Commits rt clock db db' := by
  obtain ⟨lease, run, -, -, -, -, -, -, rfl⟩ := settle_eq_ok.1 h
  exact .tail (.single (.cost ticket.runId cost estimated)) (.ledger db.companies db.agentRoles _ _ db.budgetPolicies _
    db.auditEvents (sameExecutions_update (by intro; rfl)))

private theorem markUncertain_commit (h : markUncertain clock db ticket = .ok db') : Commit rt clock db db' := by
  obtain ⟨lease, audits, -, -, rfl⟩ := markUncertain_eq_ok h
  exact commit_leases (by intro; rfl) audits

private theorem failAbandonedRun_commits (h : failAbandonedRun rt clock db companyId runId actorId ids = .ok db') :
    Commits rt clock db db' := by
  unfold failAbandonedRun at h
  split at h
  · cases h
    exact .refl
  · split at h
    · obtain ⟨agent, -, h⟩ := bind_eq_ok.1 h
      exact .single (.close h)
    · cases h
      exact .refl

private theorem recover_commits (h : recover rt clock db companyId runId actorId ids = .ok db') :
    Commits rt clock db db' := by
  simp only [recover, eq_ok] at h
  obtain ⟨lease, -, -, -, db₁, hs, db₂, hrn, db₃, hw, rfl⟩ := h
  obtain ⟨-, audits, rfl⟩ := failHeldWork_eq_ok hw
  have hr : Commit rt clock db (resumedDb db lease) := commit_leases ExecutionLease.resumed_executionId _
  exact ((ReflTransGen.single hr).trans ((settle_commits hs).trans (failAbandonedRun_commits hrn))).tail
    (.move (heldWork db₂ lease) (by decide) _)

private theorem failAttempt_commits {category message}
    (h : failAttempt rt clock db ticket ctx inputEvent category message ids = .ok db') : Commits rt clock db db' := by
  simp only [failAttempt, eq_ok] at h
  obtain ⟨db₁, hs, hc⟩ := h
  exact (settle_commits hs).tail (.close hc)

private theorem finishWakeup_commits {outcome}
    (h : finishWakeup rt clock db ticket ctx inputEvent outcome ids = .ok (answer, db')) : Commits rt clock db db' := by
  cases finished h with
  | failed hf => exact failAttempt_commits hf
  | uncertain _ hm => exact .single (markUncertain_commit hm)
  | closed _ hs hc => exact (settle_commits hs).tail (.close hc)

private theorem attemptStatus_ne_completed {status} (h : attemptStatus db answer = some status) :
    status ≠ .completed := by
  unfold attemptStatus at h
  split at h
  · cases h
    unfold workItemStatusFromRun
    split
    · decide
    · split <;> decide
  · split at h
    · cases h
    · cases h
      split <;> decide

private theorem recordFor_commits {attempt} (h : recordFor rt clock db attempt actorId answer = .ok db') :
    Commits rt clock db db' := by
  cases attempt with
  | none =>
    cases h
    exact .refl
  | some =>
    simp only [recordFor, recordAttempt] at h
    split at h
    · cases h
      exact .refl
    · rename_i status hs
      exact .single (.update (attemptStatus_ne_completed hs) h)

private theorem startWakeup_refused_commits {agent call e}
    (h : startWakeup rt now clock db agent call = .refused e db') : Commits rt clock db db' := by
  rcases startWakeup_eq_refused h with rfl | ⟨d, hc⟩
  · exact .refl
  · exact denial_commits (claim_denied_writes hc)

end

def Claims (rt : Runtime) (s t : Sys) (a : Act) : Prop :=
  ∃ sampled agent call attempt ticket, a = .wake sampled agent call attempt ∧
    startWakeup rt sampled s.clock s.db agent call = .running ticket t.db

/-- Every step is a claim, an audited status update or a sequence of other commits. -/
theorem step_commits {s t a} (h : step rt s a = some t) :
    Claims rt s t a ∨ (∃ u, a = .updateStatus u ∧ updateWorkItemStatusWithAudit rt s.clock s.db u = .ok t.db) ∨
      Commits rt s.clock s.db t.db := by
  -- an action that commits a database and does nothing else
  have hc {ε : Type} {result : Except ε Db} (hst : s.commit result = some t)
      (hdb : ∀ db, result = .ok db → Commits rt s.clock s.db db) : Commits rt s.clock s.db t.db := by
    obtain ⟨db, hok, rfl⟩ := commit_eq_some.1 hst
    exact hdb db hok
  cases a with
  | updateStatus u =>
    obtain ⟨db, hok, rfl⟩ := commit_eq_some.1 h
    exact .inr (.inl ⟨u, rfl, hok⟩)
  | wake sampled agent call attempt =>
    obtain ⟨-, h⟩ := ite_none_right_eq_some.1 h
    unfold stepWake at h
    split at h
    · cases h
    · rename_i ticket db hs
      cases h
      exact .inl ⟨sampled, agent, call, attempt, ticket, rfl, hs⟩
    · split at h
      · cases h
      · rename_i db hr
        cases h
        exact .inr (.inr (recordFor_commits hr))
    · rename_i e db hs
      split at h
      · cases h
        exact .inr (.inr (startWakeup_refused_commits hs))
      · rename_i db' hr
        cases h
        exact .inr (.inr ((startWakeup_refused_commits hs).trans (recordFor_commits hr)))
  | finish =>
    obtain ⟨held, -, h⟩ := bind_eq_some_iff.1 h
    unfold stepFinish at h
    split at h
    · cases h
    · rename_i answer db hf
      split at h
      · cases h
      · rename_i db' hr
        cases h
        exact .inr (.inr ((finishWakeup_commits hf).trans (recordFor_commits hr)))
  | settle =>
    obtain ⟨held, -, h⟩ := bind_eq_some_iff.1 h
    exact .inr (.inr (hc h (fun _ => settle_commits)))
  | markUncertain =>
    obtain ⟨held, -, h⟩ := bind_eq_some_iff.1 h
    exact .inr (.inr (hc h (fun _ hok => .single (markUncertain_commit hok))))
  | recover => exact .inr (.inr (hc h (fun _ => recover_commits)))
  | requestControl =>
    refine .inr (.inr (hc h (fun db hok => ?_)))
    obtain ⟨lease, audits, -, -, rfl⟩ := requestControl_eq_ok hok
    exact .single (commit_leases (by intro; rfl) audits)
  | review => exact .inr (.inr (hc h (fun _ hok => .single (.review hok))))
  | requestApproval a =>
    obtain ⟨db, hdb, rfl⟩ := map_eq_some_iff.1 h
    obtain ⟨ha, hdb⟩ := ite_none_right_eq_some.1 hdb
    obtain ⟨approvals, hi, rfl⟩ := map_eq_some_iff.1 hdb
    exact .inr (.inr (.single (.ask (.inr ⟨a, ha.1, ha.2, hi⟩))))
  | resolveApproval =>
    obtain ⟨db, hdb, rfl⟩ := map_eq_some_iff.1 h
    exact .inr (.inr (.single (.resolve hdb)))
  | createWorkItem =>
    obtain ⟨db, hdb, rfl⟩ := map_eq_some_iff.1 h
    exact .inr (.inr (.single (.createWorkItem hdb)))
  | createArtifact =>
    obtain ⟨artifacts, hi, rfl⟩ := map_eq_some_iff.1 h
    exact .inr (.inr (.single (.createArtifact hi)))
  | putAgentRole =>
    obtain ⟨db, hdb, rfl⟩ := map_eq_some_iff.1 h
    obtain ⟨roles, rfl, -⟩ := putAgentRole_eq_some hdb
    exact .inr (.inr (commits_registry s.db.companies roles s.db.budgetPolicies s.db.budgetUsage))
  | createCompany =>
    obtain ⟨companies, -, rfl⟩ := map_eq_some_iff.1 h
    exact .inr (.inr (commits_registry companies s.db.agentRoles s.db.budgetPolicies s.db.budgetUsage))
  | createBudgetPolicy =>
    obtain ⟨policies, -, rfl⟩ := map_eq_some_iff.1 h
    exact .inr (.inr (commits_registry s.db.companies s.db.agentRoles policies s.db.budgetUsage))
  | updateBudgetPolicy =>
    cases h
    exact .inr (.inr (commits_registry s.db.companies s.db.agentRoles _ s.db.budgetUsage))
  | recordUsage =>
    obtain ⟨-, h⟩ := ite_none_right_eq_some.1 h
    cases h
    exact .inr (.inr (commits_registry s.db.companies s.db.agentRoles s.db.budgetPolicies _))
  | tick =>
    cases h
    exact .inr (.inr .refl)

end WisdoverseCell.ControlPlane
