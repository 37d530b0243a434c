import WisdoverseCell.ControlPlane.Refinement
import WisdoverseCell.Library.Exclusive

/-!
# At most one lease holds a resource

A claim looks for a lease that is running or waits for recovery before it adds one, and a settlement ends a lease for
good.  Both survive every interleaving as long as `mark_uncertain` only meets leases that still hold their resource,
which the store does not check.
-/

namespace WisdoverseCell.ControlPlane

open List Table

/-! ### Writes -/

/-- At most one lease per company and resource is running or waits for recovery. -/
def Db.LeasesExclusive (db : Db) : Prop :=
  Exclusive db.leases (fun l => l.state.active) (fun l => (l.companyId, l.resourceId))

/-- A write that marks held leases only keeps the leases exclusive. -/
theorem Effect.leasesExclusive {s t w} (h : Effect s w t) (hok : w.MarksHeld)
    (hs : s.db.LeasesExclusive) : t.db.LeasesExclusive := by
  unfold Db.LeasesExclusive
  cases h.leaseChange with
  | same heq => exact heq ▸ hs
  | added lease amount _ hu _ hi =>
    refine Exclusive.insert hs hi (fun _ l hl hsl => ?_)
    obtain ⟨hc, hr⟩ := Prod.mk.inj hsl
    exact hu l hl hc hr
  | edited executionId f hf hsm hst heq =>
    rw [heq]
    refine Exclusive.update hs hf (fun l => Prod.ext (hsm l).companyId (hsm l).resourceId) (fun l hl hid ha => ?_)
    rcases hst hok l hl (of_decide_eq_true hid) with hk | hh
    · rwa [← hk]
    · exact hh

def Db.EndedKept (db db' : Db) : Prop :=
  ∀ l ∈ db.leases, l.state.terminal = true → ∃ l' ∈ db'.leases, l'.executionId = l.executionId ∧ l'.state = l.state

private theorem Db.EndedKept.refl (db : Db) : db.EndedKept db := fun l hl _ => ⟨l, hl, rfl, rfl⟩

private theorem Db.EndedKept.trans {db db' db'' : Db} (h : db.EndedKept db') (h' : db'.EndedKept db'') :
    db.EndedKept db'' := by
  intro l hl ht
  obtain ⟨l', hl', hid, hs⟩ := h l hl ht
  obtain ⟨l'', hl'', hid', hs'⟩ := h' l' hl' (by rw [hs]; exact ht)
  exact ⟨l'', hl'', hid'.trans hid, hs'.trans hs⟩

private theorem Effect.endedKept {s t w} (h : Effect s w t) (hok : w.MarksHeld) : s.db.EndedKept t.db := by
  intro l hl ht
  cases h.leaseChange with
  | same heq => exact ⟨l, heq ▸ hl, rfl, rfl⟩
  | added lease _ _ _ _ hi => exact ⟨l, (mem_insert hi).2 (.inl hl), rfl, rfl⟩
  | edited executionId f hf hs hst heq =>
    refine ⟨_, heq ▸ update_mem hf hl, ?_⟩
    split
    · rename_i hid
      refine ⟨hf l, ?_⟩
      rcases hst hok l hl (of_decide_eq_true hid) with hk | hh
      · exact hk
      · rw [LeaseState.terminal, hh] at ht
        exact absurd ht (by decide)
    · exact ⟨rfl, rfl⟩

/-! ### Runs -/

def MarksLive (s : Sys) (a : Act) : Prop :=
  ∀ h ∈ a.marks s, ∀ l ∈ s.db.leases.get h.ticket.executionId, l.state.active = true

instance (s : Sys) (a : Act) : Decidable (MarksLive s a) :=
  inferInstanceAs (Decidable (∀ h ∈ a.marks s, ∀ l ∈ s.db.leases.get h.ticket.executionId, l.state.active = true))

theorem marksHeld_of_causes {rt s a w} (hok : MarksLive s a) (h : Causes rt s a w) : w.MarksHeld := by
  cases w with
  | mark lease =>
    obtain ⟨held, hmarks, hl⟩ := h
    exact hok held hmarks lease hl
  | _ => trivial

/-- In a run in which no ended lease is marked uncertain, no two leases hold one resource at any time, and a lease
that has succeeded or failed stays as it is. -/
theorem leases_exclusive_ended_final {rt : Runtime} {s t u : Sys} (hs : s.Initial)
    (ht : Run (Steps (step rt)) MarksLive s t) (hu : Run (Steps (step rt)) MarksLive t u) :
    t.db.LeasesExclusive ∧ t.db.EndedKept u.db := by
  have hc (s : Sys) (a : Act) (w : Write) (_ : s.Ok) (hok : MarksLive s a) (hw : Causes rt s a w) : w.MarksHeld :=
    marksHeld_of_causes hok hw
  obtain ⟨hto, htw⟩ := run_writes ht hs.ok hc
  obtain ⟨-, huw⟩ := run_writes hu hto hc
  constructor
  · have h0 : s.db.LeasesExclusive := by
      unfold Db.LeasesExclusive
      rw [hs.leases]
      exact Exclusive.empty
    exact htw.invariant (I := fun s => s.db.LeasesExclusive) h0 (fun _ _ _ hI hok he => he.leasesExclusive hok hI)
  · exact Run.relates (Q := fun s t => s.db.EndedKept t.db) huw (fun s => .refl s.db) (fun _ _ _ => .trans)
      (fun _ _ _ hok he => he.endedKept hok)

private theorem Effect.usage_grows {s w t} (h : Effect s w t) : s.db.budgetUsage <+: t.db.budgetUsage := by
  cases h with
  | settle | recordUsage => exact prefix_append _ _
  | _ => exact prefix_rfl

/-- In every run, late marks included, leases stay and keep what identifies them, and the usage record only grows. -/
theorem ledger_permanent {rt : Runtime} {s t u : Sys} (hs : s.Initial) (ht : Run (Steps (step rt)) Always s t)
    (hu : Run (Steps (step rt)) Always t u) :
    (∀ l ∈ t.db.leases, ∃ l' ∈ u.db.leases, SameLease l l') ∧ t.db.budgetUsage <+: u.db.budgetUsage := by
  have hc (s : Sys) (a : Act) (w : Write) (_ : s.Ok) (_ : Always s a) (_ : Causes rt s a w) : True := trivial
  obtain ⟨hto, -⟩ := run_writes ht hs.ok hc
  obtain ⟨-, huw⟩ := run_writes hu hto hc
  refine ⟨huw.extends.lease_kept, ?_⟩
  exact Run.relates (Q := fun s t => s.db.budgetUsage <+: t.db.budgetUsage) huw (fun _ => prefix_rfl)
    (fun _ _ _ => .trans) (fun _ _ _ _ he => he.usage_grows)

/-! ### A runner that comes back late -/

def plainRuntime : Runtime where
  sha256 := id
  floatText q := String.ofList (Json.intText q.num ++ '.' :: Nat.toDigits 10 q.den)
  reprText _ := ""
  parseDecimal _ := none
  parseInt _ := none

def httpAgent : AgentRole where
  companyId := "c"
  agentId := "coder"
  adapterType := "http"
  adapterConfig := [("max_cost_usd", .int 2)]
  permissions := ["work.execute", "adapter:http", "tool:wakeup"]
  budgetPolicyId := none
  escalationPolicy := []
  status := "active"

def dailyBudget : BudgetPolicy := ⟨"daily", "c", .company, .daily, 10, none, "active", []⟩

def oneAgentDb : Db :=
  { Db.empty with
    companies := ⟨["c"], nodup_singleton _⟩
    agentRoles := ⟨[httpAgent], nodup_singleton _⟩
    budgetPolicies := ⟨[dailyBudget], nodup_singleton _⟩ }

def oneAgentSys : Sys := ⟨oneAgentDb, 0, []⟩

theorem oneAgentSys_initial : oneAgentSys.Initial := ⟨rfl, rfl, fun _ hu => absurd hu not_mem_nil, rfl⟩

def keyedCall (key : String) : WakeupCall where
  payload := []
  actorId := "operator"
  traceId := none
  goalId := none
  workItemId := none
  trigger := "manual_wakeup"
  idempotencyKey := some key
  runId := "run-" ++ key
  eventId := "event-" ++ key
  ownerId := "owner-" ++ key
  approvalId := "approval-" ++ key

def evidenceIds (name : String) : EvidenceIds := ⟨"event-" ++ name, "artifact-" ++ name, [], [], []⟩

def effectsUncertain : AdapterOutcome := .wakeupError ⟨"executor_effects_uncertain", 409, "uncertain_effects"⟩

def claimedThenRecovered : List Act :=
  [.wake 0 httpAgent (keyedCall "k1") none, .tick (seconds 1000),
    .recover "c" "run-k1" "operator" (evidenceIds "recovery")]

def recoveredThenClaimed : List Act :=
  claimedThenRecovered ++ [.wake (seconds 1000) httpAgent (keyedCall "k2") none]

/-- A lease is recovered and its resource claimed again. -/
theorem leases_exclusive_ended_final_recovered :
    ∃ t u, Run (Steps (step plainRuntime)) MarksLive oneAgentSys t ∧ Run (Steps (step plainRuntime)) MarksLive t u ∧
      t.db.leases.rows.map ExecutionLease.state = [.failed, .running] ∧ t.db.LeasesExclusive ∧
      t.db.EndedKept u.db :=
  exists_run_run recoveredThenClaimed [.finish 1 effectsUncertain (evidenceIds "second")]
    (fun t _ => t.db.leases.rows.map ExecutionLease.state = [.failed, .running]) (by decide +kernel)
    (fun _ _ ht hu hs => ⟨hs, leases_exclusive_ended_final oneAgentSys_initial ht hu⟩)

/-- A recovery appends usage and keeps what was recorded. -/
theorem ledger_permanent_recovered :
    ∃ t u, Run (Steps (step plainRuntime)) Always oneAgentSys t ∧ Run (Steps (step plainRuntime)) Always t u ∧
      t.db.budgetUsage.length < u.db.budgetUsage.length ∧ t.db.budgetUsage <+: u.db.budgetUsage :=
  exists_run_run (claimedThenRecovered.take 2) (claimedThenRecovered.drop 2)
    (fun t u => t.db.budgetUsage.length < u.db.budgetUsage.length) (by decide +kernel)
    (fun _ _ ht hu hl => ⟨hl, (ledger_permanent oneAgentSys_initial ht hu).2⟩)

/-- The first runner reports uncertain effects after its lease was recovered and the agent claimed again: both leases
then wait on one resource. -/
theorem late_mark_shares_resource : oneAgentSys.Initial ∧ ∃ t, Run (Steps (step plainRuntime)) Always oneAgentSys t ∧
      ∃ l ∈ t.db.leases, ∃ l' ∈ t.db.leases, l.state.active = true ∧ l'.state.active = true ∧
        l.companyId = l'.companyId ∧ l.resourceId = l'.resourceId ∧ l ≠ l' :=
  ⟨oneAgentSys_initial, exists_run_exec
    (recoveredThenClaimed ++ [.finish 0 effectsUncertain (evidenceIds "late")]) (by decide +kernel)⟩

end WisdoverseCell.ControlPlane
