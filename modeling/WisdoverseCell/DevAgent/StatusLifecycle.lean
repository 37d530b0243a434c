import WisdoverseCell.DevAgent.RowMonitor

/-!
# Status changes under concurrency

`Advances` is one edge of the lifecycle, where a failed task moves on only with a retry.  All interleavings in which a
transaction writes only tasks that nobody else has changed since it began compose such edges.  The agent does not ensure
this: the expiry overwrites a task that was cancelled after the query.
-/

namespace WisdoverseCell.DevAgent.Transactions

open Table
open Relation (ReflTransGen)

abbrev Attempt := TaskStatus × Nat

def TaskRow.attempt (row : TaskRow) : Attempt := (row.status, row.retryCount)

def Advances (a b : Attempt) : Prop :=
  canTransition a.1 b.1 = true ∧ b.2 = if a.1 = .failed then a.2 + 1 else a.2

def FollowsLifecycle (before after : Option TaskRow) : Prop :=
  ∀ row ∈ before, ∃ row' ∈ after, ReflTransGen Advances row.attempt row'.attempt

private theorem FollowsLifecycle.refl (row) : FollowsLifecycle row row := fun row hr => ⟨row, hr, .refl⟩

private theorem FollowsLifecycle.trans {a b c} (h : FollowsLifecycle a b) (h' : FollowsLifecycle b c) :
    FollowsLifecycle a c := by
  intro row hr
  obtain ⟨row', hr', hp⟩ := h row hr
  obtain ⟨row'', hr'', hp'⟩ := h' row' hr'
  exact ⟨row'', hr'', hp.trans hp'⟩

private theorem mayChange_advances {running row change} (h : MayChange running row change) :
    ReflTransGen Advances row.attempt (change.write row).attempt := by
  unfold MayChange at h
  split at h
  · rename_i hs
    have hsm : (change.write row).attempt = row.attempt := by
      simp [TaskRow.attempt, TaskChange.write, hs, h.1]
    rw [hsm]
  · rename_i status hs
    obtain ⟨hc, hr, -⟩ := h
    refine .single ⟨?_, ?_⟩
    · simpa [TaskRow.attempt, TaskChange.write, hs] using hc
    · by_cases hf : row.status = .failed <;> simp [TaskRow.attempt, TaskChange.write, hr, hf]

private theorem follows_write {id : String} {m : RowState} {w} (h : m.MayWrite id w) :
    FollowsLifecycle m.row (m.write id w).row := by
  cases w with
  | insertTask =>
    dsimp only [RowState.write]
    split
    · rename_i hid
      intro row' hr'
      rw [(h hid).1] at hr'
      cases hr'
    · exact .refl _
  | setTask taskId change =>
    dsimp only [RowState.write]
    split
    · rename_i hid
      obtain ⟨row, hr, hm⟩ := h hid
      intro row' hr'
      rw [hr] at hr' ⊢
      cases hr'
      exact ⟨change.write row, rfl, mayChange_advances hm⟩
    · exact .refl _
  | addLog => exact .refl _
  | addEvent => exact .refl _

private theorem follows_of_reach {id : String} {counted : Bool} {row : Option TaskRow} {m cs}
    (h : (rowMonitor id counted).Reach row m cs) : FollowsLifecycle row m.row := by
  induction h with
  | begin => exact .refl _
  | write _ hm ih => exact ih.trans (follows_write hm)
  | call _ _ _ ih => exact ih

private theorem eq_of_path_final {a b} (h : ReflTransGen Advances a b) (hf : a.1 = .completed ∨ a.1 = .expired) :
    b = a := by
  induction h with
  | refl => rfl
  | tail _ he ih =>
    subst ih
    obtain ⟨hc, -⟩ := he
    rcases hf with heq | heq <;> simp [canTransition, TaskStatus.validTransitions, heq] at hc

private theorem retried_of_path_failed {a b} (h : ReflTransGen Advances a b) (hf : a.1 = .failed) :
    b = a ∨ a.2 < b.2 := by
  induction h with
  | refl => exact .inl rfl
  | @tail b c _ he ih =>
    obtain ⟨-, hr⟩ := he
    right
    rcases ih with rfl | hlt
    · rw [hr, if_pos hf]
      exact Nat.lt_succ_self _
    · rw [hr]
      split <;> omega

section

variable {cfg : Settings} {s t : DevSessions}

private theorem follows_run {s₀} (hst : s₀.sessions = [])
    (hs : Run (Steps (devAgent cfg).step) (devAgent cfg).Fresh s₀ s)
    (ht : Run (Steps (devAgent cfg).step) (devAgent cfg).Fresh s t) (id) :
    FollowsLifecycle (s.db.tasks.get id) (t.db.tasks.get id) := by
  have hun {Q : Prop} (hc : false = true) : Q := Bool.noConfusion hc
  have htr := hs.invariant (tracked_of_no_sessions (devAgent cfg) (rowMonitor id false) (relevant id) hst)
    (fun _ _ _ h hfresh hsp => tracked_step h hfresh hsp hun)
  have hrn := ht.invariant (I := fun u => Tracked (devAgent cfg) (rowMonitor id false) (relevant id) u ∧
    FollowsLifecycle (s.db.tasks.get id) (u.db.tasks.get id)) ⟨htr, .refl _⟩ ?_
  · exact hrn.2
  · rintro u a v ⟨hu, hf⟩ hfresh hsp
    refine ⟨tracked_step hu hfresh hsp hun, hf.trans ?_⟩
    rcases hu.view_step (follows_rowMonitor cfg id false) hsp with hsm | ⟨m, cs, hr, -, hv⟩
    · replace hsm : v.db.tasks.get id = u.db.tasks.get id := hsm
      rw [hsm]
      exact .refl _
    · replace hv : v.db.tasks.get id = m.row := hv
      rw [hv]
      exact follows_of_reach hr

/-- If transactions write only what nobody else has changed since they began, the changes of a task's status compose
edges of the lifecycle: completed and expired tasks stay as they are, and a failed one moves on only with a retry. -/
theorem status_follows_lifecycle (cfg : Settings) (s₀ s t : DevSessions)
    (hstart : s₀.sessions = []) (hs : Run (Steps (devAgent cfg).step) (devAgent cfg).Fresh s₀ s)
    (ht : Run (Steps (devAgent cfg).step) (devAgent cfg).Fresh s t) (row : TaskRow) (hrow : row ∈ s.db.tasks) :
    ∃ row' ∈ t.db.tasks, row'.id = row.id ∧ ReflTransGen Advances row.attempt row'.attempt ∧
      (row.status = .completed ∨ row.status = .expired → row'.status = row.status) ∧
      (row.status = .failed → row'.status = row.status ∨ row.retryCount < row'.retryCount) := by
  obtain ⟨row', hr', hp⟩ := follows_run hstart hs ht row.id row (get_of_mem hrow)
  obtain ⟨hm, hid⟩ := get_eq_some.1 hr'
  refine ⟨row', hm, hid, hp, fun hf => ?_, fun hfl => ?_⟩
  · exact congrArg Prod.fst (eq_of_path_final hp hf)
  · exact (retried_of_path_failed hp hfl).imp (congrArg Prod.fst) (fun hlt => hlt)

end

/-! ### Two tasks -/

def cancelsStale : List (SessionAct Call Call.Reply Request) :=
  [.start (.expireStale (ControlPlane.seconds 90000)), .next 0 succeeds, .start (.cancelWorkflow "dev_2")] ++
    goesOn 1 3 succeeds

def hasAttempt (id : String) (attempt : Attempt) (s : DevSessions) : Bool :=
  (s.db.tasks.get id).any (fun row => row.attempt = attempt)

private theorem of_hasAttempt {id attempt s}
    (h : hasAttempt id attempt s = true) : ∃ row ∈ s.db.tasks, row.id = id ∧ row.attempt = attempt := by
  obtain ⟨row, hr, ha⟩ := (Option.any_eq_true _ _).1 h
  obtain ⟨hm, hid⟩ := get_eq_some.1 hr
  exact ⟨row, hm, hid, of_decide_eq_true ha⟩

/-- A queued task is cancelled. -/
theorem status_follows_lifecycle_cancelled :
    ∃ s t, Run (Steps (devAgent (smallAgent 1)).step) (devAgent (smallAgent 1)).Fresh (noSessions .empty) s ∧
      Run (Steps (devAgent (smallAgent 1)).step) (devAgent (smallAgent 1)).Fresh s t ∧
      ∃ row ∈ s.db.tasks, row.attempt = (.pending, 0) ∧
        ∃ row' ∈ t.db.tasks, row'.attempt = (.failed, 0) ∧ ReflTransGen Advances row.attempt row'.attempt := by
  refine exists_run_run twoTasks cancelsStale (fun s t => hasAttempt "dev_2" (.pending, 0) s ∧
    hasAttempt "dev_2" (.failed, 0) t) (by decide +kernel) (fun s t hs ht h => ?_)
  obtain ⟨row, hr, hid, ha⟩ := of_hasAttempt h.1
  obtain ⟨row', hr', hid', ha'⟩ := of_hasAttempt h.2
  obtain ⟨row'', hr'', hsm, hpt, -⟩ := status_follows_lifecycle _ _ s t rfl hs ht row hr
  obtain rfl := eq_of_key_eq hr'' hr' (hsm.trans (hid.trans hid'.symm))
  exact ⟨row, hr, ha, row'', hr', ha', hpt⟩

/-- The expiry overwrites the status of the task that was cancelled meanwhile. -/
theorem cancelled_task_expires :
    ∃ s t row row', Run (Steps (devAgent (smallAgent 1)).step) Always (noSessions .empty) s ∧
      Run (Steps (devAgent (smallAgent 1)).step) Always s t ∧ row ∈ s.db.tasks ∧ row' ∈ t.db.tasks ∧ row'.id = row.id ∧
      row.attempt = (.failed, 0) ∧ row'.attempt = (.expired, 0) ∧ ¬ ReflTransGen Advances row.attempt row'.attempt := by
  obtain ⟨s, t, hs, ht, hf, hex⟩ : ∃ s t, Run (Steps (devAgent (smallAgent 1)).step) Always (noSessions .empty) s ∧
      Run (Steps (devAgent (smallAgent 1)).step) Always s t ∧ hasAttempt "dev_2" (.failed, 0) s ∧
        hasAttempt "dev_2" (.expired, 0) t :=
    exists_run_run (twoTasks ++ cancelsStale) (goesOn 0 2 succeeds) _ (by decide +kernel) (fun _ _ _ _ h => h)
  obtain ⟨row, hr, hid, ha⟩ := of_hasAttempt hf
  obtain ⟨row', hr', hid', ha'⟩ := of_hasAttempt hex
  refine ⟨s, t, row, row', hs, ht, hr, hr', hid'.trans hid.symm, ha, ha', fun hp => ?_⟩
  rw [ha, ha'] at hp
  rcases retried_of_path_failed hp rfl with hsm | hlt
  · cases hsm
  · exact absurd hlt (by decide)

end WisdoverseCell.DevAgent.Transactions
