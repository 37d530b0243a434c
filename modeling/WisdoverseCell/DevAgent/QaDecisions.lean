import WisdoverseCell.DevAgent.Reviews

/-!
# QA results decide the attempt for which they were produced

A QA result is matched with a task by its merge request and the status of the task only, so the result of an earlier
attempt also fits a later one.  If transactions do not overlap and every result was produced for the latest
`qa.run-requested` event, a task in review is decided by its current attempt.
-/

namespace WisdoverseCell.DevAgent.Transactions

open Prog List Option Table
open ControlPlane (seconds)

variable {decided : Set String} {request : Request} {status : TaskStatus} {db : DevDb}

/-! ### Programs -/

def Decides (row : TaskRow) (request : Request) : Prop :=
  request = .cancelWorkflow row.id ∨
    ∃ result, request = .qaResult result ∧ result.request = some ⟨row.id, row.retryCount, row.mrIid⟩

structure Reviews (owner : Nat → String) (request : Request) (db db' : DevDb) : Prop where
  reviewed : Reviewed owner db'
  decided : ∀ row ∈ db.tasks, row.status = .reviewing → row ∈ db'.tasks ∨ Decides row request

variable {owner : Nat → String} {cfg : Settings} {A : (c : Call) → c.Reply → Prop} {I : DevDb → Prop} {db db' : DevDb}

private theorem reviews_of_calm (hdb : Reviewed owner db)
    (hd : ∀ row ∈ db.tasks, row.status = .reviewing → row.id ∈ decided → Decides row request)
    (h : (calm owner decided).rel db db') : Reviews owner request db db' := by
  refine ⟨h.1 hdb, fun row hr hs => ?_⟩
  by_cases hin : row.id ∈ decided
  · exact .inr (hd row hr hs hin)
  · exact .inl (h.2 row hr hs hin)

private theorem makes_calm_updateStatus {taskId change} (hs : status ≠ .reviewing)
    (hmr : change.mrIid = none) (hd : canTransition .reviewing status = true → taskId ∈ decided) :
    (devAgent cfg).Makes A I (calm owner decided) (updateStatus taskId status change) := by
  refine fun db => whole_updateStatus (fun _ => (calm owner decided).refl db) (fun row hrw hc => ?_)
  exact calm_setTask hrw (fun hr => hd (hr ▸ hc)) hs (TaskChange.owned_of_none hmr row)

private theorem makes_decideTask (owner) (task result) :
    (devAgent cfg).Makes A I (calm owner {task.id}) (decideTask task result) := by
  have hu {status : TaskStatus} {change : TaskChange} (hs : status ≠ .reviewing) (hmr : change.mrIid = none) :
      (devAgent cfg).Makes A I (calm owner {task.id}) (updateStatus task.id status change) :=
    makes_calm_updateStatus hs hmr (fun _ => rfl)
  refine makes_bind (fun db => whole_getByTaskId (fun _ => (calm owner _).refl db)) (fun _ => ?_)
  split
  · exact makes_bind (hu (by decide) rfl) (fun _ => makes_done ())
  · split
    · refine makes_bind (hu (by decide) rfl) (fun _ => ?_)
      exact makes_bind (hu (by decide) rfl) (fun _ => makes_done ())
    · exact makes_bind (hu (by decide) rfl) (fun _ => makes_done ())

private theorem makes_expirePending (owner) {p} (hp : ∀ row, p row = true → row.status = .pending) :
    (forEach expireTask (db.tasks.rows.filter p)).Guarded ((devAgent cfg).whole A I) db
      (fun _ db' => (calm owner ∅).rel db db') := by
  refine whole_forEach_rows (db.nodup_filter _) concerns_expireTask (fun row hrw db' hr => ?_)
    (fun row hrw => get_of_mem (List.mem_filter.1 hrw).1)
  have hpn := hp row (List.mem_filter.1 hrw).2
  unfold expireTask
  split
  · refine guarded_update trivial
      (calm_setTask hr (fun hrv => ?_) TaskStatus.noConfusion (TaskChange.owned_of_none rfl row))
    rw [hpn] at hrv
    cases hrv
  · exact (calm owner ∅).refl db'

private theorem reviews_program (request) (hdb : Reviewed owner db)
    (hcr : ∀ result, request = .qaResult result → ∀ mr ∈ result.mrIid, result.request = lastRequest db mr) :
    (program cfg request).Guarded ((devAgent cfg).whole (Consistent owner) (Reviews owner request db)) db
      (fun _ _ => True) := by
  have hc {db' : DevDb} (h : (calm owner ∅).rel db db') : Reviews owner request db db' :=
    reviews_of_calm hdb (fun _ _ _ hin => hin.elim) h
  refine guarded_of_bodies cfg request (fun p hp => ?_)
  cases hp with
  | nothing => exact hc ((calm owner ∅).refl db)
  | tasksReady => exact (makes_forEach (fun ready db => staysCalm_intakeTask _ ready) _ db).mono (fun _ _ => hc)
  | @reconcile now =>
    refine Guarded.mono ?_ (fun _ _ => hc)
    exact makes_bind (makes_pollActive owner now) (fun _ => makes_bind (makes_startPending owner now)
      (fun _ => makes_restartPlanning owner now)) db
  | @expireStale _ _ db' hr hp =>
    obtain rfl : db' = db := hr
    exact (makes_expirePending owner hp).mono (fun _ _ => hc)
  | retryTask => exact (makes_calm_updateStatus (by decide) rfl Bool.noConfusion db).mono (fun _ _ => hc)
  | @cancelWorkflow taskId =>
    have hu : (devAgent cfg).Makes (Consistent owner) (Reviews owner (.cancelWorkflow taskId) db) (calm owner {taskId})
        (updateStatus taskId .failed {}) := makes_calm_updateStatus (by decide) rfl (fun _ => rfl)
    refine (hu db).mono (fun _ _ => reviews_of_calm hdb (fun row _ _ hin => .inl ?_))
    rw [show row.id = taskId from hin]
  | @approveWorkflow now request db' task hr ht hs =>
    obtain rfl : db' = db := hr
    have ha : Away task.id db' := away_of_get (get_of_mem (get_eq_some.1 ht).1) (hs ▸ TaskStatus.noConfusion)
    refine Guarded.bind (whole_getByTaskId (fun r => ?_))
    rcases r with e | _ | log
    · exact hc ((calm owner ∅).refl db')
    · exact hc ((calm owner ∅).refl db')
    · have hm : MadeOf (Part.starts task.id) (approveLogged cfg now request task log) :=
        (madeOf_approveLogged cfg now task request log).mono (fun _ hpr => .inl hpr)
      exact (hm.makes Part.starts.calmFor db').mono (fun _ _ hrl => hc (hrl ha).2)
  | @qaResult result mr db' task hr hmr hm ht hs =>
    obtain rfl : db' = db := hr
    refine (makes_decideTask owner task result db').mono (fun _ _ => reviews_of_calm hdb (fun row hrw _ hin => .inr ?_))
    obtain rfl := eq_of_key_eq hrw hm hin
    refine ⟨result, rfl, ?_⟩
    rw [hcr result rfl mr hmr]
    exact hdb.latest row hm hs mr ht

/-! ### Runs -/

/-- Transactions do not overlap, GitLab answers with merge requests of the branch that is asked for, and a result that
comes was produced for the latest request for its merge request. -/
def Current (owner : Nat → String) (s : DevSessions) (a : SessionAct Call Call.Reply Request) : Prop :=
  Serial s a ∧ match a with
    | .start (.qaResult result) => ∀ mr ∈ result.mrIid, result.request = lastRequest s.db mr
    | .next i reply => ∀ σ ∈ s.sessions[i]?, match σ.prog with
      | .call c _ => Consistent owner c (reply c)
      | _ => True
    | _ => True

instance (owner : Nat → String) (s : DevSessions) :
    (a : SessionAct Call Call.Reply Request) → Decidable (Current owner s a)
  | .start (.qaResult _) => inferInstanceAs (Decidable (_ ∧ ∀ mr ∈ _, _ = _))
  | .next _ reply =>
    have (p : Dev Unit) : Decidable (match p with | .call c _ => Consistent owner c (reply c) | _ => True) := by
      split <;> infer_instance
    inferInstanceAs (Decidable (_ ∧ ∀ σ ∈ _, _))
  | .start (.tasksReady ..) | .start (.reconcile _) | .start (.expireStale _) | .start (.retryTask _)
  | .start (.cancelWorkflow _) | .start (.approveWorkflow ..) | .stop _ => inferInstanceAs (Decidable (_ ∧ True))

structure Orderly (cfg : Settings) (owner : Nat → String) (s : DevSessions) : Prop where
  serially : Serially (devAgent cfg) (Consistent owner) (Reviews owner) s
  reviewed : Reviewed owner s.db

private theorem Orderly.step {s t a} (h : Orderly cfg owner s)
    (ha : Current owner s a) (hst : (devAgent cfg).step s a = some t) :
    Orderly cfg owner t ∧ (t.db = s.db ∨ ∃ σ ∈ s.sessions, Reviews owner σ.request s.db t.db) := by
  have hcr (request : Request) (hr : a = .start request) (result : QaResult) (hrs : request = .qaResult result) :
      ∀ mr ∈ result.mrIid, result.request = lastRequest s.db mr := by
    subst hr hrs
    exact ha.2
  have han (i : Nat) (reply : (c : Call) → c.Reply) (σ : DevSession) (c : Call) (k : c.Reply → Dev Unit)
      (hn : a = .next i reply) (hσ : s.sessions[i]? = some σ) (hp : σ.prog = .call c k) :
        Consistent owner c (reply c) := by
    subst hn
    have hc := ha.2 σ hσ
    rw [hp] at hc
    exact hc
  obtain ⟨hs, hdb⟩ := h.serially.step ha.1 hst
    (fun request hr _ => ⟨reviews_program request h.reviewed (hcr request hr), fun I => resumes_program cfg request⟩)
    han
  refine ⟨⟨hs, ?_⟩, hdb⟩
  rcases hdb with hsm | ⟨σ, -, hrv⟩
  · rw [hsm]
    exact h.reviewed
  · exact hrv.reviewed

/-- Then a task in review changes only by a result of its current attempt, or because it is cancelled. -/
theorem decided_by_current_attempt (cfg : Settings) (owner : Nat → String) (db : DevDb) (hdb : Reviewed owner db)
    (s : DevSessions) (hrun : Run (Steps (devAgent cfg).step) (Current owner) (noSessions db) s)
    (a : SessionAct Call Call.Reply Request) (ha : Current owner s a) (t : DevSessions)
      (hstep : (devAgent cfg).step s a = some t)
    (row : TaskRow) (hrow : row ∈ s.db.tasks) (hstatus : row.status = .reviewing) :
    row ∈ t.db.tasks ∨ ∃ σ ∈ s.sessions, Decides row σ.request := by
  have ho : Orderly cfg owner s := by
    refine hrun.invariant ⟨serially_of_no_sessions _ rfl, hdb⟩ (fun s a t h ha hstep => ?_)
    exact (h.step ha hstep).1
  rcases (ho.step ha hstep).2 with hs | ⟨σ, hσ, hr⟩
  · rw [hs]
    exact .inl hrow
  · exact (hr.decided row hrow hstatus).imp_right (fun hd => ⟨σ, hσ, hd⟩)

def executing : DevDb where
  tasks := (empty.insert
    { id := "dev_1", wpId := 1, taskTitle := some "Add endpoint", riskLevel := some .low, status := .executing,
      retryCount := 0,
      workflowId := some "wf_1", mrIid := none, workflowStartedAt := some 0, lastPolledAt := none, createdAt :=
        0 }).getD empty
  logs := []
  outbox := []

def firstResult : QaResult := ⟨some 7, false, some ⟨"dev_1", 0, some 7⟩⟩

def firstReview : List (SessionAct Call Call.Reply Request) :=
  .start (.reconcile (seconds 100)) :: goesOn 0 25 succeeds ++
    .stop 0 :: .start (.qaResult firstResult) :: goesOn 0 6 succeeds

def findsMergeRequest : (c : Call) → c.Reply
  | .checkExistingMr _ => .ok (some (some 7))
  | c => succeeds c

def secondReview : List (SessionAct Call Call.Reply Request) :=
  firstReview ++ .next 0 succeeds :: .stop 0 ::
    .start (.reconcile (seconds 200)) :: goesOn 0 15 findsMergeRequest ++
    .stop 0 :: .start (.reconcile (seconds 300)) :: goesOn 0 24 findsMergeRequest ++
    .stop 0 :: .start (.qaResult firstResult) :: goesOn 0 4 succeeds

def hasRow (db : DevDb) (id : String) (status : TaskStatus) (retryCount : Nat) : Bool :=
  (db.tasks.get id).any (fun row => row.status = status ∧ row.retryCount = retryCount)

private theorem of_hasRow {id retryCount} (h : hasRow db id status retryCount = true) :
    ∃ row, db.tasks.get id = some row ∧ row.status = status ∧ row.retryCount = retryCount := by
  obtain ⟨row, hr, ht⟩ := (any_eq_true _ _).1 h
  exact ⟨row, hr, of_decide_eq_true ht⟩

private theorem reviewed_executing : Reviewed (fun _ => "dev/wp-1") executing := by
  refine ⟨⟨?_, ?_⟩, ?_⟩
  · intro a ha b hb _
    exact (mem_singleton.1 ha).trans (mem_singleton.1 hb).symm
  · intro row hr mr hmr
    rw [mem_singleton.1 hr] at hmr
    cases hmr
  · intro row hr hs
    rw [mem_singleton.1 hr] at hs
    cases hs

/-- The first attempt is decided by its result. -/
theorem decided_by_current_attempt_first :
    ∃ s t row row', Run (Steps (devAgent (smallAgent 2)).step) (Current (fun _ => "dev/wp-1"))
      (noSessions executing) s ∧
      Current (fun _ => "dev/wp-1") s (.next 0 succeeds) ∧
        (devAgent (smallAgent 2)).step s (.next 0 succeeds) = some t ∧
      row ∈ s.db.tasks ∧ row.status = .reviewing ∧ t.db.tasks.get row.id = some row' ∧ row'.status = .planning ∧
      (row ∈ t.db.tasks ∨ ∃ σ ∈ s.sessions, Decides row σ.request) := by
  obtain ⟨s, t, hr, hst, hc, hb, ha⟩ : ∃ s t, Run (Steps (devAgent (smallAgent 2)).step)
      (Current (fun _ => "dev/wp-1")) (noSessions executing) s ∧
        (devAgent (smallAgent 2)).step s (.next 0 succeeds) = some t ∧
      Current (fun _ => "dev/wp-1") s (.next 0 succeeds) ∧ hasRow s.db "dev_1" .reviewing 0 ∧
        hasRow t.db "dev_1" .planning 1 :=
    exists_run_step firstReview (by decide +kernel)
  obtain ⟨row, hrw, hs, -⟩ := of_hasRow hb
  obtain ⟨row', hr', hs', -⟩ := of_hasRow ha
  obtain ⟨hm, hid⟩ := get_eq_some.1 hrw
  refine ⟨s, t, row, row', hr, hc, hst, hm, hs, hid ▸ hr', hs', ?_⟩
  exact decided_by_current_attempt (smallAgent 2) _ executing reviewed_executing s hr _ hc t hst row hm hs

/-- The result of the first attempt fails the second one; no transactions overlap. -/
theorem earlier_result_decides_retry :
    ∃ s t row row', Run (Steps (devAgent (smallAgent 2)).step) Serial (noSessions executing) s ∧
      (devAgent (smallAgent 2)).step s (.next 0 succeeds) = some t ∧ row ∈ s.db.tasks ∧ row.status = .reviewing ∧
      t.db.tasks.get row.id = some row' ∧ row'.status = .failed ∧ ∀ σ ∈ s.sessions, ¬ Decides row σ.request := by
  obtain ⟨s, t, hrn, hst, hb, hr, ha⟩ : ∃ s t, Run (Steps (devAgent (smallAgent 2)).step) Serial
    (noSessions executing) s ∧
      (devAgent (smallAgent 2)).step s (.next 0 succeeds) = some t ∧ hasRow s.db "dev_1" .reviewing 1 ∧
      (∀ σ ∈ s.sessions, σ.request = .qaResult firstResult) ∧ hasRow t.db "dev_1" .failed 1 :=
    exists_run_step secondReview (by decide +kernel)
  obtain ⟨row, hrw, hs, hrt⟩ := of_hasRow hb
  obtain ⟨row', hr', hs', -⟩ := of_hasRow ha
  obtain ⟨hm, hid⟩ := get_eq_some.1 hrw
  refine ⟨s, t, row, row', hrn, hst, hm, hs, hid ▸ hr', hs', fun σ hσ hd => ?_⟩
  rw [hr σ hσ] at hd
  rcases hd with hc | ⟨result, hrs, hf⟩
  · cases hc
  · obtain rfl := Request.qaResult.inj hrs
    -- the result was produced for attempt 0
    have hat : 0 = row.retryCount := congrArg QaRequest.attempt (some.inj hf)
    rw [hrt] at hat
    cases hat

end WisdoverseCell.DevAgent.Transactions
