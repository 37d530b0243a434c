import WisdoverseCell.DevAgent.AlonePrograms

/-!
# The number of workflows at a time

Intake and reconciliation count the tasks in progress before they set one to planning, and a retry after a failed
acceptance test takes the place of its attempt.  `retry_task` does not count at all, and transactions that overlap do
not count each other's tasks.
-/

namespace WisdoverseCell.DevAgent.Transactions

open Prog List Table
open ControlPlane (Time)

variable {db : DevDb} {row : TaskRow} {change : TaskChange} {status : TaskStatus} {f : TaskRow → Dev Unit}

/-! ### Counting -/

private theorem active_setTask {id} (change) (h : db.tasks.get id = some row) :
    (db.apply (.setTask id change)).countActiveWorkflows + (if row.status.inProgress then 1 else 0) =
      db.countActiveWorkflows + (if (change.write row).status.inProgress then 1 else 0) :=
  countP_modify change.write_id h (fun row => row.status.inProgress)

private theorem active_setTask_of_none {id} (change) (h : db.tasks.get id = none) :
    (db.apply (.setTask id change)).countActiveWorkflows = db.countActiveWorkflows := by
  have hs : db.tasks.modify id change.write change.write_id = db.tasks := by
    refine update_eq_self change.write_id (fun row hr hid => ?_)
    exact absurd (of_decide_eq_true hid) (get_eq_none.1 h row hr)
  simp only [DevDb.apply, DevDb.countActiveWorkflows, hs]

private theorem inProgress_of_canTransition {current target} (h : canTransition current target = true)
    (hne : target ≠ .planning) (ht : target.inProgress = true) : current.inProgress = true := by
  cases current <;> cases target <;> simp_all [canTransition, TaskStatus.validTransitions, TaskStatus.inProgress]

def noEntry : Change DevDb where
  rel db db' := db'.countActiveWorkflows ≤ db.countActiveWorkflows
  refl _ := Nat.le_refl _
  trans _ _ _ h h' := Nat.le_trans h' h

private theorem noEntry_setTask {id} (h : db.tasks.get id = some row)
    (hk : (change.write row).status.inProgress = true → row.status.inProgress = true) :
    noEntry.rel db (db.apply (.setTask id change)) := countP_setTask_le h hk

private theorem changes_noEntry_update {id mrIid} (hne : status ≠ .planning) :
    (Part.update id status mrIid).changes noEntry := by
  intro db row change hr hc hs _ _
  refine noEntry_setTask hr (fun ha => ?_)
  rw [TaskChange.write, hs] at ha
  exact inProgress_of_canTransition hc hne ha

private theorem Part.executes.noEntry {id} (part : Part) (h : part.executes id) : part.changes noEntry := by
  cases part with
  | call => trivial
  | log => exact fun db => Nat.le_refl _
  | event => exact h.elim
  | polled => exact h.elim
  | update =>
    refine changes_noEntry_update ?_
    rcases h.2.1 with rfl | rfl | rfl <;> decide

private theorem Part.collects.noEntry {id} (part : Part) (h : part.collects id) : part.changes noEntry := by
  cases part with
  | call => trivial
  | log => exact h.elim
  | event => exact fun db => Nat.le_refl _
  | polled =>
    intro db row change hr hs _ _
    refine noEntry_setTask hr (fun ha => ?_)
    rwa [TaskChange.write, hs] at ha
  | update => exact changes_noEntry_update h.2.1

/-! ### Programs -/

abbrev Within (cfg : Settings) (db : DevDb) : Prop := db.countActiveWorkflows ≤ cfg.maxConcurrentWorkflows

section

variable {cfg : Settings} {A : (c : Call) → c.Reply → Prop} {I : DevDb → Prop} {db : DevDb}

abbrev EntersOne {α : Type} (cfg : Settings) (A : (c : Call) → c.Reply → Prop) (I : DevDb → Prop) (db : DevDb)
    (p : Dev α) :
    Prop :=
  p.Guarded ((devAgent cfg).whole A I) db (fun _ db' => db'.countActiveWorkflows ≤ db.countActiveWorkflows + 1)

private theorem entersOne_planning (taskId) (change) : EntersOne cfg A I db (updateStatus taskId .planning change) := by
  refine whole_updateStatus (fun _ => Nat.le_succ _) (fun row hr _ => ?_)
  have hc := active_setTask { change with status := some .planning } hr
  split at hc <;> split at hc <;> omega

private theorem entersOne_planAndExecute (now : Time) (sanitized : SanitizedTask) (task risk) :
    EntersOne cfg A I db (planAndExecute cfg now sanitized task risk) := by
  obtain ⟨rest, heq, hr⟩ := planAndExecute_eq cfg now task sanitized risk
  rw [heq]
  refine (entersOne_planning task.id {}).seq (fun b db' hp => ?_) (fun _ _ hp => hp)
  exact ((hr b).makes Part.executes.noEntry db').mono (fun _ _ hl => Nat.le_trans hl hp)

private theorem entersOne_startTask (now task) : EntersOne cfg A I db (startTask cfg now task) := by
  refine Guarded.handle (R := fun _ db' => db'.countActiveWorkflows ≤ db.countActiveWorkflows + 1) ?_
    (fun _ _ ho => ho) (fun _ _ ho => ho)
  refine Guarded.seq (R := fun _ db' => db'.countActiveWorkflows ≤ db.countActiveWorkflows + 1) ?_
    (fun events db' ho => ?_)
    (fun _ _ ho => ho)
  · refine Guarded.bind (whole_getByTaskId (fun r => ?_))
    cases r with
    | ok => exact entersOne_planAndExecute now _ task _
    | error => exact Nat.le_succ _
  · refine (makes_forEach (C := noEntry) (fun event => makes_update (fun _ => Nat.le_refl _)) events db').mono
      (fun _ _ hl => ?_)
    exact Nat.le_trans hl ho

private theorem cap_forEach (hf : ∀ db row, EntersOne cfg A I db (f row)) {rows}
    (h : db.countActiveWorkflows + rows.length ≤ cfg.maxConcurrentWorkflows) :
    (forEach f rows).Guarded ((devAgent cfg).whole A I) db
      (fun _ => Within cfg) := by
  have hle {n k : Nat} (hs : n + k ≤ cfg.maxConcurrentWorkflows) : n ≤ cfg.maxConcurrentWorkflows := by omega
  refine guarded_forEach (I := fun rest db' => db'.countActiveWorkflows + rest.length ≤ cfg.maxConcurrentWorkflows)
    (fun row rest db' hr => ?_) (fun _ hr => hle hr) h
  refine (hf db' row).mono (fun r db'' ho => ?_)
  rw [length_cons] at hr
  cases r with
  | ok =>
    change _ + _ ≤ _
    omega
  | error =>
    change _ ≤ _
    omega

/-- `startPending` and `restartPlanning`: as many tasks as there are slots. -/
theorem cap_slots (hf : ∀ db row, EntersOne cfg A I db (f row)) (status) (h : Within cfg db) :
    (do
      let activeCount ← countActiveWorkflows
      if activeCount < cfg.maxConcurrentWorkflows then do
        let db ← Prog.get
        forEach f (db.oldest status (cfg.maxConcurrentWorkflows - activeCount))
      else return () : Dev Unit).Guarded ((devAgent cfg).whole A I) db
      (fun _ => Within cfg) := by
  refine guarded_whole_get ?_
  change Guarded _ (if db.countActiveWorkflows < cfg.maxConcurrentWorkflows then _ else _) db _
  split
  · rename_i hr
    refine guarded_whole_get (cap_forEach hf ?_)
    have hl := length_take_le (cfg.maxConcurrentWorkflows - db.countActiveWorkflows)
      ((db.tasks.rows.filter (fun row => row.status = status)).insertionSort (fun a b => a.createdAt ≤ b.createdAt))
    change _ + (take _ _).length ≤ _
    omega
  · exact h

private theorem active_insertTask (h : row.status = .pending) :
    (db.apply (.insertTask row)).countActiveWorkflows = db.countActiveWorkflows := by
  dsimp only [DevDb.apply, DevDb.countActiveWorkflows]
  cases hi : db.tasks.insert row with
  | none => rfl
  | some =>
    rw [Option.getD_some, (insert_eq_some hi).1, countP_append]
    simp [h, TaskStatus.inProgress]

abbrev KeepsCap {α : Type} (cfg : Settings) (A : (c : Call) → c.Reply → Prop) (I : DevDb → Prop) (db : DevDb)
    (p : Dev α) :
    Prop :=
  p.Guarded ((devAgent cfg).whole A I) db (fun _ => Within cfg)

private theorem cap_processSingleTask (now id sanitized)
    (h : Within cfg db) : KeepsCap cfg A I db (processSingleTask cfg now id sanitized) := by
  refine Guarded.bind (whole_createTask h h (fun _ _ => ?_))
  refine Guarded.bind (guarded_update trivial (guarded_whole_get ?_))
  have hs : ((db.apply (.insertTask (newTask now id sanitized))).apply
      (.addLog ⟨id, .taskInput sanitized⟩)).countActiveWorkflows = db.countActiveWorkflows := active_insertTask rfl
  change KeepsCap cfg A I _ (if _ < _ then _ else _)
  split
  · rename_i hr
    exact (entersOne_planAndExecute now _ _ _).mono (fun _ _ ho => Nat.le_trans ho hr)
  · exact Nat.le_trans (Nat.le_of_eq hs) h

private theorem cap_of_makes {α : Type} {p : Dev α} (hp : (devAgent cfg).Makes A I noEntry p)
    (h : Within cfg db) : KeepsCap cfg A I db p :=
  (hp db).mono (fun _ _ hl => Nat.le_trans hl h)

private theorem makes_noEntry_updateStatus (taskId) (hne : status ≠ .planning) (hr : change.retryCount = none) :
    (devAgent cfg).Makes A I noEntry (updateStatus taskId status change) :=
  fun db => whole_updateStatus (fun _ => Nat.le_refl _)
    (fun row hrw hc => changes_noEntry_update hne db row _ hrw hc rfl hr rfl)

private theorem makes_noEntry_expireTask (task) : (devAgent cfg).Makes A I noEntry (expireTask task) := by
  unfold expireTask
  split
  · refine makes_update (fun db => ?_)
    cases hr : db.tasks.get task.id with
    | none => exact Nat.le_of_eq (active_setTask_of_none _ hr)
    | some => exact noEntry_setTask hr (fun ha => Bool.noConfusion ha)
  · exact makes_done ()

private theorem cap_decideTask {task : TaskRow} (result) (h : Within cfg db)
    (hr : db.tasks.get task.id = some task) (hs : task.status = .reviewing) :
    KeepsCap cfg A I db (decideTask task result) := by
  have hl {Q : Except Fault Bool → DevDb → Prop}
      (hQ : ∀ r db', db'.countActiveWorkflows + 1 ≤ db.countActiveWorkflows → Q r db') :
      (updateStatus task.id .failed {}).Guarded ((devAgent cfg).whole A I) db Q := by
    refine whole_updateStatus (fun hno => ?_) (fun row hr' hcn => hQ _ _ ?_)
    · have hcn := hno task hr
      rw [hs] at hcn
      cases hcn
    · have hc := active_setTask { status := some .failed } hr
      rw [hs] at hc
      exact Nat.le_of_eq hc
  refine Guarded.bind (whole_getByTaskId (fun r => ?_))
  cases r with
  | error => exact h
  | ok =>
    dsimp only
    split
    · exact cap_of_makes (makes_bind (makes_noEntry_updateStatus _ (by decide) rfl) (fun _ => makes_done ())) h
    · split
      · refine Guarded.bind (hl (fun r db' hls => ?_))
        cases r with
        | error =>
          change _ ≤ _
          omega
        | ok =>
          refine (entersOne_planning task.id _).seq (fun _ db'' ho => ?_) (fun _ db'' ho => ?_)
          · change _ ≤ _
            omega
          · omega
      · refine Guarded.bind (hl (fun r db' hls => ?_))
        cases r <;> change _ ≤ _ <;> omega

private theorem cap_program (request : Request) (h : Within cfg db)
    (hr : ∀ taskId, request = .retryTask taskId → db.countActiveWorkflows < cfg.maxConcurrentWorkflows) :
    (program cfg request).Guarded ((devAgent cfg).whole A (Within cfg)) db (fun _ _ => True) := by
  refine guarded_of_bodies cfg request (fun p hp => ?_)
  cases hp with
  | nothing => exact h
  | tasksReady =>
    refine guarded_forEach (I := fun _ => Within cfg) (fun ready rest db' hc => ?_) (fun _ hc => hc) h
    refine Guarded.mono (Q := fun _ => Within cfg) ?_ (fun r _ hc' => ?_)
    · refine Guarded.handle (R := fun _ => Within cfg) ?_ (fun _ _ hc' => hc') (fun _ _ hc' => hc')
      exact (cap_processSingleTask _ _ _ hc).seq (fun _ _ hc' => hc') (fun _ _ hc' => hc')
    · cases r <;> exact hc'
  | @reconcile now =>
    refine (cap_of_makes ?_ h).seq (fun _ db₁ h₁ => ?_) (fun _ _ hc => hc)
    · exact makes_read (fun db =>
        makes_forEach (fun task => (madeOf_pollTask cfg now task).makes Part.collects.noEntry) _)
    refine (cap_slots (fun _ row => entersOne_startTask now row) .pending h₁).seq (fun _ db₂ h₂ => ?_)
      (fun _ _ hc => hc)
    refine cap_slots (fun db row => ?_) .planning h₂
    unfold restartTask
    split
    · exact entersOne_startTask now row
    · exact Nat.le_succ _
  | expireStale => exact cap_of_makes (makes_forEach makes_noEntry_expireTask _) h
  | retryTask => exact (entersOne_planning _ _).mono (fun _ _ ho => Nat.le_trans ho (hr _ rfl))
  | cancelWorkflow => exact cap_of_makes (makes_noEntry_updateStatus _ (by decide) rfl) h
  | approveWorkflow =>
    refine Guarded.bind (whole_getByTaskId (fun r => ?_))
    rcases r with e | _ | log
    · exact h
    · exact h
    · exact cap_of_makes ((madeOf_approveLogged cfg _ _ _ log).makes Part.executes.noEntry) h
  | @qaResult _ _ db' task hdb _ hm _ hs =>
    obtain rfl : db' = db := hdb
    exact cap_decideTask _ h (get_of_mem hm) hs

end

/-! ### Runs -/

/-- Transactions do not overlap, and an operator retries a task only when there is room. -/
def Paced (cfg : Settings) (s : DevSessions) (a : SessionAct Call Call.Reply Request) : Prop :=
  Serial s a ∧ match a with
    | .start (.retryTask _) => s.db.countActiveWorkflows < cfg.maxConcurrentWorkflows
    | _ => True

instance (cfg : Settings) (s : DevSessions) : (a : SessionAct Call Call.Reply Request) → Decidable (Paced cfg s a)
  | .start (.retryTask _) => inferInstanceAs (Decidable (_ ∧ _ < _))
  | .start (.tasksReady ..) | .start (.reconcile _) | .start (.expireStale _) | .start (.cancelWorkflow _)
  | .start (.approveWorkflow ..) | .start (.qaResult _) | .next .. | .stop _ => inferInstanceAs (Decidable (_ ∧ True))

/-- Then the tasks in progress never exceed the cap. -/
theorem in_progress_le_max (cfg : Settings) (db : DevDb) (hdb : db.countActiveWorkflows ≤ cfg.maxConcurrentWorkflows)
    (s : DevSessions) (hrun : Run (Steps (devAgent cfg).step) (Paced cfg) (noSessions db) s) :
    s.db.countActiveWorkflows ≤ cfg.maxConcurrentWorkflows := by
  have hi := hrun.invariant (I := fun s => Serially (devAgent cfg) (fun _ _ => True)
    (fun _ _ => Within cfg) s ∧ Within cfg s.db) ⟨serially_of_no_sessions _ rfl, hdb⟩ ?_
  · exact hi.2
  · rintro s a t ⟨hs, hc⟩ hp hst
    have hr (request : Request) (ha : a = .start request) (taskId : String) (hrt : request = .retryTask taskId) :
        s.db.countActiveWorkflows < cfg.maxConcurrentWorkflows := by
      subst ha hrt
      exact hp.2
    obtain ⟨hs', hdb'⟩ := hs.step hp.1 hst
      (fun request ha _ => ⟨cap_program request hc (hr request ha), fun I => resumes_program cfg request⟩)
      (fun _ _ _ _ _ _ _ _ => trivial)
    refine ⟨hs', ?_⟩
    rcases hdb' with hsm | ⟨-, -, hc'⟩
    · rw [hsm]
      exact hc
    · exact hc'

/-- A failed task is retried under a cap of one. -/
theorem in_progress_le_max_retried :
    ∃ s, Run (Steps (devAgent (smallAgent 1)).step) (Paced (smallAgent 1)) (noSessions .empty) s ∧
      s.db.countActiveWorkflows = 1 ∧ s.db.countActiveWorkflows ≤ (smallAgent 1).maxConcurrentWorkflows :=
  exists_run_and (planningFails ++ retries "dev_1") (by decide +kernel)
    (in_progress_le_max (smallAgent 1) .empty (by decide))

/-- While another task is executed, the retry of a failed one makes two of them; no transactions overlap. -/
theorem retry_exceeds_max : ∃ s, Run (Steps (devAgent (smallAgent 1)).step) Serial (noSessions .empty) s ∧
      (smallAgent 1).maxConcurrentWorkflows < s.db.countActiveWorkflows :=
  exists_run_exec (planningFails ++ .start (.tasksReady 1 [readyTask "dev_2" 2 .low]) :: goesOn 0 12 succeeds ++
    .stop 0 ::
    retries "dev_1") (by decide +kernel)

end WisdoverseCell.DevAgent.Transactions
