import WisdoverseCell.DevAgent.Transactions

/-!
# What transactions are made of

Apart from the creation, the expiry and the retry of a task, a transaction consists of reads, calls, new logs and
events, and calls of `update_status` (`MadeOf`).  The steps for one task write only to its row and its logs
(`Concerns`).
-/

namespace WisdoverseCell.DevAgent.Transactions

open Prog
open ControlPlane (Time)

variable {change : TaskChange} {status : TaskStatus} {taskId id : String} {α β : Type}

/-! ### Parts -/

inductive Part
  | call (c : Call)
  | log (log : WorkflowLog)
  | event (event : DevEvent)
  | polled (taskId : String)
  | update (taskId : String) (status : TaskStatus) (mrIid : Option (Option Nat))

/-- A program that consists of such parts; the status updates leave the number of retries. -/
inductive MadeOf (P : Part → Prop) : Dev α → Prop
  | done (a : α) : MadeOf P (.done a)
  | raise (e : Fault) : MadeOf P (.raise e)
  | read {k : _} (h : ∀ db, MadeOf P (k db)) : MadeOf P (.read k)
  | call {c k} (hP : P (.call c)) (h : ∀ r, MadeOf P (k r)) : MadeOf P (.call c k)
  | log {log k} (hP : P (.log log)) (h : ∀ u, MadeOf P (k u)) : MadeOf P ((Prog.update (.addLog log)).bind k)
  | event {event k} (hP : P (.event event)) (h : ∀ u, MadeOf P (k u)) :
      MadeOf P ((Prog.update (.addEvent event)).bind k)
  | polled {taskId polledAt k} (hP : P (.polled taskId))
      (h : ∀ u, MadeOf P (k u)) : MadeOf P ((markPolled taskId polledAt).bind k)
  | update {taskId status change k} (hP : P (.update taskId status change.mrIid)) (hretry : change.retryCount = none)
      (h : ∀ b, MadeOf P (k b)) : MadeOf P ((updateStatus taskId status change).bind k)

private theorem neverRaises_updateStatus (taskId status change) : (updateStatus taskId status change).NeverRaises := by
  refine neverRaises_bind (fun _ => trivial) (fun db => ?_)
  split
  · trivial
  · split
    · exact fun _ => trivial
    · trivial

private theorem neverRaises_markPolled (taskId) (polledAt) : (markPolled taskId polledAt).NeverRaises := by
  refine neverRaises_bind (fun _ => trivial) (fun db => ?_)
  split
  · trivial
  · exact fun _ => trivial

section

variable {P Q : Part → Prop} {p : Dev α}

private theorem MadeOf.bind {f : α → Dev β} (h : MadeOf P p) (hf : ∀ a, MadeOf P (f a)) : MadeOf P (p.bind f) := by
  induction h with
  | done a => exact hf a
  | raise e => exact .raise e
  | read _ ih => exact .read ih
  | call hP _ ih => exact .call hP ih
  | log hP _ ih =>
    rw [bind_bind]
    exact .log hP ih
  | event hP _ ih =>
    rw [bind_bind]
    exact .event hP ih
  | polled hP _ ih =>
    rw [bind_bind]
    exact .polled hP ih
  | update hP hr _ ih =>
    rw [bind_bind]
    exact .update hP hr ih

private theorem MadeOf.catching {handler} (h : MadeOf P p) (hh : ∀ e, MadeOf P (handler e)) :
    MadeOf P (p.catching handler) := by
  have hu (u : Update) : (Prog.update u : Dev Unit).NeverRaises := fun _ => trivial
  induction h with
  | done a => exact .done a
  | raise e => exact hh e
  | read _ ih => exact .read ih
  | call hP _ ih => exact .call hP ih
  | log hP _ ih =>
    rw [(hu _).catching_bind]
    exact .log hP ih
  | event hP _ ih =>
    rw [(hu _).catching_bind]
    exact .event hP ih
  | polled hP _ ih =>
    rw [(neverRaises_markPolled _ _).catching_bind]
    exact .polled hP ih
  | update hP hr _ ih =>
    rw [(neverRaises_updateStatus _ _ _).catching_bind]
    exact .update hP hr ih

theorem MadeOf.mono (h : MadeOf P p) (hi : ∀ part, P part → Q part) : MadeOf Q p := by
  induction h with
  | done a => exact .done a
  | raise e => exact .raise e
  | read _ ih => exact .read ih
  | call hP _ ih => exact .call (hi _ hP) ih
  | log hP _ ih => exact .log (hi _ hP) ih
  | event hP _ ih => exact .event (hi _ hP) ih
  | polled hP _ ih => exact .polled (hi _ hP) ih
  | update hP hr _ ih => exact .update (hi _ hP) hr ih

private theorem madeOf_get_bind {f : DevDb → Dev α} (h : ∀ db, MadeOf P (f db)) : MadeOf P (Prog.get.bind f) := .read h

private theorem madeOf_ask {c} (h : c.Reply = Except Fault α) (hP : P (.call c)) : MadeOf P (ask c h) := by
  refine .call hP (fun r => ?_)
  cases cast h r with
  | ok a => exact .done a
  | error e => exact .raise e

private theorem madeOf_getByTaskId (taskId) : MadeOf P (getByTaskId taskId) := by
  refine madeOf_get_bind (fun db => ?_)
  split
  · exact .done _
  · exact .done _
  · exact .raise _

private theorem madeOf_stage {events} (hP : ∀ event ∈ events, P (.event event)) : MadeOf P (stage events) := by
  induction events with
  | nil => exact .done ()
  | cons event events ih =>
    exact .event (hP event List.mem_cons_self) (fun _ => ih (fun e he => hP e (List.mem_cons_of_mem _ he)))

end

/-! ### Planning and execution -/

def Part.executes (id : String) : Part → Prop
  | .call (.runWorkflow taskId _) => taskId = id
  | .call _ => True
  | .log entry => entry.taskId = id
  | .event _ => False
  | .polled _ => False
  | .update taskId status mrIid =>
    taskId = id ∧ (status = .awaitingApproval ∨ status = .executing ∨ status = .failed) ∧ mrIid = none

variable {P : Part → Prop}

section

variable (cfg : Settings) (now : Time) (task : TaskRow)

theorem madeOf_executeWorkflow (plan) : MadeOf (Part.executes task.id) (executeWorkflow cfg now plan task) := by
  unfold executeWorkflow
  split
  · refine MadeOf.catching ?_ (fun fault => ?_)
    · refine (madeOf_ask rfl trivial).bind (fun workflowId => (madeOf_ask rfl (by exact rfl)).bind (fun _ => ?_))
      exact .update ⟨rfl, by simp, rfl⟩ rfl (fun _ => .done _)
    · cases fault with
      | forge => exact .update ⟨rfl, by simp, rfl⟩ rfl (fun _ => .done _)
      | approvalRequired => exact .raise _
      | other => exact .raise _
  · exact .done _

private theorem madeOf_requestWorkflowApproval (sanitized) (taskId) (plan)
    (hP : P (.call (.requestApproval taskId sanitized plan))) :
    MadeOf P (requestWorkflowApproval cfg sanitized taskId plan) := by
  refine MadeOf.catching (madeOf_ask rfl hP) (fun fault => ?_)
  split
  · exact .raise _
  · exact .done _

/-- `plan_and_execute` begins with the status update. -/
theorem planAndExecute_eq (sanitized risk) :
    ∃ rest, planAndExecute cfg now sanitized task risk = (updateStatus task.id .planning {}).bind rest ∧
      ∀ b, MadeOf (Part.executes task.id) (rest b) := by
  have hf : MadeOf (Part.executes task.id) (do
      let _ ← updateStatus task.id .failed {}
      return ([] : List DevEvent)) := .update ⟨rfl, by simp, rfl⟩ rfl (fun _ => .done _)
  refine ⟨_, rfl, fun _ => (madeOf_ask rfl trivial).bind (fun planned => ?_)⟩
  cases planned with
  | none => exact hf
  | some =>
    dsimp only
    split
    · exact hf
    · split
      · refine (madeOf_requestWorkflowApproval cfg _ _ _ trivial).bind (fun approvalId => ?_)
        refine .log (by exact rfl) (fun _ => ?_)
        exact .update ⟨rfl, by simp, rfl⟩ rfl (fun _ => .done _)
      · exact .log (by exact rfl) (fun _ => madeOf_executeWorkflow cfg now task _)

theorem madeOf_approveLogged (request log) :
    MadeOf (Part.executes task.id) (approveLogged cfg now request task log) := by
  unfold approveLogged
  dsimp only
  split
  · exact .done _
  · refine MadeOf.bind ?_ (fun granted => ?_)
    · refine MadeOf.catching ((madeOf_ask rfl trivial).bind (fun _ => .done _)) (fun fault => ?_)
      split
      · exact .done _
      · exact .raise _
    · split
      · split
        · exact .raise _
        · exact (madeOf_executeWorkflow cfg now task _).bind (fun _ => .done _)
      · exact .done _

end

/-! ### Collecting results -/

def Part.collects (id : String) : Part → Prop
  | .call (.runWorkflow _ _) => False
  | .call _ => True
  | .log _ => False
  | .event _ => True
  | .polled taskId => taskId = id
  | .update taskId status _ => taskId = id ∧ status ≠ .planning ∧ status ≠ .awaitingApproval ∧ status ≠ .executing

section

variable (cfg : Settings) (now : Time) (task : TaskRow)

private theorem madeOf_createMergeRequest : MadeOf (Part.collects task.id) (createMergeRequest task) := by
  refine MadeOf.catching ?_ (fun _ => .update ⟨rfl, by decide⟩ rfl (fun _ => .done _))
  refine MadeOf.bind ?_ (fun mr => .update ⟨rfl, by decide⟩ rfl (fun _ => .done _))
  refine (madeOf_ask rfl trivial).bind (fun existing => ?_)
  cases existing with
  | none => exact madeOf_ask rfl trivial
  | some => exact .done _

private theorem madeOf_handleCompletion (workspacePath) :
    MadeOf (Part.collects task.id) (handleCompletion task workspacePath) := by
  refine (madeOf_getByTaskId task.id).bind (fun _ => ?_)
  refine .update ⟨rfl, by decide⟩ rfl (fun _ => (madeOf_ask rfl trivial).bind (fun passed => ?_))
  split
  · refine .update ⟨rfl, by decide⟩ rfl (fun _ => ?_)
    refine (madeOf_createMergeRequest task).bind (fun created => ?_)
    cases created with
    | none => exact .done _
    | some =>
      refine .update ⟨rfl, by decide⟩ rfl (fun _ => ?_)
      exact .update ⟨rfl, by decide⟩ rfl (fun _ => .done _)
  · exact .update ⟨rfl, by decide⟩ rfl (fun _ => .done _)

private theorem madeOf_pollWorkflow (workflowId) :
    MadeOf (Part.collects task.id) (pollWorkflow cfg task workflowId) := by
  unfold pollWorkflow
  split
  · refine (madeOf_ask rfl trivial).bind (fun completed => ?_)
    cases completed with
    | none => exact .done _
    | some workspacePath =>
      dsimp only
      split
      · exact (madeOf_handleCompletion task workspacePath).bind (fun events => madeOf_stage (fun _ _ => trivial))
      · exact .update ⟨rfl, by decide⟩ rfl (fun _ => .done _)
  · exact .done _

theorem madeOf_pollTask : MadeOf (Part.collects task.id) (pollTask cfg now task) := by
  unfold pollTask
  split
  · split
    · split
      · exact .update ⟨rfl, by decide⟩ rfl (fun _ => .done _)
      · split
        · exact .done _
        · refine .polled (by exact rfl) (fun _ => ?_)
          exact MadeOf.catching (madeOf_pollWorkflow cfg task _) (fun _ => .done _)
    · exact .done _
  · exact .done _

end

/-! ### Programs that concern one task -/

def WritesTo (id : String) : Update → Prop
  | .insertTask row => row.id = id
  | .setTask taskId _ => taskId = id
  | .addLog entry => entry.taskId = id
  | .addEvent _ => True

def StartsRun (id : String) : Call → Prop
  | .runWorkflow taskId _ => taskId = id
  | _ => True

abbrev Concerns (id : String) (p : Dev α) : Prop := p.Only (WritesTo id) (StartsRun id)

abbrev NoCommit (p : Dev α) : Prop := p.Only (fun _ => True) (fun _ => True)

def Part.concerns (id : String) : Part → Prop
  | .call c => StartsRun id c
  | .log entry => entry.taskId = id
  | .event _ => True
  | .polled taskId => taskId = id
  | .update taskId _ _ => taskId = id

theorem Part.executes.concerns (part : Part) (h : part.executes id) : part.concerns id := by
  cases part with
  | call c => cases c <;> exact h
  | log => exact h
  | event => trivial
  | polled => exact h.elim
  | update => exact h.1

private theorem Part.collects.concerns (part : Part) (h : part.collects id) : part.concerns id := by
  cases part with
  | call c => cases c <;> trivial
  | log => exact h.elim
  | event => trivial
  | polled => exact h
  | update => exact h.1

variable {p : Dev α}

section

variable {id : String} {W : Update → Prop} {C : Call → Prop}

private theorem Concerns.noCommit (h : Concerns id p) : NoCommit p := h.mono (fun _ _ => trivial) (fun _ _ => trivial)

private theorem concerns_writeTask (id change) : Concerns id (writeTask id change) := only_update rfl

private theorem concerns_addLog {log} (h : log.taskId = id) : Concerns id (Prog.update (.addLog log)) := only_update h

private theorem concerns_addEvent (id) (event) : Concerns id (Prog.update (.addEvent event)) := only_update trivial

theorem concerns_updateStatus (id status change) : Concerns id (updateStatus id status change) := by
  refine only_get_bind (fun db => ?_)
  split
  · trivial
  · split
    · exact (concerns_writeTask id _).bind (fun _ => trivial)
    · trivial

theorem concerns_markPolled (id) (polledAt) : Concerns id (markPolled id polledAt) := by
  refine only_get_bind (fun db => ?_)
  split
  · trivial
  · exact concerns_writeTask id _

/-- A program concerns a task if its parts do. -/
theorem MadeOf.concerns (h : MadeOf P p) (hP : ∀ part, P part → part.concerns id) : Concerns id p := by
  induction h with
  | done => trivial
  | raise => trivial
  | read _ ih => exact ih
  | call hp _ ih => exact ⟨hP _ hp, ih⟩
  | log hp _ ih => exact (concerns_addLog (hP _ hp)).bind ih
  | event _ _ ih => exact (concerns_addEvent id _).bind ih
  | polled hp _ ih =>
    obtain rfl := hP _ hp
    exact (concerns_markPolled _ _).bind ih
  | update hp _ _ ih =>
    obtain rfl := hP _ hp
    exact (concerns_updateStatus _ _ _).bind ih

theorem only_getByTaskId (taskId) : (getByTaskId taskId).Only W C := by
  refine only_get_bind (fun db => ?_)
  split <;> trivial

variable (cfg : Settings) (now : Time) (task : TaskRow)

private theorem concerns_planAndExecute (sanitized : SanitizedTask) (risk) :
    Concerns task.id (planAndExecute cfg now sanitized task risk) := by
  obtain ⟨rest, heq, hr⟩ := planAndExecute_eq cfg now task sanitized risk
  rw [heq]
  exact (concerns_updateStatus task.id _ _).bind (fun b => (hr b).concerns Part.executes.concerns)

theorem concerns_processSingleTask (id) (sanitized) : Concerns id (processSingleTask cfg now id sanitized) := by
  refine fun db => ⟨fun w hw => ?_, ?_⟩
  · dsimp only at hw
    split at hw
    · cases hw
    · cases hw
      rfl
  · dsimp only
    split
    · trivial
    · split
      · trivial
      · refine (concerns_addLog rfl).bind (fun _ => only_get_bind (fun db => ?_))
        change Concerns id (if _ then _ else _)
        split
        · exact concerns_planAndExecute cfg now (newTask now id sanitized) _ _
        · trivial

private theorem concerns_intakeTask (ready) : Concerns ready.id (intakeTask cfg now ready) :=
  Only.catching ((concerns_processSingleTask cfg now ready.id ready.sanitized).bind (fun _ => trivial))
    (fun _ => trivial)

theorem concerns_pollTask : Concerns task.id (pollTask cfg now task) :=
  (madeOf_pollTask cfg now task).concerns Part.collects.concerns

theorem concerns_startTask : Concerns task.id (startTask cfg now task) := by
  refine Only.catching (Only.bind ?_ (fun events => ?_)) (fun _ => trivial)
  · exact (only_getByTaskId task.id).bind (fun log => concerns_planAndExecute cfg now task _ _)
  · exact only_forEach (fun event _ => concerns_addEvent task.id event)

theorem concerns_restartTask : Concerns task.id (restartTask cfg now task) := by
  unfold restartTask
  split
  · exact concerns_startTask cfg now task
  · trivial

theorem concerns_expireTask : Concerns task.id (expireTask task) := by
  unfold expireTask
  split
  · exact concerns_writeTask task.id _
  · trivial

private theorem concerns_approveLogged (request : ApproveRequest) (log) :
    Concerns task.id (approveLogged cfg now request task log) :=
  (madeOf_approveLogged cfg now task request log).concerns Part.executes.concerns

private theorem concerns_decideTask (result) : Concerns task.id (decideTask task result) := by
  refine (only_getByTaskId task.id).bind (fun _ => ?_)
  split
  · exact (concerns_updateStatus task.id _ _).bind (fun _ => trivial)
  · split
    · refine (concerns_updateStatus task.id _ _).bind (fun _ => ?_)
      exact (concerns_updateStatus task.id _ _).bind (fun _ => trivial)
    · exact (concerns_updateStatus task.id _ _).bind (fun _ => trivial)

end

/-! ### One commit, at the end -/

/-- What a request does before it commits; `R` says which databases it may read. -/
inductive Body (cfg : Settings) (R : DevDb → Prop) : Request → {α : Type} → Dev α → Prop
  | nothing {request : _} : Body cfg R request (.done ())
  | tasksReady {now tasks ready} : Body cfg R (.tasksReady now tasks) (forEach (intakeTask cfg now) ready)
  | reconcile {now : _} : Body cfg R (.reconcile now)
      ((pollActive cfg now).bind (fun _ => (startPending cfg now).bind (fun _ => restartPlanning cfg now)))
  | expireStale {now p} {db : _} (hdb : R db) (hp : ∀ row : TaskRow, p row = true → row.status = .pending) :
      Body cfg R (.expireStale now) (forEach expireTask (db.tasks.rows.filter p))
  | retryTask {taskId db task} (hdb : R db) (ht : db.tasks.get taskId = some task) (hs : task.status = .failed) :
      Body cfg R (.retryTask taskId) (updateStatus taskId .planning { retryCount := some (task.retryCount + 1) })
  | cancelWorkflow {taskId : _} : Body cfg R (.cancelWorkflow taskId) (updateStatus taskId .failed {})
  | approveWorkflow {now request db task} (hdb : R db) (ht : db.tasks.get request.taskId = some task)
      (hs : task.status = .awaitingApproval) : Body cfg R (.approveWorkflow now request)
      ((getByTaskId request.taskId).bind (fun log => match log with
        | none => .done ()
        | some log => approveLogged cfg now request task log))
  | qaResult {result mr db task} (hdb : R db) (hmr : result.mrIid = some mr) (hm : task ∈ db.tasks)
      (ht : task.mrIid = some mr) (hs : task.status = .reviewing) :
        Body cfg R (.qaResult result) (decideTask task result)

private theorem DevDb.findTask_eq {db : DevDb} {row} (h : db.findTask taskId = some row) :
    db.tasks.get taskId = some row := by
  obtain ⟨name, hn, hg⟩ := Option.bind_eq_some_iff.1 h
  cases given_eq_some hn
  exact hg

private theorem program_of_bodies {S : Dev Unit → Prop} {R : DevDb → Prop} {cfg} (request : Request)
    (hread : ∀ f, (∀ db, R db → S (f db)) → S (get.bind f)) (hdone : S (.done ())) (hraise : S (.raise .other))
    (hb : ∀ {α : Type} (p : Dev α), Body cfg R request p → S (p.bind (fun _ => save))) : S (program cfg request) := by
  have hs : S save := hb _ .nothing
  cases request with
  | tasksReady => exact hb _ .tasksReady
  | reconcile =>
    have h := hb _ .reconcile
    simp only [bind_bind] at h
    exact h
  | expireStale => exact hread _ (fun db hdb => hb _ (.expireStale hdb (fun row hr => (of_decide_eq_true hr).1)))
  | retryTask =>
    refine hread _ (fun db hdb => ?_)
    split
    · exact hs
    · rename_i ht
      split
      · rename_i hf
        exact hb _ (.retryTask hdb (DevDb.findTask_eq ht) hf)
      · exact hs
  | cancelWorkflow taskId =>
    change S (cancelWorkflow taskId)
    unfold cancelWorkflow
    split
    · exact hs
    · rename_i hid
      cases given_eq_some hid
      exact hb _ .cancelWorkflow
  | approveWorkflow =>
    refine hread _ (fun db hdb => ?_)
    split
    · exact hs
    · rename_i ht
      split
      · rename_i hst
        have h := hb _ (.approveWorkflow hdb (DevDb.findTask_eq ht) hst)
        rw [bind_bind] at h
        refine Eq.mp (congrArg S (congrArg (Prog.bind _) (funext fun log => ?_))) h
        cases log <;> rfl
      · exact hs
  | qaResult result =>
    change S (handleQaResult cfg result)
    unfold handleQaResult
    split
    · exact hdone
    · rename_i mr hmr
      refine hread _ (fun db hdb => ?_)
      split
      · exact hdone
      · rename_i task ht
        split
        · rename_i hc
          obtain ⟨hm, hmt⟩ := List.mem_filter.1 (ht ▸ List.mem_singleton_self task)
          exact hb _ (.qaResult hdb hmr hm (of_decide_eq_true hmt) hc.1)
        · exact hdone
      · exact hraise

section

variable {ν μ : Type} {M : Monitor DevDb Update Call Call.Reply ν μ} (cfg : Settings) (now : Time)

/-- A rule that holds for the bodies of a request holds for its program. -/
theorem guarded_of_bodies {m : μ} (request) (hb : ∀ {α : Type} (p : Dev α),
    Body cfg (fun db => M.view db = M.seen m) request p → p.Guarded M m (fun _ => M.mayCommit)) :
    (program cfg request).Guarded M m (fun _ _ => True) :=
  program_of_bodies (S := fun p => p.Guarded M m (fun _ _ => True)) request (fun _ => guarded_get_bind) trivial trivial
    (fun p hp => (hb p hp).seq (fun _ _ hc => guarded_save hc trivial) (fun _ _ _ => trivial))

private theorem noCommit_forEach {f : α → Dev Unit} {id : α → String} (h : ∀ a, Concerns (id a) (f a)) (as) :
    NoCommit (forEach f as) :=
  only_forEach (fun a _ => (h a).noCommit)

private theorem noCommit_startPending : NoCommit (startPending cfg now) := by
  refine only_get_bind (fun db => ?_)
  change NoCommit (if _ then _ else _)
  split
  · exact only_get_bind (fun db => noCommit_forEach (concerns_startTask cfg now) _)
  · trivial

private theorem noCommit_restartPlanning : NoCommit (restartPlanning cfg now) := by
  refine only_get_bind (fun db => ?_)
  change NoCommit (if _ then _ else _)
  split
  · exact only_get_bind (fun db => noCommit_forEach (concerns_restartTask cfg now) _)
  · trivial

private theorem noCommit_pollActive : NoCommit (pollActive cfg now) :=
  only_get_bind (fun _ => noCommit_forEach (concerns_pollTask cfg now) _)

theorem resumes_program (request) : (program cfg request).Resumes M := by
  refine program_of_bodies (R := fun _ => True) request
    (fun _ h => resumes_get_bind (fun db => h db trivial)) trivial trivial (fun p hp => ?_)
  have hn : NoCommit p := by
    cases hp with
    | nothing => trivial
    | tasksReady => exact noCommit_forEach (concerns_intakeTask cfg _) _
    | reconcile =>
      exact (noCommit_pollActive cfg _).bind
        (fun _ => (noCommit_startPending cfg _).bind (fun _ => noCommit_restartPlanning cfg _))
    | expireStale => exact noCommit_forEach concerns_expireTask _
    | retryTask => exact (concerns_updateStatus _ _ _).noCommit
    | cancelWorkflow => exact (concerns_updateStatus _ _ _).noCommit
    | approveWorkflow =>
      refine (only_getByTaskId _).bind (fun log => ?_)
      cases log with
      | none => trivial
      | some log => exact (concerns_approveLogged cfg _ _ _ log).noCommit
    | qaResult => exact (concerns_decideTask _ _).noCommit
  exact hn.resumes_bind (fun _ => resumes_save)

end

end WisdoverseCell.DevAgent.Transactions
