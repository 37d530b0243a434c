import WisdoverseCell.DevAgent.TaskRows

/-!
# The monitor of one task

`rowMonitor id` follows the row of one task through a transaction: its status moves along the lifecycle, its retries are
counted, and a run is started only for a task that is planned or approved.  With `counted`, a transaction also has to
record each run before it goes on.
-/

namespace WisdoverseCell.DevAgent.Transactions

open Prog List Option Table

variable {β α : Type} {status : TaskStatus} {sanitized : SanitizedTask} {row : TaskRow} {rows : List TaskRow}
  {db : DevDb} {cfg : Settings} {change : TaskChange} {taskId : String} {p : Dev α}

/-- The row of the task, whether a run of it is not recorded yet, and whether it was retried in this transaction. -/
structure RowState where
  row : Option TaskRow
  running : Bool
  retried : Bool

def relevant (id : String) : Update → Bool
  | .insertTask row => row.id = id
  | .setTask taskId _ => taskId = id
  | .addLog _ | .addEvent _ => false

def isRun (id : String) : Call → Bool
  | .runWorkflow taskId _ => taskId = id
  | _ => false

def handled (c : Call) (r : c.Reply) : Bool :=
  match c, r with
  | .runWorkflow _ _, .ok _ => true
  | .runWorkflow _ _, .error fault => fault = .forge
  | _, _ => true

def TaskStatus.startable (status : TaskStatus) : Bool := status = .planning ∨ status = .awaitingApproval

def MayChange (running : Bool) (row : TaskRow) (change : TaskChange) : Prop :=
  match change.status with
  | none => change.retryCount = none ∧ running = false
  | some status =>
    canTransition row.status status = true ∧
      change.retryCount = (if row.status = .failed then some (row.retryCount + 1) else none) ∧
      (running = true → status = .executing ∨ status = .failed)

def RowState.write (id : String) (m : RowState) : Update → RowState
  | .insertTask row => if row.id = id then { m with row := m.row.or (some row) } else m
  | .setTask taskId change =>
    if taskId = id then
      { row := m.row.map change.write
        running := m.running && change.status.isNone
        retried := m.retried || change.retryCount.isSome }
    else m
  | .addLog _ | .addEvent _ => m

def RowState.MayWrite (id : String) (m : RowState) : Update → Prop
  | .insertTask row => row.id = id → m.row = none ∧ row.status = .pending ∧ row.retryCount = 0
  | .setTask taskId change => taskId = id → ∃ row, m.row = some row ∧ MayChange m.running row change
  | .addLog _ | .addEvent _ => True

def RowState.MayRun (m : RowState) : Prop :=
  (∃ row, m.row = some row ∧ TaskStatus.startable row.status = true) ∧ m.running = false ∧ m.retried = false

def rowMonitor (id : String) (counted : Bool) : Monitor DevDb Update Call Call.Reply (Option TaskRow) RowState where
  view db := db.tasks.get id
  seen m := m.row
  begin row := ⟨row, false, false⟩
  write := RowState.write id
  call m c _ := { m with running := m.running || (counted && isRun id c) }
  mayWrite := RowState.MayWrite id
  mayCall m c := isRun id c = true → m.MayRun
  mayCommit m := m.running = false
  answers c r := counted = true → handled c r = true

structure RowState.Idle (m : RowState) : Prop where
  running : m.running = false
  retried : m.retried = false

/-- What a write does to one row. -/
theorem DevDb.get_apply (db : DevDb) (id) (w) :
    (db.apply w).tasks.get id = match w with
      | .insertTask row => if row.id = id then (db.tasks.get id).or (some row) else db.tasks.get id
      | .setTask taskId change => if taskId = id then (db.tasks.get id).map change.write else db.tasks.get id
      | .addLog _ | .addEvent _ => db.tasks.get id := by
  cases w with
  | insertTask row =>
    dsimp only [DevDb.apply]
    cases hg : db.tasks.get row.id with
    | none =>
      obtain ⟨tasks, hi⟩ := insert_isSome hg
      rw [hi, getD_some, get_insert hi]
      by_cases hid : row.id = id
      · rw [if_pos hid.symm, if_pos hid, ← hid, hg]
        rfl
      · rw [if_neg (Ne.symm hid), if_neg hid]
    | some row' =>
      have hn : db.tasks.insert row = none := by
        cases hi : db.tasks.insert row with
        | none => rfl
        | some => exact absurd (get_eq_some.1 hg).2 ((insert_eq_some hi).2 row' (get_eq_some.1 hg).1)
      rw [hn, getD_none]
      split
      · rename_i hid
        rw [← hid, hg]
        rfl
      · rfl
  | setTask taskId =>
    dsimp only [DevDb.apply]
    rw [get_modify]
    by_cases hid : taskId = id
    · rw [if_pos hid.symm, if_pos hid]
    · rw [if_neg (Ne.symm hid), if_neg hid]
  | addLog => rfl
  | addEvent => rfl

/-- The monitor of one row sees every step that concerns it. -/
theorem follows_rowMonitor (cfg : Settings) (id) (counted) :
    (rowMonitor id counted).Follows (devAgent cfg) (relevant id) where
  seen_begin _ := rfl
  seen_call _ _ _ := rfl
  seen_write db m w h := by
    change (db.apply w).tasks.get id = (m.write id w).row
    replace h : db.tasks.get id = m.row := h
    rw [db.get_apply]
    cases w <;> simp only [RowState.write, h] <;> split <;> rfl
  view_apply db w h := by
    change (db.apply w).tasks.get id = db.tasks.get id
    rw [db.get_apply]
    cases w <;> simp_all [relevant]
  view_congr db db' w h := by
    change (db.apply w).tasks.get id = (db'.apply w).tasks.get id
    replace h : db.tasks.get id = db'.tasks.get id := h
    rw [db.get_apply, db'.get_apply, h]

private theorem RowState.Idle.write {m : RowState} (h : m.Idle) (id taskId) (hr : change.retryCount = none) :
    (m.write id (.setTask taskId change)).Idle := by
  by_cases hid : taskId = id
  · constructor <;> simp [RowState.write, hid, h.running, h.retried, hr]
  · simpa [RowState.write, hid] using h

/-! ### Status updates -/

variable {Q : Except Fault Unit → RowState → Prop} {f : α → Dev β}

section

variable {id : String} {counted : Bool} {m : RowState}

/-- A call that is not a run of the row leaves the monitor as it is. -/
theorem unheard {c} (hn : isRun id c = false) :
    (rowMonitor id counted).mayCall m c ∧ ∀ r, (rowMonitor id counted).call m c r = m := by
  refine ⟨fun hr => absurd hr (by simp [hn]), fun r => ?_⟩
  change ({ m with running := m.running || (counted && isRun id c) } : RowState) = m
  rw [hn, Bool.and_false, Bool.or_false]

private theorem guarded_of_concerns {Q} (h : Concerns taskId p) (ho : taskId ≠ id)
    (hQ : ∀ r, Q r m) : p.Guarded (rowMonitor id counted) m Q := by
  refine guarded_of_only h (fun u hu => ?_) (fun c hc => ?_) hQ
  · cases u with
    | insertTask row =>
      have hne : row.id ≠ id := fun heq => ho ((show row.id = taskId from hu).symm.trans heq)
      exact ⟨fun heq => absurd heq hne, if_neg hne⟩
    | setTask taskId' =>
      have hne : taskId' ≠ id := fun heq => ho ((show taskId' = taskId from hu).symm.trans heq)
      exact ⟨fun heq => absurd heq hne, if_neg hne⟩
    | addLog => exact ⟨trivial, rfl⟩
    | addEvent => exact ⟨trivial, rfl⟩
  · have hn : isRun id c = false := by
      cases c with
      | runWorkflow taskId' =>
        have hne : taskId' ≠ id := fun heq => ho ((show taskId' = taskId from hc).symm.trans heq)
        exact decide_eq_false hne
      | _ => rfl
    exact unheard hn

abbrev Silent {α : Type} (id : String) (p : Dev α) : Prop := p.Only (fun _ => False) (fun c => isRun id c = false)

private theorem silent_ask {c} (h : c.Reply = Except Fault α) (hc : isRun id c = false) : Silent id (ask c h) :=
  ⟨hc, fun _ => only_ofExcept _⟩

private theorem guarded_silent_bind {Q} (h : Silent id p)
    (hf : ∀ a, (f a).Guarded (rowMonitor id counted) m Q) (he : ∀ e, Q (.error e) m) :
    (p.bind f).Guarded (rowMonitor id counted) m Q := by
  refine Guarded.bind (guarded_of_only h (fun _ hfl => hfl.elim) (fun c hc => unheard hc) (fun r => ?_))
  cases r with
  | ok a => exact hf a
  | error e => exact he e

private theorem guarded_createLog {json} (hQ : Q (.ok ()) m) :
    (createLog taskId json).Guarded (rowMonitor id counted) m Q :=
  guarded_update trivial hQ

private theorem guarded_stage {events} (hQ : Q (.ok ()) m) : (stage events).Guarded (rowMonitor id counted) m Q := by
  refine guarded_forEach (I := fun _ m' => m' = m) (fun event events m' hm => guarded_update trivial hm)
    (fun m' hm => ?_) rfl
  rw [hm]
  exact hQ

private theorem guarded_updateStatus {Q}
    (hr : (∀ row, m.row = some row → canTransition row.status status = false) → Q (.ok false) m)
    (hw : ∀ row, m.row = some row → canTransition row.status status = true →
      MayChange m.running row { change with status := some status } ∧
        Q (.ok true) (m.write id (.setTask id { change with status := some status }))) :
    (updateStatus id status change).Guarded (rowMonitor id counted) m Q := by
  refine guarded_get_bind (fun db hdb => ?_)
  replace hdb : db.tasks.get id = m.row := hdb
  split
  · rename_i hn
    refine hr (fun row hrw => ?_)
    rw [hdb, hrw] at hn
    cases hn
  · rename_i row hs
    rw [hdb] at hs
    split
    · rename_i hc
      obtain ⟨hm, hQ⟩ := hw row hs hc
      exact Guarded.bind (guarded_update (fun _ => ⟨row, hs, hm⟩) hQ)
    · rename_i hc
      refine hr (fun row' hr' => ?_)
      rw [hs] at hr'
      cases hr'
      exact Bool.not_eq_true _ ▸ hc

private theorem ne_failed_of_canTransition {current target} (h : canTransition current target = true)
    (hne : target ≠ .planning) : current ≠ .failed := by
  rintro rfl
  cases target <;> simp_all [canTransition, TaskStatus.validTransitions]

abbrev KeepsIdle {α : Type} (id : String) (counted : Bool) (m : RowState) (p : Dev α) : Prop :=
  p.Guarded (rowMonitor id counted) m (fun _ m' => m'.Idle)

private theorem keepsIdle_bind (h : KeepsIdle id counted m p) (hf : ∀ a m', m'.Idle → KeepsIdle id counted m' (f a)) :
    KeepsIdle id counted m (p.bind f) :=
  h.seq hf (fun _ _ hi => hi)

private theorem keepsIdle_catching {handler} (h : KeepsIdle id counted m p)
    (hh : ∀ e m', m'.Idle → KeepsIdle id counted m' (handler e)) : KeepsIdle id counted m (p.catching handler) :=
  h.handle (fun _ _ hi => hi) hh

private theorem keepsIdle_forEach {f : α → Dev Unit} {as} (h : m.Idle)
    (hf : ∀ a m', m'.Idle → KeepsIdle id counted m' (f a)) : KeepsIdle id counted m (forEach f as) := by
  refine guarded_forEach (I := fun _ m' => m'.Idle) (fun a as m' hm => ?_) (fun _ hm => hm) h
  refine (hf a m' hm).mono (fun r m' hm' => ?_)
  cases r <;> exact hm'

private theorem keepsIdle_updateStatus (h : m.Idle) (hs : status ≠ .planning) (hr : change.retryCount = none) :
    KeepsIdle id counted m (updateStatus taskId status change) := by
  by_cases hid : taskId = id
  · subst hid
    refine guarded_updateStatus (fun _ => h) (fun row hrw hc => ?_)
    have hf := ne_failed_of_canTransition hc hs
    refine ⟨⟨hc, ?_, ?_⟩, h.write taskId taskId hr⟩
    · simp [hr, hf]
    · simp [h.running]
  · exact guarded_of_concerns (concerns_updateStatus taskId status change) hid (fun _ => h)

/-! ### Planning and execution -/

structure RowState.Started (m : RowState) : Prop where
  row : ∃ row, m.row = some row ∧ TaskStatus.startable row.status = true
  retried : m.retried = false

private theorem guarded_settle (h : m.Started) (hs : status = .executing ∨ status = .failed)
    (hr : change.retryCount = none) :
    (updateStatus id status change).Guarded (rowMonitor id counted) m (fun r m' => m'.Idle ∧ ∃ b, r = .ok b) := by
  have hsp (row : TaskRow) (hrw : m.row = some row) : canTransition row.status status = true ∧
    row.status ≠ .failed := by
    obtain ⟨row', hr', hst⟩ := h.row
    obtain rfl := some.inj (hrw.symm.trans hr')
    rcases of_decide_eq_true hst with heq | heq <;> rcases hs with rfl | rfl <;>
      simp [heq, canTransition, TaskStatus.validTransitions]
  refine guarded_updateStatus (fun hno => ?_) (fun row hrw hc => ?_)
  · obtain ⟨row, hrw, -⟩ := h.row
    exact absurd (hsp row hrw).1 (by simp [hno row hrw])
  · refine ⟨⟨hc, ?_, fun _ => hs⟩, ⟨?_, ?_⟩, true, rfl⟩
    · simp [hr, (hsp row hrw).2]
    · simp [RowState.write]
    · simp [RowState.write, h.retried, hr]

variable (cfg : Settings) (now : ControlPlane.Time) {task : TaskRow}

/-- In the middle of `execute_workflow`: a fault of the client leaves the run open. -/
def afterRun : Except Fault (List DevEvent) → RowState → Prop
  | .ok _, m => m.Idle
  | .error fault, m => if fault = .forge then m.Started else m.Idle

private theorem keepsIdle_executeWorkflow {plan} (h : m.Idle) (hs : task.id = id → m.Started) :
    KeepsIdle id counted m (executeWorkflow cfg now plan task) := by
  by_cases hid : task.id = id
  swap
  · exact guarded_of_concerns ((madeOf_executeWorkflow cfg now task plan).concerns Part.executes.concerns) hid
      (fun _ => h)
  subst hid
  have hm := hs rfl
  unfold executeWorkflow
  split
  swap
  · exact h
  refine Guarded.handle (R := afterRun) ?_ (fun _ _ hi => hi) ?_
  · refine guarded_silent_bind (silent_ask rfl rfl) (fun workflowId => ?_) (fun fault => ?_)
    · refine Guarded.bind ⟨fun _ => ⟨hm.row, h.running, h.retried⟩, fun r hr => guarded_ofExcept ?_⟩
      have hrn : ((rowMonitor task.id counted).call m (.runWorkflow task.id workflowId) r).Started :=
        ⟨hm.row, hm.retried⟩
      cases r with
      | ok =>
        refine (guarded_settle hrn (.inl rfl) rfl).seq (fun _ _ hm' => hm'.1) ?_
        rintro fault m' ⟨-, b, hb⟩
        cases hb
      | error fault =>
        change if fault = .forge then _ else _
        split
        · exact hrn
        · rename_i ho
          cases counted with
          | true => exact absurd (of_decide_eq_true (hr rfl)) ho
          | false => exact ⟨by simp [rowMonitor, h.running], h.retried⟩
    · change if fault = .forge then _ else _
      split
      · exact hm
      · exact h
  · intro fault m' hf
    cases fault with
    | forge => exact (guarded_settle hf (.inr rfl) rfl).seq (fun _ _ hm' => hm'.1) (fun _ _ hm' => hm'.1)
    | approvalRequired => exact hf
    | other => exact hf

def RowState.Waiting (m : RowState) : Prop := ∃ row, m.row = some row ∧ (row.status = .pending ∨ row.status = .planning)

private theorem guarded_planning (h : m.Idle) (hw : taskId = id → m.Waiting) :
    (updateStatus taskId .planning {}).Guarded (rowMonitor id counted) m
      (fun _ m' => m'.Idle ∧ (taskId = id → m'.Started)) := by
  by_cases hid : taskId = id
  swap
  · exact guarded_of_concerns (concerns_updateStatus _ _ _) hid (fun _ => ⟨h, fun heq => absurd heq hid⟩)
  subst hid
  obtain ⟨row, hr, hs⟩ := hw rfl
  refine guarded_updateStatus (fun hno => ⟨h, fun _ => ⟨⟨row, hr, ?_⟩, h.retried⟩⟩) (fun row' hr' hc => ?_)
  · -- refused only if the task is in planning already
    rcases hs with hp | hpl
    · have hc := hno row hr
      rw [hp] at hc
      cases hc
    · simp [TaskStatus.startable, hpl]
  · obtain rfl := some.inj (hr.symm.trans hr')
    have hf : row.status ≠ .failed := by rcases hs with heq | heq <;> simp [heq]
    have hi : (m.write taskId (.setTask taskId { status := some .planning })).Idle := h.write taskId taskId rfl
    refine ⟨⟨hc, ?_, ?_⟩, hi, fun _ => ⟨⟨TaskChange.write { status := some .planning } row, ?_, rfl⟩, hi.retried⟩⟩
    · simp [hf]
    · simp [h.running]
    · simp [RowState.write, hr]

private theorem keepsIdle_planAndExecute {risk} (h : m.Idle) (hw : task.id = id → m.Waiting) :
    KeepsIdle id counted m (planAndExecute cfg now sanitized task risk) := by
  have hf (m' : RowState) (hm' : m'.Idle) : KeepsIdle id counted m' (do
      let _ ← updateStatus task.id .failed {}
      return ([] : List DevEvent)) := keepsIdle_bind (keepsIdle_updateStatus hm' (by decide) rfl) (fun _ _ hi => hi)
  refine (guarded_planning h hw).seq (fun _ m' hm' => ?_) (fun _ _ hm' => hm'.1)
  refine guarded_silent_bind (silent_ask rfl rfl) (fun planned => ?_) (fun _ => hm'.1)
  cases planned with
  | none => exact hf m' hm'.1
  | some plan =>
    dsimp only
    split
    · exact hf m' hm'.1
    · split
      · have hs : Silent id (requestWorkflowApproval cfg sanitized task.id
            (routeNodes cfg.toConfig (injectProjectId cfg.toConfig plan))) := by
          refine Only.catching (silent_ask rfl rfl) (fun fault => ?_)
          split <;> trivial
        refine guarded_silent_bind hs (fun approvalId => ?_) (fun _ => hm'.1)
        refine Guarded.bind (guarded_createLog ?_)
        exact keepsIdle_bind (keepsIdle_updateStatus hm'.1 (by decide) rfl) (fun _ _ hi => hi)
      · exact Guarded.bind (guarded_createLog (keepsIdle_executeWorkflow cfg now hm'.1 hm'.2))

private theorem guarded_createTask {Q} (hid : row.id = id)
    (hp : row.status = .pending) (hr : row.retryCount = 0) (he : Q (.ok none) m) (hc : Q (.error .other) m)
    (hn : m.row = none → Q (.ok (some row)) (m.write id (.insertTask row))) :
    (createTask row).Guarded (rowMonitor id counted) m Q := by
  intro db hdb
  replace hdb : db.tasks.get id = m.row := hdb
  cases hwp : db.hasWorkPackage row.wpId with
  | true => simpa [hwp, Prog.Guarded] using he
  | false =>
    cases hrw : m.row with
    | some => simpa [hwp, hid, hdb, hrw, Prog.Guarded] using hc
    | none => simpa [hwp, hid, hdb, hrw] using ⟨fun _ => ⟨hrw, hp, hr⟩, hn hrw⟩

private theorem keepsIdle_processSingleTask (h : m.Idle) :
    KeepsIdle id counted m (processSingleTask cfg now taskId sanitized) := by
  by_cases hid : taskId = id
  swap
  · exact guarded_of_concerns (concerns_processSingleTask cfg now taskId sanitized) hid (fun _ => h)
  subst hid
  refine Guarded.bind (guarded_createTask rfl rfl rfl h h (fun hr => ?_))
  have hi : (m.write taskId (.insertTask (newTask now taskId sanitized))).Idle := by
    constructor <;> simp [RowState.write, newTask, h.running, h.retried]
  refine Guarded.bind (guarded_createLog (guarded_get_bind (fun db _ => ?_)))
  change KeepsIdle taskId counted _ (if _ then _ else _)
  split
  · refine keepsIdle_planAndExecute cfg now hi (fun _ => ⟨newTask now taskId sanitized, ?_, .inl rfl⟩)
    simp [RowState.write, newTask, hr]
  · exact hi

private theorem keepsIdle_markPolled {polledAt : ControlPlane.Time} (h : m.Idle) :
    KeepsIdle id counted m (markPolled taskId polledAt) := by
  by_cases hid : taskId = id
  swap
  · exact guarded_of_concerns (concerns_markPolled taskId polledAt) hid (fun _ => h)
  subst hid
  refine guarded_get_bind (fun db hdb => ?_)
  split
  · exact h
  · rename_i row hr
    exact guarded_update (fun _ => ⟨row, hdb.symm.trans hr, rfl, h.running⟩) (h.write taskId taskId rfl)

private theorem keepsIdle_of_collects (hp : MadeOf (Part.collects taskId) p) (h : m.Idle) :
    KeepsIdle id counted m p := by
  induction hp generalizing m with
  | done => exact h
  | raise => exact h
  | read _ ih => exact fun db _ => ih db h
  | @call c k hP _ ih =>
    have hrn : isRun id c = false := by cases c <;> first | rfl | exact hP.elim
    refine ⟨fun ht => absurd ht (by simp [hrn]), fun r _ => ih r ⟨?_, h.retried⟩⟩
    simp [rowMonitor, hrn, h.running]
  | log hP => exact hP.elim
  | event _ _ ih => exact Guarded.bind (guarded_update trivial (ih () h))
  | polled _ _ ih => exact keepsIdle_bind (keepsIdle_markPolled h) (fun u _ hm' => ih u hm')
  | update hP hr _ ih => exact keepsIdle_bind (keepsIdle_updateStatus h hP.2.1 hr) (fun b _ hm' => ih b hm')

/-! ### Loops over the rows of a query -/

private theorem keepsIdle_forEach_rows {f} (hn : (rows.map TaskRow.id).Nodup)
    (hc : ∀ row, Concerns row.id (f row)) (h : m.Idle) (hrw : ∀ row ∈ rows, row.id = id → m.row = some row)
    (hf : ∀ row ∈ rows, ∀ m', m'.Idle → m'.row = some row → row.id = id → KeepsIdle id counted m' (f row)) :
    KeepsIdle id counted m (forEach f rows) := by
  refine guarded_forEach (I := fun rest m' => m'.Idle ∧ rest ⊆ rows ∧ (rest.map TaskRow.id).Nodup ∧
    ∀ row ∈ rest, row.id = id → m'.row = some row) ?_ (fun _ hm' => hm'.1) ⟨h, Subset.refl _, hn, hrw⟩
  rintro row rest m' ⟨hi, hsb, hd, hs⟩
  rw [map_cons, nodup_cons] at hd
  obtain ⟨hnt, hd⟩ := hd
  have hs' : rest ⊆ rows := fun r hr => hsb (mem_cons_of_mem _ hr)
  by_cases hid : row.id = id
  · refine (hf row (hsb mem_cons_self) m' hi (hs row mem_cons_self hid) hid).mono (fun r m'' hm'' => ?_)
    cases r with
    | error => exact hm''
    | ok =>
      refine ⟨hm'', hs', hd, fun other ho hsm => ?_⟩
      exact absurd (List.mem_map.2 ⟨other, ho, hsm.trans hid.symm⟩) hnt
  · refine guarded_of_concerns (hc row) hid (fun r => ?_)
    cases r with
    | error => exact hi
    | ok => exact ⟨hi, hs', hd, fun other ho => hs other (mem_cons_of_mem _ ho)⟩

theorem DevDb.mem_oldest {limit} (h : row ∈ db.oldest status limit) : row ∈ db.tasks ∧ row.status = status := by
  have hr := (perm_insertionSort _ _).mem_iff.1 (mem_of_mem_take h)
  rw [List.mem_filter, decide_eq_true_iff] at hr
  exact hr

theorem DevDb.nodup_filter (db : DevDb) (p) : ((db.tasks.rows.filter p).map TaskRow.id).Nodup :=
  db.tasks.nodup.sublist (filter_sublist.map TaskRow.id)

theorem DevDb.nodup_oldest (db : DevDb) (status) (limit) : ((db.oldest status limit).map TaskRow.id).Nodup := by
  refine Nodup.sublist ((take_sublist limit _).map TaskRow.id) ?_
  exact ((perm_insertionSort _ _).map TaskRow.id).nodup_iff.2 (db.nodup_filter _)

private theorem row_eq (hdb : (rowMonitor id counted).view db = (rowMonitor id counted).seen m) (hr : row ∈ db.tasks)
    (hid : row.id = id) : m.row = some row := by
  refine (show m.row = db.tasks.get id from hdb.symm).trans ?_
  exact get_eq_some.2 ⟨hr, hid⟩

private theorem keepsIdle_startTask (h : m.Idle) (hw : task.id = id → m.Waiting) :
    KeepsIdle id counted m (startTask cfg now task) := by
  refine keepsIdle_catching ?_ (fun _ _ hi => hi)
  refine keepsIdle_bind ?_ (fun events _ hi => guarded_stage hi)
  exact guarded_silent_bind (only_getByTaskId task.id) (fun log => keepsIdle_planAndExecute cfg now h hw) (fun _ => h)

private theorem keepsIdle_slots {f} (hc : ∀ row, Concerns row.id (f row)) (h : m.Idle)
    (hf : ∀ row m', m'.Idle → m'.row = some row → row.status = status → KeepsIdle id counted m' (f row)) :
    KeepsIdle id counted m (do
      let activeCount ← countActiveWorkflows
      if activeCount < cfg.maxConcurrentWorkflows then do
        let db ← Prog.get
        forEach f (db.oldest status (cfg.maxConcurrentWorkflows - activeCount))
      else return ()) := by
  refine guarded_get_bind (fun db₀ _ => ?_)
  change KeepsIdle id counted m (if _ then _ else _)
  split
  · refine guarded_get_bind (fun db hdb => ?_)
    exact keepsIdle_forEach_rows (db.nodup_oldest _ _) hc h (fun row hr => row_eq hdb (DevDb.mem_oldest hr).1)
      (fun row hr m' hm' hs _ => hf row m' hm' hs (DevDb.mem_oldest hr).2)
  · exact h

private theorem keepsIdle_startPending (h : m.Idle) : KeepsIdle id counted m (startPending cfg now) :=
  keepsIdle_slots cfg (concerns_startTask cfg now) h
    (fun row _ hm' hr hs => keepsIdle_startTask cfg now hm' (fun _ => ⟨row, hr, .inl hs⟩))

private theorem keepsIdle_restartPlanning (h : m.Idle) : KeepsIdle id counted m (restartPlanning cfg now) := by
  refine keepsIdle_slots cfg (concerns_restartTask cfg now) h (fun row m' hm' hr hs => ?_)
  unfold restartTask
  split
  · exact keepsIdle_startTask cfg now hm' (fun _ => ⟨row, hr, .inr hs⟩)
  · exact hm'

private theorem keepsIdle_pollActive (h : m.Idle) : KeepsIdle id counted m (pollActive cfg now) :=
  guarded_get_bind (fun _ _ =>
    keepsIdle_forEach h (fun task _ hm' => keepsIdle_of_collects (madeOf_pollTask cfg now task) hm'))

private theorem keepsIdle_expireStale (hn : (rows.map TaskRow.id).Nodup) (hp : ∀ row ∈ rows, row.status = .pending)
    (h : m.Idle) (hr : ∀ row ∈ rows, row.id = id → m.row = some row) :
    KeepsIdle id counted m (forEach expireTask rows) := by
  refine keepsIdle_forEach_rows hn concerns_expireTask h hr (fun row hrw m' hm' hs hid => ?_)
  unfold expireTask
  split
  · rename_i hc
    refine guarded_update (fun _ => ⟨row, hs, hc, ?_, ?_⟩) (hm'.write id row.id rfl)
    · simp [hp row hrw]
    · simp [hm'.running]
  · exact hm'

/-! ### Requests -/

private theorem keepsIdle_approveLogged {request log} (h : m.Idle)
    (hs : task.id = id → m.Started) : KeepsIdle id counted m (approveLogged cfg now request task log) := by
  unfold approveLogged
  dsimp only
  split
  · exact h
  · refine guarded_silent_bind ?_ (fun granted => ?_) (fun _ => h)
    · refine Only.catching ((silent_ask rfl rfl).bind (fun _ => trivial)) (fun fault => ?_)
      split <;> trivial
    · split
      · split
        · exact h
        · exact keepsIdle_bind (keepsIdle_executeWorkflow cfg now h hs) (fun _ _ hi => hi)
      · exact h

private theorem guarded_retry (h : m.running = false)
    (hr : taskId = id → ∀ row', m.row = some row' → row'.status = .failed ∧ row'.retryCount = row.retryCount) :
    (updateStatus taskId .planning { retryCount := some (row.retryCount + 1) }).Guarded (rowMonitor id counted) m
      (fun _ m' => m'.running = false) := by
  by_cases hid : taskId = id
  swap
  · exact guarded_of_concerns (concerns_updateStatus _ _ _) hid (fun _ => h)
  subst hid
  refine guarded_updateStatus (fun _ => h) (fun row' hr' hcn => ?_)
  obtain ⟨hs, hc⟩ := hr rfl row' hr'
  refine ⟨⟨hcn, ?_, ?_⟩, ?_⟩
  · simp [hs, hc]
  · simp [h]
  · simp [RowState.write, h]

private theorem guarded_reject (h : m.Idle) (hr : change.retryCount = none) (hs : task.status = .reviewing)
    (hrw : task.id = id → m.row = some task) :
    (updateStatus task.id .failed change).Guarded (rowMonitor id counted) m (fun _ m' => m'.running = false ∧
      (task.id = id → ∀ row, m'.row = some row → row.status = .failed ∧ row.retryCount = task.retryCount)) := by
  by_cases hid : task.id = id
  swap
  · exact guarded_of_concerns (concerns_updateStatus _ _ _) hid (fun _ => ⟨h.running, fun heq => absurd heq hid⟩)
  subst hid
  refine guarded_updateStatus (fun hno => ?_) (fun row hr' hc => ?_)
  · have hc := hno task (hrw rfl)
    rw [hs] at hc
    cases hc
  · obtain rfl := some.inj ((hrw rfl).symm.trans hr')
    refine ⟨⟨hc, ?_, ?_⟩, (h.write task.id task.id (by exact hr)).running, fun _ row hr'' => ?_⟩
    · simp [hr, hs]
    · simp [h.running]
    · simp only [RowState.write, if_true, hr', map_some, some.injEq] at hr''
      subst hr''
      simp [TaskChange.write, hr]

private theorem guarded_decideTask {result} (h : m.Idle) (hs : task.status = .reviewing)
    (hr : task.id = id → m.row = some task) :
    (decideTask task result).Guarded (rowMonitor id counted) m (fun _ m' => m'.running = false) := by
  refine guarded_silent_bind (only_getByTaskId task.id) (fun _ => ?_) (fun _ => h.running)
  split
  · refine Guarded.seq (keepsIdle_updateStatus h (by decide) rfl) (fun _ _ hm' => hm'.running)
      (fun _ _ hm' => hm'.running)
  · split
    · refine (guarded_reject h rfl hs hr).seq (fun _ m' hm' => ?_) (fun _ _ hm' => hm'.1)
      exact (guarded_retry hm'.1 hm'.2).seq (fun _ _ hm'' => hm'') (fun _ _ hm'' => hm'')
    · exact (guarded_reject h rfl hs hr).seq (fun _ _ hm' => hm'.1) (fun _ _ hm' => hm'.1)

private theorem guarded_program (request : Request) (row) :
    (program cfg request).Guarded (rowMonitor id counted) ((rowMonitor id counted).begin row) (fun _ _ => True) := by
  have hb : ((rowMonitor id counted).begin row).Idle := ⟨rfl, rfl⟩
  have hr {α : Type} {m : RowState} {p : Dev α} (h : KeepsIdle id counted m p) :
      p.Guarded (rowMonitor id counted) m (fun _ m' => m'.running = false) := h.mono (fun _ _ hm => hm.running)
  refine guarded_of_bodies cfg request (fun p hp => ?_)
  cases hp with
  | nothing => rfl
  | tasksReady =>
    refine hr (keepsIdle_forEach hb (fun ready m hm => keepsIdle_catching ?_ (fun _ _ hi => hi)))
    exact keepsIdle_bind (keepsIdle_processSingleTask cfg _ hm) (fun _ _ hi => hi)
  | reconcile =>
    refine hr (keepsIdle_bind (keepsIdle_pollActive cfg _ hb) (fun _ m₁ h₁ => ?_))
    exact keepsIdle_bind (keepsIdle_startPending cfg _ h₁) (fun _ m₂ h₂ => keepsIdle_restartPlanning cfg _ h₂)
  | @expireStale _ _ db hdb hp =>
    exact hr (keepsIdle_expireStale (db.nodup_filter _) (fun row hm => hp row (List.mem_filter.1 hm).2) hb
      (fun row hm => row_eq hdb (List.mem_filter.1 hm).1))
  | retryTask hdb ht hs =>
    refine guarded_retry rfl (fun hid row' hr' => ?_)
    rw [hid] at ht
    obtain rfl := some.inj (ht.symm.trans (hdb.trans hr'))
    exact ⟨hs, rfl⟩
  | cancelWorkflow => exact hr (keepsIdle_updateStatus hb (by decide) rfl)
  | approveWorkflow hdb ht hs =>
    refine guarded_silent_bind (only_getByTaskId _) (fun log => ?_) (fun _ => rfl)
    cases log with
    | none => rfl
    | some =>
      refine hr (keepsIdle_approveLogged cfg _ hb (fun hid => ⟨⟨_, row_eq hdb (get_eq_some.1 ht).1 hid, ?_⟩, rfl⟩))
      simp [TaskStatus.startable, hs]
  | qaResult hdb _ hm _ hs => exact guarded_decideTask hb hs (row_eq hdb hm)

end

private theorem task_mem_locks {id} (w) (h : relevant id w = true) : Lock.task id ∈ (devAgent cfg).locks w := by
  cases w with
  | insertTask => simp [devAgent, Update.locks, of_decide_eq_true h]
  | setTask => simp [devAgent, Update.locks, of_decide_eq_true h]
  | addLog => cases h
  | addEvent => cases h

/-- The step lemma of the monitor. -/
theorem tracked_step {id counted s t a}
    (h : Tracked (devAgent cfg) (rowMonitor id counted) (relevant id) s) (hfresh : (devAgent cfg).Fresh s a)
    (hs : (devAgent cfg).step s a = some t)
    (han : counted = true → ∀ i reply σ c k, a = .next i reply → s.sessions[i]? = some σ → σ.prog = .call c k →
      handled c (reply c) = true) : Tracked (devAgent cfg) (rowMonitor id counted) (relevant id) t :=
  h.step_fresh (follows_rowMonitor cfg id counted) task_mem_locks hfresh hs
    (fun request _ => ⟨guarded_program cfg request _, resumes_program cfg request⟩)
    (fun i reply σ c k ha hσ hp hc => han hc i reply σ c k ha hσ hp)

end WisdoverseCell.DevAgent.Transactions
