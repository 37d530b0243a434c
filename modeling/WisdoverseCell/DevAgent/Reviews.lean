import WisdoverseCell.DevAgent.AlonePrograms
import WisdoverseCell.Library.JsonText

/-!
# Tasks in review

The attempts of a task share its merge request.  The latest `qa.run-requested` event for the merge request of a task in
review is the one of its current attempt (`Reviewed`).  A transaction that is alone keeps this and, apart from
cancellations and QA results, the rows in review (`calm`).
-/

namespace WisdoverseCell.DevAgent.Transactions

open Prog List Option Table
open ControlPlane (Time)

variable {a b row : TaskRow} {db : DevDb} {status : TaskStatus} {change : TaskChange} {id : String} {mrIid : Option Nat}

/-! ### Requests -/

def qaRequest : DevEvent → Option QaRequest
  | .qaRunRequested request => some request
  | .workflowCreated _ _ | .mrCreated _ _ => none

def lastRequest (db : DevDb) (mr : Nat) : Option QaRequest :=
  ((db.outbox.filterMap qaRequest).filter (fun request => request.mrIid = some mr)).getLast?

private theorem lastRequest_addEvent (db) (event mr) : lastRequest (db.apply (.addEvent event)) mr =
      ((qaRequest event).filter (fun request => request.mrIid = some mr)).or (lastRequest db mr) := by
  dsimp only [lastRequest, DevDb.apply]
  rw [filterMap_append, filter_append, getLast?_append]
  cases hr : qaRequest event with
  | none => simp [hr]
  | some request => by_cases hmr : request.mrIid = some mr <;> simp [hr, hmr, Option.filter]

private theorem lastRequest_addEvent_of_none {event} (h : qaRequest event = none) (db) (mr) :
    lastRequest (db.apply (.addEvent event)) mr = lastRequest db mr := by
  rw [lastRequest_addEvent, h]
  rfl

def Call.mergeRequest : (c : Call) → c.Reply → Option (String × Nat)
  | .checkExistingMr branch, .ok (some (some mr)) => some (branch, mr)
  | .createMr branch, .ok (some mr) => some (branch, mr)
  | _, _ => none

def Consistent (owner : Nat → String) (c : Call) (r : c.Reply) : Prop :=
  ∀ answer ∈ c.mergeRequest r, owner answer.2 = answer.1

instance (owner : Nat → String) (c : Call) (r : c.Reply) : Decidable (Consistent owner c r) :=
  inferInstanceAs (Decidable (∀ answer ∈ c.mergeRequest r, owner answer.2 = answer.1))

/-! ### The invariant -/

/-- The merge requests of the tasks: `owner` is the branch of each merge request. -/
structure OwnBranches (owner : Nat → String) (db : DevDb) : Prop where
  unique : ∀ a ∈ db.tasks, ∀ b ∈ db.tasks, a.wpId = b.wpId → a = b
  owned : ∀ row ∈ db.tasks, ∀ mr ∈ row.mrIid, owner mr = sourceBranch row

/-- The current attempt of a task in review is the latest for which its merge request was to be tested. -/
structure Reviewed (owner : Nat → String) (db : DevDb) : Prop extends OwnBranches owner db where
  latest : ∀ row ∈ db.tasks, row.status = .reviewing → ∀ mr ∈ row.mrIid,
    lastRequest db mr = some ⟨row.id, row.retryCount, row.mrIid⟩

private theorem sourceBranch_inj (h : sourceBranch a = sourceBranch b) : a.wpId = b.wpId := by
  have ht := congrArg String.toList h
  unfold sourceBranch at ht
  rw [String.toList_append, String.toList_append] at ht
  exact Json.toString_int_inj (String.toList_inj.1 (append_cancel_left ht))

variable {owner : Nat → String}

private theorem OwnBranches.eq_of_mrIid (h : OwnBranches owner db) (ha : a ∈ db.tasks) (hb : b ∈ db.tasks) {mr}
    (ham : a.mrIid = some mr) (hbm : b.mrIid = some mr) : a = b := by
  refine h.unique a ha b hb (sourceBranch_inj ?_)
  exact (h.owned a ha mr ham).symm.trans (h.owned b hb mr hbm)

/-! ### Updates -/

private theorem mem_setTask_of_ne (h : row ∈ db.tasks) (hne : row.id ≠ id) :
    row ∈ (db.apply (.setTask id change)).tasks := by
  have hg : (db.apply (.setTask id change)).tasks.get row.id = some row := by
    rw [db.get_apply]
    exact (if_neg (Ne.symm hne)).trans (get_of_mem h)
  exact (get_eq_some.1 hg).1

private theorem get_setTask (change) (h : db.tasks.get id = some row) :
    (db.apply (.setTask id change)).tasks.get id = some (change.write row) := by
  rw [db.get_apply]
  dsimp only
  rw [if_pos rfl, h, map_some]

private theorem of_mem_setTask {row'} (hr : db.tasks.get id = some row)
    (h : row' ∈ (db.apply (.setTask id change)).tasks) :
    row' = change.write row ∨ (row' ∈ db.tasks ∧ row'.id ≠ id) := by
  obtain ⟨old, ho, hc⟩ := of_mem_modify change.write_id h
  rcases hc with ⟨hid, rfl⟩ | ⟨hid, rfl⟩
  · left
    rw [some.inj ((get_eq_some.2 ⟨ho, hid⟩).symm.trans hr)]
  · exact .inr ⟨ho, hid⟩

/-- The only merge request that an update brings is one of the task's branch. -/
def TaskChange.Owned (owner : Nat → String) (row : TaskRow) (change : TaskChange) : Prop :=
  ∀ mr, change.mrIid = some (some mr) → owner mr = sourceBranch row

theorem TaskChange.owned_of_none (h : change.mrIid = none) (row) : change.Owned owner row := by
  intro mr hmr
  rw [h] at hmr
  cases hmr

private theorem OwnBranches.setTask (h : OwnBranches owner db) (hr : db.tasks.get id = some row)
    (hmr : change.Owned owner row) : OwnBranches owner (db.apply (.setTask id change)) := by
  obtain ⟨hm, hid⟩ := get_eq_some.1 hr
  refine ⟨fun a ha b hb hwp => ?_, fun a ha mr ham => ?_⟩
  · rcases of_mem_setTask hr ha with rfl | ⟨ha, han⟩ <;> rcases of_mem_setTask hr hb with rfl | ⟨hb, hbn⟩
    · rfl
    · exact absurd ((congrArg TaskRow.id (h.unique row hm b hb hwp)).symm.trans hid) hbn
    · exact absurd ((congrArg TaskRow.id (h.unique a ha row hm hwp)).trans hid) han
    · exact h.unique a ha b hb hwp
  · rcases of_mem_setTask hr ha with rfl | ⟨ha, -⟩
    · dsimp only [TaskChange.write] at ham
      cases hc : change.mrIid with
      | none =>
        rw [hc] at ham
        exact h.owned row hm mr ham
      | some =>
        rw [hc, getD_some] at ham
        exact hmr mr (hc.trans (congrArg some ham))
    · exact h.owned a ha mr ham

/-- The invariant is kept, and so are the rows in review except those of the tasks that are decided. -/
def calm (owner : Nat → String) (decided : Set String) : Change DevDb where
  rel db db' := (Reviewed owner db → Reviewed owner db') ∧
    ∀ row ∈ db.tasks, row.status = .reviewing → row.id ∉ decided → row ∈ db'.tasks
  refl _ := ⟨fun h => h, fun _ hrow _ _ => hrow⟩
  trans _ _ _ h h' := ⟨fun hdb => h'.1 (h.1 hdb), fun row hrow hstatus hnot =>
    h'.2 row (h.2 row hrow hstatus hnot) hstatus hnot⟩

variable {decided : Set String}

/-- A write that leaves reviews alone is calm. -/
theorem calm_setTask (hr : db.tasks.get id = some row) (hb : row.status = .reviewing → id ∈ decided)
    (haf : (change.write row).status ≠ .reviewing) (hmr : change.Owned owner row) :
    (calm owner decided).rel db (db.apply (.setTask id change)) := by
  refine ⟨fun h => ⟨h.toOwnBranches.setTask hr hmr, fun a ha hs => ?_⟩, fun a ha hs hn => ?_⟩
  · rcases of_mem_setTask hr ha with rfl | ⟨ha, -⟩
    · exact absurd hs haf
    · exact h.latest a ha hs
  · refine mem_setTask_of_ne ha (fun heq => hn ?_)
    rw [heq]
    refine hb ?_
    rw [← some.inj ((get_eq_some.2 ⟨ha, heq⟩).symm.trans hr)]
    exact hs

private theorem calm_of_eq {db'} (ht : db'.tasks = db.tasks) (hr : ∀ mr, lastRequest db' mr = lastRequest db mr) :
    (calm owner decided).rel db db' := by
  refine ⟨fun h => ⟨⟨?_, ?_⟩, ?_⟩, ?_⟩
  · rw [ht]
    exact h.unique
  · rw [ht]
    exact h.owned
  · rw [ht]
    intro row hrw hs mr hmr
    rw [hr]
    exact h.latest row hrw hs mr hmr
  · rw [ht]
    exact fun row hrw _ _ => hrw

private theorem calm_addEvents {events : List DevEvent} (h : ∀ event ∈ events, qaRequest event = none) (db) :
    (calm owner decided).rel db ((events.map Update.addEvent).foldl DevDb.apply db) := by
  induction events generalizing db with
  | nil => exact (calm owner decided).refl db
  | cons event events ih =>
    have hev : (calm owner decided).rel db (db.apply (.addEvent event)) :=
      calm_of_eq rfl (lastRequest_addEvent_of_none (h event mem_cons_self) db)
    exact (calm owner decided).trans _ _ _ hev (ih (fun e he => h e (mem_cons_of_mem _ he)) _)

private theorem calm_insertTask (hwp : db.hasWorkPackage row.wpId = false) (hid : db.tasks.get row.id = none)
    (hmr : row.mrIid = none) (hs : row.status ≠ .reviewing) :
    (calm owner decided).rel db (db.apply (.insertTask row)) := by
  have hrw (a : TaskRow) : a ∈ (db.apply (.insertTask row)).tasks ↔ a ∈ db.tasks ∨ a = row := by
    obtain ⟨tasks, hi⟩ := insert_isSome hid
    dsimp only [DevDb.apply]
    rw [hi]
    exact mem_insert hi
  have hn (a : TaskRow) (ha : a ∈ db.tasks) : a.wpId ≠ row.wpId := by
    intro heq
    have han : db.hasWorkPackage row.wpId = true := any_eq_true.2 ⟨a, ha, decide_eq_true heq⟩
    rw [hwp] at han
    cases han
  refine ⟨fun h => ⟨⟨fun a ha b hb heq => ?_, fun a ha mr ham => ?_⟩, fun a ha hr => ?_⟩, fun a ha _ _ => ?_⟩
  · rcases (hrw a).1 ha with ha' | rfl <;> rcases (hrw b).1 hb with hb' | rfl
    · exact h.unique a ha' b hb' heq
    · exact absurd heq (hn a ha')
    · exact absurd heq.symm (hn b hb')
    · rfl
  · rcases (hrw a).1 ha with ha | rfl
    · exact h.owned a ha mr ham
    · rw [hmr] at ham
      cases ham
  · rcases (hrw a).1 ha with ha | rfl
    · exact h.latest a ha hr
    · exact absurd hr hs
  · exact (hrw a).2 (.inl ha)

/-! ### A task that is not in review -/

def Away (id : String) (db : DevDb) : Prop := ∀ row, db.tasks.get id = some row → row.status ≠ .reviewing

theorem away_of_get (h : db.tasks.get id = some row) (hs : row.status ≠ .reviewing) : Away id db := by
  intro row' hr'
  rw [h] at hr'
  exact some.inj hr' ▸ hs

def calmFor (owner : Nat → String) (id : String) : Change DevDb where
  rel db db' := Away id db → Away id db' ∧ (calm owner ∅).rel db db'
  refl db h := ⟨h, (calm owner ∅).refl db⟩
  trans a b c h h' ha := ⟨(h' (h ha).1).1, (calm owner ∅).trans a b c (h ha).2 (h' (h ha).1).2⟩

def Part.starts (id : String) (part : Part) : Prop := part.executes id ∨ part = .update id .planning none

theorem Part.starts.calmFor (part : Part) (h : part.starts id) : part.changes (calmFor owner id) := by
  have hu {status : TaskStatus} (hs : status ≠ .reviewing) :
      (Part.update id status none).changes (Transactions.calmFor owner id) := by
    intro db row change hrw _ hn _ hmr ha
    have haf : (change.write row).status ≠ .reviewing := by rwa [TaskChange.write, hn]
    refine ⟨away_of_get (get_setTask change hrw) haf, ?_⟩
    exact calm_setTask hrw (fun hr => absurd hr (ha row hrw)) haf (TaskChange.owned_of_none hmr row)
  rcases h with h | rfl
  · cases part with
    | call => trivial
    | log => exact fun db ha => ⟨ha, calm_of_eq rfl (fun _ => rfl)⟩
    | event => exact h.elim
    | polled => exact h.elim
    | update =>
      obtain ⟨rfl, hs, rfl⟩ := h
      refine hu ?_
      rcases hs with rfl | rfl | rfl <;> decide
  · exact hu (by decide)

section

variable {cfg : Settings} {A : (c : Call) → c.Reply → Prop} {I : DevDb → Prop} {db : DevDb}

private theorem makes_planAndExecute (owner) (now : Time) (sanitized : SanitizedTask) (task) (risk) :
    (devAgent cfg).Makes A I (calmFor owner task.id) (planAndExecute cfg now sanitized task risk) := by
  obtain ⟨rest, heq, hr⟩ := planAndExecute_eq cfg now task sanitized risk
  rw [heq]
  exact (MadeOf.update (.inr rfl) rfl (fun b => (hr b).mono (fun _ => .inl))).makes Part.starts.calmFor

private theorem returns_executeWorkflow (now plan) (task) :
    (executeWorkflow cfg now plan task).Returns (fun events => ∀ event ∈ events, qaRequest event = none) := by
  unfold executeWorkflow
  split
  · refine Returns.catching ?_ (fun fault => ?_)
    · refine returns_bind (fun workflowId => returns_bind (fun _ => returns_bind (fun _ => ?_) _) _) _
      exact forall_mem_singleton.2 rfl
    · cases fault with
      | forge => exact returns_bind (fun _ => by exact forall_mem_nil _) _
      | approvalRequired => trivial
      | other => trivial
  · exact forall_mem_nil _

private theorem returns_planAndExecute (now sanitized) (task) (risk) :
    (planAndExecute cfg now sanitized task risk).Returns (fun events => ∀ event ∈ events, qaRequest event = none) := by
  have hn : (Prog.done [] : Dev (List DevEvent)).Returns (fun events => ∀ event ∈ events, qaRequest event = none) :=
    forall_mem_nil _
  refine returns_bind (fun _ => returns_bind (fun planned => ?_) _) _
  cases planned with
  | none => exact returns_bind (fun _ => hn) _
  | some =>
    dsimp only
    split
    · exact returns_bind (fun _ => hn) _
    · split
      · exact returns_bind (fun _ => returns_bind (fun _ => returns_bind (fun _ => hn) _) _) _
      · exact returns_bind (fun _ => returns_executeWorkflow now _ task) _

abbrev StaysCalm {α : Type} (owner : Nat → String) (cfg : Settings) (A : (c : Call) → c.Reply → Prop) (I : DevDb → Prop)
    (db : DevDb) (p : Dev α) : Prop :=
  p.Guarded ((devAgent cfg).whole A I) db (fun _ db' => (calm owner ∅).rel db db')

private theorem staysCalm_startTask (now) {task : TaskRow} (h : Away task.id db) :
    StaysCalm owner cfg A I db (startTask cfg now task) := by
  refine Guarded.handle (R := fun _ db' => (calm owner ∅).rel db db') ?_ (fun _ _ hc => hc) (fun _ _ hc => hc)
  refine Guarded.seq (R := fun r db' => (calm owner ∅).rel db db' ∧
    ∀ events, r = .ok events → ∀ event ∈ events, qaRequest event = none) ?_ (fun events db' hs => ?_)
    (fun _ _ hs => hs.1)
  · refine Guarded.bind (whole_getByTaskId (fun r => ?_))
    cases r with
    | error => exact ⟨(calm owner ∅).refl db, fun _ heq => by cases heq⟩
    | ok =>
      refine ((makes_planAndExecute owner now _ task _ db).returns (returns_planAndExecute now _ task _)).mono
        (fun r db' hr => ?_)
      exact ⟨(hr.1 h).2, hr.2⟩
  · exact whole_stage events ((calm owner ∅).trans _ _ _ hs.1 (calm_addEvents (hs.2 events rfl) db'))

/-- The intake touches no task in review. -/
theorem staysCalm_intakeTask (now ready) : StaysCalm owner cfg A I db (intakeTask cfg now ready) := by
  refine Guarded.handle (R := fun _ db' => (calm owner ∅).rel db db') ?_ (fun _ _ hc => hc) (fun _ _ hc => hc)
  refine Guarded.seq (R := fun _ db' => (calm owner ∅).rel db db') ?_ (fun _ _ hc => hc) (fun _ _ hc => hc)
  refine Guarded.bind (whole_createTask ((calm owner ∅).refl db) ((calm owner ∅).refl db) (fun hwp hid => ?_))
  refine Guarded.bind (guarded_update trivial (guarded_whole_get ?_))
  have hn : (calm owner ∅).rel db ((db.apply (.insertTask (newTask now ready.id ready.sanitized))).apply
      (.addLog ⟨ready.id, .taskInput ready.sanitized⟩)) :=
    (calm owner ∅).trans _ _ _ (calm_insertTask hwp hid rfl TaskStatus.noConfusion) (calm_of_eq rfl (fun _ => rfl))
  have ha : Away ready.id (db.apply (.insertTask (newTask now ready.id ready.sanitized))) := by
    obtain ⟨tasks, hi⟩ := insert_isSome hid
    dsimp only [DevDb.apply]
    rw [hi]
    exact away_of_get (get_insert_self hi) TaskStatus.noConfusion
  change Guarded _ (if _ < _ then _ else _) _ _
  split
  · refine (makes_planAndExecute owner now _ (newTask now ready.id ready.sanitized) _ _).mono (fun _ _ hr => ?_)
    exact (calm owner ∅).trans _ _ _ hn (hr ha).2
  · exact hn

/-! ### The result of a workflow -/

def At (task : TaskRow) (status : TaskStatus) (mrIid : Option Nat) (db : DevDb) : Prop :=
  ∃ row, db.tasks.get task.id = some row ∧ row.status = status ∧ row.mrIid = mrIid ∧ row.wpId = task.wpId ∧
    row.retryCount = task.retryCount

variable {task : TaskRow}

private theorem At.setTask (h : At task status mrIid db) (change) (hr : change.retryCount = none) :
    At task (change.status.getD status) (change.mrIid.getD mrIid) (db.apply (.setTask task.id change)) := by
  obtain ⟨row, hrw, rfl, rfl, hwp, hc⟩ := h
  refine ⟨change.write row, get_setTask change hrw, rfl, rfl, hwp, ?_⟩
  rw [TaskChange.write, hr]
  exact hc

private theorem At.calm_write (h : At task status mrIid db) (hb : status ≠ .reviewing)
    (ha : change.status.getD status ≠ .reviewing) (hmr : change.Owned owner task) :
    (calm owner ∅).rel db (db.apply (.setTask task.id change)) := by
  obtain ⟨row, hrw, rfl, -, hwp, -⟩ := h
  refine calm_setTask hrw (fun hr => absurd hr hb) ha (fun mr hn => ?_)
  rw [sourceBranch, hwp]
  exact hmr mr hn

private theorem whole_advance (owner) {next Q} (h : At task status mrIid db) (hc : canTransition status next = true)
    (hs : status ≠ .reviewing ∧ next ≠ .reviewing) (hr : change.retryCount = none) (hmr : change.Owned owner task)
    (hQ : ∀ db', At task next (change.mrIid.getD mrIid) db' → (calm owner ∅).rel db db' → Q (.ok true) db') :
    (updateStatus task.id next change).Guarded ((devAgent cfg).whole A I) db Q := by
  refine whole_updateStatus (fun hno => ?_) (fun _ _ _ => hQ _ ?_ ?_)
  · obtain ⟨row, hrw, rfl, -⟩ := h
    have hn := hno row hrw
    rw [hc] at hn
    cases hn
  · exact h.setTask { change with status := some next } hr
  · exact h.calm_write hs.1 hs.2 hmr

private theorem calm_review (h : At task .qaTriggered mrIid db) :
    (calm owner ∅).rel db ((([.qaRunRequested ⟨task.id, task.retryCount, mrIid⟩,
      .mrCreated task.wpId (sourceBranch task)] : List DevEvent).map Update.addEvent).foldl DevDb.apply
        (db.apply (.setTask task.id { status := some .reviewing }))) := by
  obtain ⟨row, hrw, hs, rfl, hwp, hc⟩ := h
  obtain ⟨hm, hid⟩ := get_eq_some.1 hrw
  refine ⟨fun h => ?_, fun a ha hr _ => ?_⟩
  · have hb : OwnBranches owner (db.apply (.setTask task.id { status := some .reviewing })) :=
      h.toOwnBranches.setTask hrw (TaskChange.owned_of_none rfl row)
    refine ⟨⟨hb.unique, hb.owned⟩, fun a ha hr mr hmr => ?_⟩
    refine (lastRequest_addEvent_of_none rfl _ mr).trans ?_
    rw [lastRequest_addEvent]
    rcases of_mem_setTask hrw ha with rfl | ⟨ha, hne⟩
    · have hmr' : row.mrIid = some mr := hmr
      simp [qaRequest, Option.filter, TaskChange.write, hmr', hc, hid]
    · -- another task has another branch, and so another merge request
      have ho : row.mrIid ≠ some mr := fun hsm =>
        hne ((congrArg TaskRow.id (h.toOwnBranches.eq_of_mrIid ha hm hmr hsm)).trans hid)
      rw [← h.latest a ha hr mr hmr]
      simp [qaRequest, Option.filter, ho]
      rfl
  · refine mem_setTask_of_ne ha (fun heq => ?_)
    have hsm := some.inj ((get_eq_some.2 ⟨ha, heq⟩).symm.trans hrw)
    rw [hsm, hs] at hr
    cases hr

private theorem whole_mergeRequest {Q} (he : ∀ e, Q (.error e) db)
    (hok : ∀ mrIid : Option Nat, (∀ mr, mrIid = some mr → owner mr = sourceBranch task) → Q (.ok mrIid) db) :
    (mergeRequest task).Guarded ((devAgent cfg).whole (Consistent owner) I) db Q := by
  refine Guarded.bind (whole_ask rfl (fun r hr => ?_))
  match r, hr with
  | .error e, _ => exact he e
  | .ok (some mrIid), hr =>
    refine hok mrIid (fun mr hmr => ?_)
    subst hmr
    exact hr (sourceBranch task, mr) rfl
  | .ok none, _ =>
    refine whole_ask rfl (fun r hr => ?_)
    match r, hr with
    | .error e, _ => exact he e
    | .ok mrIid, hr =>
      refine hok mrIid (fun mr hmr => ?_)
      subst hmr
      exact hr (sourceBranch task, mr) rfl

def Staged (owner : Nat → String) (db : DevDb) (r : Except Fault (List DevEvent)) (db' : DevDb) : Prop :=
  match r with
  | .ok events => (calm owner ∅).rel db ((events.map Update.addEvent).foldl DevDb.apply db')
  | .error _ => (calm owner ∅).rel db db'

private theorem staged_handleCompletion (workspacePath) (h : At task .executing mrIid db) :
    (handleCompletion task workspacePath).Guarded ((devAgent cfg).whole (Consistent owner) I) db (Staged owner db) := by
  have hf {db' : DevDb} {status : TaskStatus} {mrIid : Option Nat} (hat : At task status mrIid db')
      (hcn : canTransition status .failed = true) (hs : status ≠ .reviewing)
      (hc : (calm owner ∅).rel db db') :
      (updateStatus task.id .failed {}).Guarded ((devAgent cfg).whole (Consistent owner) I) db'
        (fun _ db'' => (calm owner ∅).rel db db'') := by
    refine whole_advance owner hat hcn ⟨hs, TaskStatus.noConfusion⟩ rfl (TaskChange.owned_of_none rfl task)
      (fun db'' _ hr => ?_)
    exact (calm owner ∅).trans _ _ _ hc hr
  refine Guarded.bind (whole_getByTaskId (fun r => ?_))
  cases r with
  | error => exact (calm owner ∅).refl db
  | ok =>
    refine Guarded.bind (whole_advance owner h rfl (by decide) rfl (TaskChange.owned_of_none rfl task)
      (fun db₁ h₁ hr₁ => ?_))
    refine Guarded.bind (whole_ask rfl (fun r _ => ?_))
    match r with
    | .error e => exact hr₁
    | .ok false =>
      exact (hf h₁ rfl (by decide) hr₁).seq (fun _ _ hr => hr) (fun _ _ hr => hr)
    | .ok true =>
      refine Guarded.bind (whole_advance owner h₁ rfl (by decide) rfl (TaskChange.owned_of_none rfl task)
        (fun db₂ h₂ hr => ?_))
      have hr₂ := (calm owner ∅).trans _ _ _ hr₁ hr
      refine Guarded.seq (R := fun r db' => (calm owner ∅).rel db db' ∧
        ∀ mr, r = .ok (some mr) → At task .mrCreated mr db') ?_ (fun created db₃ h₃ => ?_) (fun _ _ h₃ => h₃.1)
      · refine Guarded.catching (Guarded.bind (whole_mergeRequest (fun e => ?_) (fun mr hmr => ?_)))
        · refine (hf h₂ rfl (by decide) hr₂).seq (fun _ _ hr => ⟨hr, fun _ heq => ?_⟩)
            (fun _ _ hr => ⟨hr, fun _ heq => ?_⟩) <;> cases heq
        · refine Guarded.bind (whole_advance owner h₂ rfl (by decide) rfl ?_ (fun db₃ h₃ hr => ?_))
          · exact fun n hn => hmr n (some.inj hn)
          · refine ⟨(calm owner ∅).trans _ _ _ hr₂ hr, fun mr' heq => ?_⟩
            obtain rfl := some.inj (Except.ok.inj heq)
            exact h₃
      · cases created with
        | none => exact h₃.1
        | some mr =>
          obtain ⟨hr₃, h₃⟩ := h₃
          refine Guarded.bind (whole_advance owner (h₃ mr rfl) rfl (by decide) rfl (TaskChange.owned_of_none rfl task)
            (fun db₄ h₄ hr => ?_))
          have hr₄ := (calm owner ∅).trans _ _ _ hr₃ hr
          refine Guarded.bind (whole_updateStatus (fun hno => ?_) (fun row hrw _ => ?_))
          · obtain ⟨row, hrw, hs, -⟩ := h₄
            have hnt := hno row hrw
            rw [hs] at hnt
            cases hnt
          · exact (calm owner ∅).trans _ _ _ hr₄ (calm_review h₄)

private theorem staysCalm_pollWorkflow (workflowId) (h : At task .executing mrIid db) :
    StaysCalm owner cfg (Consistent owner) I db (pollWorkflow cfg task workflowId) := by
  have hsm := (calm owner ∅).refl db
  unfold pollWorkflow
  split
  · refine Guarded.bind (whole_ask rfl (fun r _ => ?_))
    rcases r with e | _ | workspacePath
    · exact hsm
    · exact hsm
    · change StaysCalm owner cfg (Consistent owner) I db (if cfg.gitlab then _ else _)
      split
      · exact (staged_handleCompletion workspacePath h).seq (fun events db' hs => whole_stage events hs)
          (fun _ _ hr => hr)
      · exact Guarded.bind (whole_advance owner h rfl (by decide) rfl (TaskChange.owned_of_none rfl task)
          (fun _ _ hr => hr))
  · exact hsm

private theorem staysCalm_pollTask (now) (hr : db.tasks.get task.id = some task) :
    StaysCalm owner cfg (Consistent owner) I db (pollTask cfg now task) := by
  have hsm := (calm owner ∅).refl db
  unfold pollTask
  split
  · rename_i workflowId startedAt _ _
    split
    · rename_i hs
      have hat : At task .executing task.mrIid db := ⟨task, hr, hs, rfl, rfl, rfl⟩
      split
      · exact Guarded.bind (whole_advance owner hat rfl (by decide) rfl (TaskChange.owned_of_none rfl task)
          (fun _ _ hrl => hrl))
      · split
        · exact hsm
        · -- the poll is recorded first, whatever comes of it
          refine Guarded.bind (guarded_whole_get ?_)
          rw [hr]
          have hp : (calm owner ∅).rel db (db.apply (.setTask task.id { lastPolledAt := some now })) :=
            hat.calm_write TaskStatus.noConfusion TaskStatus.noConfusion (TaskChange.owned_of_none rfl task)
          refine guarded_update trivial ?_
          refine Guarded.handle (staysCalm_pollWorkflow workflowId (hat.setTask { lastPolledAt := some now } rfl))
            (fun _ db' hrl => ?_) (fun _ db' hrl => ?_)
          · exact (calm owner ∅).trans _ _ _ hp hrl
          · exact (calm owner ∅).trans _ _ _ hp hrl
    · exact hsm
  · exact hsm

/-! ### Reconciliation -/

/-- Polling decides no review. -/
theorem makes_pollActive (owner) (now) :
    (devAgent cfg).Makes (Consistent owner) I (calm owner ∅) (pollActive cfg now) := by
  intro db
  refine guarded_whole_get (whole_forEach_rows (db.nodup_filter _) (concerns_pollTask cfg now)
    (fun row _ db' hr => staysCalm_pollTask now hr) (fun row hrw => ?_))
  exact get_of_mem (List.mem_filter.1 hrw).1

private theorem makes_slots {f} (hs : status ≠ .reviewing) (hc : ∀ row, Concerns row.id (f row))
    (hf : ∀ db row, Away row.id db → StaysCalm owner cfg A I db (f row)) :
    (devAgent cfg).Makes A I (calm owner ∅) (do
      let activeCount ← countActiveWorkflows
      if activeCount < cfg.maxConcurrentWorkflows then do
        let db ← Prog.get
        forEach f (db.oldest status (cfg.maxConcurrentWorkflows - activeCount))
      else return ()) := by
  intro db
  refine guarded_whole_get ?_
  change StaysCalm owner cfg A I db (if _ < _ then _ else _)
  split
  · refine guarded_whole_get (whole_forEach_rows (db.nodup_oldest _ _) hc (fun row hrw db' hr => ?_)
      (fun row hrw => ?_))
    · exact hf db' row (away_of_get hr ((DevDb.mem_oldest hrw).2 ▸ hs))
    · exact get_of_mem (DevDb.mem_oldest hrw).1
  · exact (calm owner ∅).refl db

theorem makes_startPending (owner) (now) : (devAgent cfg).Makes A I (calm owner ∅) (startPending cfg now) :=
  makes_slots (by decide) (concerns_startTask cfg now) (fun _ _ ha => staysCalm_startTask now ha)

theorem makes_restartPlanning (owner) (now) : (devAgent cfg).Makes A I (calm owner ∅) (restartPlanning cfg now) := by
  refine makes_slots (by decide) (concerns_restartTask cfg now) (fun db row ha => ?_)
  unfold restartTask
  split
  · exact staysCalm_startTask now ha
  · exact (calm owner ∅).refl db

end

end WisdoverseCell.DevAgent.Transactions
