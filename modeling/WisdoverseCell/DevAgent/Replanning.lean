import WisdoverseCell.DevAgent.ApprovedPlan

/-!
# Planning again from the accepted input

The logs of a task begin with its input.  A task with a single log is planned from that input, and one with more, to
which a plan was appended, is not planned at all: `get_by_task_id` raises.  So every call of `plan_and_execute` for a
task gets the input with which the task was accepted.
-/

namespace WisdoverseCell.DevAgent

open List Option Table

variable {sanitized : SanitizedTask} {reply : PlanReply} {cfg : Config} {s t u : Sys} {task : DevTask} {id : String}

/-! ### What the steps do to the logs -/

/-- Tasks stay, logs are appended, and only to tasks. -/
structure Grows (s t : Sys) : Prop where
  tasks : ∀ id, (s.tasks.get id).isSome → (t.tasks.get id).isSome
  logs : s.logs <+: t.logs
  filed : ∀ log ∈ t.logs, log ∈ s.logs ∨ (t.tasks.get log.taskId).isSome

private theorem Grows.trans (h : Grows s t) (h' : Grows t u) : Grows s u where
  tasks := fun id hid => h'.tasks id (h.tasks id hid)
  logs := h.logs.trans h'.logs
  filed := by
    intro log hl
    rcases h'.filed log hl with hl | hl
    · exact (h.filed log hl).imp_right (h'.tasks _)
    · exact .inr hl

private theorem grows_of_keepsRisk (hk : KeepsRisk s.tasks t.tasks) (hl : t.logs = s.logs) : Grows s t where
  tasks := by
    intro id hid
    obtain ⟨task, hg⟩ := isSome_iff_exists.1 hid
    obtain ⟨task', hg', -⟩ := hk id task hg
    exact isSome_iff_exists.2 ⟨task', hg'⟩
  logs := by rw [hl]
  filed := fun log hm => .inl (hl ▸ hm)

private theorem grows_of_eq (ht : t.tasks = s.tasks) (hl : t.logs = s.logs) : Grows s t :=
  grows_of_keepsRisk (ht ▸ KeepsRisk.refl _) hl

private theorem Grows.setStatus (h : Grows s t) (taskId status workflowId) :
    Grows s (t.setStatus taskId status none workflowId) :=
  h.trans (grows_of_keepsRisk (setStatus_keepsRisk t taskId status none workflowId) rfl)

private theorem Grows.addLog (h : Grows s t) (json) (hid : (t.tasks.get id).isSome) : Grows s (t.addLog id json) := by
  refine h.trans ⟨fun _ h => h, prefix_append _ _, fun log hl => ?_⟩
  rcases mem_concat.1 hl with hl | rfl
  · exact .inl hl
  · exact .inr hid

private theorem Grows.executeWorkflow {plan releasedBy reply} (h : Grows s t) :
    Grows s (executeWorkflow cfg t task plan releasedBy reply) := by
  unfold DevAgent.executeWorkflow
  split
  · have hs := h.trans (grows_of_eq (t := { t with
      submissions := t.submissions ++ [⟨task.id, task.riskLevel, injectProjectId cfg plan, releasedBy⟩] }) rfl rfl)
    cases reply with
    | started => exact hs.setStatus _ _ _
    | failed => exact hs.setStatus _ _ _
    | raised => exact hs
  · exact h

private theorem Grows.planAndExecute {risk} (h : Grows s t) (hid : (t.tasks.get task.id).isSome) :
    Grows s (planAndExecute cfg t sanitized task risk reply) := by
  have hp := (h.setStatus task.id .planning none).trans
    (grows_of_eq (t := (t.setStatus task.id .planning none none).planFrom task.id sanitized) rfl rfl)
  have ht := (grows_of_keepsRisk (setStatus_keepsRisk t task.id .planning none none) rfl).tasks _ hid
  unfold DevAgent.planAndExecute
  cases reply.planned with
  | none => exact hp.setStatus _ _ _
  | some plan =>
    dsimp only
    split
    · exact hp.setStatus _ _ _
    · split
      · split
        · exact hp
        · rename_i u approvalId hr
          obtain ⟨hu, hl, -⟩ := requestWorkflowApproval_frame hr
          exact ((hp.trans (grows_of_eq hu hl)).addLog _ (hu ▸ ht)).setStatus _ _ _
      · exact (hp.addLog _ ht).executeWorkflow

/-- An accepted task is new, and its input is its first log. -/
theorem grows_processSingleTask (h : processSingleTask cfg s id sanitized reply = some t) :
    s.tasks.get id = none ∧ ∃ tasks, KeepsRisk s.tasks tasks ∧ (tasks.get id).isSome ∧
      Grows (({ s with tasks := tasks } : Sys).addLog id (.taskInput sanitized)) t := by
  obtain ⟨-, h⟩ := ite_none_left_eq_some.1 h
  obtain ⟨tasks, hi, rfl⟩ := map_eq_some_iff.1 h
  have hg : (tasks.get id).isSome := isSome_iff_exists.2 ⟨_, get_insert_self hi⟩
  refine ⟨get_eq_none.2 (insert_eq_some hi).2, tasks, insert_keepsRisk hi, hg, ?_⟩
  dsimp only
  split
  · exact (grows_of_eq rfl rfl).planAndExecute hg
  · exact grows_of_eq rfl rfl

private theorem grows_approveWorkflow {now request reply}
    (h : approveWorkflow cfg now s request reply = some t) : Grows s t := by
  unfold approveWorkflow at h
  obtain ⟨⟨task, log⟩, -, h⟩ := bind_eq_some_iff.1 h
  obtain ⟨-, h⟩ := ite_none_left_eq_some.1 h
  obtain ⟨⟨t', releasedBy⟩, hg, h⟩ := bind_eq_some_iff.1 h
  obtain ⟨ht, hl, -⟩ := approveForSensitiveAction_frame hg
  have hk := grows_of_eq ht hl
  dsimp only at h
  split at h
  · cases h
    exact hk
  · cases h
    exact hk.executeWorkflow

private theorem grows_startPendingTask (h : startPendingTask cfg s id reply = some t) : Grows s t := by
  obtain ⟨task, hg, h⟩ := bind_eq_some_iff.1 h
  obtain ⟨log, -, h⟩ := bind_eq_some_iff.1 h
  have hs : s.tasks.get task.id = some task := (get_eq_some.1 hg).2 ▸ hg
  dsimp only at h
  split at h
  · cases h
    exact (grows_of_eq rfl rfl).planAndExecute (isSome_iff_exists.2 ⟨task, hs⟩)
  · cases h

private theorem grows_step {a} (h : step cfg s a = some t) : Grows s t := by
  cases effect_of_step h with
  | ready h =>
    obtain ⟨-, tasks, hk, hid, ht⟩ := grows_processSingleTask h
    exact ((grows_of_keepsRisk (t := { s with tasks := tasks }) hk rfl).addLog _ hid).trans ht
  | start h => exact grows_startPendingTask h
  | approve h => exact grows_approveWorkflow h
  | status ht => exact grows_of_keepsRisk (updateStatus_keepsRisk ht) rfl
  | plane => exact grows_of_eq rfl rfl

/-! ### What the steps do to the calls -/

private theorem planned_executeWorkflow {plan releasedBy reply} :
    (executeWorkflow cfg s task plan releasedBy reply).planned = s.planned := by
  unfold executeWorkflow
  split
  · cases reply <;> rfl
  · rfl

/-- `plan_and_execute` is called once, with that input. -/
theorem planned_planAndExecute {risk} :
    (planAndExecute cfg s sanitized task risk reply).planned = s.planned ++ [⟨task.id, sanitized⟩] := by
  unfold planAndExecute
  cases reply.planned with
  | none => rfl
  | some plan =>
    dsimp only
    split
    · rfl
    · split
      · split
        · rfl
        · rename_i u approvalId hr
          exact (requestWorkflowApproval_frame hr).2.2
      · exact planned_executeWorkflow

private theorem planned_processSingleTask (h : processSingleTask cfg s id sanitized reply = some t) :
    t.planned = s.planned ∨ t.planned = s.planned ++ [⟨id, sanitized⟩] := by
  obtain ⟨-, h⟩ := ite_none_left_eq_some.1 h
  obtain ⟨tasks, -, rfl⟩ := map_eq_some_iff.1 h
  dsimp only
  split
  · exact .inr planned_planAndExecute
  · exact .inl rfl

/-- A task that is started is planned from its log. -/
theorem planned_startPendingTask (h : startPendingTask cfg s id reply = some t) : ∃ task log,
    s.tasks.get id = some task ∧ getByTaskId s id = some log ∧ t.planned = s.planned ++ [⟨id, task.input log⟩] := by
  obtain ⟨task, hg, h⟩ := bind_eq_some_iff.1 h
  obtain ⟨log, hl, h⟩ := bind_eq_some_iff.1 h
  obtain ⟨-, h⟩ := ite_none_right_eq_some.1 h
  cases h
  refine ⟨task, log, hg, hl, ?_⟩
  rw [planned_planAndExecute, (get_eq_some.1 hg).2]

private theorem planned_approveWorkflow {now request reply} (h : approveWorkflow cfg now s request reply = some t) :
    t.planned = s.planned := by
  unfold approveWorkflow at h
  obtain ⟨⟨task, log⟩, -, h⟩ := bind_eq_some_iff.1 h
  obtain ⟨-, h⟩ := ite_none_left_eq_some.1 h
  obtain ⟨⟨t', releasedBy⟩, hg, h⟩ := bind_eq_some_iff.1 h
  have hp := (approveForSensitiveAction_frame hg).2.2.2
  dsimp only at h
  split at h
  · cases h
    exact hp
  · cases h
    exact planned_executeWorkflow.trans hp

/-- A step calls `plan_and_execute` at most once: for a task that is new, from its input, or for one that is there,
from its log. -/
theorem planned_step {a} (h : step cfg s a = some t) : t.planned = s.planned ∨
    ∃ id input, t.planned = s.planned ++ [⟨id, input⟩] ∧ (t.tasks.get id).isSome ∧
      (s.tasks.get id = none ∨ ∃ (task : DevTask) (log : _), getByTaskId s id = some log ∧ input = task.input log) := by
  have hg := grows_step h
  cases effect_of_step h with
  | ready h =>
    obtain ⟨hn, tasks, -, hid, ht⟩ := grows_processSingleTask h
    exact (planned_processSingleTask h).imp_right (fun hp => ⟨_, _, hp, ht.tasks _ hid, .inl hn⟩)
  | start h =>
    obtain ⟨task, log, hs, hl, hp⟩ := planned_startPendingTask h
    exact .inr ⟨_, _, hp, hg.tasks _ (isSome_iff_exists.2 ⟨task, hs⟩), .inr ⟨task, log, hl, rfl⟩⟩
  | approve h => exact .inl (planned_approveWorkflow h)
  | status => exact .inl rfl
  | plane => exact .inl rfl

/-! ### The input of every plan -/

/-- Logs and calls are of tasks that exist. -/
structure Filed (s : Sys) : Prop where
  logs : ∀ log ∈ s.logs, (s.tasks.get log.taskId).isSome
  planned : ∀ call ∈ s.planned, (s.tasks.get call.taskId).isSome

private theorem Filed.step {a} (h : Filed s) (hs : DevAgent.step cfg s a = some t) : Filed t := by
  have hg := grows_step hs
  refine ⟨fun log hl => ?_, fun call hc => ?_⟩
  · exact (hg.filed log hl).elim (fun hl => hg.tasks _ (h.logs log hl)) (fun hl => hl)
  · rcases planned_step hs with hp | ⟨id, input, hp, hid, -⟩
    · exact hg.tasks _ (h.planned call (hp ▸ hc))
    · rw [hp] at hc
      rcases mem_concat.1 hc with hc | rfl
      · exact hg.tasks _ (h.planned call hc)
      · exact hid

/-- The task exists, its first log is the input, and it has been planned from nothing else. -/
structure Begins (s : Sys) (id : String) (sanitized : SanitizedTask) : Prop where
  task : (s.tasks.get id).isSome
  logged : [⟨id, .taskInput sanitized⟩] <+: s.logsOf id
  planned : ∀ call ∈ s.planned, call.taskId = id → call.input = sanitized

private theorem Begins.input_eq {log} (h : Begins s id sanitized) (hl : getByTaskId s id = some log) :
    task.input log = sanitized := by
  obtain ⟨rest, hr⟩ := h.logged
  rw [getByTaskId_eq, ← hr] at hl
  -- the only log is the first one
  cases rest with
  | nil =>
    cases hl
    rfl
  | cons => cases hl

private theorem Begins.step {a} (h : Begins s id sanitized) (hs : DevAgent.step cfg s a = some t) :
    Begins t id sanitized := by
  have hg := grows_step hs
  refine ⟨hg.tasks id h.task, h.logged.trans (hg.logs.filter _), fun call hc hid => ?_⟩
  rcases planned_step hs with hp | ⟨id', input, hp, -, hin⟩
  · exact h.planned call (hp ▸ hc) hid
  · rw [hp] at hc
    rcases mem_concat.1 hc with hc | rfl
    · exact h.planned call hc hid
    · cases hid
      rcases hin with hn | ⟨task, log, hl, rfl⟩
      · have ht := h.task
        rw [hn] at ht
        cases ht
      · exact h.input_eq hl

private theorem begins_of_ready (hf : Filed s) (h : processSingleTask cfg s id sanitized reply = some t) :
    Begins t id sanitized := by
  obtain ⟨hn, tasks, -, hid, hg⟩ := grows_processSingleTask h
  have hs : s.logsOf id = [] := by
    refine filter_eq_nil_iff.2 (fun log hm heq => ?_)
    have ht := hf.logs log hm
    rw [of_decide_eq_true heq, hn] at ht
    cases ht
  have hl : (s.addLog id (.taskInput sanitized)).logsOf id <+: t.logsOf id := hg.logs.filter _
  rw [logsOf_addLog_self, hs, nil_append] at hl
  refine ⟨hg.tasks id hid, hl, fun call hc hcid => ?_⟩
  have hold (hc : call ∈ s.planned) : call.input = sanitized := by
    have ht := hf.planned call hc
    rw [hcid, hn] at ht
    cases ht
  rcases planned_processSingleTask h with hp | hp
  · exact hold (hp ▸ hc)
  · rw [hp] at hc
    rcases mem_concat.1 hc with hc | rfl
    · exact hold hc
    · rfl

/-- A task is accepted once, every call of `plan_and_execute` for it so far got the accepted input, and so does the
call of every later start or retry. -/
theorem replanning_uses_accepted_input {s₀} (hf : Filed s₀) (hrun : Run (Steps (step cfg)) Always s₀ s)
    (hacc : step cfg s (.taskReady id sanitized reply) = some t) (hlater : Run (Steps (step cfg)) Always t u) :
    (∀ input reply, step cfg u (.taskReady id input reply) = none) ∧
    (∀ call ∈ u.planned, call.taskId = id → call.input = sanitized) ∧
    ∀ reply v, step cfg u (.startTask id reply) = some v → v.planned = u.planned ++ [⟨id, sanitized⟩] := by
  have hs : Filed s := hrun.invariant (I := Filed) hf (fun _ _ _ h _ hs => h.step hs)
  have hb : Begins u id sanitized := hlater.invariant (I := fun u => Begins u id sanitized) (begins_of_ready hs hacc)
    (fun _ _ _ h _ hs => h.step hs)
  refine ⟨fun input reply => ?_, hb.planned, fun reply v hv => ?_⟩
  · refine eq_none_iff_forall_ne_some.2 (fun v hv => ?_)
    have ht := hb.task
    rw [(grows_processSingleTask hv).1] at ht
    cases ht
  · obtain ⟨task, log, -, hl, hp⟩ := planned_startPendingTask hv
    rw [hp, hb.input_eq hl]

def endpoint : SanitizedTask := { title := "Add endpoint", description := "GET /items", estimatedHours := 3 }

/-- The intake finds no plan, and the retried task is planned from the input of the intake. -/
theorem replanning_uses_accepted_input_retried :
    ∃ t u v, step demoConfig noTasks (.taskReady "dev_1" endpoint ⟨none, none, .raised⟩) = some t ∧
      Run (Steps (step demoConfig)) Always t u ∧ step demoConfig u (.startTask "dev_1" ⟨none, none, .raised⟩) = some v ∧
      v.planned = u.planned ++ [⟨"dev_1", endpoint⟩] := by
  have hs : (step demoConfig noTasks (.taskReady "dev_1" endpoint ⟨none, none, .raised⟩)).any (fun t =>
      (exec (step demoConfig) Always t [.retryTask "dev_1"]).any (fun u =>
        (step demoConfig u (.startTask "dev_1" ⟨none, none, .raised⟩)).isSome)) := by decide +kernel
  obtain ⟨t, ht, hs⟩ := (any_eq_true _ _).1 hs
  obtain ⟨u, hu, hs⟩ := (any_eq_true _ _).1 hs
  obtain ⟨v, hv⟩ := isSome_iff_exists.1 hs
  have hr := run_of_exec hu
  have hf : Filed noTasks := ⟨forall_mem_nil _, forall_mem_nil _⟩
  exact ⟨t, u, v, ht, hr, hv, (replanning_uses_accepted_input hf .refl ht hr).2.2 _ v hv⟩

end WisdoverseCell.DevAgent
