import WisdoverseCell.DevAgent.OwnApproval

/-!
# An approved task executes its latest plan

The last log of a task that awaits approval is its latest plan, and `get_by_task_id` returns it exactly if it is the
only log of the task.  The intake of a task appends its input first, and a retry a second plan: no request approves
these tasks.
-/

namespace WisdoverseCell.DevAgent

open Option Table
open ControlPlane (Time)

variable {retryCount : Option Nat} {status : TaskStatus} {tasks : Table DevTask.id}
  {workflowId approvalId releasedBy : Option String} {reply : PlanReply} {request : ApproveRequest}
  {plan : WorkflowPlan} {sanitized : SanitizedTask} {now : Time} {cfg : Config} {s t u : Sys} {task : DevTask}
  {taskId id : String}

/-! ### Logs of a task -/

def Sys.logsOf (s : Sys) (taskId : String) : List WorkflowLog := s.logs.filter (fun log => log.taskId = taskId)

def WorkflowJson.isPlan : WorkflowJson → Bool
  | .taskInput _ => false
  | .plan _ _ => true

def latestPlan (s : Sys) (taskId : String) : Option WorkflowLog :=
  (s.logsOf taskId).reverse.find? (fun log => log.workflowJson.isPlan)

def Logged (cfg : Config) (s : Sys) (taskId : String) : Prop :=
  ∃ earlier plan approvalId, Prepared cfg plan ∧ s.logsOf taskId = earlier ++ [⟨taskId, .plan plan approvalId⟩]

theorem logsOf_addLog_self (s : Sys) (taskId) (json) :
    (s.addLog taskId json).logsOf taskId = s.logsOf taskId ++ [⟨taskId, json⟩] := by
  simp [Sys.logsOf, Sys.addLog]

private theorem logsOf_addLog_of_ne (s : Sys) (json) (hne : id ≠ taskId) :
    (s.addLog taskId json).logsOf id = s.logsOf id := by
  simp [Sys.logsOf, Sys.addLog, hne.symm]

/-- The lookup raises if a task has more than one log. -/
theorem getByTaskId_eq (s taskId) :
    getByTaskId s taskId = match s.logsOf taskId with
      | [] => some none
      | [log] => some (some log)
      | _ :: _ :: _ => none := rfl

/-! ### What the steps do to tasks that await approval -/

def AwaitingIn (s : Sys) (id : String) : Prop := ∃ task, s.tasks.get id = some task ∧ task.status = .awaitingApproval

/-- Every task that awaits approval did so before, with the same logs. -/
def KeepsAwaiting (s t : Sys) : Prop := ∀ id, AwaitingIn t id → AwaitingIn s id ∧ t.logsOf id = s.logsOf id

private theorem KeepsAwaiting.refl (s) : KeepsAwaiting s s := fun _ h => ⟨h, rfl⟩

private theorem KeepsAwaiting.trans (h : KeepsAwaiting s t) (h' : KeepsAwaiting t u) : KeepsAwaiting s u := by
  intro id hu
  obtain ⟨ht, hl'⟩ := h' id hu
  obtain ⟨hs, hl⟩ := h id ht
  exact ⟨hs, hl'.trans hl⟩

private theorem keepsAwaiting_of_eq (ht : t.tasks = s.tasks) (hl : t.logs = s.logs) : KeepsAwaiting s t := by
  rintro id ⟨task, hg, hs⟩
  rw [ht] at hg
  exact ⟨⟨task, hg, hs⟩, by rw [Sys.logsOf, hl, Sys.logsOf]⟩

private theorem get_of_updateStatus {tasks'}
    (h : updateStatus tasks taskId status retryCount workflowId = some tasks') (k) :
    tasks'.get k = if k = taskId then (tasks.get k).map (fun task => task.moved status retryCount workflowId)
      else tasks.get k := by
  unfold updateStatus at h
  split at h
  · cases h
  · split at h
    · cases h
      exact get_modify _ taskId k
    · cases h

private theorem keepsAwaiting_updateStatus (h : updateStatus s.tasks taskId status retryCount workflowId = some tasks)
    (hs : status ≠ .awaitingApproval) : KeepsAwaiting s { s with tasks := tasks } := by
  rintro id ⟨task, hg, ha⟩
  refine ⟨?_, rfl⟩
  rw [get_of_updateStatus h] at hg
  split at hg
  · obtain ⟨old, -, rfl⟩ := map_eq_some_iff.1 hg
    exact absurd ha hs
  · exact ⟨task, hg, ha⟩

private theorem keepsAwaiting_setStatus (s taskId retryCount workflowId)
    (hs : status ≠ .awaitingApproval) : KeepsAwaiting s (s.setStatus taskId status retryCount workflowId) := by
  unfold Sys.setStatus
  cases h : updateStatus s.tasks taskId status retryCount workflowId with
  | none => exact KeepsAwaiting.refl s
  | some => exact keepsAwaiting_updateStatus h hs

private theorem keepsAwaiting_addLog (json : WorkflowJson) (hn : ¬ AwaitingIn s taskId) :
    KeepsAwaiting s (s.addLog taskId json) := by
  intro id hid
  have hid' : AwaitingIn s id := hid
  refine ⟨hid', logsOf_addLog_of_ne s json ?_⟩
  rintro rfl
  exact hn hid'

private theorem keepsAwaiting_executeWorkflow (s task plan releasedBy)
    (reply) : KeepsAwaiting s (executeWorkflow cfg s task plan releasedBy reply) := by
  unfold executeWorkflow
  split
  · have hs : KeepsAwaiting s { s with
        submissions := s.submissions ++ [⟨task.id, task.riskLevel, injectProjectId cfg plan, releasedBy⟩] } :=
      keepsAwaiting_of_eq rfl rfl
    cases reply with
    | started => exact hs.trans (keepsAwaiting_setStatus _ _ _ _ (by decide))
    | failed => exact hs.trans (keepsAwaiting_setStatus _ _ _ _ (by decide))
    | raised => exact hs
  · exact KeepsAwaiting.refl s

/-- Asking for an approval leaves tasks, logs and plans alone. -/
theorem requestWorkflowApproval_frame {newId}
    (h : requestWorkflowApproval cfg s sanitized taskId plan newId = some (t, approvalId)) :
    t.tasks = s.tasks ∧ t.logs = s.logs ∧ t.planned = s.planned := by
  unfold requestWorkflowApproval at h
  split at h
  · split at h
    · cases h
      exact ⟨rfl, rfl, rfl⟩
    · split at h
      · cases h
      · cases h
        exact ⟨rfl, rfl, rfl⟩
  · cases h
    exact ⟨rfl, rfl, rfl⟩

/-! ### The invariant -/

def AwaitLogged (cfg : Config) (s : Sys) : Prop := ∀ id, AwaitingIn s id → Logged cfg s id

private theorem AwaitLogged.keeps (h : AwaitLogged cfg s) (hk : KeepsAwaiting s t) : AwaitLogged cfg t := by
  intro id hid
  obtain ⟨hs, hl⟩ := hk id hid
  obtain ⟨earlier, plan, approvalId, hp, heq⟩ := h id hs
  exact ⟨earlier, plan, approvalId, hp, hl.trans heq⟩

private theorem AwaitLogged.await (h : AwaitLogged cfg s) (hn : ¬ AwaitingIn s taskId) (hp : Prepared cfg plan) :
    AwaitLogged cfg ((s.addLog taskId (.plan plan approvalId)).setStatus taskId .awaitingApproval none none) := by
  have hl := h.keeps (keepsAwaiting_addLog (.plan plan approvalId) hn)
  unfold Sys.setStatus
  cases hu : updateStatus (s.addLog taskId (.plan plan approvalId)).tasks taskId .awaitingApproval none none with
  | none => exact hl
  | some =>
    rintro id ⟨task, hg, ha⟩
    by_cases hid : id = taskId
    · subst hid
      exact ⟨s.logsOf id, plan, approvalId, hp, logsOf_addLog_self s id _⟩
    · rw [getD_some, get_of_updateStatus hu, if_neg hid] at hg
      exact hl id ⟨task, hg, ha⟩

private theorem not_awaiting_planning (hg : s.tasks.get taskId = some task)
    (hs : task.status = .pending ∨ task.status = .planning) :
    ¬ AwaitingIn (s.setStatus taskId .planning none none) taskId := by
  rintro ⟨task', hg', ha⟩
  unfold Sys.setStatus at hg'
  cases hu : updateStatus s.tasks taskId .planning none none with
  | none =>
    rw [hu, getD_none, hg] at hg'
    cases hg'
    rcases hs with heq | heq <;> rw [heq] at ha <;> cases ha
  | some =>
    rw [hu, getD_some, get_of_updateStatus hu, if_pos rfl] at hg'
    obtain ⟨old, -, rfl⟩ := map_eq_some_iff.1 hg'
    cases ha

private theorem AwaitLogged.planAndExecute {risk} (h : AwaitLogged cfg s) (hg : s.tasks.get task.id = some task)
    (hs : task.status = .pending ∨ task.status = .planning) :
    AwaitLogged cfg (planAndExecute cfg s sanitized task risk reply) := by
  have hp := h.keeps (keepsAwaiting_setStatus s task.id none none (by decide : TaskStatus.planning ≠ .awaitingApproval))
  have hf := hp.keeps (keepsAwaiting_setStatus _ task.id none none (by decide : TaskStatus.failed ≠ .awaitingApproval))
  have hn := not_awaiting_planning hg hs
  unfold DevAgent.planAndExecute
  cases reply.planned with
  | none => exact hf
  | some plan =>
    have hpr := prepared_routeNodes cfg plan
    dsimp only
    split
    · exact hf
    · split
      · split
        · exact hp
        · rename_i t approvalId hr
          obtain ⟨ht, hl, -⟩ := requestWorkflowApproval_frame hr
          refine (hp.keeps (keepsAwaiting_of_eq ht hl)).await ?_ hpr
          rintro ⟨task', hg', ha⟩
          rw [ht] at hg'
          exact hn ⟨task', hg', ha⟩
      · exact (hp.keeps (keepsAwaiting_addLog _ hn)).keeps (keepsAwaiting_executeWorkflow _ _ _ _ _)

private theorem AwaitLogged.processSingleTask (h : AwaitLogged cfg s)
    (hs : processSingleTask cfg s id sanitized reply = some t) : AwaitLogged cfg t := by
  obtain ⟨-, hs⟩ := ite_none_left_eq_some.1 hs
  obtain ⟨tasks, hin, rfl⟩ := map_eq_some_iff.1 hs
  have hg := get_insert_self hin
  have hi : KeepsAwaiting s { s with tasks := tasks } := by
    rintro k ⟨task, hk, ha⟩
    refine ⟨⟨task, ?_, ha⟩, rfl⟩
    rw [get_insert hin] at hk
    split at hk
    · cases hk
      cases ha
    · exact hk
  have hn : ¬ AwaitingIn { s with tasks := tasks } id := by
    rintro ⟨task, hk, ha⟩
    obtain rfl := some.inj (hg.symm.trans hk)
    cases ha
  have hl := (h.keeps hi).keeps (keepsAwaiting_addLog (.taskInput sanitized) hn)
  dsimp only
  split
  · exact hl.planAndExecute hg (.inl rfl)
  · exact hl

private theorem AwaitLogged.startPendingTask (h : AwaitLogged cfg s)
    (hsp : startPendingTask cfg s taskId reply = some t) :
    AwaitLogged cfg t := by
  unfold DevAgent.startPendingTask at hsp
  obtain ⟨task, hg, hsp⟩ := bind_eq_some_iff.1 hsp
  obtain ⟨log, -, hsp⟩ := bind_eq_some_iff.1 hsp
  have hs : s.tasks.get task.id = some task := (get_eq_some.1 hg).2 ▸ hg
  obtain ⟨hst, hsp⟩ := ite_none_right_eq_some.1 hsp
  cases hsp
  exact h.planAndExecute hs (hst.imp_right And.left)

theorem approveForSensitiveAction_frame {resolvedBy}
    (h : approveForSensitiveAction cfg now s approvalId resolvedBy = some (t, releasedBy)) :
    t.tasks = s.tasks ∧ t.logs = s.logs ∧ t.submissions = s.submissions ∧ t.planned = s.planned := by
  unfold approveForSensitiveAction at h
  split at h
  · cases approvalId with
    | none =>
      obtain ⟨-, h⟩ := ite_none_left_eq_some.1 h
      cases h
      exact ⟨rfl, rfl, rfl, rfl⟩
    | some =>
      obtain ⟨t', ha, hp⟩ := map_eq_some_iff.1 h
      obtain ⟨rfl, -⟩ := Prod.mk.inj hp
      obtain ⟨existing, -, ha⟩ := bind_eq_some_iff.1 ha
      split at ha
      · cases ha
      · obtain ⟨plane, -, rfl⟩ := map_eq_some_iff.1 ha
        exact ⟨rfl, rfl, rfl, rfl⟩
  · cases h
    exact ⟨rfl, rfl, rfl, rfl⟩

private theorem keepsAwaiting_approveWorkflow {reply} (hs : approveWorkflow cfg now s request reply = some t) :
    KeepsAwaiting s t := by
  unfold approveWorkflow at hs
  obtain ⟨⟨task, log⟩, -, hs⟩ := bind_eq_some_iff.1 hs
  obtain ⟨-, hs⟩ := ite_none_left_eq_some.1 hs
  obtain ⟨⟨t', releasedBy⟩, hg, hs⟩ := bind_eq_some_iff.1 hs
  obtain ⟨ht, hl, -⟩ := approveForSensitiveAction_frame hg
  have hk := keepsAwaiting_of_eq ht hl
  dsimp only at hs
  split at hs
  · cases hs
    exact hk
  · cases hs
    exact hk.trans (keepsAwaiting_executeWorkflow _ _ _ _ _)

private theorem AwaitLogged.step {a} (h : AwaitLogged cfg s) (hs : DevAgent.step cfg s a = some t) :
    AwaitLogged cfg t := by
  cases effect_of_step hs with
  | ready hs => exact h.processSingleTask hs
  | start hs => exact h.startPendingTask hs
  | approve hs => exact h.keeps (keepsAwaiting_approveWorkflow hs)
  | status ht hn => exact h.keeps (keepsAwaiting_updateStatus ht hn)
  | plane => exact h.keeps (keepsAwaiting_of_eq rfl rfl)

/-! ### Approving -/

def grant (cfg : Config) (now : Time) (s : Sys) (request : ApproveRequest) (log : WorkflowLog) :
    Option (Sys × Option String) :=
  let approvalId := request.resolves log
  let approvedBy := (given request.approvedBy).or (given request.operator)
  if approvalId.isSome ∧ approvedBy.isNone then none
  else approveForSensitiveAction cfg now s approvalId (approvedBy.getD "api")

private theorem grant_submissions {log} (h : grant cfg now s request log = some (t, releasedBy)) :
    t.submissions = s.submissions := by
  unfold grant at h
  dsimp only at h
  split at h
  · cases h
  · exact (approveForSensitiveAction_frame h).2.2.1

private theorem approveWorkflow_of_only_log {reply} (hf : findTask s request.taskId = some task)
    (ha : task.status = .awaitingApproval)
    (hl : getByTaskId s request.taskId = some (some ⟨task.id, .plan plan approvalId⟩)) :
    approveWorkflow cfg now s request reply = (grant cfg now s request ⟨task.id, .plan plan approvalId⟩).map
      (fun granted => executeWorkflow cfg granted.1 task plan granted.2 reply) := by
  have haw : awaitingLog s request.taskId = some (task, ⟨task.id, .plan plan approvalId⟩) := by
    simp [awaitingLog, hf, ha, hl]
  unfold approveWorkflow grant
  rw [haw]
  dsimp only [bind_eq_bind, bind_some]
  split
  · rfl
  · cases approveForSensitiveAction cfg now s _ _ <;> rfl

private theorem submissions_executeWorkflow {reply} (hf : cfg.forge = true) (hp : Prepared cfg plan) :
    (executeWorkflow cfg s task plan releasedBy reply).submissions =
      s.submissions ++ [⟨task.id, task.riskLevel, plan, releasedBy⟩] := by
  unfold executeWorkflow
  rw [if_pos hf, hp]
  cases reply <;> rfl

/-- In every history, the latest plan of a task that awaits approval is its last log, and the lookup returns it if and
only if it is the only one.  Then a request for the task that is granted submits this plan. -/
theorem approved_plan_is_latest_iff (cfg : Config) (s₀ s : Sys)
    (hstart : ∀ task ∈ s₀.tasks, task.status ≠ .awaitingApproval) (hrun : Run (Steps (step cfg)) Always s₀ s)
    (task : DevTask) (htask : task ∈ s.tasks) (hawaiting : task.status = .awaitingApproval) :
    ∃ plan approvalId, latestPlan s task.id = some ⟨task.id, .plan plan approvalId⟩ ∧
      (getByTaskId s task.id = some (latestPlan s task.id) ↔ (s.logsOf task.id).length = 1) ∧
      ((s.logsOf task.id).length = 1 → ∀ now request reply granted releasedBy, findTask s request.taskId = some task →
        grant cfg now s request ⟨task.id, .plan plan approvalId⟩ = some (granted, releasedBy) → cfg.forge = true →
        ∃ t, approveWorkflow cfg now s request reply = some t ∧
          t.submissions = s.submissions ++ [⟨task.id, task.riskLevel, plan, releasedBy⟩]) := by
  have hl : AwaitLogged cfg s := by
    refine hrun.invariant (I := AwaitLogged cfg) (fun id => ?_) (fun _ _ _ h _ hst => h.step hst)
    rintro ⟨task, hgt, hs⟩
    exact absurd hs (hstart task (get_eq_some.1 hgt).1)
  obtain ⟨earlier, plan, approvalId, hp, hlg⟩ := hl task.id ⟨task, get_of_mem htask, hawaiting⟩
  have hlt : latestPlan s task.id = some ⟨task.id, .plan plan approvalId⟩ := by
    rw [latestPlan, hlg, List.reverse_append]
    rfl
  have hlk : getByTaskId s task.id = some (latestPlan s task.id) ↔ (s.logsOf task.id).length = 1 := by
    rw [hlt, getByTaskId_eq, hlg]
    match earlier with
    | [] => simp
    | [first] => simp
    | first :: second :: rest => simp
  refine ⟨plan, approvalId, hlt, hlk, fun ho now request reply granted releasedBy hf hg hfr => ?_⟩
  have hid : request.taskId = task.id := by
    obtain ⟨name, hn, hgt⟩ := bind_eq_some_iff.1 hf
    cases given_eq_some hn
    exact (get_eq_some.1 hgt).2.symm
  have hlo : getByTaskId s request.taskId = some (some ⟨task.id, .plan plan approvalId⟩) := by
    rw [hid, ← hlt]
    exact hlk.2 ho
  refine ⟨_, (approveWorkflow_of_only_log hf hawaiting hlo).trans (by rw [hg, map_some]), ?_⟩
  rw [submissions_executeWorkflow hfr hp, grant_submissions hg]

/-- A queued task has one log when it awaits approval. -/
theorem approved_plan_is_latest_queued :
    ∃ s, Run (Steps (step demoConfig)) Always queued s ∧ ∃ task ∈ s.tasks, task.status = .awaitingApproval ∧
      (s.logsOf task.id).length = 1 ∧ getByTaskId s task.id = some (latestPlan s task.id) := by
  refine exists_run_with [plans] (fun s => ∃ task ∈ s.tasks, task.status = .awaitingApproval ∧
    (s.logsOf task.id).length = 1) (by decide +kernel) (fun s hr ht => ?_)
  obtain ⟨task, hm, ha, ho⟩ := ht
  have hs : ∀ task ∈ queued.tasks, task.status ≠ .awaitingApproval := by decide
  obtain ⟨plan, approvalId, -, hl, -⟩ := approved_plan_is_latest_iff demoConfig queued s hs hr task hm ha
  exact ⟨task, hm, ha, ho, hl.2 ho⟩

def noTasks : Sys := ⟨empty, [], ControlPlane.Db.empty, [], [], []⟩

/-- The intake of a high-risk task: its input and its plan are logged, the lookup fails, and the approval that was asked
for it releases nothing. -/
theorem accepted_task_not_approvable : ∃ s, Run (Steps (step demoConfig)) Always noTasks s ∧
      (s.tasks.get "dev_1").map DevTask.status = some .awaitingApproval ∧
      latestPlan s "dev_1" = some ⟨"dev_1", .plan prepared (some "apr_1")⟩ ∧ getByTaskId s "dev_1" = none ∧
      step demoConfig s (approves (some "apr_1")) = none :=
  exists_run_exec [.taskReady "dev_1" ⟨"Rotate keys", "", 8, 42, "", [], .high⟩ ⟨some drafted, some "apr_1", .raised⟩]
    (by decide +kernel)

end WisdoverseCell.DevAgent
