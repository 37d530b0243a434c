import WisdoverseCell.DevAgent.Workflows

/-!
# High-risk workflows run on their own approval

One approval releases one submission in every run, as it is resolved once.  That it was requested for this task and plan
holds in every run in which a request that names an approval names the one that is logged with the plan:
`approve_workflow` does not compare the two.
-/

namespace WisdoverseCell.DevAgent

open List Option Table
open ControlPlane (Db requestApproval resolveApproval)
open ControlPlane (ApprovalRequest Time)

variable {plane plane' : ControlPlane.Db} {now : Time} {resolvedBy taskId id : String} {tasks : Table DevTask.id}
  {sanitized : SanitizedTask} {log : WorkflowLog} {cfg : Config} {s t : Sys} {task : DevTask} {plan : WorkflowPlan}

/-! ### Approvals of the control plane -/

def Approved (plane : Db) (id : String) : Prop :=
  ∃ a, plane.approvals.get id = some a ∧ a.status = .approved

private theorem requestApproval_eq_some {a} (h : requestApproval plane a = some plane') :
    plane.approvals.insert a = some plane'.approvals := by
  obtain ⟨-, h⟩ := ite_none_right_eq_some.1 h
  obtain ⟨approvals, hi, rfl⟩ := map_eq_some_iff.1 h
  exact hi

private theorem Approved.request {a} (h : Approved plane id)
    (hr : requestApproval plane a = some plane') : Approved plane' id := by
  obtain ⟨b, hg, hb⟩ := h
  exact ⟨b, get_insert_of_some (requestApproval_eq_some hr) hg, hb⟩

private theorem resolveApproval_eq_some {status} (h : resolveApproval now plane id status resolvedBy = some plane') :
    ∃ a, plane.approvals.get id = some a ∧ a.status = .pending ∧
      plane'.approvals.get id =
        some { a with status := status, resolvedBy := some resolvedBy, resolvedAt := some now } ∧
      ∀ other, other ≠ id → plane'.approvals.get other = plane.approvals.get other := by
  unfold resolveApproval at h
  split at h
  · rename_i a hg
    obtain ⟨hp, h⟩ := ite_none_right_eq_some.1 h
    cases h
    refine ⟨a, hg, hp, ?_, fun other hne => ?_⟩
    · have hk : a.approvalId = id := (get_eq_some.1 hg).2
      rw [get_update, hg]
      simp [hk]
    · rw [get_update]
      cases ho : plane.approvals.get other with
      | none => rfl
      | some b =>
        have hk : b.approvalId = other := (get_eq_some.1 ho).2
        simp [hk, hne]
  · cases h

private theorem Approved.resolve {status approvalId} (h : Approved plane id)
    (hr : resolveApproval now plane approvalId status resolvedBy = some plane') :
    Approved plane' id := by
  obtain ⟨a, hg, hp, -, ho⟩ := resolveApproval_eq_some hr
  obtain ⟨b, hb, ha⟩ := h
  have hne : id ≠ approvalId := by
    rintro rfl
    cases hg.symm.trans hb
    cases hp.symm.trans ha
  exact ⟨b, (ho id hne).trans hb, ha⟩

def Prepared (cfg : Config) (plan : WorkflowPlan) : Prop := injectProjectId cfg plan = plan

theorem prepared_routeNodes (cfg plan) : Prepared cfg (routeNodes cfg (injectProjectId cfg plan)) := by
  unfold Prepared injectProjectId
  by_cases hid : Text.strip cfg.agentforgeProjectId = ""
  · simp only [hid, if_true]
  · simp only [hid, if_false, routeNodes, List.map_map]
    congr 1
    refine map_congr_left fun node _ => ?_
    have hp := JsonObj.assigned_set_self node.config "projectId" (.str (Text.strip cfg.agentforgeProjectId))
    have hne : "projectId" ≠ "cliTool" := by decide
    have hs := (hp.set_of_ne hne
      (.str (cfg.route (node.configure "projectId" (Text.strip cfg.agentforgeProjectId))))).set_eq_self
    simp only [Function.comp, WorkflowNode.configure] at hs ⊢
    rw [hs]

/-! ### The condition and the invariant -/

def NamesOwn (s : Sys) : Act → Prop
  | .approveWorkflow _ request _ => ∀ entry ∈ awaitingLog s request.taskId, ∀ id ∈ given request.approvalId,
      entry.2.workflowJson.approvalId = some id
  | .taskReady .. | .startTask .. | .retryTask _ | .cancelWorkflow _ | .progress .. | .requestApproval _
  | .resolveApproval .. => True

instance (a : Act) : Decidable (NamesOwn s a) := by
  unfold NamesOwn
  split <;> infer_instance

def WorkflowJson.Sound (cfg : Config) (requested : List Requested) (task : DevTask) : WorkflowJson → Prop
  | .taskInput sanitized => task.riskLevel = some sanitized.riskLevel
  | .plan plan approvalId => Prepared cfg plan ∧ ∀ id ∈ approvalId, ⟨id, task.id, plan⟩ ∈ requested

structure Sound (cfg : Config) (s : Sys) : Prop where
  logged : ∀ log ∈ s.logs, ∃ task, s.tasks.get log.taskId = some task ∧ log.workflowJson.Sound cfg s.requested task
  released : ∀ sub ∈ s.submissions, sub.riskLevel = some .high →
    ∃ id, sub.releasedBy = some id ∧ ⟨id, sub.taskId, sub.plan⟩ ∈ s.requested
  approved : ∀ sub ∈ s.submissions, ∀ id ∈ sub.releasedBy, Approved s.plane id
  once : ∀ id, s.submissions.countP (fun sub => sub.releasedBy = some id) ≤ 1

/-- Nothing was planned or submitted yet: the only logs are the inputs of tasks. -/
structure Start (s : Sys) : Prop where
  inputs : ∀ log ∈ s.logs, ∃ task sanitized, s.tasks.get log.taskId = some task ∧
    log.workflowJson = .taskInput sanitized ∧ task.riskLevel = some sanitized.riskLevel
  unsubmitted : s.submissions = []

private theorem Start.sound (h : Start s) : Sound cfg s where
  logged := by
    intro log hl
    obtain ⟨task, sanitized, hg, hj, hr⟩ := h.inputs log hl
    exact ⟨task, hg, by rw [hj]; exact hr⟩
  released := by simp [h.unsubmitted]
  approved := by simp [h.unsubmitted]
  once := by simp [h.unsubmitted]

/-! ### Frames -/

def KeepsRisk (tasks tasks' : Table DevTask.id) : Prop :=
  ∀ k task, tasks.get k = some task → ∃ task', tasks'.get k = some task' ∧ task'.riskLevel = task.riskLevel

theorem KeepsRisk.refl (tasks) : KeepsRisk tasks tasks := fun _ task h => ⟨task, h, rfl⟩

theorem updateStatus_keepsRisk {tasks' status retryCount workflowId}
    (h : updateStatus tasks taskId status retryCount workflowId = some tasks') :
    KeepsRisk tasks tasks' := by
  unfold updateStatus at h
  split at h
  · cases h
  · split at h
    · cases h
      intro k task hg
      rw [get_modify, hg]
      by_cases hk : k = taskId
      · exact ⟨task.moved status retryCount workflowId, by rw [if_pos hk]; rfl, rfl⟩
      · exact ⟨task, by rw [if_neg hk], rfl⟩
    · cases h

theorem insert_keepsRisk {tasks'} (h : tasks.insert task = some tasks') :
    KeepsRisk tasks tasks' := fun _ old hg => ⟨old, get_insert_of_some h hg, rfl⟩

private theorem WorkflowJson.Sound.of_keeps {requested : List Requested} {task' : DevTask} {json : WorkflowJson}
    (h : json.Sound cfg requested task) (hid : task'.id = task.id) (hr : task'.riskLevel = task.riskLevel) :
    json.Sound cfg requested task' := by
  cases json with
  | taskInput => exact hr.trans h
  | plan => exact ⟨h.1, fun id hm => hid ▸ h.2 id hm⟩

private theorem WorkflowJson.Sound.mono {requested requested' : List Requested} {json : WorkflowJson}
    (h : json.Sound cfg requested task) (hs : requested ⊆ requested') : json.Sound cfg requested' task := by
  cases json with
  | taskInput => exact h
  | plan => exact ⟨h.1, fun id hm => hs (h.2 id hm)⟩

private theorem Sound.withTasks (h : Sound cfg s) (hk : KeepsRisk s.tasks tasks) :
    Sound cfg { s with tasks := tasks } where
  logged := by
    intro log hl
    obtain ⟨task, hg, hs⟩ := h.logged log hl
    obtain ⟨task', hg', hr⟩ := hk _ _ hg
    have hid : task'.id = task.id := (get_eq_some.1 hg').2.trans (get_eq_some.1 hg).2.symm
    exact ⟨task', hg', hs.of_keeps hid hr⟩
  released := h.released
  approved := h.approved
  once := h.once

private theorem Sound.withPlane (h : Sound cfg s) (hp : ∀ id, Approved s.plane id → Approved plane id) :
    Sound cfg { s with plane := plane } where
  logged := h.logged
  released := h.released
  approved := fun sub hs id hid => hp id (h.approved sub hs id hid)
  once := h.once

theorem setStatus_keepsRisk (s : Sys) (taskId) (status : TaskStatus) (retryCount workflowId) :
    KeepsRisk s.tasks (s.setStatus taskId status retryCount workflowId).tasks := by
  unfold Sys.setStatus
  cases h : updateStatus s.tasks taskId status retryCount workflowId with
  | none => exact KeepsRisk.refl _
  | some => exact updateStatus_keepsRisk h

private theorem Sound.setStatus (h : Sound cfg s) (taskId : String) (status : TaskStatus) (retryCount workflowId) :
    Sound cfg (s.setStatus taskId status retryCount workflowId) :=
  h.withTasks (setStatus_keepsRisk s taskId status retryCount workflowId)

private theorem Sound.addLog (h : Sound cfg s) (json) (hg : s.tasks.get taskId = some task)
    (hj : json.Sound cfg s.requested task) : Sound cfg (s.addLog taskId json) where
  logged := by
    intro log hl
    rcases mem_concat.1 hl with hl | rfl
    · exact h.logged log hl
    · exact ⟨task, hg, hj⟩
  released := h.released
  approved := h.approved
  once := h.once

private theorem Sound.executeWorkflow {releasedBy reply} (h : Sound cfg s) (hp : Prepared cfg plan)
    (ho : task.riskLevel = some .high → ∃ id, releasedBy = some id ∧ ⟨id, task.id, plan⟩ ∈ s.requested)
    (ha : ∀ id ∈ releasedBy, Approved s.plane id)
    (hfresh : ∀ id ∈ releasedBy, s.submissions.countP (fun sub => sub.releasedBy = some id) = 0) :
    Sound cfg (executeWorkflow cfg s task plan releasedBy reply) := by
  have hs : Sound cfg { s with
      submissions := s.submissions ++ [⟨task.id, task.riskLevel, injectProjectId cfg plan, releasedBy⟩] } := by
    rw [hp]
    refine ⟨h.logged, ?_, ?_, ?_⟩
    · intro sub hsb hh
      rcases mem_concat.1 hsb with hsb | rfl
      · exact h.released sub hsb hh
      · exact ho hh
    · intro sub hsb id hid
      rcases mem_concat.1 hsb with hsb | rfl
      · exact h.approved sub hsb id hid
      · exact ha id hid
    · intro id
      rw [countP_append, countP_singleton]
      by_cases hid : releasedBy = some id
      · rw [hfresh id hid]
        split <;> omega
      · rw [if_neg (by simpa using hid)]
        exact h.once id
  unfold DevAgent.executeWorkflow
  split
  · cases reply with
    | started => exact hs.setStatus _ _ _ _
    | failed => exact hs.setStatus _ _ _ _
    | raised => exact hs
  · exact h

/-! ### Planning -/

private theorem Sound.planFrom (h : Sound cfg s) (taskId input) : Sound cfg (s.planFrom taskId input) :=
  ⟨h.logged, h.released, h.approved, h.once⟩

private theorem Sound.requestWorkflowApproval {newId approvalId : Option String} (h : Sound cfg s)
    (hr : requestWorkflowApproval cfg s sanitized taskId plan newId = some (t, approvalId)) :
    Sound cfg t ∧ t.tasks = s.tasks ∧ ∀ id ∈ approvalId, ⟨id, taskId, plan⟩ ∈ t.requested := by
  unfold DevAgent.requestWorkflowApproval at hr
  split at hr
  · split at hr
    · rename_i id plane hn
      cases hr
      obtain ⟨_, -, hm⟩ := bind_eq_some_iff.1 hn
      obtain ⟨_, ha, hp⟩ := map_eq_some_iff.1 hm
      cases hp
      have hpl := h.withPlane (fun _ hid => hid.request ha)
      have hsb : s.requested ⊆ s.requested ++ [⟨id, taskId, plan⟩] := subset_append_left _ _
      refine ⟨⟨?_, ?_, hpl.approved, hpl.once⟩, rfl, ?_⟩
      · intro log hl
        obtain ⟨task, hg, hs⟩ := hpl.logged log hl
        exact ⟨task, hg, hs.mono hsb⟩
      · intro sub hs' hh
        obtain ⟨id', hid', hmm⟩ := hpl.released sub hs' hh
        exact ⟨id', hid', hsb hmm⟩
      · intro id' hid'
        cases hid'
        exact mem_append_right _ (mem_singleton.2 rfl)
    · split at hr
      · cases hr
      · cases hr
        exact ⟨h, rfl, fun id hid => by cases hid⟩
  · cases hr
    exact ⟨h, rfl, fun id hid => by cases hid⟩

private theorem Sound.planAndExecute {risk reply} (h : Sound cfg s)
    (hg : s.tasks.get task.id = some task) (hr : task.riskLevel = some .high → risk = .high) :
    Sound cfg (planAndExecute cfg s sanitized task risk reply) := by
  have hp := (h.setStatus task.id .planning none none).planFrom task.id sanitized
  obtain ⟨task', hg', -⟩ := setStatus_keepsRisk s task.id .planning none none _ _ hg
  have hid : task'.id = task.id := (get_eq_some.1 hg').2
  unfold DevAgent.planAndExecute
  cases reply.planned with
  | none => exact hp.setStatus _ _ _ _
  | some plan =>
    dsimp only
    split
    · exact hp.setStatus _ _ _ _
    · have hpr := prepared_routeNodes cfg plan
      split
      · split
        · exact hp
        · rename_i t approvalId hrq
          obtain ⟨ht, hts, ho⟩ := hp.requestWorkflowApproval hrq
          have hj : (WorkflowJson.plan (routeNodes cfg (injectProjectId cfg plan)) approvalId).Sound cfg t.requested
              task' := ⟨hpr, fun id hm => by rw [hid]; exact ho id hm⟩
          exact (ht.addLog _ (hts ▸ hg') hj).setStatus _ _ _ _
      · rename_i hlw
        have hl := hp.addLog (.plan (routeNodes cfg (injectProjectId cfg plan)) none) hg'
          ⟨hpr, fun id hm => by cases hm⟩
        -- only the plan of a task that is not high-risk gets here
        refine hl.executeWorkflow hpr (fun hh => ?_) (fun id hm => by cases hm) (fun id hm => by cases hm)
        exact absurd (decide_eq_true (hr hh)) hlw

private theorem Sound.processSingleTask {reply} (h : Sound cfg s)
    (hs : processSingleTask cfg s id sanitized reply = some t) : Sound cfg t := by
  obtain ⟨-, hs⟩ := ite_none_left_eq_some.1 hs
  obtain ⟨tasks, hi, rfl⟩ := map_eq_some_iff.1 hs
  have hg := get_insert_self hi
  have hl := (h.withTasks (insert_keepsRisk hi)).addLog (.taskInput sanitized) hg rfl
  dsimp only
  split
  · refine hl.planAndExecute hg (fun hh => ?_)
    exact some.inj hh
  · exact hl

private theorem mem_of_getByTaskId (h : getByTaskId s taskId = some (some log)) :
    log ∈ s.logs ∧ log.taskId = taskId := by
  unfold getByTaskId at h
  split at h
  · cases h
  · rename_i log' hf
    cases h
    have hm : log ∈ s.logs.filter (fun log => log.taskId = taskId) := by simp [hf]
    simpa using hm
  · cases h

private theorem Sound.startPendingTask {reply} (h : Sound cfg s)
    (hst : startPendingTask cfg s taskId reply = some t) : Sound cfg t := by
  unfold DevAgent.startPendingTask at hst
  obtain ⟨task, hg, hst⟩ := bind_eq_some_iff.1 hst
  obtain ⟨log, hl, hst⟩ := bind_eq_some_iff.1 hst
  have hs : s.tasks.get task.id = some task := (get_eq_some.1 hg).2 ▸ hg
  obtain ⟨-, hst⟩ := ite_none_right_eq_some.1 hst
  cases hst
  refine h.planAndExecute hs (fun hh => ?_)
  -- the risk is that of the logged input, or that of the task's row
  unfold DevTask.input
  split
  · rename_i sanitized hi
    obtain ⟨log, rfl, hj⟩ := map_eq_some_iff.1 hi
    obtain ⟨hm, hid⟩ := mem_of_getByTaskId hl
    obtain ⟨task', hg', hsn⟩ := h.logged log hm
    rw [hid, hg] at hg'
    cases hg'
    rw [hj] at hsn
    exact some.inj (hsn.symm.trans hh)
  all_goals rw [hh, getD_some]

/-! ### Approving -/

private theorem awaitingLog_eq_some (h : awaitingLog s taskId = some (task, log)) :
    s.tasks.get taskId = some task ∧ log ∈ s.logs ∧ log.taskId = taskId := by
  unfold awaitingLog findTask at h
  obtain ⟨task', hf, h⟩ := bind_eq_some_iff.1 h
  obtain ⟨_, hg, hgt⟩ := bind_eq_some_iff.1 hf
  cases given_eq_some hg
  split at h
  · obtain ⟨log', hl, h⟩ := bind_eq_some_iff.1 h
    obtain ⟨_, rfl, hp⟩ := map_eq_some_iff.1 h
    cases hp
    exact ⟨hgt, mem_of_getByTaskId hl⟩
  · cases h

private theorem approveForSensitiveAction_eq_some {approvalId releasedBy} (he : cfg.approvalEnforced = true)
    (h : approveForSensitiveAction cfg now s approvalId resolvedBy = some (t, releasedBy)) :
    ∃ id plane, approvalId = some id ∧ releasedBy = some id ∧ t = { s with plane := plane } ∧
      resolveApproval now s.plane id .approved resolvedBy = some plane := by
  have hen : cfg.approvalEnabled = true := by rw [Config.approvalEnabled, he, Bool.or_true]
  unfold approveForSensitiveAction at h
  rw [if_pos hen] at h
  cases approvalId with
  | none =>
    dsimp only at h
    rw [if_pos he] at h
    cases h
  | some id =>
    obtain ⟨t', ha, hp⟩ := map_eq_some_iff.1 h
    cases hp
    obtain ⟨existing, -, ha⟩ := bind_eq_some_iff.1 ha
    split at ha
    · cases ha
    · obtain ⟨plane, hr, rfl⟩ := map_eq_some_iff.1 ha
      exact ⟨id, plane, rfl, rfl, rfl, hr⟩

private theorem resolves_logged {request : ApproveRequest}
    (ho : ∀ id ∈ given request.approvalId, log.workflowJson.approvalId = some id)
    (h : request.resolves log = some id) : log.workflowJson.approvalId = some id := by
  rcases or_eq_some_iff.1 h with hg | ⟨-, hl⟩
  · exact ho id hg
  · exact given_eq_some hl

private theorem Sound.approveWorkflow {request : ApproveRequest} {reply} (he : cfg.approvalEnforced = true)
    (h : Sound cfg s) (ho : NamesOwn s (.approveWorkflow now request reply))
    (hsp : approveWorkflow cfg now s request reply = some t) : Sound cfg t := by
  unfold DevAgent.approveWorkflow at hsp
  obtain ⟨⟨task, log⟩, ha, hsp⟩ := bind_eq_some_iff.1 hsp
  have hn := ho _ ha
  obtain ⟨hgt, hm, hid⟩ := awaitingLog_eq_some ha
  obtain ⟨task', hg', hs⟩ := h.logged log hm
  rw [hid, hgt] at hg'
  cases hg'
  obtain ⟨-, hsp⟩ := ite_none_left_eq_some.1 hsp
  obtain ⟨⟨t', releasedBy⟩, hg, hsp⟩ := bind_eq_some_iff.1 hsp
  obtain ⟨approvalId, plane, hr, rfl, rfl, hre⟩ := approveForSensitiveAction_eq_some he hg
  have hl := resolves_logged hn hr
  have hp := h.withPlane (fun _ hid => hid.resolve hre)
  obtain ⟨a, hpn, hst, hrs, -⟩ := resolveApproval_eq_some hre
  -- no submission was released by an approval that is still pending
  have hfresh : s.submissions.countP (fun sub => sub.releasedBy = some approvalId) = 0 := by
    rw [countP_eq_zero]
    intro sub hsb hrl
    obtain ⟨b, hb, hap⟩ := h.approved sub hsb approvalId (of_decide_eq_true hrl)
    cases hpn.symm.trans hb
    cases hst.symm.trans hap
  dsimp only at hsp
  split at hsp
  · cases hsp
    exact hp
  · rename_i plan approvalId' hj
    cases hsp
    rw [hj] at hs hl
    have hrq := hs.2 approvalId hl
    refine hp.executeWorkflow hs.1 (fun _ => ⟨approvalId, rfl, hrq⟩) ?_ ?_
    · intro id hid
      cases hid
      exact ⟨_, hrs, rfl⟩
    · intro id hid
      cases hid
      exact hfresh

/-- What a step does; a status that is set by hand or by the poller never awaits approval. -/
inductive Effect (cfg : Config) (s : Sys) : Act → Sys → Prop
  | ready {id sanitized reply t} (h : processSingleTask cfg s id sanitized reply = some t) :
      Effect cfg s (.taskReady id sanitized reply) t
  | start {taskId reply t} (h : startPendingTask cfg s taskId reply = some t) : Effect cfg s (.startTask taskId reply) t
  | approve {now request reply t} (h : approveWorkflow cfg now s request reply = some t) :
      Effect cfg s (.approveWorkflow now request reply) t
  | status {a taskId status retryCount tasks} (h : updateStatus s.tasks taskId status retryCount none = some tasks)
      (hn : status ≠ .awaitingApproval) : Effect cfg s a { s with tasks := tasks }
  | plane {a plane} (h : ∀ id, Approved s.plane id → Approved plane id) : Effect cfg s a { s with plane := plane }

/-- What a step does to plans, approvals and submissions. -/
theorem effect_of_step {a} (hs : step cfg s a = some t) : Effect cfg s a t := by
  cases a with
  | taskReady => exact .ready hs
  | startTask => exact .start hs
  | approveWorkflow => exact .approve hs
  | retryTask =>
    obtain ⟨task, -, hs⟩ := bind_eq_some_iff.1 hs
    split at hs
    · obtain ⟨tasks, ht, rfl⟩ := map_eq_some_iff.1 hs
      exact .status ht (by decide)
    · cases hs
  | cancelWorkflow =>
    obtain ⟨task, -, hs⟩ := bind_eq_some_iff.1 hs
    obtain ⟨tasks, ht, rfl⟩ := map_eq_some_iff.1 hs
    exact .status ht (by decide)
  | progress =>
    unfold step at hs
    obtain ⟨hl, hs⟩ := ite_none_right_eq_some.1 hs
    obtain ⟨tasks, ht, rfl⟩ := map_eq_some_iff.1 hs
    refine .status ht ?_
    rintro rfl
    cases hl
  | requestApproval =>
    obtain ⟨plane, hr, rfl⟩ := map_eq_some_iff.1 hs
    exact .plane (fun _ hid => hid.request hr)
  | resolveApproval =>
    obtain ⟨plane, hrs, rfl⟩ := map_eq_some_iff.1 hs
    exact .plane (fun _ hid => hid.resolve hrs)

private theorem Sound.step {a} (he : cfg.approvalEnforced = true) (h : Sound cfg s) (ho : NamesOwn s a)
    (hs : DevAgent.step cfg s a = some t) : Sound cfg t := by
  cases effect_of_step hs with
  | ready hs => exact h.processSingleTask hs
  | start hs => exact h.startPendingTask hs
  | approve hs => exact h.approveWorkflow he ho hs
  | status ht => exact h.withTasks (updateStatus_keepsRisk ht)
  | plane hp => exact h.withPlane hp

/-- In every state of a run whose requests name no foreign approval, a submission of a high-risk task was released by
the approval that was requested for this task and this plan, which is approved, and no approval released two
submissions. -/
theorem high_risk_released_by_own_approval (henforced : cfg.approvalEnforced = true) (hstart : Start s)
    (hrun : Run (Steps (step cfg)) NamesOwn s t) :
    (∀ sub ∈ t.submissions, sub.riskLevel = some .high → ∃ id, sub.releasedBy = some id ∧
      ⟨id, sub.taskId, sub.plan⟩ ∈ t.requested ∧ Approved t.plane id) ∧
    ∀ id, t.submissions.countP (fun sub => sub.releasedBy = some id) ≤ 1 := by
  have hs : Sound cfg t :=
    hrun.invariant (I := Sound cfg) hstart.sound (fun _ _ _ h hok hst => h.step henforced hok hst)
  refine ⟨fun sub hsb hh => ?_, hs.once⟩
  obtain ⟨id, hr, hrq⟩ := hs.released sub hsb hh
  exact ⟨id, hr, hrq, hs.approved sub hsb id hr⟩

/-! ### One task -/

def demoConfig : Config := ⟨"proj_1", 3, "cmp_1", true, true, true, fun _ => "claude", fun _ => []⟩

def queuedTask : DevTask := ⟨"dev_1", 42, some "Rotate keys", some .high, .pending, 0, none⟩

def queued : Sys := ⟨⟨[queuedTask], by decide⟩, [], Db.empty, [], [], []⟩

private theorem queued_start : Start queued := ⟨by simp [queued], rfl⟩

def drafted : WorkflowPlan := ⟨"rotate", "", [⟨"edit", .agentTask, [], []⟩]⟩

def prepared : WorkflowPlan :=
  ⟨"rotate", "", [⟨"edit", .agentTask, [], [("projectId", .str "proj_1"), ("cliTool", .str "claude")]⟩]⟩

def plans : Act := .startTask "dev_1" ⟨some drafted, some "apr_1", .raised⟩

def approves (approvalId : Option String) : Act :=
  .approveWorkflow 7 ⟨"dev_1", approvalId, some "alice", none⟩ (.started "wf_1")

/-- The task's own approval is rejected, and that of another action releases the plan. -/
theorem foreign_approval_releases :
    demoConfig.approvalEnforced = true ∧ Start queued ∧ ∃ t, Run (Steps (step demoConfig)) Always queued t ∧
      t.submissions = [⟨"dev_1", some .high, prepared, some "apr_2"⟩] ∧
      t.requested = [⟨"apr_1", "dev_1", prepared⟩] ∧ ¬ Approved t.plane "apr_1" := by
  refine ⟨rfl, queued_start, exists_run_with [plans, .requestApproval (approvalRecord demoConfig "apr_2" "dev_2" 43),
    .resolveApproval 6 "apr_1" .rejected "bob", approves (some "apr_2")]
    (fun t => t.submissions = [⟨"dev_1", some .high, prepared, some "apr_2"⟩] ∧
      t.requested = [⟨"apr_1", "dev_1", prepared⟩] ∧
      (t.plane.approvals.get "apr_1").map ApprovalRequest.status = some .rejected) (by decide +kernel)
    (fun t _ ⟨hs, hr, hrj⟩ => ⟨hs, hr, ?_⟩)⟩
  rintro ⟨a, hg, ha⟩
  rw [hg, map_some, ha] at hrj
  cases hrj

/-- A queued task of high risk is approved and submitted. -/
theorem high_risk_released_by_own_approval_queued : ∃ t, Run (Steps (step demoConfig)) NamesOwn queued t ∧
      t.submissions = [⟨"dev_1", some .high, prepared, some "apr_1"⟩] ∧
      ∀ sub ∈ t.submissions, sub.riskLevel = some .high → ∃ id, sub.releasedBy = some id ∧
        ⟨id, sub.taskId, sub.plan⟩ ∈ t.requested ∧ Approved t.plane id :=
  exists_run_and [plans, approves none] (by decide +kernel)
    (fun _ hr => (high_risk_released_by_own_approval rfl queued_start hr).1)

end WisdoverseCell.DevAgent
