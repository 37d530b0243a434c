import WisdoverseCell.ControlPlane.IntentBinding
import WisdoverseCell.ControlPlane.Replay

/-!
# Repeated requests

The intent of a call is bound to the work item as it is now, and a successful call changes its work item.  `Succeeded`
describes the database it leaves; `repeat_recognised_iff` says exactly when the same request is recognised.
-/

namespace WisdoverseCell.ControlPlane

open Option Table Json

variable {answer : Except AgentWakeupError AgentWakeupResult} {call : WorkRunCall} {db db' : Db} {w work : WorkItem}
  {ids : EvidenceIds} {outcome : AdapterOutcome} {fresh : Bool} {now : Time} {rt : Runtime} {agentId : String}
  {input : JsonObj}

/-! ### What a successful call leaves -/

def WorkItem.awaitingReview (w : WorkItem) (fresh : Bool) (agentId : String) (now : Time) : WorkItem :=
  { w with
    status := .blocked
    ownerAgentId := some agentId
    metadata := if fresh then w.withoutAcceptance.metadata else w.metadata
    updatedAt := now }

def startsAttempt (db : Db) (call : WorkRunCall) (intent : BoundIntent) : Bool :=
  (db.leases.get intent.executionId).isNone && call.workItemId ≠ ""

/-- A successful call: what it found in `db` and what it left in `db'`. -/
structure Succeeded (rt : Runtime) (now : Time) (db db' : Db) (call : WorkRunCall) (runId : String) (work : WorkItem)
    (agent : AgentRole) (intent : BoundIntent) (lease : ExecutionLease) :
      Prop extends Addressed db call work agent where
  bound : bindIntent rt db agent (call.wakeupCall work).claimRequest = .ok intent
  companies : db'.companies = db.companies
  agentRoles : db'.agentRoles = db.agentRoles
  lease_eq : db'.leases.get intent.executionId = some lease
  known : ∀ l, db.leases.get intent.executionId = some l → l = lease
  digest : lease.intentHash = intent.digest
  ended : lease.state.terminal = true
  run_eq : lease.runId = runId
  run_succeeded : ∃ run, db'.agentRuns.get runId = some run ∧ run.status = .succeeded
  free : db'.activeLease call.companyId (workResource call.workItemId) = none
  work_left : db'.workItems.get call.workItemId =
    some (work.awaitingReview (startsAttempt db call intent) (resolvedAgent call.agentId work) now)

private theorem concludeAttempt_eq_ok {base resolvedAgentId result}
    (h : concludeAttempt rt now base db call resolvedAgentId answer = (.ok result, db')) :
    answer = .ok result ∧ updateWorkItemStatusWithAudit rt now db ⟨call.companyId, call.workItemId,
      workItemStatusFromRun (db.agentRuns.get result.runId), some resolvedAgentId, none, call.actorId⟩ = .ok db' := by
  unfold concludeAttempt at h
  split at h
  · cases h
  · rename_i db₁ hr
    obtain ⟨ha, rfl⟩ := Prod.mk.inj h
    cases answer with
    | error => exact absurd ha (by simp [answerOf, Except.mapError])
    | ok r =>
      obtain rfl : r = result := Except.ok.inj ha
      exact ⟨rfl, hr⟩

private theorem blocked_left (hw : db.workItems.get call.workItemId = some w)
    (h : updateWorkItemStatusWithAudit rt now db ⟨call.companyId, call.workItemId, .blocked, some agentId, none,
      call.actorId⟩ = .ok db') :
    db'.workItems.get call.workItemId = some (w.withStatus .blocked (some agentId) none now) ∧
      db'.activeLease call.companyId (workResource call.workItemId) = none ∧
      ∃ items audits, db' = { db with workItems := items, auditEvents := audits } := by
  obtain ⟨w', hw', -, -, hf, -, rfl⟩ := updateWorkItemStatusWithAudit_eq_ok.1 h
  exact ⟨Db.get_setWorkItem (fun w => w.withStatus_workItemId .blocked (some agentId) none now) hw, hf, _, _, rfl⟩

section

variable {rt : Runtime} {times : CallTimes} {db db' : Db} {call : WorkRunCall} {work : WorkItem} {agent : AgentRole}
  {result : AgentWakeupResult}

private theorem succeeded_of_replayed {answer} (ha : Addressed db call work agent)
    (hs : startWakeup rt times.sampled times.claimed db agent (call.wakeupCall work) = .replayed answer)
    (h : concludeAttempt rt times.finished db db call (resolvedAgent call.agentId work) (.ok answer) =
      (.ok result, db')) :
    ∃ intent lease, Succeeded rt times.finished db db' call result.runId work agent intent lease := by
  obtain ⟨intent, lease, run, hb, hls, hd, he, hid, hr, hst⟩ := startWakeup_eq_replayed hs
  obtain ⟨han, hu⟩ := concludeAttempt_eq_ok h
  cases han
  rw [hid, hr] at hu
  simp only [workItemStatusFromRun, hst] at hu
  obtain ⟨hlf, hf, items, audits, rfl⟩ := blocked_left ha.work_eq hu
  have hsr : startsAttempt db call intent = false := by simp [startsAttempt, hls]
  exact ⟨intent, lease, ha, hb, rfl, rfl, hls, fun l hl => some.inj (hl.symm.trans hls), hd,
    he, hid.symm, ⟨run, hid ▸ hr, hst⟩, hf, by rw [hsr]; exact hlf⟩

private theorem claimed_work {clock intent claimed approved policies} (ha : Addressed db call work agent)
    (h : ClaimChecks rt now clock db agent (call.wakeupCall work).claimRequest intent claimed approved policies) :
    claimed = if call.workItemId = "" then none else some work := by
  have hwr := h.work_eq
  have hr : (call.wakeupCall work).claimRequest.work = (some call.workItemId).filter (fun id => id ≠ "") := by
    rw [← (get_eq_some.1 ha.work_eq).2]
    rfl
  rw [hr] at hwr
  by_cases he : call.workItemId = ""
  · rw [if_pos he]
    rw [filter_some, if_neg (by simpa using he)] at hwr
    exact (Except.ok.inj hwr).symm
  · rw [if_neg he]
    rw [filter_some, if_pos (by simpa using he)] at hwr
    cases claimed with
    | none => exact absurd (claimWork_eq_none hwr) (by simp)
    | some =>
      obtain ⟨hw, hg, -⟩ := claimWork_eq_some hwr
      rw [← some.inj hw, ha.work_eq] at hg
      exact hg.symm

private theorem succeeded_of_running {ticket db₁ db₂ inputEvent} (ha : Addressed db call work agent)
    (hs : startWakeup rt times.sampled times.claimed db agent (call.wakeupCall work) = .running ticket db₁)
    (hf : finishWakeup rt times.finished db₁ ticket ((call.wakeupCall work).context agent) inputEvent outcome ids =
      .ok (answer, db₂))
    (h : concludeAttempt rt times.finished db₁ db₂ call (resolvedAgent call.agentId work) answer = (.ok result, db')) :
    ∃ intent lease, Succeeded rt times.finished db db' call result.runId work agent intent lease := by
  obtain ⟨rfl, hu⟩ := concludeAttempt_eq_ok h
  obtain ⟨db₀, hc, hru⟩ := startWakeup_eq_running hs
  obtain ⟨intent, claimed, approved, policies, hch, rfl, leases, reservations, audits, hls, -, rfl⟩ := claim_eq_fresh hc
  obtain ⟨runs, hrn, rfl⟩ := map_eq_some_iff.1 hru
  obtain ⟨output, cost, db₃, hst, hcm, hid⟩ := finishWakeup_eq_result hf
  obtain ⟨lease, run, -, -, -, -, -, -, rfl⟩ := settle_eq_ok.1 hst
  unfold completeAgentWakeupRun at hcm
  obtain ⟨-, artifacts, -, audits', hdb₂, -⟩ := closeAgentWakeupRun_eq_ok.1 hcm
  have hr₂ : ∃ run, db₂.agentRuns.get call.runId = some run ∧ run.status = .succeeded := by
    rw [hdb₂]
    exact ⟨_, get_update_of (by intro; rfl) (get_update_of (by intro; rfl) (get_insert_self hrn)
      (decide_eq_true rfl)) (decide_eq_true rfl), rfl⟩
  have hl₂ : db₂.leases.get intent.executionId = some { newLease times.sampled agent
      (call.wakeupCall work).claimRequest intent with state := .succeeded } := by
    rw [hdb₂]
    exact get_update_of (by intro; rfl) (get_insert_self hls) (decide_eq_true rfl)
  have hi : db₂.workItems = startedWorkItems times.claimed db.workItems claimed := by rw [hdb₂]; rfl
  have hr : db₂.agentRoles = db.agentRoles ∧ db₂.companies = db.companies := by
    rw [hdb₂]
    exact ⟨rfl, rfl⟩
  obtain ⟨run, hg, hsta⟩ := hr₂
  change result.runId = call.runId at hid
  rw [hid, hg] at hu
  simp only [workItemStatusFromRun, hsta] at hu
  -- what the status update makes of the started item
  obtain ⟨w, hw, hlf⟩ : ∃ w, db₂.workItems.get call.workItemId = some w ∧
      w.withStatus .blocked (some (resolvedAgent call.agentId work)) none times.finished =
        work.awaitingReview (startsAttempt db call intent) (resolvedAgent call.agentId work) times.finished := by
    have hcl := claimed_work ha hch
    by_cases he : call.workItemId = ""
    · rw [if_pos he] at hcl
      rw [hi, hcl]
      exact ⟨work, ha.work_eq, by simp [startsAttempt, he, WorkItem.awaitingReview, WorkItem.withStatus]⟩
    · rw [if_neg he] at hcl
      have hid' := (get_eq_some.1 ha.work_eq).2
      rw [hi, hcl, ← hid']
      exact ⟨_, get_startedWorkItems_self (hid'.symm ▸ ha.work_eq), by
        simp [startsAttempt, he, hch.newKey, WorkItem.awaitingReview, WorkItem.withStatus, WorkItem.withoutAcceptance]⟩
  obtain ⟨hw', hfr, items, audits'', rfl⟩ := blocked_left hw hu
  exact ⟨intent, _, ha, hch.bound, hr.2, hr.1, hl₂,
    fun l hl => absurd hl (by simp [hch.newKey]), rfl, rfl, hid.symm, ⟨run, hid ▸ hg, hsta⟩, hfr,
    hw'.trans (congrArg some hlf)⟩

private theorem succeeded_of_ok (h : (runWorkItemWithAgent rt times db call outcome ids).1 = .ok result) :
    ∃ work agent intent lease, Succeeded rt times.finished db (runWorkItemWithAgent rt times db call outcome ids).2 call
      result.runId work agent intent lease := by
  obtain ⟨db', hc⟩ : ∃ db', runWorkItemWithAgent rt times db call outcome ids = (.ok result, db') := ⟨_, Prod.ext h rfl⟩
  rw [hc]
  unfold runWorkItemWithAgent at hc
  split at hc
  · cases hc
  · rename_i work hw
    split at hc
    · cases hc
    · rename_i hcm
      split at hc
      · cases hc
      · rename_i hr
        split at hc
        · cases hc
        · rename_i agent ha
          have had : Addressed db call work agent := ⟨hw, not_not.1 hcm, hr, ha⟩
          refine ⟨work, agent, ?_⟩
          dsimp only at hc
          split at hc
          · cases hc
          · rename_i answer hs
            exact succeeded_of_replayed had hs hc
          · obtain ⟨han, -⟩ := concludeAttempt_eq_ok hc
            cases han
          · rename_i ticket db₁ hs
            split at hc
            · cases hc
            · rename_i answer db₂ hf
              exact succeeded_of_running had hs hf hc

end

section

variable {rt : Runtime}

private theorem boundDigest_inj (hs : Function.Injective rt.sha256) {d d' key actorId}
    (h : boundDigest rt d key actorId = boundDigest rt d' key actorId) : d = d' := by
  have ht := hs h
  rwa [String.append_left_inj, String.append_left_inj, String.append_left_inj, String.append_left_inj] at ht

private theorem item_of_payload {w'}
    (h : (obj (workItemPayload w input)).sortKeys = (obj (workItemPayload w' input)).sortKeys) :
    w.ownerAgentId = w'.ownerAgentId ∧ (obj w.metadata).sortKeys = (obj w'.metadata).sortKeys := by
  have hi := lookup_of_sortKeys_eq h "work_item"
  simp only [workItemPayload, JsonObj.lookup_set_self, map_some, some.injEq] at hi
  have ho := lookup_of_sortKeys_eq hi "owner_agent_id"
  have hm := lookup_of_sortKeys_eq hi "metadata"
  simp only [List.lookup_cons, beq_self_eq_true, String.reduceBEq, map_some, some.injEq] at ho hm
  rw [sortKeys_optionalText, sortKeys_optionalText] at ho
  exact ⟨optionalText_inj ho, hm⟩

end

/-! ### The same request again -/

structure CallIds where
  runId : String
  eventId : String
  ownerId : String
  approvalId : String

def WorkRunCall.again (call : WorkRunCall) (ids : CallIds) : WorkRunCall :=
  { call with runId := ids.runId, eventId := ids.eventId, ownerId := ids.ownerId, approvalId := ids.approvalId }

private theorem resolvedAgent_awaitingReview (agentId) (work fresh now) :
    resolvedAgent agentId (work.awaitingReview fresh (resolvedAgent agentId work) now) =
      resolvedAgent agentId work := by
  unfold resolvedAgent
  cases agentId.filter (fun s => s ≠ "") with
  | some => rfl
  | none => exact Text.strip_strip _

private theorem workItemPayload_awaitingReview (ho : work.ownerAgentId = some agentId)
    (hm : fresh = true → JsonObj.has work.metadata "acceptance_id" = false ∧
      JsonObj.has work.metadata "accepted_artifact_id" = false) :
    workItemPayload (work.awaitingReview fresh agentId now) input = workItemPayload work input := by
  have hk : (if fresh then work.withoutAcceptance.metadata else work.metadata) = work.metadata := by
    cases fresh with
    | false => rfl
    | true =>
      obtain ⟨ha, har⟩ := hm rfl
      rw [JsonObj.has_eq_false] at ha har
      rw [if_pos rfl, WorkItem.withoutAcceptance, JsonObj.pop_eq_self ha, JsonObj.pop_eq_self har]
  unfold workItemPayload WorkItem.awaitingReview
  rw [hk, ho]

private theorem eq_of_payload_awaitingReview (h : (obj (workItemPayload work input)).sortKeys =
      (obj (workItemPayload (work.awaitingReview fresh agentId now) input)).sortKeys) :
    work.ownerAgentId = some agentId ∧ (fresh = true → JsonObj.has work.metadata "acceptance_id" = false ∧
      JsonObj.has work.metadata "accepted_artifact_id" = false) := by
  obtain ⟨ho, hm⟩ := item_of_payload h
  refine ⟨ho, ?_⟩
  rintro rfl
  have hl (k : String) (hk : work.withoutAcceptance.metadata.lookup k = none) : JsonObj.has work.metadata k =
    false := by
    have hlk := lookup_of_sortKeys_eq hm k
    rw [WorkItem.awaitingReview, if_pos rfl, hk, map_none, map_eq_none_iff] at hlk
    exact JsonObj.has_eq_false.2 hlk
  refine ⟨hl _ ?_, hl _ (JsonObj.lookup_pop_self _ _)⟩
  rw [WorkItem.withoutAcceptance, JsonObj.lookup_pop_of_ne _ (by decide), JsonObj.lookup_pop_self]

private theorem bindIntent_congr {agent req req'} (hc : db'.companies = db.companies)
    (hr : db'.agentRoles = db.agentRoles) (hp : req'.payload = req.payload) (hw : req'.workItemId = req.workItemId)
    (hk : req'.idempotencyKey = req.idempotencyKey) (ha : req'.actorId = req.actorId) :
    bindIntent rt db' agent req' = bindIntent rt db agent req := by
  have hrs : req'.resource agent = req.resource agent := by
    unfold ClaimRequest.resource ClaimRequest.work
    rw [hw]
  unfold bindIntent
  rw [hc, hr, hp, hw, hk, ha, hrs]

private theorem wakeupCall_key {k} (hke : call.idempotencyKey = some k) (hk : k ≠ "") (work) :
    (call.wakeupCall work).claimRequest.idempotencyKey = k := by
  simp [WakeupCall.claimRequest, WakeupCall.key, WorkRunCall.wakeupCall, hke, hk]

section

variable {rt : Runtime} {now : Time} {db db' : Db} {call : WorkRunCall} {k runId : String} {work : WorkItem}
  {agent : AgentRole} {intent : BoundIntent} {lease : ExecutionLease}

private theorem Succeeded.executionId_eq (hs : Succeeded rt now db db' call runId work agent intent lease)
    (hke : call.idempotencyKey = some k) (hk : k ≠ "") : intent.executionId = executionIdOf rt call.companyId k := by
  obtain ⟨-, -, -, -, hid, -⟩ := bindIntent_eq_ok hs.bound
  rw [hid, wakeupCall_key hke hk]
  exact congrArg (executionIdOf rt · k) (Prod.mk.inj (get_eq_some.1 hs.agent_eq).2).1

private theorem Succeeded.replayOf_again (hs : Succeeded rt now db db' call runId work agent intent lease)
    (hke : call.idempotencyKey = some k) (hk : k ≠ "") (newIds)
    (hp : workItemPayload (work.awaitingReview (startsAttempt db call intent) (resolvedAgent call.agentId work) now)
      call.input = workItemPayload work call.input) :
    replayOf rt db' (call.again newIds) = some ⟨work.awaitingReview (startsAttempt db call intent)
      (resolvedAgent call.agentId work) now, agent, intent, lease⟩ := by
  have hr := resolvedAgent_awaitingReview call.agentId work (startsAttempt db call intent) now
  refine replayOf_eq_some.2 ⟨⟨hs.work_left, hs.company, ?_, ?_⟩, ?_, hs.lease_eq, hs.digest, hs.ended⟩
  · exact fun h => hs.resolved (hr.symm.trans h)
  · rw [hs.agentRoles]
    exact (congrArg (fun a => db.agentRoles.get (call.companyId, a)) hr).trans hs.agent_eq
  · rw [← hs.bound]
    refine bindIntent_congr hs.companies hs.agentRoles hp rfl ?_ rfl
    rw [wakeupCall_key hke hk]
    exact @wakeupCall_key (call.again newIds) k hke hk _

private theorem Succeeded.answer_again (hs : Succeeded rt now db db' call runId work agent intent lease) {newIds t}
    (hr : replayOf rt db' (call.again newIds) = some ⟨work.awaitingReview fresh agentId t, agent, intent, lease⟩)
    (times outcome ids) :
    ∃ result, (runWorkItemWithAgent rt times db' (call.again newIds) outcome ids).1 = .ok result ∧
      result.runId = runId := by
  obtain ⟨run, hrn, hst⟩ := hs.run_succeeded
  rw [← hs.run_eq] at hrn
  obtain ⟨⟨hw, hc, -⟩, -⟩ := replayOf_eq_some.1 hr
  have hb : Replay.status ⟨work.awaitingReview fresh agentId t, agent, intent, lease⟩ db' = .blocked := by
    simp [Replay.status, hrn, hst]
  obtain ⟨db'', hu⟩ := Replay.update_succeeds rt times.finished hw hc (by rw [hb]; rfl) hs.free
  rw [replay_of_update hr hu]
  simp only [Replay.answer, hrn, hst]
  exact ⟨_, rfl, hs.run_eq⟩

end

/-- A request that was answered with a result is answered with the same run when it is repeated exactly when the work
item was owned by the agent that ran it and, if the call started an attempt, had no acceptance to drop. -/
theorem repeat_recognised_iff {rt : Runtime} (hsha : Function.Injective rt.sha256)
    (hfloat : FloatText rt.floatText) {times times' : CallTimes} {db : Db} {call : WorkRunCall} {k : String}
    {work : WorkItem} {outcome outcome' : AdapterOutcome} {ids ids' : EvidenceIds} {result : AgentWakeupResult}
    (hkey : call.idempotencyKey = some k) (hk : k ≠ "") (hwork : db.workItems.get call.workItemId = some work)
    (hok : (runWorkItemWithAgent rt times db call outcome ids).1 = .ok result) (newIds : CallIds) :
    (∃ result', (runWorkItemWithAgent rt times' (runWorkItemWithAgent rt times db call outcome ids).2
        (call.again newIds) outcome' ids').1 = .ok result' ∧ result'.runId = result.runId) ↔
      work.ownerAgentId = some (resolvedAgent call.agentId work) ∧
        (db.leases.get (executionIdOf rt call.companyId k) = none → call.workItemId ≠ "" →
          JsonObj.has work.metadata "acceptance_id" = false ∧
            JsonObj.has work.metadata "accepted_artifact_id" = false) := by
  obtain ⟨w, agent, intent, lease, hs⟩ := succeeded_of_ok hok
  obtain rfl := some.inj (hs.work_eq.symm.trans hwork)
  have hst (P : Prop) : (startsAttempt db call intent = true → P) ↔
      (db.leases.get (executionIdOf rt call.companyId k) = none → call.workItemId ≠ "" → P) := by
    simp only [startsAttempt, hs.executionId_eq hkey hk, Bool.and_eq_true, isNone_iff_eq_none, decide_eq_true_eq,
      and_imp]
  rw [← hst]
  generalize (runWorkItemWithAgent rt times db call outcome ids).2 = db' at hs ⊢
  constructor
  · rintro ⟨result', hok', -⟩
    obtain ⟨w', agent', intent', lease', hs'⟩ := succeeded_of_ok hok'
    obtain rfl := some.inj (hs.work_left.symm.trans hs'.work_eq)
    -- the second call binds the same agent and meets the lease of the first
    have hr := hs'.agent_eq
    change db'.agentRoles.get (call.companyId, resolvedAgent call.agentId _) = _ at hr
    rw [resolvedAgent_awaitingReview, hs.agentRoles, hs.agent_eq] at hr
    cases hr
    have hid : intent'.executionId = intent.executionId :=
      (hs'.executionId_eq hkey hk).trans (hs.executionId_eq hkey hk).symm
    obtain rfl := hs'.known lease (hid ▸ hs.lease_eq)
    have hd : intent.digest = intent'.digest := hs.digest.symm.trans hs'.digest
    obtain ⟨-, -, -, ⟨d, -, hh, hb⟩, -⟩ := bindIntent_eq_ok hs.bound
    obtain ⟨-, -, -, ⟨d', -, hh', hb'⟩, -⟩ := bindIntent_eq_ok hs'.bound
    rw [wakeupCall_key hkey hk] at hb
    rw [@wakeupCall_key (call.again newIds) k hkey hk] at hb'
    obtain rfl := boundDigest_inj hsha (hb.symm.trans (hd.trans hb'))
    exact eq_of_payload_awaitingReview (intent_of_intentHash hsha hfloat hh hh').payload
  · rintro ⟨ho, hm⟩
    exact hs.answer_again (hs.replayOf_again hkey hk newIds (workItemPayload_awaitingReview ho hm)) times' outcome' ids'

private theorem plainRuntime_floatText : FloatText plainRuntime.floatText := floatText_fractionText

def repeatIds : CallIds := ⟨"run-again", "event-again", "owner-again", "approval-again"⟩

def taskRun (db : Db) (agentId : Option String) : Except WorkRunError AgentWakeupResult × Db :=
  runWorkItemWithAgent plainRuntime ⟨0, 0, 0⟩ db (taskCall "k1" agentId) (.output [("cost_usd", .int 1)])
    (evidenceIds "first")

def taskRunAgain (db : Db) (agentId : Option String) : Except WorkRunError AgentWakeupResult × Db :=
  runWorkItemWithAgent plainRuntime ⟨0, 0, 0⟩ (taskRun db agentId).2 ((taskCall "k1" agentId).again repeatIds)
    (.output [("cost_usd", .int 1)]) (evidenceIds "again")

/-- The repeated request of an owned task returns the same run. -/
theorem repeat_recognised_owned : ∃ result result', (taskRun ownedTaskSys.db none).1 = .ok result ∧
      (taskRunAgain ownedTaskSys.db none).1 = .ok result' ∧ result'.runId = result.runId := by
  have he : (taskRun ownedTaskSys.db none).1.toOption.isSome = true := by decide +kernel
  obtain ⟨result, hr⟩ := isSome_iff_exists.1 he
  have hok := toOption_eq_some.1 hr
  obtain ⟨result', ha, hrn⟩ := (repeat_recognised_iff Function.injective_id plainRuntime_floatText rfl (by decide)
    (rfl : ownedTaskSys.db.workItems.get "w" = some ownedTask) hok repeatIds).2
      ⟨by decide +kernel, fun _ _ => by decide +kernel⟩
  exact ⟨result, result', hok, ha, hrn⟩

/-- The first request made the agent it named the owner of the task; repeating it is taken for another intent. -/
theorem repeat_of_unowned_conflicts :
    oneTaskSys.Initial ∧ ∃ result, (taskRun oneTaskSys.db (some "coder")).1 = .ok result ∧
      (taskRunAgain oneTaskSys.db (some "coder")).1 =
        .error (.wakeup ⟨"idempotency_key_conflict", 409, "execution_denied"⟩) := by
  have he : (taskRun oneTaskSys.db (some "coder")).1.toOption.isSome = true ∧ failsWith
      (taskRunAgain oneTaskSys.db (some "coder")).1
        (.wakeup ⟨"idempotency_key_conflict", 409, "execution_denied"⟩) = true
    := by decide +kernel
  obtain ⟨result, hr⟩ := isSome_iff_exists.1 he.1
  exact ⟨oneTaskSys_initial, result, toOption_eq_some.1 hr, failsWith_iff.1 he.2⟩

end WisdoverseCell.ControlPlane
