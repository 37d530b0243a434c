import WisdoverseCell.Evolution.ActiveRelease
import WisdoverseCell.Evolution.ReleaseProtocol

/-!
# Superseded commands

A command that the control plane has given up must never be applied.  The recovery asks the receiver first and looks
at the clock afterwards: if the answer came before the expiry, the command may still be applied between the two.  If
it came after the expiry, the command is dead for ever (`superseded_never_applied`).
-/

namespace WisdoverseCell.Evolution

open List Option Table
open ControlPlane (Time seconds ApprovalRequest ApprovalStatus ExecutionDenied)

variable {ε : Type} {a : WorldAct} {result : Except ε PlaneDb} {t : Task} {actorId : String} {ids : ReleaseIds}

/-! ### Receipts of the runtime -/

section

variable {rt : ReleaseRuntime} {now : Time} {db db' opened moved saved : EvolutionDb} {command : SkillReleaseCommand}
  {baseline candidate : SkillConfig} {next : SkillReleaseSnapshot}

private theorem moveSkill_commands {current}
    (h : moveSkill now db command current baseline candidate = .ok moved) : moved.commands = db.commands := by
  unfold moveSkill at h
  split at h
  · obtain ⟨-, -, experiments, rfl⟩ := promoteSkill_eq_ok h
    rfl
  · cases current with
    | none => cases h
    | some =>
      rcases rollbackSkill_eq_ok h with ⟨-, experiments, rfl⟩ | ⟨-, -, -, experiments, rfl⟩ <;> rfl
  · rw [Except.ok.inj h]
  · rw [Except.ok.inj h]

private theorem Accepted.commands (h : Accepted now db command baseline candidate opened next moved saved) :
    saved.commands = db.commands := by
  obtain ⟨experiments, rfl⟩ := openCanary_eq_ok h.opens
  obtain ⟨releases, hs⟩ := saveRelease_eq_ok h.saves
  rw [hs, moveSkill_commands h.moves]

private theorem Effect.kept {D S V C : Type} {owner : C} {s t : Service D S V C} {c : Change D S}
    (h : Effect owner s c t) {d r} (hr : s.deployment d = some r) :
    ∃ r', t.deployment d = some r' ∧ r'.owner = r.owner := by
  have hm (s' : Service D S V C) (hs : s'.deployment d = some r) (W : Set D) (state : ReleaseState) :
      ∃ r', (s'.move W state).deployment d = some r' ∧ r'.owner = r.owner := by
    by_cases hd : d ∈ W
    · exact ⟨_, Service.move_eq_some.2 (.inl ⟨hd, r, hs, rfl⟩), rfl⟩
    · exact ⟨r, Service.move_eq_some.2 (.inr ⟨hd, hs⟩), rfl⟩
  cases h with
  | quiet => exact ⟨r, hr, rfl⟩
  | @start e _ hn =>
    have hne : d ≠ e := by
      rintro rfl
      rw [hr] at hn
      cases hn
    exact ⟨r, Service.start_eq_some.2 (.inr ⟨hne, hr⟩), rfl⟩
  | canary => exact hm _ hr _ _
  | withdraw => exact hm _ hr _ _
  | promote => exact hm _ hr _ _
  | restore => exact hm _ hr _ _
  | revert => exact ⟨r, hr, rfl⟩

def EvolutionDb.Backed (rt : ReleaseRuntime) (db : EvolutionDb) : Prop :=
  ∀ receipt ∈ db.commands, ∃ r, db.service.deployment receipt.deploymentId = some r ∧ r.owner = rt.companyId

private theorem getCommand_eq_none (hb : db.Backed rt) {id} (h : getCommand rt db id = none) :
    db.commands.get id = none := by
  cases hg : db.commands.get id with
  | none => rfl
  | some receipt =>
    obtain ⟨_, hd, ho⟩ := hb receipt (get_eq_some.1 hg).1
    obtain ⟨r, hr, rfl⟩ := map_eq_some_iff.1 hd
    have hc : r.companyId = rt.companyId := ho
    simp [getCommand, hg, hr, hc] at h

private theorem Accepted.deployment (h : Accepted now db command baseline candidate opened next moved saved) :
    ∃ r, saved.service.deployment command.deploymentId = some r ∧ r.owner = command.companyId := by
  cases hrl : db.releases.get command.deploymentId with
  | none =>
    have he := h.effect_none hrl
    generalize hs : saved.service = s at he
    cases he with
    | start _ ho => exact ⟨_, Service.start_eq_some.2 (.inl ⟨rfl, rfl⟩), ho⟩
  | some r =>
    obtain ⟨c, he, -⟩ := h.effect_some hrl
    have hc := h.checked
    rw [hrl] at hc
    simp only [checkRelease, eq_ok] at hc
    obtain ⟨-, hcm, -⟩ := hc
    have hr : db.service.deployment command.deploymentId = some r.deployment := by simp [EvolutionDb.service, hrl]
    obtain ⟨r', hr', ho⟩ := he.kept hr
    exact ⟨r', hr', ho.trans hcm⟩

private theorem addResults_commands (db) (experimentId : String) (isCandidate : Bool) (scores : List ℚ) :
    (scores.foldl (fun db score => addExperimentResult db experimentId isCandidate score) db).commands =
      db.commands := by
  induction scores generalizing db with
  | nil => rfl
  | cons score scores ih => exact ih _

private theorem runtimeStep_receipts (rt now db) (a : RuntimeAct) : (runtimeStep rt now db a).commands = db.commands ∨
      ∃ command signature receipt, a = .apply command signature ∧ now < command.expiresAt ∧
        receipt.commandId = command.commandId ∧ receipt.deploymentId = command.deploymentId ∧
        db.commands.insert receipt = some (runtimeStep rt now db a).commands ∧
        ∃ r, (runtimeStep rt now db a).service.deployment command.deploymentId = some r ∧ r.owner = rt.companyId := by
  cases a with
  | apply command signature =>
    simp only [runtimeStep]
    split
    · rename_i response db' h
      obtain ⟨he, h⟩ := applySigned_eq_ok h
      obtain ⟨hc, ⟨-, -, -, rfl⟩ | ⟨-, h⟩⟩ := apply_eq_ok h
      · exact .inl rfl
      · obtain ⟨baseline, candidate, opened, next, moved, saved, commands, ha, hi, -, rfl⟩ := applyNew_eq_ok h
        rw [ha.commands] at hi
        exact .inr ⟨command, signature, _, rfl, he, rfl, rfl, hi, hc ▸ ha.deployment⟩
    · exact .inl rfl
  | rollbackIfCurrent =>
    left
    simp only [runtimeStep]
    split
    · rename_i done db' h
      rcases rollbackSkillIfCurrent_eq_ok h with ⟨-, rfl⟩ | ⟨-, -, -, -, -, -, -, ⟨-, rfl⟩ | ⟨r, -, rfl⟩⟩ <;> rfl
    · rfl
  | addResults experimentId isCandidate scores => exact .inl (addResults_commands db experimentId isCandidate scores)
  | conclude =>
    left
    simp only [runtimeStep, concludeExperiment]
    split <;> rfl

private theorem runtimeStep_backed (a) (hb : db.Backed rt) : (runtimeStep rt now db a).Backed rt := by
  obtain ⟨c, he, -⟩ := runtimeStep_effect rt now db a
  have hol (receipt : ReleaseReceipt) (h : receipt ∈ db.commands) :
      ∃ r, (runtimeStep rt now db a).service.deployment receipt.deploymentId = some r ∧ r.owner = rt.companyId := by
    obtain ⟨r, hr, ho⟩ := hb receipt h
    obtain ⟨r', hr', ho'⟩ := he.kept hr
    exact ⟨r', hr', ho'.trans ho⟩
  intro receipt hm
  rcases runtimeStep_receipts rt now db a with hs | ⟨command, _, new, -, -, -, hd, hi, hbc⟩
  · exact hol receipt (hs ▸ hm)
  · rcases (mem_insert hi).1 hm with hm | rfl
    · exact hol receipt hm
    · exact hd ▸ hbc

private theorem applySigned_receipt {signature response}
    (h : applySigned rt now db command signature = .ok (response, db')) :
    ∃ receipt, db'.commands.get command.commandId = some receipt ∧ receipt.payloadHash = rt.canonicalHash command ∧
      receipt.response = response := by
  simp only [applySigned, apply, eq_ok] at h
  obtain ⟨-, -, -, -, h⟩ := h
  split at h
  · rename_i prior hp
    simp only [eq_ok, Prod.mk.injEq] at h
    obtain ⟨-, hh, rfl, rfl⟩ := h
    exact ⟨prior, hp, hh, rfl⟩
  · obtain ⟨_, _, _, _, _, _, _, -, hi, rfl, rfl⟩ := applyNew_eq_ok h
    exact ⟨_, get_insert_self hi, rfl, rfl⟩

private theorem run_keeps_receipt {s t : Receiver} {id receipt} (h : s.db.commands.get id = some receipt)
    (hr : Run (Steps (receiverStep rt)) Always s t) : t.db.commands.get id = some receipt := by
  refine hr.invariant (I := fun s => s.db.commands.get id = some receipt) h (fun s a t hg _ hs => ?_)
  cases a with
  | tick =>
    cases hs
    exact hg
  | runtime a =>
    cases hs
    rcases runtimeStep_receipts rt s.clock s.db a with he | ⟨_, _, _, -, -, -, -, hi, -⟩
    · exact he ▸ hg
    · exact get_insert_of_some hi hg

/-- A command takes effect once: whatever the receiver does after it was applied, the command gets the same response
again before its expiry and changes nothing, and a command with its id and another payload is refused. -/
theorem command_takes_effect_once {rt : ReleaseRuntime} {s u t : Receiver} {command : SkillReleaseCommand}
    {signature : String} {response : ReleaseResponse}
    (happlied : applySigned rt s.clock s.db command signature = .ok (response, u.db))
    (hrun : Run (Steps (receiverStep rt)) Always u t) :
    (t.clock < command.expiresAt → applySigned rt t.clock t.db command signature = .ok (response, t.db)) ∧
      ∀ other, other.commandId = command.commandId → rt.canonicalHash other ≠ rt.canonicalHash command →
        ∀ signature' result, applySigned rt t.clock t.db other signature' ≠ .ok result := by
  obtain ⟨receipt, hg, hh, rfl⟩ := applySigned_receipt happlied
  have ht := run_keeps_receipt hg hrun
  constructor
  · intro hx
    simp only [applySigned, verifyCommand, apply, eq_ok] at happlied ⊢
    obtain ⟨-, ⟨-, -, hsg⟩, -, hc, -⟩ := happlied
    refine ⟨(), ⟨(), hx, hsg⟩, (), hc, ?_⟩
    simp only [ht, eq_ok]
    exact ⟨(), hh, trivial⟩
  · intro other hid hne signature' result h
    simp only [applySigned, apply, hid, ht, eq_ok] at h
    obtain ⟨-, -, -, -, -, ho, -⟩ := h
    exact hne (ho.symm.trans hh)

def shadowed : Receiver := ⟨runtimeStep plainReleaseRuntime 0 threeVersions (.apply (firstRollout "i" .shadow) "i"), 0⟩

/-- The first command is delivered again after the promotion. -/
theorem command_takes_effect_once_promoted :
    ∃ t, Run (Steps (receiverStep plainReleaseRuntime)) Always shadowed t ∧ (t.db.releasesIn "s" .active).length = 1 ∧
      (t.clock < 1 → applySigned plainReleaseRuntime t.clock t.db (firstRollout "i" .shadow) "i" =
        .ok (⟨"d", .shadow, 1, none⟩, t.db)) := by
  refine exists_run_and firstPromotion.tail (by decide +kernel) (fun _ hr => ?_)
  have ha : applySigned plainReleaseRuntime 0 threeVersions (firstRollout "i" .shadow) "i" = .ok (_, shadowed.db) := rfl
  exact (command_takes_effect_once (s := ⟨threeVersions, 0⟩) ha hr).1

end

/-! ### The invariant -/

structure World.Known (w : World) : Prop where
  unique : ∀ c ∈ w.issued, ∀ c' ∈ w.issued, c.commandId = c'.commandId → c = c'
  orders : ∀ c, w.plane.Orders c → c ∈ w.issued
  tasks : ∀ t ∈ w.tasks, t.command ∈ w.issued
  wire : ∀ m ∈ w.wire, m.1 ∈ w.issued
  superseded : ∀ c ∈ w.superseded, c ∈ w.issued

def World.Dead (w : World) (c : SkillReleaseCommand) : Prop :=
  c.expiresAt ≤ w.clock ∧ w.runtime.commands.get c.commandId = none

/-- Superseded commands are dead, and so is every command that was not found at or after its expiry. -/
structure World.Safe (rt : ReleaseRuntime) (w : World) : Prop extends w.Known where
  backed : w.runtime.Backed rt
  answered : ∀ c at', Task.replace c at' ∈ w.tasks → c.expiresAt ≤ at' → w.Dead c
  dead : ∀ c ∈ w.superseded, w.Dead c

section

variable {rt : ReleaseRuntime} {w v : World}

/-- A transaction of the control plane that leaves the commands alone. -/
theorem World.Safe.withPlane (h : w.Safe rt) {plane} (hs : ∀ c, plane.Orders c → w.plane.Orders c) :
    { w with plane := plane }.Safe rt :=
  { h with orders := fun c hc => h.orders c (hs c hc) }

private theorem World.Safe.commit (h : w.Safe rt) (hv : w.commit result = some v)
    (hs : ∀ plane, result = .ok plane → ∀ c, plane.Orders c → w.plane.Orders c) : v.Safe rt := by
  unfold World.commit at hv
  split at hv
  · cases hv
    exact h.withPlane (hs _ rfl)
  · cases hv

private theorem World.Safe.push (h : w.Safe rt) (ht : t.command ∈ w.issued)
    (hd : ∀ c at', t = .replace c at' → c.expiresAt ≤ at' → w.Dead c) : (w.push t).Safe rt where
  unique := h.unique
  orders := h.orders
  tasks t' ht' := by
    rcases mem_concat.1 ht' with ht' | ht'
    · exact h.tasks t' ht'
    · exact ht' ▸ ht
  wire := h.wire
  superseded := h.superseded
  backed := h.backed
  answered c at' hm he := by
    rcases mem_concat.1 hm with hm | hm
    · exact h.answered c at' hm he
    · exact hd c at' hm.symm he
  dead := h.dead

private theorem World.mem_issue {c c'} : c' ∈ (w.issue c).issued ↔ c' ∈ w.issued ∨ c' = c := by
  unfold World.issue
  dsimp only
  split
  · rename_i hc
    exact ⟨.inl, fun h => h.elim id (fun h => h ▸ hc)⟩
  · rw [mem_append, mem_singleton]

/-- The end of `prepare`: an old command, a new one under a fresh id, or none. -/
theorem World.Safe.afterPrepare (h : w.Safe rt) {reset} (hr : ∀ c, reset.Orders c → w.plane.Orders c)
    {request action override prepared}
    (hfresh : w.Fresh ids) (hp : prepare rt w.clock reset request action actorId override ids = .ok prepared) :
    (w.afterPrepare prepared).Safe rt := by
  have hrd (c : SkillReleaseCommand) (plane : PlaneDb) (hpl : ∀ c', plane.Orders c' → c' = c ∨ w.plane.Orders c')
      (hu : ∀ c' ∈ w.issued, c'.commandId = c.commandId → c' = c) : (w.afterPrepare (.ready c plane)).Safe rt := by
    have hin : c ∈ ({ w with plane := plane }.issue c).issued := World.mem_issue.2 (.inr rfl)
    have hsb : ∀ c' ∈ w.issued, c' ∈ ({ w with plane := plane }.issue c).issued :=
      fun c' hc' => World.mem_issue.2 (.inl hc')
    refine World.Safe.push (w := { w with plane := plane }.issue c) (t := .lookup c) ?_ hin (by rintro _ _ ⟨⟩)
    refine { h with unique := ?_, orders := ?_, tasks := ?_, wire := ?_, superseded := ?_ }
    · intro c₁ h₁ c₂ h₂ hid
      rcases World.mem_issue.1 h₁ with k₁ | rfl <;> rcases World.mem_issue.1 h₂ with k₂ | rfl
      · exact h.unique c₁ k₁ c₂ k₂ hid
      · exact hu c₁ k₁ hid
      · exact (hu c₂ k₂ hid.symm).symm
      · rfl
    · intro c' hc'
      rcases hpl c' hc' with rfl | hc'
      · exact hin
      · exact hsb c' (h.orders c' hc')
    · exact fun t ht => hsb _ (h.tasks t ht)
    · exact fun m hm => hsb _ (h.wire m hm)
    · exact fun c' hc' => hsb _ (h.superseded c' hc')
  rcases prepare_eq_ok hp with ⟨c, hc, rfl⟩ | ⟨proposal, report, existing, subject, ho⟩
  · exact hrd c reset (fun c' hc' => .inr (hr c' hc'))
      (fun c' hc' hid => h.unique c' hc' c (h.orders c (hr c hc)) hid)
  · cases prepared with
    | ready c plane =>
      obtain ⟨hid, hw⟩ := orderRelease_ready ho
      exact hrd c plane (fun c' hc' => (writeCommand_orders hw hc').imp_right (hr c'))
        (fun c' hc' hid' => absurd (hid'.trans hid) (hfresh c' hc'))
    | approvalRequested =>
      have hs := (orderRelease_requested ho).deployments
      exact h.withPlane (fun c ⟨d, hd, hc⟩ => hr c ⟨d, hs ▸ hd, hc⟩)

private theorem lookupReceipt_none {db command} (hb : db.Backed rt)
    (h : lookupReceipt rt db command = .ok none) : db.commands.get command.commandId = none := by
  unfold lookupReceipt at h
  split at h
  · rename_i hn
    exact getCommand_eq_none hb hn
  · simp only [eq_ok] at h
    obtain ⟨-, -, h⟩ := h
    cases h

private theorem World.Safe.withRuntime (h : w.Safe rt) (a)
    (ha : ∀ command signature, a = .apply command signature → command ∈ w.issued) :
    { w with runtime := runtimeStep rt w.clock w.runtime a }.Safe rt := by
  have hs (c : SkillReleaseCommand) (hc : c ∈ w.issued) (hd : w.Dead c) :
      World.Dead { w with runtime := runtimeStep rt w.clock w.runtime a } c := by
    obtain ⟨he, hn⟩ := hd
    refine ⟨he, ?_⟩
    rcases runtimeStep_receipts rt w.clock w.runtime a with
      hsm | ⟨command, signature, receipt, hac, hl, hid, -, hi, -⟩
    · exact (congrArg (fun t => t.get c.commandId) hsm).trans hn
    · refine (get_insert hi c.commandId).trans ?_
      rw [if_neg, hn]
      intro hsm
      -- the command applied would be the dead one, which has expired
      have := h.unique c hc command (ha command signature hac) (hsm.trans hid)
      subst this
      exact absurd hl (Nat.not_lt.2 he)
  exact { h with
    backed := runtimeStep_backed a h.backed
    answered := fun c at' hm he => hs c (h.tasks _ hm) (h.answered c at' hm he)
    dead := fun c hc => hs c (h.superseded c hc) (h.dead c hc) }

def Task.AnsweredLate : Task → Prop
  | .replace c answeredAt => c.expiresAt ≤ answeredAt
  | _ => True

instance (t : Task) : Decidable t.AnsweredLate := by unfold Task.AnsweredLate; split <;> infer_instance

def LateAnswer (w : World) : WorldAct → Prop
  | .resume i _ _ => ∀ t ∈ w.tasks[i]?, t.AnsweredLate
  | _ => True

instance (w : World) (a : WorldAct) : Decidable (LateAnswer w a) := by unfold LateAnswer; split <;> infer_instance

private theorem stepTask_safe (h : w.Safe rt) (ht : t ∈ w.tasks) (hl : t.AnsweredLate)
    (hv : stepTask rt w actorId ids t = some v) : v.Safe rt := by
  have hk : t.command ∈ w.issued := h.tasks t ht
  cases t with
  | lookup =>
    simp only [stepTask] at hv
    split at hv
    · cases hv
      exact h.push hk (by rintro _ _ ⟨⟩)
    · cases hv
      exact h.push hk (by rintro _ _ ⟨⟩)
    · cases hv
  | send c =>
    simp only [stepTask] at hv
    split at hv
    · rename_i signature _
      cases hv
      have hs : World.Safe rt { w with wire := w.wire ++ [(c, signature)] } := { h with
        wire := fun m hm => (mem_append.1 hm).elim (h.wire m) (fun hm => by
          rw [mem_singleton.1 hm]
          exact hk) }
      exact hs.push hk (by rintro _ _ ⟨⟩)
    · cases hv
  | await =>
    simp only [stepTask] at hv
    obtain ⟨r, -, rfl⟩ := map_eq_some_iff.1 hv
    exact h.push hk (by rintro _ _ ⟨⟩)
  | acknowledge => exact h.commit hv (fun plane ha _ hc => acknowledge_orders ha hc)
  | reconcile =>
    simp only [stepTask] at hv
    split at hv
    · cases hv
      exact h.push hk (by rintro _ _ ⟨⟩)
    · cases hv
  | recover =>
    simp only [stepTask] at hv
    split at hv
    · rename_i hn
      cases hv
      refine h.push hk ?_
      rintro _ _ ⟨⟩ he
      exact ⟨he, lookupReceipt_none h.backed hn⟩
    · cases hv
      exact h.push hk (by rintro _ _ ⟨⟩)
    · cases hv
  | replace c at' =>
    obtain ⟨hfresh, hv⟩ := ite_none_right_eq_some.1 hv
    split at hv
    · rename_i stored prepared hrc
      cases hv
      obtain ⟨ho, hid, -, row, reset, hr, hp⟩ := recoverExpiredPending_eq_ok hrc
      -- the command given up is the one that was looked up
      obtain rfl : stored = c := h.unique stored (h.orders stored ho) c hk hid
      have hd := h.answered stored at' ht hl
      have hsf : World.Safe rt { w with superseded := w.superseded ++ [stored] } := { h with
        superseded := fun c hc => (mem_append.1 hc).elim (h.superseded c)
          (fun hc => mem_singleton.1 hc ▸ hk)
        dead := fun c hc => (mem_append.1 hc).elim (h.dead c) (fun hc => mem_singleton.1 hc ▸ hd) }
      exact hsf.afterPrepare (fun c hc => resetRow_orders hr hc) hfresh hp
    · cases hv

private theorem worldStep_safe (h : w.Safe rt) (hl : LateAnswer w a) (hv : worldStep rt w a = some v) : v.Safe rt := by
  have hs {plane : PlaneDb} (hd : plane.deployments = w.plane.deployments) (c : SkillReleaseCommand)
      (hc : plane.Orders c) : w.plane.Orders c := by
    obtain ⟨d, hd', hc⟩ := hc
    exact ⟨d, hd ▸ hd', hc⟩
  cases a with
  | tick d =>
    cases hv
    have hlt (c : SkillReleaseCommand) (hdd : w.Dead c) : World.Dead { w with clock := w.clock + d } c :=
      ⟨hdd.1.trans (Nat.le_add_right _ _), hdd.2⟩
    exact { h with
      answered := fun c at' hmm he => hlt c (h.answered c at' hmm he)
      dead := fun c hc => hlt c (h.dead c hc) }
  | create =>
    refine h.commit hv (fun plane hok => hs ?_)
    obtain ⟨asked, p, proposals, ha, -, -, -, rfl⟩ := createEvolutionProposal_eq_ok hok
    exact ha.deployments
  | record =>
    refine h.commit hv (fun plane hok => hs ?_)
    obtain ⟨proposals, -, rfl⟩ := recordEvolutionProposal_eq_ok hok
    rfl
  | update =>
    refine h.commit hv (fun plane hok => hs ?_)
    obtain ⟨_, _, _, -, -, -, -, -, rfl⟩ := updateEvolutionProposalStatus_eq_ok hok
    rfl
  | requestApproval =>
    obtain ⟨-, hv⟩ := ite_none_right_eq_some.1 hv
    refine h.commit hv (fun plane hok => hs ?_)
    obtain ⟨approvals, -, rfl⟩ := requestApproval_eq_ok hok
    rfl
  | resolve =>
    exact h.commit hv (fun plane hok => hs (resolveApproval_deployments hok))
  | report =>
    obtain ⟨reports, -, rfl⟩ := map_eq_some_iff.1 hv
    exact h.withPlane (hs rfl)
  | release =>
    obtain ⟨hfresh, hv⟩ := ite_none_right_eq_some.1 hv
    split at hv
    · rename_i prepared hp
      cases hv
      exact h.afterPrepare (fun _ hc => hc) hfresh hp
    · cases hv
  | reconcile =>
    simp only [worldStep] at hv
    split at hv
    · rename_i c hc
      cases hv
      exact h.push (h.orders c (pendingCommand_orders hc)) (by rintro _ _ ⟨⟩)
    · cases hv
  | recover =>
    simp only [worldStep] at hv
    split at hv
    · rename_i c hc
      cases hv
      exact h.push (h.orders c (pendingCommand_orders hc)) (by rintro _ _ ⟨⟩)
    · cases hv
  | resume =>
    obtain ⟨t, ht, hv⟩ := bind_eq_some_iff.1 hv
    exact stepTask_safe h (mem_of_getElem? ht) (hl t ht) hv
  | deliver =>
    obtain ⟨m, hm, rfl⟩ := map_eq_some_iff.1 hv
    refine h.withRuntime _ ?_
    rintro _ _ ⟨⟩
    exact h.wire m (mem_of_getElem? hm)
  | rollbackIfCurrent =>
    cases hv
    exact h.withRuntime _ (by rintro _ _ ⟨⟩)
  | addResults =>
    cases hv
    exact h.withRuntime _ (by rintro _ _ ⟨⟩)
  | conclude =>
    cases hv
    exact h.withRuntime _ (by rintro _ _ ⟨⟩)

private theorem World.commit_superseded (hv : w.commit result = some v) : v.superseded = w.superseded := by
  unfold World.commit at hv
  split at hv
  · rw [← some.inj hv]
  · cases hv

private theorem World.afterPrepare_superseded (prepared) : (w.afterPrepare prepared).superseded = w.superseded := by
  cases prepared <;> rfl

private theorem stepTask_superseded (hv : stepTask rt w actorId ids t = some v) : w.superseded ⊆ v.superseded := by
  cases t with
  | acknowledge => rw [World.commit_superseded hv]; exact Subset.refl _
  | await =>
    obtain ⟨r, -, rfl⟩ := map_eq_some_iff.1 hv
    exact Subset.refl _
  | replace =>
    obtain ⟨-, hv⟩ := ite_none_right_eq_some.1 hv
    split at hv
    · cases hv
      rw [World.afterPrepare_superseded]
      exact subset_append_left _ _
    · cases hv
  | _ =>
    simp only [stepTask] at hv
    split at hv <;> cases hv <;> exact Subset.refl _

private theorem worldStep_superseded (hv : worldStep rt w a = some v) : w.superseded ⊆ v.superseded := by
  have hs (h : v.superseded = w.superseded) : w.superseded ⊆ v.superseded := h ▸ Subset.refl _
  cases a with
  | create => exact hs (World.commit_superseded hv)
  | record => exact hs (World.commit_superseded hv)
  | update => exact hs (World.commit_superseded hv)
  | resolve => exact hs (World.commit_superseded hv)
  | requestApproval =>
    obtain ⟨-, hv⟩ := ite_none_right_eq_some.1 hv
    exact hs (World.commit_superseded hv)
  | report =>
    obtain ⟨reports, -, rfl⟩ := map_eq_some_iff.1 hv
    exact hs rfl
  | release =>
    obtain ⟨-, hv⟩ := ite_none_right_eq_some.1 hv
    split at hv
    · cases hv
      exact hs (World.afterPrepare_superseded _)
    · cases hv
  | reconcile | recover =>
    simp only [worldStep] at hv
    split at hv
    · cases hv
      exact hs rfl
    · cases hv
  | resume =>
    obtain ⟨t, -, hv⟩ := bind_eq_some_iff.1 hv
    exact stepTask_superseded hv
  | deliver =>
    obtain ⟨m, -, rfl⟩ := map_eq_some_iff.1 hv
    exact hs rfl
  | tick | rollbackIfCurrent | addResults | conclude =>
    cases hv
    exact hs rfl

end

/-! ### Superseded commands are never applied -/

/-- No request is under way, nothing on the wire, the commands of the rows were issued, and every receipt is of a
release of the runtime's company. -/
structure World.Initial (rt : ReleaseRuntime) (w : World) : Prop where
  unique : ∀ c ∈ w.issued, ∀ c' ∈ w.issued, c.commandId = c'.commandId → c = c'
  orders : ∀ c, w.plane.Orders c → c ∈ w.issued
  tasks : w.tasks = []
  wire : w.wire = []
  superseded : w.superseded = []
  backed : w.runtime.Backed rt

private theorem World.Initial.safe {rt : ReleaseRuntime} {w : World} (h : w.Initial rt) : w.Safe rt where
  unique := h.unique
  orders := h.orders
  tasks := by simp [h.tasks]
  wire := by simp [h.wire]
  superseded := by simp [h.superseded]
  backed := h.backed
  answered := by simp [h.tasks]
  dead := by simp [h.superseded]

/-- If every recovery acts on a 404 answered at or after the expiry of its command, a superseded command has no
receipt and never gets one. -/
theorem superseded_never_applied {rt : ReleaseRuntime} {w v u : World} (hinit : w.Initial rt)
    (hrun : Run (Steps (worldStep rt)) LateAnswer w v) (hlater : Run (Steps (worldStep rt)) LateAnswer v u) :
    ∀ c ∈ v.superseded, u.runtime.commands.get c.commandId = none := by
  intro c hc
  have hs : u.Safe rt := (hrun.trans hlater).invariant (I := World.Safe rt) hinit.safe
    (fun _ _ _ hI hl hst => worldStep_safe hI hl hst)
  have hk : v.superseded ⊆ u.superseded := hlater.relates (Q := fun v u => v.superseded ⊆ u.superseded)
    (fun _ => Subset.refl _) (fun _ _ _ h h' => Subset.trans h h')
    (fun _ _ _ _ hst => worldStep_superseded hst)
  exact (hs.dead c (hk hc)).2

/-! ### A recovery that asks too early -/

def restingWorld : World where
  clock := 0
  plane :=
    { proposals := ⟨[⟨"p", "c", .L1, "s", .pending, .proposed, none⟩], by decide⟩
      approvals := .empty
      reports := ⟨[⟨"e", "c", "p", ⟨"s@1", 50, 0⟩, ⟨"s@2", 50, 1⟩, true, "h"⟩], by decide⟩
      deployments := .empty }
  runtime := threeVersions
  tasks := []
  wire := []
  issued := []
  superseded := []

private theorem restingWorld_initial : restingWorld.Initial plainReleaseRuntime where
  unique := nofun
  orders := fun _ ⟨d, hd, _⟩ => absurd hd (not_mem_empty d)
  tasks := rfl
  wire := rfl
  superseded := rfl
  backed := fun r hr => absurd hr (not_mem_empty r)

/-- A command is sent, but delayed; the runtime is asked for a receipt at `asked`, and the command is delivered before
the recovery goes on. -/
def delayedDelivery (asked wait : Nat) : List WorldAct :=
  [.release (firstRollout "i" .shadow).toReleaseSubject .shadow "o" ⟨"i", "d", "a"⟩,
    .resume 0 "o" ⟨"j", "d", "a"⟩, .resume 1 "o" ⟨"j", "d", "a"⟩, .tick asked, .recover "c" "p",
    .resume 3 "o" ⟨"j", "d", "a"⟩, .deliver 0, .tick wait, .resume 4 "o" ⟨"j", "d", "a"⟩]

/-- A command that expired before it was delivered is superseded. -/
theorem superseded_never_applied_delayed :
    ∃ v, Run (Steps (worldStep plainReleaseRuntime)) LateAnswer restingWorld v ∧ v.superseded.length = 1 ∧
      ∀ c ∈ v.superseded, v.runtime.commands.get c.commandId = none :=
  exists_run_and (delayedDelivery (seconds 3600) 0) (by decide +kernel)
    (fun _ hr => superseded_never_applied restingWorld_initial hr .refl)

/-- Asked just before the expiry, the command is applied and then given up all the same. -/
theorem recovery_supersedes_applied_command : restingWorld.Initial plainReleaseRuntime ∧
      ∃ v, Run (Steps (worldStep plainReleaseRuntime)) Always restingWorld v ∧
        ∃ c ∈ v.superseded, (v.runtime.commands.get c.commandId).isSome = true :=
  ⟨restingWorld_initial, exists_run_exec (delayedDelivery (seconds 3600 - 1) 1) (by decide +kernel)⟩

end WisdoverseCell.Evolution
