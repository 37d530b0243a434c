import WisdoverseCell.Evolution.Runtime

/-!
# One active version, one canary, one active release

In every run of the runtime a skill with one active configuration keeps exactly one, and never has two canaries.  The
release that promoted it is the only active one as long as no release is promoted beside an active one: a promotion does
not end the release before it.
-/

namespace WisdoverseCell.Evolution

open Option Table
open ControlPlane (Time)

variable {rt : ReleaseRuntime} {skill : String} {db : EvolutionDb}

structure Receiver where
  db : EvolutionDb
  clock : Time

inductive ReceiverAct
  | tick (d : Nat)
  | runtime (a : RuntimeAct)

def receiverStep (rt : ReleaseRuntime) (s : Receiver) : ReceiverAct → Option Receiver
  | .tick d => some { s with clock := s.clock + d }
  | .runtime a => some { s with db := runtimeStep rt s.clock s.db a }

variable {s t : Receiver}

private theorem receiverStep_effect {a} (h : receiverStep rt s a = some t) :
    ∃ c, Effect rt.companyId s.db.service c t.db.service ∧
      ∀ d k, c = .promote d k → ∃ b, a = .runtime b ∧ b.Promotes s.db d k := by
  cases a with
  | tick =>
    cases h
    exact ⟨.quiet, .quiet, nofun⟩
  | runtime b =>
    cases h
    obtain ⟨c, he, hc⟩ := runtimeStep_effect rt s.clock s.db b
    exact ⟨c, he, fun d k hp => ⟨b, rfl, hc d k hp⟩⟩

/-! ### The active configuration and the canary -/

private theorem oneLive_run {ok} (hr : Run (Steps (receiverStep rt)) ok s t)
    (h : OneLive s.db.service skill) : OneLive t.db.service skill :=
  hr.invariant (I := fun s => OneLive s.db.service skill) h (fun _ _ _ hI _ hs =>
    have ⟨_, he, _⟩ := receiverStep_effect hs
    hI.effect he)

private theorem oneCanary_iff {owner} : OneCanary owner db.service skill ↔
      (∀ r ∈ db.releases, r.skillId = skill → r.companyId = owner) ∧ (db.releasesIn skill .canary).length ≤ 1 := by
  constructor
  · rintro ⟨ho, hon⟩
    refine ⟨fun r hr hk => ?_, EvolutionDb.subsingleton_inState_iff.1 hon⟩
    exact ho r.deploymentId r.deployment (by simp [EvolutionDb.service, get_of_mem hr]) hk
  · rintro ⟨ho, hon⟩
    refine ⟨fun d r hr hk => ?_, EvolutionDb.subsingleton_inState_iff.2 hon⟩
    obtain ⟨r, hg, rfl⟩ := map_eq_some_iff.1 hr
    exact ho r (get_eq_some.1 hg).1 hk

/-- A skill that starts with one active configuration has exactly one in every state reached, and at most one canary;
the releases of the skill are those of the runtime's company. -/
theorem one_active_one_canary {rt : ReleaseRuntime} {s t : Receiver} {skill : String}
    (hrun : Run (Steps (receiverStep rt)) Always s t) (hactive : (s.db.activeConfigs skill).length = 1)
    (hcanary : (s.db.releasesIn skill .canary).length ≤ 1)
    (howned : ∀ r ∈ s.db.releases, r.skillId = skill → r.companyId = rt.companyId) :
    (t.db.activeConfigs skill).length = 1 ∧ (t.db.releasesIn skill .canary).length ≤ 1 := by
  refine ⟨EvolutionDb.oneLive_iff.1 (oneLive_run hrun (EvolutionDb.oneLive_iff.2 hactive)), ?_⟩
  have hI : OneCanary rt.companyId t.db.service skill :=
    hrun.invariant (I := fun s => OneCanary rt.companyId s.db.service skill) (oneCanary_iff.2 ⟨howned, hcanary⟩)
      (fun _ _ _ hI _ hs =>
        have ⟨_, he, _⟩ := receiverStep_effect hs
        hI.effect he)
  exact (oneCanary_iff.1 hI).2

/-! ### A skill with three versions -/

def plainReleaseRuntime : ReleaseRuntime where
  companyId := "c"
  signingKey := "0123456789abcdef0123456789abcdef"
  canonicalHash command := command.commandId
  decisionHash _ deploymentId _ := deploymentId
  hmac _ command := command.commandId
  int _ := none

def threeVersions : EvolutionDb where
  configs := ⟨[⟨"s", "1", .active, "1", none⟩, ⟨"s", "2", .candidate, "2", none⟩, ⟨"s", "3", .candidate, "3", none⟩],
    by decide⟩
  releases := .empty
  experiments := .empty
  commands := .empty

def firstRollout (id : String) (action : ReleaseAction) : SkillReleaseCommand where
  companyId := "c"
  proposalId := "p"
  evaluationReportId := "e"
  evaluationHash := "h"
  skillId := "s"
  agentId := "a"
  baselineVersion := 1
  candidateVersion := 2
  baselineConfigHash := "1"
  candidateConfigHash := "2"
  commandId := id
  deploymentId := "d"
  action := action
  approvalId := some "ok"
  expiresAt := 1
  traffic_le := le_rfl
  le_minimum := le_rfl

def secondRollout (id : String) (action : ReleaseAction) : SkillReleaseCommand :=
  { firstRollout id action with
    baselineVersion := 2
    candidateVersion := 3
    baselineConfigHash := "2"
    candidateConfigHash := "3"
    deploymentId := "f"
    one_le_baseline := by decide
    one_le_candidate := by decide }

def signed (command : SkillReleaseCommand) : ReceiverAct := .runtime (.apply command command.commandId)

def results (experimentId : String) : List ReceiverAct :=
  [.runtime (.addResults experimentId false (List.replicate 50 0)),
    .runtime (.addResults experimentId true (List.replicate 50 1))]

def firstPromotion : List ReceiverAct :=
  [signed (firstRollout "i" .shadow), signed (firstRollout "j" .canary)] ++ results "d" ++
    [signed (firstRollout "k" .promote)]

def secondPromotion : List ReceiverAct :=
  [signed (secondRollout "l" .shadow), signed (secondRollout "m" .canary)] ++ results "f" ++
    [signed (secondRollout "n" .promote)]

/-- A release goes through shadow and canary to its promotion. -/
theorem one_active_one_canary_firstPromotion :
    ∃ t, Run (Steps (receiverStep plainReleaseRuntime)) Always ⟨threeVersions, 0⟩ t ∧
      (t.db.releasesIn "s" .active).length = 1 ∧ (t.db.activeConfigs "s").length = 1 ∧
        (t.db.releasesIn "s" .canary).length ≤ 1 :=
  exists_run_and firstPromotion (by decide +kernel) (fun _ hrn =>
    one_active_one_canary hrn (by decide) (by decide) (fun r hr => absurd hr (not_mem_empty r)))

/-! ### The active release -/

def Unrivalled (skill : String) (s : Receiver) : ReceiverAct → Prop
  | .runtime (.apply command _) =>
    command.skillId = skill → command.action = .promote → s.db.commands.get command.commandId = none →
      ∀ r ∈ s.db.releases, r.skillId = skill → r.state = .active → r.deploymentId = command.deploymentId
  | _ => True

instance (skill : String) (s : Receiver) (a : ReceiverAct) : Decidable (Unrivalled skill s a) := by
  unfold Unrivalled
  split <;> infer_instance

def EvolutionDb.Current (db : EvolutionDb) (skill : String) : Prop :=
  (db.releasesIn skill .active).length ≤ 1 ∧
    ∀ r ∈ db.releasesIn skill .active, (db.activeConfigs skill).map (·.version) = [toString r.candidateVersion]

private theorem activeCurrent_iff (ho : OneLive db.service skill) :
    ActiveCurrent db.service skill ↔ db.Current skill := by
  obtain ⟨v, hv⟩ := ho
  constructor
  · rintro ⟨hsb, hl⟩
    refine ⟨EvolutionDb.subsingleton_inState_iff.1 hsb, fun r hr => EvolutionDb.live_eq_singleton_iff.1 ?_⟩
    obtain ⟨hr, hp⟩ := List.mem_filter.1 hr
    obtain ⟨hk, hs⟩ := of_decide_eq_true hp
    have hm := hl r.deploymentId r.deployment (by simp [EvolutionDb.service, get_of_mem hr]) hk hs
    rw [hv, Set.mem_singleton_iff] at hm
    rw [hv, ← hm]
    rfl
  · rintro ⟨hle, hc⟩
    refine ⟨EvolutionDb.subsingleton_inState_iff.2 hle, fun d r hr hk hs => ?_⟩
    obtain ⟨r, hg, rfl⟩ := map_eq_some_iff.1 hr
    have hin : r ∈ db.releasesIn skill .active := List.mem_filter.2 ⟨(get_eq_some.1 hg).1, by simpa using ⟨hk, hs⟩⟩
    rw [EvolutionDb.live_eq_singleton_iff.2 (hc r hin)]
    rfl

/-- In a run without a promotion beside an active release, the active release is unique and current in every state. -/
theorem active_release_current {rt : ReleaseRuntime} {s t : Receiver} {skill : String}
    (hrun : Run (Steps (receiverStep rt)) (Unrivalled skill) s t) (hactive : (s.db.activeConfigs skill).length = 1)
    (hstart : s.db.Current skill) : t.db.Current skill := by
  have hl : OneLive s.db.service skill := EvolutionDb.oneLive_iff.2 hactive
  refine (activeCurrent_iff (oneLive_run hrun hl)).1 ?_
  refine hrun.invariant (I := fun s => ActiveCurrent s.db.service skill) ((activeCurrent_iff hl).2 hstart) ?_
  intro s a t hI hok hs
  obtain ⟨c, hef, hc⟩ := receiverStep_effect hs
  refine hI.effect hef ?_
  cases c with
  | promote d k =>
    intro hk e he
    obtain ⟨b, rfl, hb⟩ := hc d k rfl
    cases b with
    | apply =>
      obtain ⟨hfresh, ha, rfl, rfl⟩ := hb
      obtain ⟨r, hr, rfl, hrk, hrs⟩ := EvolutionDb.mem_inState.1 he
      exact hok hk ha hfresh r hr hrk hrs
    | _ => cases hb
  | _ => trivial

/-- The promoted release is the current one. -/
theorem active_release_current_firstPromotion :
    ∃ t, Run (Steps (receiverStep plainReleaseRuntime)) (Unrivalled "s") ⟨threeVersions, 0⟩ t ∧
      (t.db.releasesIn "s" .active).length = 1 ∧ t.db.Current "s" :=
  exists_run_and firstPromotion (by decide +kernel)
    (fun _ hr => active_release_current hr (by decide) ⟨by decide, nofun⟩)

/-- A second rollout of the skill leaves two active releases, and the automatic rollback of the version it promoted
refuses to act. -/
theorem second_promotion_blocks_rollback : (threeVersions.activeConfigs "s").length = 1 ∧ threeVersions.Current "s" ∧
      ∃ t, Run (Steps (receiverStep plainReleaseRuntime)) Always ⟨threeVersions, 0⟩ t ∧
        (t.db.activeConfigs "s").map (·.version) = ["3"] ∧ (t.db.releasesIn "s" .active).length = 2 ∧
        (rollbackSkillIfCurrent plainReleaseRuntime t.clock t.db "s" "3" "2" "a").toOption.map Prod.fst = some false :=
  ⟨by decide, ⟨by decide, nofun⟩, exists_run_exec (firstPromotion ++ secondPromotion) (by decide +kernel)⟩

end WisdoverseCell.Evolution
