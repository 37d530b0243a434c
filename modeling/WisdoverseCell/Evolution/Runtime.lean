import WisdoverseCell.Evolution.ReleaseStore
import WisdoverseCell.Evolution.Rollout
import WisdoverseCell.Library.Transition

/-!
# The runtime as a rollout service

The transactions of the release store as the steps of one system, and the connection to the abstract service: an active
configuration is a live version, a row of the release ledger is a deployment.  Every transaction is an effect on the
service (`runtimeStep_effect`).
-/

namespace WisdoverseCell.Evolution

open List Option Table
open ControlPlane (Time)

variable {v agentId baselineVersion expected skillId k : String} {state : ReleaseState} {new old : SkillConfig}
  {release : Option SkillRelease} {done : Bool} {r : SkillRelease}

inductive RuntimeAct
  | apply (command : SkillReleaseCommand) (signature : String)
  | rollbackIfCurrent (skillId expectedActiveVersion baselineVersion agentId : String)
  | addResults (experimentId : String) (isCandidate : Bool) (scores : List ℚ)
  | conclude (experimentId : String) (status : ExperimentStatus)

def runtimeStep (rt : ReleaseRuntime) (now : Time) (db : EvolutionDb) : RuntimeAct → EvolutionDb
  | .apply command signature =>
    match applySigned rt now db command signature with
    | .ok (_, db') => db'
    | .error _ => db
  | .rollbackIfCurrent skillId expectedActiveVersion baselineVersion agentId =>
    match rollbackSkillIfCurrent rt now db skillId expectedActiveVersion baselineVersion agentId with
    | .ok (_, db') => db'
    | .error _ => db
  | .addResults experimentId isCandidate scores =>
    scores.foldl (fun db score => addExperimentResult db experimentId isCandidate score) db
  | .conclude experimentId status => concludeExperiment db experimentId status

/-! ### The service behind the tables -/

def SkillRelease.deployment (r : SkillRelease) : Deployment String String String :=
  ⟨r.companyId, r.skillId, toString r.candidateVersion, r.state⟩

def EvolutionDb.service (db : EvolutionDb) : Service String String String String where
  live k := {v | ∃ c, db.configs.get (k, v) = some c ∧ c.status = .active}
  deployment d := (db.releases.get d).map SkillRelease.deployment

namespace EvolutionDb

variable {db : EvolutionDb}

theorem live_eq_singleton_iff : db.service.live k = {v} ↔ (db.activeConfigs k).map (·.version) = [v] := by
  have hl (u : String) : u ∈ db.service.live k ↔ ∃ c, db.configs.get (k, u) = some c ∧ c.status = .active := Iff.rfl
  constructor
  · intro h
    obtain ⟨c, hc, ha⟩ := (hl v).1 (h ▸ Set.mem_singleton v)
    obtain ⟨hm, hke⟩ := get_eq_some.1 hc
    obtain ⟨rfl, rfl⟩ := Prod.mk.inj hke
    have hon : db.activeConfigs c.skillId = [c] := by
      refine filter_eq_singleton.2 ⟨hm, by simpa using ha, fun b hb hpb => ?_⟩
      obtain ⟨hk, hb'⟩ := of_decide_eq_true hpb
      have hv : b.version ∈ db.service.live c.skillId :=
        (hl _).2 ⟨b, get_eq_some.2 ⟨hb, by rw [SkillConfig.key, hk]⟩, hb'⟩
      rw [h, Set.mem_singleton_iff] at hv
      exact eq_of_key_eq hb hm (by rw [SkillConfig.key, SkillConfig.key, hk, hv])
    simp [hon]
  · intro h
    obtain ⟨c, hc, rfl⟩ := map_eq_singleton_iff.1 h
    obtain ⟨hm, hp, ho⟩ := filter_eq_singleton.1 hc
    obtain ⟨rfl, ha⟩ := of_decide_eq_true hp
    refine Set.eq_singleton_iff_unique_mem.2 ⟨⟨c, get_of_mem hm, ha⟩, ?_⟩
    rintro u ⟨b, hb, hb'⟩
    obtain ⟨hbm, hbk⟩ := get_eq_some.1 hb
    obtain ⟨hk, rfl⟩ := Prod.mk.inj hbk
    rw [ho b hbm (by simpa using ⟨hk, hb'⟩)]

/-- One live version is one active configuration. -/
theorem oneLive_iff : OneLive db.service k ↔ (db.activeConfigs k).length = 1 := by
  rw [← length_map (·.version), length_eq_one_iff]
  exact exists_congr fun v => live_eq_singleton_iff

theorem mem_inState {d} :
    d ∈ db.service.inState k state ↔ ∃ r ∈ db.releases, r.deploymentId = d ∧ r.skillId = k ∧ r.state = state := by
  constructor
  · rintro ⟨_, hr, hk, hs⟩
    obtain ⟨r, hg, rfl⟩ := map_eq_some_iff.1 hr
    obtain ⟨hm, hd⟩ := get_eq_some.1 hg
    exact ⟨r, hm, hd, hk, hs⟩
  · rintro ⟨r, hm, rfl, hk, hs⟩
    exact ⟨r.deployment, map_eq_some_iff.2 ⟨r, get_of_mem hm, rfl⟩, hk, hs⟩

theorem subsingleton_inState_iff : (db.service.inState k state).Subsingleton ↔ (db.releasesIn k state).length ≤ 1 := by
  rw [releasesIn, length_filter_le_one]
  constructor
  · intro h a ha b hb hpa hpb
    obtain ⟨hka, hsa⟩ := of_decide_eq_true hpa
    obtain ⟨hkb, hsb⟩ := of_decide_eq_true hpb
    exact eq_of_key_eq ha hb (h (mem_inState.2 ⟨a, ha, rfl, hka, hsa⟩) (mem_inState.2 ⟨b, hb, rfl, hkb, hsb⟩))
  · intro h d hd e he
    obtain ⟨a, ha, rfl, hka, hsa⟩ := mem_inState.1 hd
    obtain ⟨b, hb, rfl, hkb, hsb⟩ := mem_inState.1 he
    rw [h a ha b hb (by simpa using ⟨hka, hsa⟩) (by simpa using ⟨hkb, hsb⟩)]

/-! ### What the writes are to the service -/

theorem get_swap (promotedAt) (ho : db.configs.get old.key = some old)
    (hn : db.configs.get new.key = some new) (hne : old.key ≠ new.key) (k) :
    (db.swap old new promotedAt).configs.get k =
      if k = new.key then some { new with status := .active, promotedAt := promotedAt.or new.promotedAt }
      else if k = old.key then some { old with status := .retired } else db.configs.get k := by
  have hr := get_update_key (t := db.configs) (q := fun c => decide (c.status = old.status))
    (f := fun c => { c with status := .retired }) (fun _ => rfl) old.key k
  refine (get_update_key (by intro; rfl) new.key k).trans ?_
  rw [hr]
  by_cases hkn : k = new.key
  · subst hkn
    simp [hn, hne.symm]
  · by_cases hko : k = old.key
    · subst hko
      simp [ho, hne]
    · simp [hkn, hko]

private theorem service_swap (promotedAt) {w} (ho : db.configs.get (k, v) = some old)
    (hn : db.configs.get (k, w) = some new) (ha : old.status = .active) (hi : new.status ≠ .active) :
    (db.swap old new promotedAt).service = db.service.replace k v w ∧ v ∈ db.service.live k := by
  obtain ⟨-, hko⟩ := get_eq_some.1 ho
  obtain ⟨-, hkn⟩ := get_eq_some.1 hn
  have hvw : v ≠ w := by
    rintro rfl
    exact hi (some.inj (ho.symm.trans hn) ▸ ha)
  have hg := get_swap promotedAt (hko ▸ ho) (hkn ▸ hn) (by rw [hko, hkn]; simp [hvw])
  rw [hko, hkn] at hg
  have hl (k' u : String) : u ∈ (db.swap old new promotedAt).service.live k' ↔
      u ∈ (db.service.replace k v w).live k' := by
    change (∃ c, (db.swap old new promotedAt).configs.get (k', u) = some c ∧ c.status = .active) ↔ _
    rw [hg]
    by_cases hk : k' = k
    · subst hk
      by_cases huw : u = w
      · subst huw; simp [Service.replace]
      · by_cases huv : u = v
        · subst huv; simp [Service.replace, huw]
        · simp [Service.replace, huw, huv, EvolutionDb.service]
    · simp [Service.replace, hk, EvolutionDb.service]
  exact ⟨congrArg₂ Service.mk (funext fun k' => Set.ext (hl k')) rfl, old, ho, ha⟩

private theorem service_moveRelease {next} (hr : db.releases.get r.deploymentId = some r) :
    (db.moveRelease r.toSkillReleaseSnapshot next).service = db.service.move {r.deploymentId} next.state := by
  have hdp (d : String) : (db.moveRelease r.toSkillReleaseSnapshot next).service.deployment d =
      (db.service.move {r.deploymentId} next.state).deployment d := by
    change ((db.moveRelease r.toSkillReleaseSnapshot next).releases.get d).map SkillRelease.deployment = _
    refine (congrArg (Option.map _) (get_update_key (by intro; rfl) r.deploymentId d)).trans ?_
    by_cases hd : d = r.deploymentId
    · subst hd
      simp [hr, Service.move, EvolutionDb.service, SkillRelease.deployment]
    · simp [hd, Service.move, EvolutionDb.service]
  exact congrArg₂ Service.mk rfl (funext hdp)

private theorem service_withdraw (p) :
    { db with releases := db.releases.update p (fun r => { r with state := .rolledBack }) (fun _ => rfl) }.service =
      db.service.move {d | ∃ r, db.releases.get d = some r ∧ p r = true} .rolledBack := by
  have hd (d : String) : ((db.releases.update p (fun r => { r with state := .rolledBack }) (fun _ => rfl)).get d).map
          SkillRelease.deployment =
        (db.service.move {d | ∃ r, db.releases.get d = some r ∧ p r = true} .rolledBack).deployment d := by
    rw [get_update]
    cases hr : db.releases.get d with
    | none => simp [Service.move, EvolutionDb.service, hr]
    | some r => by_cases hp : p r = true <;> simp [Service.move, EvolutionDb.service, hr, hp, SkillRelease.deployment]
  exact congrArg₂ Service.mk rfl (funext hd)

private theorem service_insert {releases}
    (h : db.releases.insert r = some releases) :
      { db with releases := releases }.service = db.service.start r.deploymentId r.deployment := by
  have hdp (d : String) : (releases.get d).map SkillRelease.deployment =
      (db.service.start r.deploymentId r.deployment).deployment d := by
    rw [get_insert h]
    by_cases hd : d = r.deploymentId
    · subst hd; simp [Service.start]
    · simp [hd, Service.start, EvolutionDb.service]
  exact congrArg₂ Service.mk rfl (funext hdp)

end EvolutionDb

/-! ### What a command does -/

section

variable {rt : ReleaseRuntime} {now : Time} {db db' opened moved saved : EvolutionDb} {command : SkillReleaseCommand}
  {baseline candidate : SkillConfig} {next : SkillReleaseSnapshot}

theorem openCanary_eq_ok (h : openCanary db command release baseline = .ok opened) :
    ∃ experiments, opened = { db with experiments := experiments } := by
  unfold openCanary at h
  split at h
  · simp only [openExperiment, eq_ok] at h
    obtain ⟨-, -, -, -, h⟩ := h
    split at h
    · simp only [eq_ok] at h
      obtain ⟨-, -, experiments, -, rfl⟩ := h
      exact ⟨experiments, rfl⟩
    · simp only [eq_ok] at h
      obtain ⟨-, -, -, -, rfl⟩ := h
      exact ⟨_, rfl⟩
  · cases h
    exact ⟨_, rfl⟩

private theorem canary_free (h : openCanary db command release baseline = .ok opened) (ha : command.action = .canary)
    (hr : r ∈ db.releases) (hc : r.companyId = command.companyId) (hs : r.skillId = command.skillId)
    (hst : r.state = .canary) : r.deploymentId = command.deploymentId := by
  rw [openCanary, if_pos ha] at h
  simp only [openExperiment, eq_ok] at h
  obtain ⟨-, -, -, hf, -⟩ := h
  exact hf r hr hc hs hst

theorem promoteSkill_eq_ok {current} (h : promoteSkill now db command current baseline candidate = .ok moved) :
    baseline.status = .active ∧ candidate.status ≠ .active ∧
      ∃ experiments, moved = { db.swap baseline candidate (some now) with experiments := experiments } := by
  simp only [promoteSkill, eq_ok] at h
  obtain ⟨s, -, -, -, e, -, -, -, -, -, -, -, -, -, -, ⟨ha, hi⟩, rfl⟩ := h
  refine ⟨ha, ?_, _, rfl⟩
  rcases hi with h | h <;> rw [h] <;> decide

theorem rollbackSkill_eq_ok {s} (h : rollbackSkill db (some s) baseline candidate = .ok moved) :
    (s.state ≠ .active ∧ ∃ experiments, moved = { db with experiments := experiments }) ∨
      (s.state = .active ∧ candidate.status = .active ∧ baseline.status = .retired ∧
        ∃ experiments, moved = { db.swap candidate baseline none with experiments := experiments }) := by
  simp only [rollbackSkill] at h
  split at h
  · rename_i hs
    rw [pure_eq_ok] at h
    exact .inl ⟨by rw [hs]; decide, db.experiments, h.symm⟩
  · rename_i hs
    rw [pure_eq_ok] at h
    exact .inl ⟨by rw [hs]; decide, _, h.symm⟩
  · rename_i hs
    simp only [eq_ok] at h
    obtain ⟨-, ⟨hc, hb⟩, rfl⟩ := h
    exact .inr ⟨hs, hc, hb, _, rfl⟩
  · cases h

theorem saveRelease_eq_ok (h : saveRelease moved command release next = .ok saved) :
    ∃ releases, saved = { moved with releases := releases } := by
  cases release with
  | none =>
    simp only [saveRelease, eq_ok] at h
    obtain ⟨releases, -, rfl⟩ := h
    exact ⟨releases, rfl⟩
  | some => exact ⟨_, (pure_eq_ok.1 h).symm⟩

private theorem saveRelease_some (h : saveRelease moved command (some r) next = .ok saved) :
    saved = moved.moveRelease r.toSkillReleaseSnapshot next := (pure_eq_ok.1 h).symm

theorem Accepted.effect_none (h : Accepted now db command baseline candidate opened next moved saved)
    (hr : db.releases.get command.deploymentId = none) :
    Effect command.companyId db.service (.start command.deploymentId) saved.service := by
  have hs := h.steps
  have hsv := h.saves
  have ho := h.opens
  have hm := h.moves
  rw [hr] at hs hsv
  obtain ⟨ha, rfl⟩ := transition_none hs
  rw [openCanary, if_neg (by rw [ha]; decide)] at ho
  simp only [moveSkill, ha] at hm
  cases ho
  cases hm
  simp only [saveRelease, eq_ok] at hsv
  obtain ⟨releases, hi, rfl⟩ := hsv
  rw [EvolutionDb.service_insert hi]
  exact .start (by simp [EvolutionDb.service, hr]) rfl rfl

theorem Accepted.effect_some (h : Accepted now db command baseline candidate opened next moved saved)
    (hrl : db.releases.get command.deploymentId = some r) :
    ∃ c, Effect command.companyId db.service c saved.service ∧
      ∀ d k, c = .promote d k → command.action = .promote ∧ d = command.deploymentId ∧ k = command.skillId := by
  have hst := h.steps
  have hsv := h.saves
  have hmv := h.moves
  obtain ⟨experiments, ho⟩ := openCanary_eq_ok h.opens
  rw [hrl] at hst hsv hmv
  obtain ⟨hid, -, hm⟩ := transition_some hst
  obtain rfl := saveRelease_some hsv
  have hsk : r.skillId = command.skillId := congrArg ReleaseIdentity.skillId hid
  have hcn : r.candidateVersion = command.candidateVersion := congrArg ReleaseIdentity.candidateVersion hid
  have hdp : r.deploymentId = command.deploymentId := congrArg ReleaseIdentity.deploymentId hid
  have hr : db.service.deployment command.deploymentId = some r.deployment := by simp [EvolutionDb.service, hrl]
  -- the ledger row is still the one read, so the last write is a move of the deployment
  have hsa (hsm : moved.releases = db.releases) : (moved.moveRelease r.toSkillReleaseSnapshot next).service =
        moved.service.move {command.deploymentId} next.state := by
    rw [EvolutionDb.service_moveRelease (by rw [hsm, hdp, hrl]), hdp]
  generalize hac : command.action = action, hf : r.toSkillReleaseSnapshot.state = start, hto : next.state = stop at hm
  simp only [moveSkill, hac] at hmv
  cases hm with
  | stay =>
    cases hmv
    have hsm : db.service.move {command.deploymentId} .shadow = db.service :=
      Service.move_eq_self (fun d hd => by
        rw [Set.mem_singleton_iff.1 hd, hr]
        rintro _ ⟨⟩
        exact hf)
    rw [hsa (by rw [ho]), hto, ho]
    change ∃ c, Effect _ db.service c (db.service.move {command.deploymentId} .shadow) ∧ _
    rw [hsm]
    exact ⟨.quiet, .quiet, by rintro _ _ ⟨⟩⟩
  | canary =>
    cases hmv
    rw [hsa (by rw [ho]), hto, ho]
    refine ⟨.canary command.deploymentId, .canary hr (fun e r' hr' how hk hs => ?_), by rintro _ _ ⟨⟩⟩
    obtain ⟨r', hg, rfl⟩ := map_eq_some_iff.1 hr'
    obtain ⟨hmm, rfl⟩ := get_eq_some.1 hg
    exact canary_free h.opens hac hmm how (hk.trans hsk) hs
  | promote =>
    obtain ⟨hb, hc, experiments', rfl⟩ := promoteSkill_eq_ok hmv
    obtain ⟨hsw, hl⟩ := EvolutionDb.service_swap (some now) h.baseline_get h.candidate_get hb hc
    rw [hsa (by rw [ho]; rfl), hto, ho]
    change ∃ c, Effect _ db.service c ((db.swap baseline candidate (some now)).service.move _ .active) ∧ _
    rw [hsw]
    rw [← hsk] at hl
    rw [← hsk, ← hcn]
    refine ⟨.promote command.deploymentId r.skillId, .promote hr hl, ?_⟩
    rintro d k ⟨⟩
    exact ⟨rfl, rfl, rfl⟩
  | rollback =>
    rcases rollbackSkill_eq_ok hmv with ⟨hlw, experiments', rfl⟩ | ⟨ha, hc, hb, experiments', rfl⟩
    · rw [hsa (by rw [ho]), hto, ho]
      refine ⟨.withdraw, .withdraw (fun d hd r' hr' => ?_), by rintro _ _ ⟨⟩⟩
      rw [Set.mem_singleton_iff.1 hd, hr] at hr'
      cases hr'
      exact hlw
    · obtain ⟨hsw, hl⟩ := EvolutionDb.service_swap none h.candidate_get h.baseline_get hc (by rw [hb]; decide)
      rw [hsa (by rw [ho]; rfl), hto, ho]
      change ∃ c, Effect _ db.service c ((db.swap candidate baseline none).service.move _ .rolledBack) ∧ _
      rw [hsw]
      rw [← hsk, ← hcn] at hl ⊢
      exact ⟨.restore command.deploymentId, .restore hr ha hl, by rintro _ _ ⟨⟩⟩

private theorem applySigned_effect {signature response}
    (h : applySigned rt now db command signature = .ok (response, db')) :
    ∃ c, Effect rt.companyId db.service c db'.service ∧ ∀ d k, c = .promote d k →
      db.commands.get command.commandId = none ∧ command.action = .promote ∧ d = command.deploymentId ∧
        k = command.skillId := by
  obtain ⟨-, h⟩ := applySigned_eq_ok h
  obtain ⟨hcm, ⟨-, -, -, rfl⟩ | ⟨hfresh, h⟩⟩ := apply_eq_ok h
  · exact ⟨.quiet, .quiet, nofun⟩
  · obtain ⟨baseline, candidate, opened, next, moved, saved, commands, ha, -, -, rfl⟩ := applyNew_eq_ok h
    rw [← hcm]
    cases hr : db.releases.get command.deploymentId with
    | none => exact ⟨_, ha.effect_none hr, nofun⟩
    | some =>
      obtain ⟨c, he, hcs⟩ := ha.effect_some hr
      exact ⟨c, he, fun d k hc => ⟨hfresh, hcs d k hc⟩⟩

/-! ### What the other transactions do -/

theorem rollbackSkillIfCurrent_eq_ok
    (h : rollbackSkillIfCurrent rt now db skillId expected baselineVersion agentId = .ok (done, db')) :
    (done = false ∧ db' = db) ∨ (done = true ∧ ∃ live baseline,
      db.configs.get (skillId, expected) = some live ∧ live.status = .active ∧
      db.configs.get (skillId, baselineVersion) = some baseline ∧ baseline.status = .retired ∧
      ((db.releasesIn skillId .active = [] ∧ db' = db.swap live baseline (some now)) ∨
        ∃ r, db.releasesIn skillId .active = [r] ∧ db' =
          ((db.swap live baseline (some now)).conclude r.experimentId (fun _ => true) .rolledBack).moveRelease
            r.toSkillReleaseSnapshot
              { r.toSkillReleaseSnapshot with state := .rolledBack, version := r.version + 1 })) := by
  have hq (h : (pure (false, db) : Except ReleaseError (Bool × EvolutionDb)) = .ok (done, db')) :
      done = false ∧ db' = db := by
    obtain ⟨hd, hdb⟩ := Prod.mk.inj (pure_eq_ok.1 h)
    exact ⟨hd.symm, hdb.symm⟩
  unfold rollbackSkillIfCurrent at h
  split at h
  · rename_i live baseline hl hb
    obtain ⟨hl, ha⟩ := filter_eq_some_iff.1 hl
    obtain ⟨hb, hr⟩ := filter_eq_some_iff.1 hb
    split at h
    · rename_i hn
      obtain ⟨rfl, rfl⟩ := Prod.mk.inj (pure_eq_ok.1 h)
      exact .inr ⟨rfl, live, baseline, hl, of_decide_eq_true ha, hb, of_decide_eq_true hr, .inl ⟨hn, rfl⟩⟩
    · rename_i r ho
      -- every check that fails leaves the tables alone
      split at h
      · exact .inl (hq h)
      obtain ⟨_, _, h⟩ := bind_eq_ok.1 h
      split at h
      · exact .inl (hq h)
      obtain ⟨_, _, h⟩ := bind_eq_ok.1 h
      split at h
      · exact .inl (hq h)
      obtain ⟨rfl, rfl⟩ := Prod.mk.inj (pure_eq_ok.1 h)
      exact .inr ⟨rfl, live, baseline, hl, of_decide_eq_true ha, hb, of_decide_eq_true hr, .inr ⟨r, ho, rfl⟩⟩
    · exact .inl (hq h)
  · exact .inl (hq h)

private theorem rollbackSkillIfCurrent_effect
    (h : rollbackSkillIfCurrent rt now db skillId expected baselineVersion agentId = .ok (done, db')) :
    ∃ c, Effect rt.companyId db.service c db'.service ∧ ∀ d k, c ≠ .promote d k := by
  rcases rollbackSkillIfCurrent_eq_ok h with ⟨-, rfl⟩ | ⟨-, live, baseline, hl, ha, hb, hrt, hdn⟩
  · exact ⟨.quiet, .quiet, by rintro _ _ ⟨⟩⟩
  obtain ⟨hsw, hm⟩ := EvolutionDb.service_swap (some now) hl hb ha (by rw [hrt]; decide)
  rcases hdn with ⟨hn, rfl⟩ | ⟨r, ho, rfl⟩
  · rw [hsw]
    refine ⟨.revert skillId, .revert hm (Set.eq_empty_of_forall_notMem fun d hd => ?_), by rintro _ _ ⟨⟩⟩
    obtain ⟨r, hr, -, hk, hs⟩ := EvolutionDb.mem_inState.1 hd
    have hin : r ∈ db.releasesIn skillId .active := List.mem_filter.2 ⟨hr, by simpa using ⟨hk, hs⟩⟩
    rw [hn] at hin
    exact not_mem_nil hin
  · obtain ⟨hr, hp, -⟩ := filter_eq_singleton.1 ho
    obtain ⟨rfl, hs⟩ := of_decide_eq_true hp
    have hdp : db.service.deployment r.deploymentId = some r.deployment := by
      simp [EvolutionDb.service, Table.get_of_mem hr]
    have hg : ((db.swap live baseline (some now)).conclude r.experimentId (fun _ => true) .rolledBack).releases.get
        r.deploymentId = some r := Table.get_of_mem hr
    rw [EvolutionDb.service_moveRelease hg]
    change ∃ c, Effect _ db.service c ((db.swap live baseline (some now)).service.move _ .rolledBack) ∧ _
    rw [hsw]
    exact ⟨.restore r.deploymentId, .restore hdp hs hm, by rintro _ _ ⟨⟩⟩

private theorem addResults_service (db) (experimentId : String) (isCandidate : Bool) (scores : List ℚ) :
    (scores.foldl (fun db score => addExperimentResult db experimentId isCandidate score) db).service = db.service := by
  induction scores generalizing db with
  | nil => rfl
  | cons score scores ih => exact ih _

private theorem concludeExperiment_effect (owner) (db) (experimentId status) :
    ∃ c, Effect owner db.service c (concludeExperiment db experimentId status).service ∧ ∀ d k, c ≠ .promote d k := by
  unfold concludeExperiment
  dsimp only
  split
  · -- the canaries of the experiment are withdrawn
    have hw := @EvolutionDb.service_withdraw (db.conclude (some experimentId) (fun _ => true) status)
      (fun r => r.experimentId = some experimentId ∧ r.state = .canary)
    refine ⟨.withdraw, hw ▸ .withdraw (fun d hd r' hr' => ?_), by simp⟩
    obtain ⟨r, hr, hp⟩ := hd
    obtain ⟨-, hs⟩ := of_decide_eq_true hp
    have hr'' : (db.releases.get d).map SkillRelease.deployment = some r' := hr'
    rw [show db.releases.get d = some r from hr, map_some, some.injEq] at hr''
    rw [← hr'']
    exact fun h => absurd (hs.symm.trans h) (by decide)
  · exact ⟨.quiet, .quiet, by simp⟩

def RuntimeAct.Promotes (db : EvolutionDb) (d k : String) : RuntimeAct → Prop
  | .apply command _ => db.commands.get command.commandId = none ∧ command.action = .promote ∧
      d = command.deploymentId ∧ k = command.skillId
  | _ => False

/-- The receiver refines the abstract service. -/
theorem runtimeStep_effect (rt now db) (a : RuntimeAct) :
    ∃ c, Effect rt.companyId db.service c (runtimeStep rt now db a).service ∧
      ∀ d k, c = .promote d k → a.Promotes db d k := by
  cases a with
  | apply =>
    simp only [runtimeStep]
    split
    · rename_i response db' h
      exact applySigned_effect h
    · exact ⟨.quiet, .quiet, nofun⟩
  | rollbackIfCurrent =>
    simp only [runtimeStep]
    split
    · rename_i done db' h
      obtain ⟨c, he, hc⟩ := rollbackSkillIfCurrent_effect h
      exact ⟨c, he, fun d k h => absurd h (hc d k)⟩
    · exact ⟨.quiet, .quiet, nofun⟩
  | addResults =>
    rw [runtimeStep, addResults_service]
    exact ⟨.quiet, .quiet, nofun⟩
  | conclude experimentId status =>
    obtain ⟨c, he, hc⟩ := concludeExperiment_effect rt.companyId db experimentId status
    exact ⟨c, he, fun d k h => absurd h (hc d k)⟩

end

end WisdoverseCell.Evolution
