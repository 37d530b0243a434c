import WisdoverseCell.Evolution.ActiveRelease
import WisdoverseCell.Evolution.Guard

/-!
# What the regression guard restores

The guard reads the last traces of the skill, whichever version wrote them, and restores the retired version that was
promoted last, which may be the one just rolled back.  If every check that replaces a version judges it by its own
traces and follows a promotion, the active version was promoted later than all versions that are rolled back.
-/

namespace WisdoverseCell.Evolution

open List Option Table
open ControlPlane (Time)

variable {c' p c a : SkillConfig} {version v agentId : String} {db : EvolutionDb} {n : Nat}

/-! ### Reads -/

section

variable {db : EvolutionDb} {skillId : String} {c : SkillConfig}

private theorem getActiveSkill_eq_some (h : getActiveSkill db skillId = some c) :
    db.configs.get (skillId, c.version) = some c ∧ c.status = .active := by
  have hp := find?_some h
  obtain ⟨rfl, ha⟩ := of_decide_eq_true hp
  exact ⟨get_of_mem (mem_reverse.1 (mem_of_find?_eq_some h)), ha⟩

private theorem getActiveSkill_eq_none (h : getActiveSkill db skillId = none)
    (hg : db.configs.get (skillId, v) = some c) :
    c.status ≠ .active := by
  obtain ⟨hm, hke⟩ := get_eq_some.1 hg
  obtain ⟨hk, -⟩ := Prod.mk.inj hke
  have hn := find?_eq_none.1 h c (mem_reverse.2 hm)
  exact fun ha => hn (decide_eq_true ⟨hk, ha⟩)

private theorem getPreviousActive_eq_some (h : getPreviousActive db skillId = some c) :
    db.configs.get (skillId, c.version) = some c ∧ c.status = .retired ∧
      ∀ v d, db.configs.get (skillId, v) = some d → d.status = .retired → d.stamp ≤ c.stamp := by
  obtain ⟨hm, hp⟩ := List.mem_filter.1 (argmax_mem h)
  obtain ⟨rfl, hr⟩ := of_decide_eq_true hp
  refine ⟨get_of_mem hm, hr, fun v d hd hdr => ?_⟩
  obtain ⟨hdm, hdke⟩ := get_eq_some.1 hd
  obtain ⟨hdk, -⟩ := Prod.mk.inj hdke
  exact le_of_mem_argmax (List.mem_filter.2 ⟨hdm, by simp [hdk, hdr]⟩) h

end

/-! ### Making a version active -/

def SkillConfig.exchanged (version : String) (now : Time) (c : SkillConfig) : SkillConfig :=
  if c.version = version then { c with status := .active, promotedAt := some now }
  else if c.status = .active then { c with status := .retired } else c

def Exchanged (skillId version : String) (now : Time) (db db' : EvolutionDb) : Prop :=
  ∀ v, db'.configs.get (skillId, v) = (db.configs.get (skillId, v)).map (SkillConfig.exchanged version now)

def OneActiveVersion (db : EvolutionDb) (skillId : String) : Prop :=
  ∀ v w c d, db.configs.get (skillId, v) = some c → db.configs.get (skillId, w) = some d →
    c.status = .active → d.status = .active → v = w

section

variable {db db' : EvolutionDb} {skillId version : String} {now : Time}

private theorem version_of_get (h : db.configs.get (skillId, v) = some c) : c.version = v :=
  (Prod.mk.inj (get_eq_some.1 h).2).2

private theorem promoteSkillVersion_exchanged :
    Exchanged skillId version now db (promoteSkillVersion now db skillId version) := by
  intro v
  have hr := @get_update _ _ SkillConfig.key db.configs _
    (fun c => c.skillId = skillId ∧ c.status = .active) (fun c => { c with status := .retired }) (fun _ => rfl)
    (skillId, v)
  refine (get_modify (by intro; rfl) (skillId, version) (skillId, v)).trans ?_
  rw [hr]
  cases hg : db.configs.get (skillId, v) with
  | none => simp
  | some c =>
    obtain ⟨hk, rfl⟩ := Prod.mk.inj (get_eq_some.1 hg).2
    by_cases hv : c.version = version <;> by_cases ha : c.status = .active <;>
      simp [SkillConfig.exchanged, hk, hv, ha]

private theorem swap_exchanged {old new} (ho : OneActiveVersion db skillId)
    (hol : db.configs.get (skillId, v) = some old) (hn : db.configs.get (skillId, version) = some new)
    (ha : old.status = .active) (hi : new.status ≠ .active) :
    Exchanged skillId version now db (db.swap old new (some now)) := by
  intro w
  obtain ⟨-, hko⟩ := get_eq_some.1 hol
  obtain ⟨-, hkn⟩ := get_eq_some.1 hn
  have hvw : v ≠ version := by
    rintro rfl
    exact hi (some.inj (hol.symm.trans hn) ▸ ha)
  have hg := EvolutionDb.get_swap (some now) (hko ▸ hol) (hkn ▸ hn) (by rw [hko, hkn]; simp [hvw]) (skillId, w)
  rw [hg, hko, hkn]
  by_cases hw : w = version
  · subst hw
    simp [hn, SkillConfig.exchanged, version_of_get hn]
  · by_cases hwv : w = v
    · subst hwv
      simp [hol, SkillConfig.exchanged, version_of_get hol, hw, ha]
    · cases hc : db.configs.get (skillId, w) with
      | none => simp [hw, hwv]
      | some c =>
        have hcd : c.status ≠ .active := fun h => hwv (ho w v c old hc hol h ha)
        simp [SkillConfig.exchanged, version_of_get hc, hw, hwv, hcd]

namespace Exchanged

variable (h : Exchanged skillId version now db db')

include h

private theorem get_of_ne (hg : db'.configs.get (skillId, v) = some c') (hv : v ≠ version) :
    ∃ c, db.configs.get (skillId, v) = some c ∧ c'.stamp = c.stamp ∧ c'.status ≠ .active := by
  rw [h v] at hg
  obtain ⟨c, hc, rfl⟩ := map_eq_some_iff.1 hg
  have hcv : c.version ≠ version := version_of_get hc ▸ hv
  refine ⟨c, hc, ?_, ?_⟩ <;> unfold SkillConfig.exchanged <;> rw [if_neg hcv] <;> split <;> first | rfl | simp_all

private theorem get_self (hg : db'.configs.get (skillId, version) = some c') :
    c'.status = .active ∧ c'.stamp = now + 1 := by
  rw [h version] at hg
  obtain ⟨c, hc, rfl⟩ := map_eq_some_iff.1 hg
  rw [SkillConfig.exchanged, if_pos (version_of_get hc)]
  exact ⟨rfl, rfl⟩

private theorem retires (hg : db.configs.get (skillId, v) = some c) (hv : v ≠ version)
    (hc : c.status = .active ∨ c.status = .retired) :
    ∃ c', db'.configs.get (skillId, v) = some c' ∧ c'.stamp = c.stamp ∧ c'.status = .retired := by
  have hcv : c.version ≠ version := version_of_get hg ▸ hv
  refine ⟨_, by rw [h v, hg]; rfl, ?_⟩
  rw [SkillConfig.exchanged, if_neg hcv]
  rcases hc with hc | hc <;> simp [hc, SkillConfig.stamp]

private theorem oneActiveVersion : OneActiveVersion db' skillId := by
  have ho (v : String) (c : SkillConfig) (hc : db'.configs.get (skillId, v) = some c) (ha : c.status = .active) :
      v = version := by
    by_contra hv
    obtain ⟨-, -, -, hi⟩ := h.get_of_ne hc hv
    exact hi ha
  intro v w c d hc hd hca hda
  rw [ho v c hc hca, ho w d hd hda]

end Exchanged

end

/-! ### The invariant -/

/-- Every version that is rolled back is stored and was promoted before time `t`. -/
def GuardState.RolledBackBefore (s : GuardState) (skillId : String) (t : Nat) : Prop :=
  ∀ v ∈ s.rolledBack, ∃ d, s.db.configs.get (skillId, v) = some d ∧ d.stamp < t

structure Guarded (skillId : String) (s : GuardState) : Prop where
  one : OneActiveVersion s.db skillId
  past : ∀ v c, s.db.configs.get (skillId, v) = some c → c.stamp ≤ s.clock
  stored : s.RolledBackBefore skillId (s.clock + 1)
  active : ∀ v c, s.db.configs.get (skillId, v) = some c → c.status = .active →
    v ∉ s.rolledBack ∧ s.RolledBackBefore skillId c.stamp
  replaced : ∀ v, s.replaced = some v → ∃ c, s.db.configs.get (skillId, v) = some c ∧ c.status = .retired ∧
    v ∉ s.rolledBack ∧ s.RolledBackBefore skillId c.stamp

namespace Guarded

variable {policy : GuardPolicy} {rt : ReleaseRuntime} {skillId : String} {s t : GuardState}

private theorem of_unmoved (h : Guarded skillId s) (hcn : t.db.configs = s.db.configs) (hcl : s.clock ≤ t.clock)
    (hr : t.rolledBack = s.rolledBack) (hrp : t.replaced = s.replaced) : Guarded skillId t := by
  have hb (n m : Nat) (hnm : n ≤ m) (hn : s.RolledBackBefore skillId n) : t.RolledBackBefore skillId m := by
    intro v hv
    obtain ⟨d, hd, hlt⟩ := hn v (hr ▸ hv)
    exact ⟨d, hcn ▸ hd, by omega⟩
  refine ⟨?_, ?_, hb _ _ (Nat.succ_le_succ hcl) h.stored, ?_, ?_⟩
  · unfold OneActiveVersion
    rw [hcn]
    exact h.one
  · intro v c hc
    exact (h.past v c (hcn ▸ hc)).trans hcl
  · intro v c hc ha
    obtain ⟨hfresh, hl⟩ := h.active v c (hcn ▸ hc) ha
    exact ⟨hr ▸ hfresh, hb _ _ le_rfl hl⟩
  · intro v hv
    obtain ⟨c, hc, hrt, hfresh, hl⟩ := h.replaced v (hrp ▸ hv)
    exact ⟨c, hcn ▸ hc, hrt, hr ▸ hfresh, hb _ _ le_rfl hl⟩

private theorem insert (h : Guarded skillId s) {configHash configs}
    (hi : s.db.configs.insert ⟨skillId, version, .candidate, configHash, none⟩ = some configs) :
    Guarded skillId { s with db := { s.db with configs := configs } } := by
  have ho (v : String) (c : SkillConfig) (hc : s.db.configs.get (skillId, v) = some c) :
      configs.get (skillId, v) = some c := get_insert_of_some hi hc
  have hnw (v : String) (c : SkillConfig) (hc : configs.get (skillId, v) = some c) :
      s.db.configs.get (skillId, v) = some c ∨ (c.status = .candidate ∧ c.stamp = 0) := by
    rw [get_insert hi] at hc
    split at hc
    · cases hc
      exact .inr ⟨rfl, rfl⟩
    · exact .inl hc
  have hb (n : Nat) (hn : s.RolledBackBefore skillId n) :
      GuardState.RolledBackBefore { s with db := { s.db with configs := configs } } skillId n := by
    intro v hv
    obtain ⟨d, hd, hlt⟩ := hn v hv
    exact ⟨d, ho v d hd, hlt⟩
  -- an active row was there before
  have ha (v : String) (c : SkillConfig) (hc : configs.get (skillId, v) = some c) (hac : c.status = .active) :
      s.db.configs.get (skillId, v) = some c := by
    rcases hnw v c hc with hc | ⟨hcn, -⟩
    · exact hc
    · rw [hac] at hcn
      cases hcn
  refine ⟨?_, ?_, hb _ h.stored, ?_, ?_⟩
  · intro v w c d hc hd hca hda
    exact h.one v w c d (ha v c hc hca) (ha w d hd hda) hca hda
  · intro v c hc
    rcases hnw v c hc with hc | ⟨-, hs⟩
    · exact h.past v c hc
    · exact hs ▸ Nat.zero_le _
  · intro v c hc hac
    obtain ⟨hfresh, hl⟩ := h.active v c (ha v c hc hac) hac
    exact ⟨hfresh, hb _ hl⟩
  · intro v hv
    obtain ⟨c, hc, hr, hfresh, hl⟩ := h.replaced v hv
    exact ⟨c, ho v c hc, hr, hfresh, hb _ hl⟩

/-- Making `version` active now keeps the invariant for any histories that do not mention it and whose rolled-back
versions are older than the replaced one. -/
theorem exchange (h : Guarded skillId s) (hex : Exchanged skillId version s.clock s.db db)
    (hcl : t.clock = s.clock + 1) (hdb : t.db = db)
    (hr : ∀ v ∈ t.rolledBack, v ≠ version ∧ ∃ d, s.db.configs.get (skillId, v) = some d)
    (hrp : ∀ v, t.replaced = some v → v ≠ version ∧ ∃ c, s.db.configs.get (skillId, v) = some c ∧
      (c.status = .active ∨ c.status = .retired) ∧ v ∉ t.rolledBack ∧
      ∀ w ∈ t.rolledBack, ∀ d, s.db.configs.get (skillId, w) = some d → d.stamp < c.stamp) : Guarded skillId t := by
  subst hdb
  have hn (v : String) (hv : v ∈ t.rolledBack) : ∃ d', t.db.configs.get (skillId, v) = some d' ∧
      ∃ d, s.db.configs.get (skillId, v) = some d ∧ d'.stamp = d.stamp := by
    obtain ⟨hne, d, hd⟩ := hr v hv
    have hd' := hex v
    rw [hd, map_some] at hd'
    obtain ⟨d₀, hd₀, hs, -⟩ := hex.get_of_ne hd' hne
    exact ⟨_, hd', d₀, hd₀, hs⟩
  have hb : t.RolledBackBefore skillId (s.clock + 1) := by
    intro v hv
    obtain ⟨d', hd', d, hd, hs⟩ := hn v hv
    have := h.past v d hd
    exact ⟨d', hd', by omega⟩
  refine ⟨hex.oneActiveVersion, ?_, ?_, ?_, ?_⟩
  · intro v c hc
    rw [hcl]
    by_cases hv : v = version
    · subst hv
      exact (hex.get_self hc).2.le
    · obtain ⟨c₀, hc₀, hs, -⟩ := hex.get_of_ne hc hv
      have := h.past v c₀ hc₀
      omega
  · intro v hv
    obtain ⟨d, hd, hlt⟩ := hb v hv
    exact ⟨d, hd, by rw [hcl]; omega⟩
  · intro v c hc ha
    have hv : v = version := by
      by_contra hv
      obtain ⟨-, -, -, hi⟩ := hex.get_of_ne hc hv
      exact hi ha
    subst hv
    rw [(hex.get_self hc).2]
    exact ⟨fun hm => (hr v hm).1 rfl, hb⟩
  · intro v hv
    obtain ⟨hne, c, hc, hst, hfresh, hl⟩ := hrp v hv
    obtain ⟨c', hc', hs, hrt⟩ := hex.retires hc hne hst
    refine ⟨c', hc', hrt, hfresh, fun w hw => ?_⟩
    obtain ⟨d', hd', d, hd, hds⟩ := hn w hw
    have := hl w hw d hd
    exact ⟨d', hd', by omega⟩

private theorem stamp_lt (hb : s.RolledBackBefore skillId n) (hv : v ∈ s.rolledBack) {d}
    (hd : s.db.configs.get (skillId, v) = some d) : d.stamp < n := by
  obtain ⟨d', hd', hlt⟩ := hb v hv
  rw [hd] at hd'
  exact some.inj hd' ▸ hlt

private theorem promoted (h : Guarded skillId s) (hex : Exchanged skillId version s.clock s.db db) :
    Guarded skillId (s.promoted skillId version db) := by
  have hm (v : String) : v ∈ (s.promoted skillId version db).rolledBack ↔ v ∈ s.rolledBack ∧ v ≠ version := by
    simp [GuardState.promoted]
  refine h.exchange hex rfl rfl (fun v hv => ?_) (fun v hv => ?_)
  · obtain ⟨hv, hne⟩ := (hm v).1 hv
    obtain ⟨d, hd, -⟩ := h.stored v hv
    exact ⟨hne, d, hd⟩
  · simp only [GuardState.promoted] at hv
    split at hv
    · cases hv
    · rename_i a ha
      obtain ⟨hg, hac⟩ := getActiveSkill_eq_some ha
      split at hv
      · -- the active version is promoted again: the one it replaced stays retired
        rename_i hs
        obtain ⟨c, hc, hr, hfresh, hl⟩ := h.replaced v hv
        have hne : v ≠ version := by
          rintro rfl
          rw [hs, hc] at hg
          rw [some.inj hg, hac] at hr
          cases hr
        exact ⟨hne, c, hc, .inr hr, fun hin => hfresh ((hm v).1 hin).1, fun w hw d hd => stamp_lt hl ((hm w).1 hw).1 hd⟩
      · rename_i hne
        cases hv
        obtain ⟨hfresh, hl⟩ := h.active _ a hg hac
        exact ⟨hne, a, hg, .inl hac, fun hin => hfresh ((hm _).1 hin).1,
          fun w hw d hd => stamp_lt hl ((hm w).1 hw).1 hd⟩

private theorem previous_not_rolledBack (h : Guarded skillId s) (hr : s.rolledBack = [] ∨ s.replaced ≠ none)
    (hp : getPreviousActive s.db skillId = some c) : c.version ∉ s.rolledBack := by
  intro hc
  rcases hr with hn | hrp
  · rw [hn] at hc
    cases hc
  · obtain ⟨v, hv⟩ := ne_none_iff_exists'.1 hrp
    obtain ⟨b, hb, hrt, -, hl⟩ := h.replaced v hv
    obtain ⟨hg, -, hm⟩ := getPreviousActive_eq_some hp
    have hle := hm v b hb hrt
    have hlt := stamp_lt hl hc hg
    omega

end Guarded

/-! ### One step -/

section

variable {policy : GuardPolicy} {rt : ReleaseRuntime} {skillId : String} {s t : GuardState}

private theorem degraded_eq_some (h : degraded policy s skillId agentId = some a) :
    getActiveSkill s.db skillId = some a ∧
      policy.minSamples ≤ (getRecentTraces s.traces agentId skillId policy.minSamples).length ∧
      policy.rollbackThreshold < policy.successRate a.version -
        successRate (getRecentTraces s.traces agentId skillId policy.minSamples) := by
  obtain ⟨b, hb, h⟩ := bind_eq_some_iff.1 h
  obtain ⟨hn, h⟩ := ite_none_left_eq_some.1 h
  cases h
  push Not at hn
  exact ⟨hb, hn.2⟩

structure TakesBack (policy : GuardPolicy) (skillId agentId : String) (s t : GuardState) (a p : SkillConfig) :
    Prop where
  judged : degraded policy s skillId agentId = some a
  previous : getPreviousActive s.db skillId = some p
  exchanged : OneActiveVersion s.db skillId → Exchanged skillId p.version s.clock s.db t.db
  clock : t.clock = s.clock + 1
  rolledBack : t.rolledBack = a.version :: s.rolledBack
  replaced : t.replaced = none

private theorem guardCheck_cases (policy rt s skillId agentId) :
    ((guardCheck policy rt s skillId agentId).db = s.db ∧ (guardCheck policy rt s skillId agentId).clock = s.clock ∧
      (guardCheck policy rt s skillId agentId).rolledBack = s.rolledBack ∧
      (guardCheck policy rt s skillId agentId).replaced = s.replaced) ∨
    ∃ a p, TakesBack policy skillId agentId s (guardCheck policy rt s skillId agentId) a p := by
  unfold guardCheck
  split
  · exact .inl ⟨rfl, rfl, rfl, rfl⟩
  rename_i a ha
  dsimp only
  split
  · exact .inl ⟨rfl, rfl, rfl, rfl⟩
  split
  · exact .inl ⟨rfl, rfl, rfl, rfl⟩
  rename_i p hp
  split
  · rename_i db hr
    refine .inr ⟨a, p, ha, hp, fun ho => ?_, rfl, rfl, rfl⟩
    rcases rollbackSkillIfCurrent_eq_ok hr with ⟨hf, -⟩ | ⟨-, live, baseline, hl, hac, hb, hrt, hd⟩
    · cases hf
    · have hi : baseline.status ≠ .active := by
        rw [hrt]
        decide
      have hs : Exchanged skillId p.version s.clock s.db (s.db.swap live baseline (some s.clock)) :=
        swap_exchanged ho hl hb hac hi
      rcases hd with ⟨-, rfl⟩ | ⟨r, -, rfl⟩
      · exact hs
      · exact hs
  · exact .inl ⟨rfl, rfl, rfl, rfl⟩
  · exact .inl ⟨rfl, rfl, rfl, rfl⟩

private theorem applySigned_configs {now db' command signature response}
    (h : applySigned rt now db command signature = .ok (response, db'))
    (hat : command.action ≠ .rollback) (hon : OneActiveVersion db command.skillId) :
    if command.action = .promote ∧ db.commands.get command.commandId = none then
      Exchanged command.skillId (toString command.candidateVersion) now db db'
    else db'.configs = db.configs := by
  obtain ⟨-, h⟩ := applySigned_eq_ok h
  obtain ⟨-, ⟨prior, hp, -, rfl⟩ | ⟨hfresh, h⟩⟩ := apply_eq_ok h
  · rw [if_neg (by simp [hp])]
  obtain ⟨baseline, candidate, opened, next, moved, saved, commands, hacc, -, -, rfl⟩ := applyNew_eq_ok h
  obtain ⟨experiments, rfl⟩ := openCanary_eq_ok hacc.opens
  obtain ⟨releases, rfl⟩ := saveRelease_eq_ok hacc.saves
  have hm := hacc.moves
  split
  · rename_i hpr
    simp only [moveSkill, hpr.1] at hm
    obtain ⟨ha, hi, experiments', rfl⟩ := promoteSkill_eq_ok hm
    exact swap_exchanged hon hacc.baseline_get hacc.candidate_get ha hi
  · rename_i ho
    have hq : moved = { db with experiments := experiments } := by
      cases hac : command.action with
      | promote => exact absurd ⟨hac, hfresh⟩ ho
      | rollback => exact absurd hac hat
      | shadow | canary =>
        simp only [moveSkill, hac] at hm
        exact (Except.ok.inj hm).symm
    rw [hq]

end

/-! ### Checks that act on the evidence of the active version -/

def ownTraces (traces : List Trace) (agentId skillId version : String) : List Trace :=
  traces.filter (fun t => (t.agentId = agentId ∧ t.skillUsed = some skillId) ∧ t.skillVersion = some version)

def activeVersion (s : GuardState) (skillId : String) : Option String :=
  (getActiveSkill s.db skillId).map SkillConfig.version

def SoundCheck (policy : GuardPolicy) (rt : ReleaseRuntime) (skillId : String) (s : GuardState) : GuardAct → Prop
  | .check agentId => activeVersion (guardCheck policy rt s skillId agentId) skillId ≠ activeVersion s skillId →
    (∀ t ∈ getRecentTraces s.traces agentId skillId policy.minSamples, t.skillVersion = activeVersion s skillId) ∧
      (s.rolledBack = [] ∨ s.replaced ≠ none)
  | _ => True

instance (policy : GuardPolicy) (rt : ReleaseRuntime) (skillId : String) (s : GuardState) (a : GuardAct) :
    Decidable (SoundCheck policy rt skillId s a) := by
  unfold SoundCheck
  split <;> infer_instance

/-- Nothing is rolled back yet, at most one version is active, and no promotion lies in the future. -/
structure GuardState.Initial (s : GuardState) (skillId : String) : Prop where
  rolledBack : s.rolledBack = []
  replaced : s.replaced = none
  active : (s.db.activeConfigs skillId).length ≤ 1
  past : ∀ c ∈ s.db.configs.rows, c.stamp ≤ s.clock

section

variable {policy : GuardPolicy} {rt : ReleaseRuntime} {skillId : String} {s t : GuardState}

private theorem Guarded.initial (h : s.Initial skillId) : Guarded skillId s where
  one v w c d hc hd hca hda := by
    obtain ⟨hcm, hck⟩ := get_eq_some.1 hc
    obtain ⟨hdm, hdk⟩ := get_eq_some.1 hd
    obtain ⟨rfl, rfl⟩ := Prod.mk.inj hck
    obtain ⟨hds, rfl⟩ := Prod.mk.inj hdk
    rw [length_filter_le_one.1 h.active c hcm d hdm (by simp [hca]) (by simp [hds, hda])]
  past v c hc := h.past c (get_eq_some.1 hc).1
  stored v hv := by
    rw [h.rolledBack] at hv
    cases hv
  active v c hc ha := by
    unfold GuardState.RolledBackBefore
    simp [h.rolledBack]
  replaced v hv := by
    rw [h.replaced] at hv
    cases hv

private theorem activeVersion_eq (ho : OneActiveVersion s.db skillId) (hc : s.db.configs.get (skillId, v) = some c)
    (hac : c.status = .active) : activeVersion s skillId = some v := by
  unfold activeVersion
  cases ha : getActiveSkill s.db skillId with
  | none => exact absurd hac (getActiveSkill_eq_none ha hc)
  | some a =>
    obtain ⟨hg, ha'⟩ := getActiveSkill_eq_some ha
    rw [map_some, ho a.version v a c hg hc ha' hac]

private theorem TakesBack.activeVersion (h : TakesBack policy skillId agentId s t a p)
    (ho : OneActiveVersion s.db skillId) :
    activeVersion s skillId = some a.version ∧ activeVersion t skillId = some p.version ∧ p.version ≠ a.version := by
  obtain ⟨hac, -⟩ := degraded_eq_some h.judged
  obtain ⟨ha, hat⟩ := getActiveSkill_eq_some hac
  obtain ⟨hp, hr, -⟩ := getPreviousActive_eq_some h.previous
  have hex := h.exchanged ho
  have hp' := hex p.version
  rw [hp, map_some] at hp'
  refine ⟨activeVersion_eq ho ha hat, activeVersion_eq hex.oneActiveVersion hp' (hex.get_self hp').1, fun heq => ?_⟩
  rw [heq, ha] at hp
  rw [← some.inj hp, hat] at hr
  cases hr

private theorem TakesBack.sound (h : TakesBack policy skillId agentId s (guardCheck policy rt s skillId agentId) a p)
    (hs : Guarded skillId s) (hok : SoundCheck policy rt skillId s (.check agentId)) :
    (∀ t ∈ getRecentTraces s.traces agentId skillId policy.minSamples, t.skillVersion = some a.version) ∧
      p.version ∉ s.rolledBack := by
  obtain ⟨ha, hp, hne⟩ := h.activeVersion hs.one
  obtain ⟨ho, hr⟩ := hok (by rw [ha, hp]; simpa using hne)
  exact ⟨fun t ht => (ho t ht).trans ha, hs.previous_not_rolledBack hr h.previous⟩

private theorem Guarded.step {a} (h : Guarded skillId s) (hok : SoundCheck policy rt skillId s a)
    (hs : guardStep policy rt skillId s a = some t) : Guarded skillId t := by
  cases a with
  | tick =>
    cases hs
    exact h.of_unmoved rfl (Nat.le_add_right _ _) rfl rfl
  | saveTrace =>
    cases hs
    exact h.of_unmoved rfl le_rfl rfl rfl
  | saveSkillConfig =>
    obtain ⟨configs, hi, rfl⟩ := map_eq_some_iff.1 hs
    exact h.insert hi
  | promote =>
    cases hs
    exact h.promoted promoteSkillVersion_exchanged
  | release =>
    obtain ⟨hc, hs⟩ := ite_none_right_eq_some.1 hs
    obtain ⟨rfl, hac⟩ := hc
    split at hs
    · cases hs
    · rename_i response db hap
      have hcn := applySigned_configs hap hac h.one
      split at hs
      · rename_i hp
        rw [if_pos hp] at hcn
        cases hs
        exact h.promoted hcn
      · rename_i ho
        rw [if_neg ho] at hcn
        cases hs
        exact h.of_unmoved hcn le_rfl rfl rfl
  | check agentId =>
    cases hs
    rcases guardCheck_cases policy rt s skillId agentId with ⟨hdb, hcl, hr, hrp⟩ | ⟨a, p, ht⟩
    · exact h.of_unmoved (by rw [hdb]) hcl.ge hr hrp
    · obtain ⟨-, hfresh⟩ := ht.sound h hok
      obtain ⟨-, -, hne⟩ := ht.activeVersion h.one
      obtain ⟨ha, -⟩ := getActiveSkill_eq_some (degraded_eq_some ht.judged).1
      refine h.exchange (ht.exchanged h.one) ht.clock rfl (fun v hv => ?_) (fun v hv => ?_)
      · rw [ht.rolledBack, mem_cons] at hv
        rcases hv with rfl | hv
        · exact ⟨hne.symm, a, ha⟩
        · obtain ⟨d, hd, -⟩ := h.stored v hv
          exact ⟨fun heq => hfresh (heq ▸ hv), d, hd⟩
      · rw [ht.replaced] at hv
        cases hv
  | expireCounter =>
    cases hs
    exact h.of_unmoved rfl le_rfl rfl rfl

private theorem Guarded.run {s₀} (h0 : s₀.Initial skillId)
    (hr : Run (Steps (guardStep policy rt skillId)) (SoundCheck policy rt skillId) s₀ s) : Guarded skillId s :=
  hr.invariant (I := Guarded skillId) (.initial h0) (fun _ _ _ h hok hs => h.step hok hs)

private theorem take_filter_of_forall {α : Type} {q : α → Bool} {l : List α} (h : ∀ x ∈ l.take n, q x = true) :
    (l.filter q).take n = l.take n := by
  induction l generalizing n with
  | nil => rfl
  | cons a l ih =>
    cases n with
    | zero => simp
    | succ =>
      rw [take_succ_cons, forall_mem_cons] at h
      rw [filter_cons_of_pos h.1, take_succ_cons, take_succ_cons, ih h.2]

private theorem getRecentTraces_eq_own {traces : List Trace}
    (h : ∀ t ∈ getRecentTraces traces agentId skillId n, t.skillVersion = some version) :
    getRecentTraces traces agentId skillId n = (ownTraces traces agentId skillId version).reverse.take n := by
  have ho : (ownTraces traces agentId skillId version).reverse =
      (traces.filter (fun t => t.agentId = agentId ∧ t.skillUsed = some skillId)).reverse.filter
        (fun t => t.skillVersion = some version) := by
    unfold ownTraces
    rw [← filter_reverse, ← filter_reverse, List.filter_filter]
    exact filter_congr (by simp [Bool.and_comm])
  rw [ho, take_filter_of_forall (fun t ht => decide_eq_true (h t ht))]
  rfl

end

/-- A check that replaces the active version does so on at least `minSamples` traces of that version, the last of which
fall short of its rate by more than the threshold, and does not make a version active that was rolled back and not
promoted since. -/
theorem rollback_on_own_evidence {policy : GuardPolicy} {rt : ReleaseRuntime} {skillId agentId : String}
    {s₀ s t : GuardState} (h0 : s₀.Initial skillId)
    (hrun : Run (Steps (guardStep policy rt skillId)) (SoundCheck policy rt skillId) s₀ s)
    (hok : SoundCheck policy rt skillId s (.check agentId))
    (hstep : guardStep policy rt skillId s (.check agentId) = some t)
    (hchange : activeVersion t skillId ≠ activeVersion s skillId) :
    ∃ active restored, activeVersion s skillId = some active ∧ activeVersion t skillId = some restored ∧
      policy.minSamples ≤ (ownTraces s.traces agentId skillId active).length ∧
      policy.rollbackThreshold < policy.successRate active -
        successRate ((ownTraces s.traces agentId skillId active).reverse.take policy.minSamples) ∧
      restored ∉ s.rolledBack := by
  have hs : Guarded skillId s := .run h0 hrun
  cases hstep
  rcases guardCheck_cases policy rt s skillId agentId with ⟨hdb, -⟩ | ⟨a, p, ht⟩
  · exact absurd (by rw [activeVersion, activeVersion, hdb]) hchange
  · obtain ⟨ha, hp, -⟩ := ht.activeVersion hs.one
    obtain ⟨ho, hfresh⟩ := ht.sound hs hok
    obtain ⟨-, hsm, hr⟩ := degraded_eq_some ht.judged
    rw [getRecentTraces_eq_own ho] at hsm hr
    refine ⟨a.version, p.version, ha, hp, ?_, hr, hfresh⟩
    rw [length_take, length_reverse] at hsm
    omega

/-! ### Two checks in a row -/

def twoSamples : GuardPolicy where
  rollbackThreshold := 1 / 10
  minSamples := 2
  maxRollbacksPerDay := 3
  successRate _ := 9 / 10

def noVersions : GuardState where
  clock := 0
  db := ⟨.empty, .empty, .empty, .empty⟩
  traces := []
  counters _ := 0
  paused := []
  rolledBack := []
  replaced := none

private theorem noVersions_initial : noVersions.Initial "s" := ⟨rfl, rfl, by decide, by decide⟩

def failingPromotion : List GuardAct :=
  [.saveSkillConfig "1" "1", .saveSkillConfig "2" "2", .promote "1", .promote "2",
    .saveTrace ⟨"a", some "s", some "2", false⟩, .saveTrace ⟨"a", some "s", some "2", false⟩]

/-- The check after a rollback judges version 1, which wrote no trace, by the traces of version 2, and brings the
rolled-back version 2 back. -/
theorem second_check_restores_degraded : noVersions.Initial "s" ∧
    ∃ s t, Run (Steps (guardStep twoSamples plainReleaseRuntime "s")) Always noVersions s ∧
      guardStep twoSamples plainReleaseRuntime "s" s (.check "a") = some t ∧
      activeVersion s "s" = some "1" ∧ activeVersion t "s" = some "2" ∧
      (ownTraces s.traces "a" "s" "1").length < twoSamples.minSamples ∧ "2" ∈ s.rolledBack :=
  ⟨noVersions_initial, exists_run_step (failingPromotion ++ [.check "a"]) (by decide +kernel)⟩

/-- The first check takes version 2 back on its own two failures. -/
theorem rollback_on_own_evidence_first :
    ∃ s t, Run (Steps (guardStep twoSamples plainReleaseRuntime "s")) (SoundCheck twoSamples plainReleaseRuntime "s")
        noVersions s ∧
      guardStep twoSamples plainReleaseRuntime "s" s (.check "a") = some t ∧
      ∃ active restored, activeVersion s "s" = some active ∧ activeVersion t "s" = some restored ∧
        twoSamples.minSamples ≤ (ownTraces s.traces "a" "s" active).length ∧
        twoSamples.rollbackThreshold < twoSamples.successRate active -
          successRate ((ownTraces s.traces "a" "s" active).reverse.take twoSamples.minSamples) ∧
        restored ∉ s.rolledBack :=
  exists_run_step_with failingPromotion (fun s t => SoundCheck twoSamples plainReleaseRuntime "s" s (.check "a") ∧
      activeVersion t "s" ≠ activeVersion s "s") (by decide +kernel)
    (fun _ _ hr hs ht => rollback_on_own_evidence noVersions_initial hr ht.1 hs ht.2)

end WisdoverseCell.Evolution
