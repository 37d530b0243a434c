import WisdoverseCell.Evolution.SkillRelease

/-!
# Staged rollout of versions

The abstract level of the release store: for every skill a set of live versions, and a ledger of deployments that carry
a candidate version through the release states.  A skill with one live version keeps exactly one, and one canary stays
the only one; that the promoted deployment is unique needs a condition on promotions.
-/

namespace WisdoverseCell.Evolution

open Option

variable {state : ReleaseState} {D S V C : Type}

structure Deployment (S V C : Type) where
  owner : C
  skill : S
  candidate : V
  state : ReleaseState

structure Service (D S V C : Type) where
  live : S → Set V
  deployment : D → Option (Deployment S V C)

variable {W : Set D} {d : D} {r : Deployment S V C} {s : Service D S V C} {k : S}

namespace Service

def inState (s : Service D S V C) (k : S) (state : ReleaseState) : Set D :=
  {d | ∃ r, s.deployment d = some r ∧ r.skill = k ∧ r.state = state}

open Classical in
noncomputable def move (s : Service D S V C) (W : Set D) (state : ReleaseState) : Service D S V C :=
  { s with deployment := fun d =>
      if d ∈ W then (s.deployment d).map (fun r => { r with state := state }) else s.deployment d }

open Classical in
noncomputable def replace (s : Service D S V C) (k : S) (v w : V) : Service D S V C :=
  { s with live := Function.update s.live k (insert w (s.live k \ {v})) }

open Classical in
noncomputable def start (s : Service D S V C) (d : D) (r : Deployment S V C) : Service D S V C :=
  { s with deployment := Function.update s.deployment d (some r) }

/-! ### The deployments after a move -/

theorem move_eq_some : (s.move W state).deployment d = some r ↔
      (d ∈ W ∧ ∃ r₀, s.deployment d = some r₀ ∧ { r₀ with state := state } = r) ∨
        (d ∉ W ∧ s.deployment d = some r) := by
  by_cases hd : d ∈ W <;> simp [move, hd]

theorem start_eq_some {e r'} :
    (s.start d r).deployment e = some r' ↔ (e = d ∧ r = r') ∨ (e ≠ d ∧ s.deployment e = some r') := by
  by_cases he : e = d
  · subst he; simp [start]
  · simp [start, he]

theorem move_eq_self (h : ∀ d ∈ W, ∀ r, s.deployment d = some r → r.state = state) : s.move W state = s := by
  have hdp (d : D) : (s.move W state).deployment d = s.deployment d := by
    by_cases hd : d ∈ W
    · cases hr : s.deployment d with
      | none => simp [move, hd, hr]
      | some r => simp [move, hd, hr, ← h d hd r hr]
    · simp [move, hd]
  exact congrArg (Service.mk s.live) (funext hdp)

private theorem exists_of_move (h : (s.move W state).deployment d = some r) :
    ∃ r₀, s.deployment d = some r₀ ∧ r₀.owner = r.owner ∧ r₀.skill = r.skill ∧ r₀.candidate = r.candidate := by
  rcases move_eq_some.1 h with ⟨-, r₀, hr₀, rfl⟩ | ⟨-, hr⟩
  · exact ⟨r₀, hr₀, rfl, rfl, rfl⟩
  · exact ⟨r, hr, rfl, rfl, rfl⟩

private theorem deployment_of_move (h : (s.move W state).deployment d = some r) (hs : r.state ≠ state) :
    s.deployment d = some r ∧ d ∉ W := by
  rcases move_eq_some.1 h with ⟨-, r₀, -, rfl⟩ | ⟨hd, hr⟩
  · exact absurd rfl hs
  · exact ⟨hr, hd⟩

private theorem inState_move_of_ne {state'} (h : state ≠ state') :
    (s.move W state').inState k state ⊆ s.inState k state \ W := by
  rintro d ⟨r, hr, hk, hs⟩
  obtain ⟨hr, hd⟩ := deployment_of_move hr (hs ▸ h)
  exact ⟨⟨r, hr, hk, hs⟩, hd⟩

private theorem inState_move_self (hr : s.deployment d = some r) :
    (s.move {d} state).inState k state ⊆ {e | e = d ∧ r.skill = k} ∪ s.inState k state := by
  rintro e ⟨r', hr', hk, hs⟩
  rcases move_eq_some.1 hr' with ⟨he, r₀, hr₀, rfl⟩ | ⟨-, hr'⟩
  · obtain rfl := Set.mem_singleton_iff.1 he
    obtain rfl := some.inj (hr.symm.trans hr₀)
    exact .inl ⟨rfl, hk⟩
  · exact .inr ⟨r', hr', hk, hs⟩

private theorem inState_start_of_ne (h : r.state ≠ state) : (s.start d r).inState k state ⊆ s.inState k state := by
  rintro e ⟨r', hr', hk, hs⟩
  rcases start_eq_some.1 hr' with ⟨-, rfl⟩ | ⟨-, hr'⟩
  · exact absurd hs h
  · exact ⟨r', hr', hk, hs⟩

/-! ### Effects -/

end Service

inductive Change (D S : Type)
  | quiet
  | start (d : D)
  | canary (d : D)
  | withdraw
  | promote (d : D) (k : S)
  | restore (d : D)
  | revert (k : S)

open Service in
inductive Effect (owner : C) (s : Service D S V C) : Change D S → Service D S V C → Prop
  | quiet : Effect owner s .quiet s
  | start {d : D} {r : Deployment S V C} (hnew : s.deployment d = none) (howner : r.owner = owner)
      (hstate : r.state = .shadow) : Effect owner s (.start d) (s.start d r)
  | canary {d : D} {r : Deployment S V C} (hr : s.deployment d = some r)
      (hfree : ∀ e r', s.deployment e = some r' → r'.owner = owner → r'.skill = r.skill → r'.state = .canary → e = d) :
      Effect owner s (.canary d) (s.move {d} .canary)
  | withdraw {W : Set D} (hW : ∀ d ∈ W, ∀ r, s.deployment d = some r → r.state ≠ .active) :
      Effect owner s .withdraw (s.move W .rolledBack)
  | promote {d : D} {r : Deployment S V C} {v : V} (hr : s.deployment d = some r) (hv : v ∈ s.live r.skill) :
      Effect owner s (.promote d r.skill) ((s.replace r.skill v r.candidate).move {d} .active)
  | restore {d r v w} (hr : s.deployment d = some r) (hstate : r.state = .active) (hv : v ∈ s.live r.skill) :
      Effect owner s (.restore d) ((s.replace r.skill v w).move {d} .rolledBack)
  | revert {k v w} (hv : v ∈ s.live k) (hnone : s.inState k .active = ∅) : Effect owner s (.revert k) (s.replace k v w)

variable {v w : V} {k' : S}

section

variable {owner : C} {s t : Service D S V C} {k : S} {c : Change D S}

def OneLive (s : Service D S V C) (k : S) : Prop := ∃ v, s.live k = {v}

private theorem OneLive.replace (h : OneLive s k) (hv : v ∈ s.live k') : OneLive (s.replace k' v w) k := by
  obtain ⟨x, hx⟩ := h
  by_cases hk : k = k'
  · subst hk
    rw [hx, Set.mem_singleton_iff] at hv
    subst hv
    exact ⟨w, by simp [Service.replace, hx]⟩
  · exact ⟨x, by simp [Service.replace, hk, hx]⟩

/-- Every effect keeps one live version. -/
theorem OneLive.effect (h : OneLive s k) (he : Effect owner s c t) : OneLive t k := by
  cases he with
  | quiet => exact h
  | start => exact h
  | canary => exact h
  | withdraw => exact h
  | promote _ hv => exact h.replace hv
  | restore _ _ hv => exact h.replace hv
  | revert hv => exact h.replace hv

structure OneCanary (owner : C) (s : Service D S V C) (k : S) : Prop where
  owned : ∀ d r, s.deployment d = some r → r.skill = k → r.owner = owner
  subsingleton : (s.inState k .canary).Subsingleton

private theorem OneCanary.move (h : OneCanary owner s k) (hst : ReleaseState.canary ≠ state) :
    OneCanary owner (s.move W state) k where
  owned d r hr hk := by
    obtain ⟨r₀, hr₀, ho, hs, -⟩ := Service.exists_of_move hr
    exact ho ▸ h.owned d r₀ hr₀ (hs.trans hk)
  subsingleton := h.subsingleton.anti ((Service.inState_move_of_ne hst).trans Set.sdiff_subset)

/-- Every effect keeps at most one canary. -/
theorem OneCanary.effect (h : OneCanary owner s k) (he : Effect owner s c t) : OneCanary owner t k := by
  cases he with
  | quiet => exact h
  | start hn how hst =>
    refine ⟨fun e r' hr' hk => ?_, h.subsingleton.anti (Service.inState_start_of_ne (by rw [hst]; decide))⟩
    rcases Service.start_eq_some.1 hr' with ⟨-, rfl⟩ | ⟨-, hr'⟩
    · exact how
    · exact h.owned e r' hr' hk
  | canary hr hf =>
    refine ⟨fun e r' hr' hk => ?_, ?_⟩
    · obtain ⟨r₀, hr₀, ho, hs, -⟩ := Service.exists_of_move hr'
      exact ho ▸ h.owned e r₀ hr₀ (hs.trans hk)
    · -- the canaries of the skill other than the new one are all excluded by its guard
      intro e he e' he'
      rcases Service.inState_move_self hr he with ⟨rfl, hk⟩ | ⟨r₁, hr₁, hk₁, hs₁⟩ <;>
        rcases Service.inState_move_self hr he' with ⟨rfl, hk'⟩ | ⟨r₂, hr₂, hk₂, hs₂⟩
      · rfl
      · exact (hf e' r₂ hr₂ (h.owned e' r₂ hr₂ hk₂) (hk₂.trans hk.symm) hs₂).symm
      · exact hf e r₁ hr₁ (h.owned e r₁ hr₁ hk₁) (hk₁.trans hk'.symm) hs₁
      · exact h.subsingleton ⟨r₁, hr₁, hk₁, hs₁⟩ ⟨r₂, hr₂, hk₂, hs₂⟩
  | withdraw => exact h.move (by decide)
  | promote => exact OneCanary.move ⟨h.owned, h.subsingleton⟩ (by decide)
  | restore => exact OneCanary.move ⟨h.owned, h.subsingleton⟩ (by decide)
  | revert => exact ⟨h.owned, h.subsingleton⟩

structure ActiveCurrent (s : Service D S V C) (k : S) : Prop where
  subsingleton : (s.inState k .active).Subsingleton
  live : ∀ d r, s.deployment d = some r → r.skill = k → r.state = .active → r.candidate ∈ s.live k

def Change.Unrivalled (s : Service D S V C) (k : S) : Change D S → Prop
  | .promote d k' => k' = k → s.inState k .active ⊆ {d}
  | _ => True

private theorem ActiveCurrent.of_none (h : s.inState k .active = ∅) : ActiveCurrent s k where
  subsingleton := h ▸ Set.subsingleton_empty
  live d r hr hk hs := absurd (show d ∈ s.inState k .active from ⟨r, hr, hk, hs⟩) (h ▸ Set.notMem_empty d)

/-- The invariant is kept while nothing new is promoted and the live versions stay. -/
theorem ActiveCurrent.of_sub (h : ActiveCurrent s k) (hl : t.live k = s.live k)
    (hsb : ∀ d r, t.deployment d = some r → r.skill = k → r.state = .active → s.deployment d = some r) :
    ActiveCurrent t k where
  subsingleton := h.subsingleton.anti (fun d ⟨r, hr, hk, hs⟩ => ⟨r, hsb d r hr hk hs, hk, hs⟩)
  live d r hr hk hs := hl ▸ h.live d r (hsb d r hr hk hs) hk hs

private theorem ActiveCurrent.move (h : ActiveCurrent s k) (hst : ReleaseState.active ≠ state) :
    ActiveCurrent (s.move W state) k :=
  h.of_sub rfl (fun _ _ hr _ hs => (Service.deployment_of_move hr (hs ▸ hst)).1)

private theorem ActiveCurrent.replace (h : ActiveCurrent s k) (hk : k ≠ k') : ActiveCurrent (s.replace k' v w) k :=
  h.of_sub (by simp [Service.replace, hk]) (fun _ _ hr _ _ => hr)

private theorem ActiveCurrent.promote (h : ActiveCurrent s k) (hr : s.deployment d = some r)
    (hrv : r.skill = k → s.inState k .active ⊆ {d}) :
    ActiveCurrent ((s.replace r.skill v r.candidate).move {d} .active) k := by
  have hin : ((s.replace r.skill v r.candidate).move {d} .active).inState k .active ⊆
      {e | e = d ∧ r.skill = k} ∪ s.inState k .active :=
    Service.inState_move_self (s := s.replace r.skill v r.candidate) hr
  by_cases hk : r.skill = k
  · have ho (e : D) (he : e ∈ ((s.replace r.skill v r.candidate).move {d} .active).inState k .active) : e = d := by
      rcases hin he with ⟨rfl, -⟩ | he
      · rfl
      · exact hrv hk he
    refine ⟨fun e he e' he' => (ho e he).trans (ho e' he').symm, fun e r' hr' hk' hs' => ?_⟩
    obtain rfl := ho e ⟨r', hr', hk', hs'⟩
    obtain ⟨r₀, hr₀, -, -, hc⟩ := Service.exists_of_move hr'
    obtain rfl := some.inj (hr.symm.trans hr₀)
    simp [Service.move, Service.replace, ← hc, hk]
  · refine (h.replace (fun hk' => hk hk'.symm)).of_sub rfl (fun e r' hr' hk' hs' => ?_)
    rcases Service.move_eq_some.1 hr' with ⟨he, r₀, hr₀, rfl⟩ | ⟨-, hr'⟩
    · obtain rfl := Set.mem_singleton_iff.1 he
      obtain rfl := some.inj (hr.symm.trans hr₀)
      exact absurd hk' hk
    · exact hr'

private theorem ActiveCurrent.restore (h : ActiveCurrent s k) (hr : s.deployment d = some r) (hs : r.state = .active) :
    ActiveCurrent ((s.replace r.skill v w).move {d} .rolledBack) k := by
  by_cases hk : k = r.skill
  · -- the only promoted deployment of the skill is the one rolled back
    refine .of_none (Set.eq_empty_of_forall_notMem fun e he => ?_)
    obtain ⟨he, hed⟩ := Service.inState_move_of_ne (by decide) he
    exact hed (h.subsingleton he ⟨r, hr, hk.symm, hs⟩)
  · exact (h.replace hk).move (by decide)

/-- An effect without a rival keeps the active release current. -/
theorem ActiveCurrent.effect (h : ActiveCurrent s k) (he : Effect owner s c t) (hc : c.Unrivalled s k) :
    ActiveCurrent t k := by
  cases he with
  | quiet => exact h
  | start hnw ho hst =>
    refine h.of_sub rfl (fun e r' hr' _ hs => ?_)
    rcases Service.start_eq_some.1 hr' with ⟨-, rfl⟩ | ⟨-, hr'⟩
    · exact absurd (hst.symm.trans hs) (by decide)
    · exact hr'
  | canary => exact h.move (by decide)
  | withdraw => exact h.move (by decide)
  | promote hr => exact h.promote hr hc
  | restore hr hst => exact h.restore hr hst
  | @revert k' v w hv hn =>
    by_cases hk : k = k'
    · subst hk; exact .of_none hn
    · exact h.replace hk

end

end WisdoverseCell.Evolution
