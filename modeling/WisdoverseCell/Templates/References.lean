import WisdoverseCell.Templates.RoundTrip

/-!
# References form forests

The reference checks accept a template exactly if its keys are unique, its references resolve, the parents of goals
and the managers of roles have no cycles, and budgets fit their scopes.  The import then creates every role and every
goal once, each after the one it refers to (`references_accepted_iff`).
-/

namespace WisdoverseCell

open List Option

/-! ### Parent graphs without cycles -/

variable {α κ : Type} {parent : κ → Option κ}

def Acyclic (parent : κ → Option κ) : Prop := ∀ k, ¬Relation.TransGen (fun p k => parent k = some p) k k

private theorem acyclic_iff_grounded {keys : List κ} (hks : ∀ k p, parent k = some p → k ∈ keys) :
    Acyclic parent ↔ ∀ k ∈ keys, Grounded parent k :=
  no_cycle_iff_acc (fun p k => hks k p)

private theorem rounds_ready {ready : List κ → List α → α → Bool} {key : α → κ} {fuel : Nat}
    {done pending order before after a} (h : rounds ready key fuel done pending = some order)
    (ho : order = before ++ a :: after) :
    ∃ done' pending', ready done' pending' a = true ∧ done ⊆ done' ∧ done' ⊆ done ++ before.map key ∧
      ∀ x ∈ pending, x ∈ pending' ∨ key x ∈ done' := by
  induction fuel generalizing done pending order before with
  | zero =>
    cases pending with
    | nil =>
      cases h
      simp at ho
    | cons => cases h
  | succ fuel ih =>
    cases pending with
    | nil =>
      cases h
      simp at ho
    | cons b bs =>
      obtain ⟨-, h⟩ := ite_none_left_eq_some.1 h
      obtain ⟨later, hl, rfl⟩ := map_eq_some_iff.1 h
      have hn (rest : List α) (hb : before = (b :: bs).filter (ready done (b :: bs)) ++ rest)
          (hr : later = rest ++ a :: after) : ∃ done' pending', ready done' pending' a = true ∧ done ⊆ done' ∧
            done' ⊆ done ++ before.map key ∧ ∀ x ∈ b :: bs, x ∈ pending' ∨ key x ∈ done' := by
        obtain ⟨done', pending', hrd, hs, hsp, hal⟩ := ih hl hr
        refine ⟨done', pending', hrd, Subset.trans (subset_append_left _ _) hs, ?_, fun x hx => ?_⟩
        · rw [hb, map_append, ← append_assoc]
          exact hsp
        · by_cases hnw : ready done (b :: bs) x = true
          · exact .inr (hs (mem_append_right _ (mem_map_of_mem (mem_filter.2 ⟨hx, hnw⟩))))
          · exact hal x (mem_filter.2 ⟨hx, by simpa using hnw⟩)
      rcases append_eq_append_iff.1 ho with ⟨rest, hb, hr⟩ | ⟨rest, hnw, hr⟩
      · exact hn rest hb hr
      · cases rest with
        | nil => exact hn [] (by rw [hnw, append_nil, append_nil]) hr.symm
        | cons =>
          obtain ⟨rfl, -⟩ := cons.inj hr
          have ha : a ∈ (b :: bs).filter (ready done (b :: bs)) := by rw [hnw]; simp
          exact ⟨done, b :: bs, (mem_filter.1 ha).2, Subset.refl _, subset_append_left _ _, fun x hx => .inl hx⟩

namespace Templates

variable {t : CompanyTemplate}

/-! ### What the checks accept -/

structure UniqueKeys (t : CompanyTemplate) : Prop where
  goals : (goalKeys t).Nodup
  roles : (roleKeys t).Nodup
  budgets : (budgetKeys t).Nodup
  playbooks : (playbookKeys t).Nodup

structure Resolves (t : CompanyTemplate) : Prop where
  parents : ∀ g ∈ t.goals, ∀ key ∈ g.parentKey, key ∈ goalKeys t
  owners : ∀ g ∈ t.goals, ∀ key ∈ g.ownerRoleKey, key ∈ roleKeys t
  managers : ∀ r ∈ t.roles, ∀ key ∈ r.reportsToKey, key ∈ roleKeys t
  links : ∀ r ∈ t.roles, ∀ key ∈ r.budgetKey, key ∈ budgetKeys t
  goalScopes : ∀ b ∈ t.budgets, b.scope = .goal → ∃ key ∈ b.scopeKey, key ∈ goalKeys t
  agentScopes : ∀ b ∈ t.budgets, b.scope = .agent → ∃ key ∈ b.scopeKey, key ∈ roleKeys t
  steps : ∀ p ∈ t.playbooks, ∀ s ∈ p.steps, s.roleKey ∈ roleKeys t

/-- A budget of the company names no scope, and a role is linked to no budget of another role. -/
structure BudgetsFit (t : CompanyTemplate) : Prop where
  company : ∀ b ∈ t.budgets, b.scope = .company → b.scopeKey = none
  linked : ∀ r ∈ t.roles, ∀ b ∈ linkedBudget t r, b.scope = .agent → b.scopeKey = some r.localKey

private theorem scopeFound_iff {b} :
    ScopeFound t b ↔ (b.scope = .company → b.scopeKey = none) ∧
      (b.scope = .goal → ∃ key ∈ b.scopeKey, key ∈ goalKeys t) ∧
      (b.scope = .agent → ∃ key ∈ b.scopeKey, key ∈ roleKeys t) := by
  unfold ScopeFound
  cases b.scope <;> simp [Option.any_eq_true]

private theorem wellReferenced_iff :
    WellReferenced t ↔ UniqueKeys t ∧ Resolves t ∧ (Acyclic (parentOf t) ∧ Acyclic (managerOf t)) ∧ BudgetsFit t := by
  have hgl := acyclic_iff_grounded (mem_goalKeys_of_parentOf (t := t))
  have hrl := acyclic_iff_grounded (mem_roleKeys_of_managerOf (t := t))
  rw [hgl, hrl]
  constructor
  · intro h
    have hs (b : CompanyTemplateBudget) (hb : b ∈ t.budgets) := scopeFound_iff.1 (h.scopes b hb)
    exact ⟨⟨h.goals_nodup, h.roles_nodup, h.budgets_nodup, h.playbooks_nodup⟩,
      ⟨h.parents, h.owners, h.managers, h.links, fun b hb => (hs b hb).2.1, fun b hb => (hs b hb).2.2, h.steps⟩,
      ⟨forall_mem_map.2 h.goals_grounded, forall_mem_map.2 h.roles_grounded⟩,
      ⟨fun b hb => (hs b hb).1, h.linked_scopes⟩⟩
  · rintro ⟨hu, hr, ⟨hg, hm⟩, hb⟩
    exact ⟨hu.goals, hu.roles, hu.budgets, hu.playbooks, hr.parents, forall_mem_map.1 hg, hr.owners, hr.managers,
      hr.links, hb.linked, forall_mem_map.1 hm,
      fun b hb' => scopeFound_iff.2 ⟨hb.company b hb', hr.goalScopes b hb', hr.agentScopes b hb'⟩, hr.steps⟩

/-! ### The order of creation -/

private theorem role_after_manager {roles before after : List CompanyTemplateRole} {r}
    (ho : roleOrder t.roles = some roles) (hr : roles = before ++ r :: after) :
    ∀ key ∈ r.reportsToKey, key ∈ before.map CompanyTemplateRole.localKey := by
  intro key hk
  obtain ⟨done, pending, hrd, -, hs, -⟩ := rounds_ready ho hr
  have hd := of_decide_eq_true ((all_eq_true _ _).1 hrd key hk)
  simpa using hs hd

private theorem goal_after_parent (h : WellReferenced t) {goals before after : List CompanyTemplateGoal} {g}
    (ho : goalOrder t.goals = some goals) (hg : goals = before ++ g :: after) :
    ∀ key ∈ g.parentKey, key ∈ before.map CompanyTemplateGoal.localKey := by
  intro key hk
  obtain ⟨done, pending, hr, -, hs, ha⟩ := rounds_ready ho hg
  have hn := of_decide_eq_true ((all_eq_true _ _).1 hr key hk)
  have hm : g ∈ t.goals := (rounds_perm ho).mem_iff.1 (by rw [hg]; simp)
  obtain ⟨parent, hp, rfl⟩ := mem_map.1 (h.parents g hm key hk)
  rcases ha parent hp with hpn | hd
  · exact absurd (mem_map_of_mem hpn) hn
  · simpa using hs hd

/-- The reference checks accept exactly the templates with unique keys, references that resolve, graphs without cycles
and budgets that fit; their roles and goals are created once, each after the one it refers to. -/
theorem references_accepted_iff (t : CompanyTemplate) : (checkReferences t = .ok () ↔
      UniqueKeys t ∧ Resolves t ∧ (Acyclic (parentOf t) ∧ Acyclic (managerOf t)) ∧ BudgetsFit t) ∧
    (checkReferences t = .ok () → ∃ roles goals, roleOrder t.roles = some roles ∧ goalOrder t.goals = some goals ∧
      roles.Perm t.roles ∧ goals.Perm t.goals ∧
      (∀ before r after, roles = before ++ r :: after →
        ∀ key ∈ r.reportsToKey, key ∈ before.map CompanyTemplateRole.localKey) ∧
      (∀ before g after, goals = before ++ g :: after →
        ∀ key ∈ g.parentKey, key ∈ before.map CompanyTemplateGoal.localKey)) := by
  refine ⟨checkReferences_eq_ok.trans wellReferenced_iff, fun hok => ?_⟩
  have h := checkReferences_eq_ok.1 hok
  obtain ⟨roles, hrl⟩ := exists_roleOrder h
  obtain ⟨goals, hgl⟩ := exists_goalOrder h
  exact ⟨roles, goals, hrl, hgl, rounds_perm hrl, rounds_perm hgl,
    fun _ _ _ hr => role_after_manager hrl hr, fun _ _ _ hg => goal_after_parent h hgl hg⟩

def sharedBudget : CompanyTemplate :=
  ⟨⟨"c", ""⟩, [], [⟨"a", "A", "r", "", [], [], [], none, some "x"⟩, ⟨"b", "B", "r", "", [], [], [], none, some "x"⟩],
    [⟨"x", .agent, some "a", .monthly, .finite 1, .finite 1, []⟩], []⟩

theorem sharedBudget_refused :
    UniqueKeys sharedBudget ∧ Resolves sharedBudget ∧
      (Acyclic (parentOf sharedBudget) ∧ Acyclic (managerOf sharedBudget)) ∧
      checkReferences sharedBudget ≠ .ok () := by
  have hrt (key : String) : managerOf sharedBudget key = none := by
    simp only [managerOf, bind_eq_none_iff]
    intro r hr
    have hmm := mem_of_find?_eq_some hr
    simp only [sharedBudget, mem_cons, not_mem_nil, or_false] at hmm
    rcases hmm with rfl | rfl <;> rfl
  refine ⟨⟨by decide, by decide, by decide, by decide⟩,
    ⟨by decide, by decide, by decide, by decide, by decide, by decide,
    by decide⟩, ⟨fun key h => ?_, fun key h => ?_⟩, by decide⟩
  · obtain ⟨parent, hp⟩ := exists_parent_of_transGen h
    cases hp
  · obtain ⟨manager, hm⟩ := exists_parent_of_transGen h
    rw [hrt key] at hm
    cases hm

end Templates

end WisdoverseCell
