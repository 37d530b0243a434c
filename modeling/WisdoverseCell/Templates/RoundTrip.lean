import WisdoverseCell.Templates.Importing
import WisdoverseCell.Templates.Revalidation

/-!
# Import and export

Importing a valid document into an empty store and exporting the new company gives the validated document with its
entries sorted by their keys, and the validator accepts that one again, exactly if no required text is blank.  The
keys are kept in the metadata of the new records (`lookup_keyMap`).
-/

namespace WisdoverseCell.Templates

open List Option

variable {error key : String} {α : Type} {b : CompanyTemplateBudget} {goals : List CompanyTemplateGoal}
  {roles : List CompanyTemplateRole} {rules : TextRules} {listing : Listing} {ids : Ids} {t t' doc : CompanyTemplate}

/-! ### Fresh ids -/

/-- The ids generated for the keys are distinct, not blank, and neither they nor the id of the company are keys. -/
structure FreshFor (new : String → String) (company : String) (keys : List String) : Prop where
  inj : ∀ k ∈ keys, ∀ k' ∈ keys, new k = new k' → k = k'
  not_blank : ∀ k ∈ keys, Text.strip (new k) ≠ ""
  not_key : ∀ k ∈ keys, k ≠ new k ∧ k ≠ company

structure Ids.Fresh (ids : Ids) (t : CompanyTemplate) : Prop where
  goals : FreshFor ids.goal ids.company (goalKeys t)
  roles : FreshFor ids.agent ids.company (roleKeys t)
  budgets : FreshFor ids.budget ids.company (budgetKeys t)

private theorem FreshFor.perm {new company keys keys'}
    (h : FreshFor new company keys) (hp : keys'.Perm keys) : FreshFor new company keys' where
  inj k hk k' hk' := h.inj k (hp.mem_iff.1 hk) k' (hp.mem_iff.1 hk')
  not_blank k hk := h.not_blank k (hp.mem_iff.1 hk)
  not_key k hk := h.not_key k (hp.mem_iff.1 hk)

/-! ### Keys of imported records -/

section

variable {new : String → String} {company : String} {keys : List String}

def importedEntry (new : String → String) (company key : String) : KeyEntry := ⟨new key, some key, [new key, company]⟩

def keyMap (new : String → String) (keys : List String) : KeyMap := keys.map (fun key => (new key, key))

def Portable (keys : List String) : Prop := ∀ k ∈ keys, Text.strip k = k ∧ k ≠ ""

private theorem snd_keyMap : (keyMap new keys).map Prod.snd = keys := by
  rw [keyMap, List.map_map]
  exact List.map_id keys

private theorem persistentKeys_imported (hfresh : FreshFor new company keys) (hp : Portable keys) :
    persistentKeys error (keys.map (importedEntry new company)) = .ok (keyMap new keys) := by
  have hke : ∀ k ∈ keys, persistentKey error (importedEntry new company k) = .ok (some (new k, k)) := by
    intro k hk
    obtain ⟨hs, hne⟩ := hp k hk
    obtain ⟨hid, hc⟩ := hfresh.not_key k hk
    simp only [persistentKey, importedEntry, eq_ok, exists_const, hs]
    exact ⟨hne, by simp [hid, hc], trivial⟩
  have hks : (keys.map (importedEntry new company)).mapM (persistentKey error) = .ok ((keyMap new keys).map some) := by
    rw [mapM_eq_ok, keyMap, List.map_map, forall₂_map_left_iff, forall₂_map_right_iff, forall₂_same]
    exact hke
  rw [persistentKeys, hks]
  change Except.ok (((keyMap new keys).map some).filterMap id) = _
  rw [filterMap_map]
  exact congrArg Except.ok filterMap_some

private theorem portableKeys_imported {stem} (hfresh : FreshFor new company keys) (hp : Portable keys)
    (hn : keys.Nodup) : portableKeys stem (keys.map (importedEntry new company)) = .ok (keyMap new keys) := by
  have hl : (keyMap new keys).length = (keys.map (importedEntry new company)).length := by
    rw [keyMap, length_map, length_map]
  simp only [portableKeys, eq_ok, exists_const]
  refine ⟨keyMap new keys, persistentKeys_imported hfresh hp, by rwa [snd_keyMap], ?_⟩
  rw [if_pos hl]
  rfl

private theorem portableRoleKeys_imported {ha} (hfresh : FreshFor new company keys) (hp : Portable keys)
    (hn : keys.Nodup) :
    portableRoleKeys (keys.map (importedEntry new company)) ha = .ok (keyMap new keys) := by
  have hl : (keyMap new keys).length = (keys.map (importedEntry new company)).length := by
    rw [keyMap, length_map, length_map]
  simp only [portableRoleKeys, eq_ok, exists_const]
  refine ⟨keyMap new keys, persistentKeys_imported hfresh hp, fun h => h.2.1 hl, by rwa [snd_keyMap], ?_⟩
  rw [if_pos hl]
  rfl

private theorem uniqueIds_imported {u} (hfresh : FreshFor new company keys) (hn : keys.Nodup) :
    uniqueIds (keys.map (importedEntry new company)) error = .ok u := by
  rw [uniqueIds, ensure_eq_ok, List.map_map]
  refine ⟨fun e he => ?_, hn.map_on (fun k hk k' hk' => hfresh.inj k hk k' hk')⟩
  obtain ⟨k, hk, rfl⟩ := List.mem_map.1 he
  exact hfresh.not_blank k hk

private theorem lookup_keyMap (hi : ∀ k ∈ keys, ∀ k' ∈ keys, new k = new k' → k = k') (hke : key ∈ keys) :
    (keyMap new keys).lookup (new key) = some key := by
  induction keys with
  | nil => cases hke
  | cons k keys ih =>
    rw [keyMap, map_cons, lookup_cons]
    by_cases heq : new key = new k
    · rw [heq, beq_self_eq_true, hi key hke k mem_cons_self heq]
    · rw [beq_false_of_ne heq]
      have hm : key ∈ keys := by
        rcases mem_cons.1 hke with rfl | hm
        · exact absurd rfl heq
        · exact hm
      exact ih (fun k hk k' hk' => hi k (mem_cons_of_mem _ hk) k' (mem_cons_of_mem _ hk')) hm

/-- The export gives back the reference that the import replaced. -/
theorem bind_reference {key} (hfresh : FreshFor new company keys) (hp : Portable keys)
    (hke : ∀ k ∈ key, k ∈ keys) : (reference new key).bind (fun id => (keyMap new keys).lookup id) = key := by
  cases key with
  | none => rfl
  | some k =>
    have hk := hke k rfl
    rw [reference, filter_some_pos (by simpa using (hp k hk).2)]
    exact lookup_keyMap hfresh.inj hk

private theorem isSome_of_reference {key} (hfresh : FreshFor new company keys)
    (hke : ∀ k ∈ key, k ∈ keys) : ∀ id ∈ reference new key, ((keyMap new keys).lookup id).isSome := by
  intro id hid
  obtain ⟨k, hk, rfl⟩ := map_eq_some_iff.1 hid
  rw [lookup_keyMap hfresh.inj (hke k (filter_eq_some_iff.1 hk).1)]
  rfl

end

/-! ### The keys of a valid document -/

private theorem portable_of_textField {most} (h : textField rules 1 most key = .ok key) :
    Text.strip key = key ∧ key ≠ "" := by
  obtain ⟨hl, -, -, hs⟩ := textField_eq_ok.1 h
  refine ⟨hs, ?_⟩
  rintro rfl
  exact absurd hl (by decide)

private theorem Valid.portable_goalKeys (h : Valid rules t) : Portable (goalKeys t) := by
  intro key hk
  obtain ⟨g, hg, rfl⟩ := mem_map.1 hk
  have hv := h.goals g hg
  simp only [validateGoal, eq_ok] at hv
  obtain ⟨key, hk, _, -, _, -, _, -, _, -, heq⟩ := hv
  rw [← heq] at hk ⊢
  exact portable_of_textField hk

private theorem Valid.portable_roleKeys (h : Valid rules t) : Portable (roleKeys t) := by
  intro key hk
  obtain ⟨r, hr, rfl⟩ := mem_map.1 hk
  have hv := h.roles r hr
  simp only [validateRole, eq_ok] at hv
  obtain ⟨key, hk, _, -, _, -, _, -, _, -, _, -, _, -, _, -, _, -, heq⟩ := hv
  rw [← heq] at hk ⊢
  exact portable_of_textField hk

private theorem Valid.portable_budgetKeys (h : Valid rules t) : Portable (budgetKeys t) := by
  intro key hk
  obtain ⟨b, hb, rfl⟩ := mem_map.1 hk
  have hv := h.budgets b hb
  simp only [validateBudget, eq_ok, exists_const] at hv
  obtain ⟨key, hk, _, -, -, -, -, -, -, _, -, heq⟩ := hv
  rw [← heq] at hk ⊢
  exact portable_of_textField hk

/-! ### Exporting the imported records -/

private theorem hidden_eq_ok {x : Except String α} {a} : hidden x = .ok a ↔ x = .ok a := mapError_eq_ok

section

variable (h : Valid rules t) (hfresh : ids.Fresh t)
include h hfresh

private theorem exportGoal_imported {g : CompanyTemplateGoal} (hg : g ∈ t.goals) :
    exportGoal rules (keyMap ids.goal (goalKeys t)) (keyMap ids.agent (roleKeys t)) (goalRecord ids g) = .ok g := by
  have hp := h.references.parents g hg
  have ho := h.references.owners g hg
  have hk : g.localKey ∈ goalKeys t := mem_map_of_mem hg
  simp only [exportGoal, eq_ok, hidden_eq_ok, exists_const]
  simp only [goalRecord, bind_reference hfresh.goals h.portable_goalKeys hp,
    bind_reference hfresh.roles h.portable_roleKeys ho]
  exact ⟨isSome_of_reference hfresh.goals hp, isSome_of_reference hfresh.roles ho, g.localKey,
    lookup_keyMap hfresh.goals.inj hk, h.goals g hg⟩

private theorem exportRole_imported {r : CompanyTemplateRole} (hr : r ∈ t.roles) :
    exportRole rules (keyMap ids.agent (roleKeys t)) (keyMap ids.budget (budgetKeys t)) (roleRecord ids r) = .ok r := by
  have hm := h.references.managers r hr
  have hl := h.references.links r hr
  have hk : r.localKey ∈ roleKeys t := mem_map_of_mem hr
  have hp : (roleRecord ids r).exportedPermissions = r.permissions := by
    by_cases hn : r.permissions = [] <;> simp [AgentRole.exportedPermissions, roleRecord, hn]
  have hs : (roleRecord ids r).exportedSkills = r.skillReferences := rfl
  simp only [exportRole, eq_ok, hidden_eq_ok, exists_const, hp, hs]
  simp only [roleRecord, bind_reference hfresh.roles h.portable_roleKeys hm,
    bind_reference hfresh.budgets h.portable_budgetKeys hl]
  exact ⟨isSome_of_reference hfresh.roles hm, r.localKey, lookup_keyMap hfresh.roles.inj hk, h.roles r hr⟩

private theorem exportScope_imported (hb : b ∈ t.budgets) :
    exportScope (keyMap ids.goal (goalKeys t)) (keyMap ids.agent (roleKeys t)) (budgetRecord ids b) =
      .ok (b.scope, b.scopeKey) := by
  have hs := h.references.scopes b hb
  unfold ScopeFound at hs
  unfold exportScope budgetRecord
  cases hc : b.scope with
  | company =>
    rw [hc] at hs
    rw [hs]
    rfl
  | goal =>
    rw [hc] at hs
    obtain ⟨key, hk, hm⟩ := (any_eq_true _ _).1 hs
    simp only [budgetScope, hk, map_some, bind_some, lookup_keyMap hfresh.goals.inj (of_decide_eq_true hm)]
    rfl
  | agent =>
    rw [hc] at hs
    obtain ⟨key, hk, hm⟩ := (any_eq_true _ _).1 hs
    simp only [budgetScope, hk, map_some, bind_some, lookup_keyMap hfresh.roles.inj (of_decide_eq_true hm)]
    rfl

private theorem exportBudget_imported (hb : b ∈ t.budgets) :
    exportBudget rules (keyMap ids.goal (goalKeys t)) (keyMap ids.agent (roleKeys t))
      (keyMap ids.budget (budgetKeys t)) (budgetRecord ids b) = .ok b := by
  have hk : b.localKey ∈ budgetKeys t := mem_map_of_mem hb
  simp only [exportBudget, eq_ok, hidden_eq_ok]
  exact ⟨(b.scope, b.scopeKey), exportScope_imported h hfresh hb, b.localKey, lookup_keyMap hfresh.budgets.inj hk,
    h.budgets b hb⟩

def CompanyTemplate.sorted (t : CompanyTemplate) : CompanyTemplate :=
  { t with
    goals := sortBy CompanyTemplateGoal.localKey t.goals
    roles := sortBy CompanyTemplateRole.localKey t.roles
    budgets := sortBy CompanyTemplateBudget.localKey t.budgets }

omit h hfresh in
private theorem rearranged_sorted (t) : Rearranged t t.sorted :=
  ⟨rfl, sortBy_perm _ _, sortBy_perm _ _, sortBy_perm _ _, rfl⟩

omit hfresh in
private theorem assemble_valid : assemble t.company t.goals t.roles t.budgets t.playbooks = .ok t.sorted := by
  have hsorted : Valid rules t.sorted := h.rearrange (rearranged_sorted t)
  simp only [assemble, eq_ok, checkReferences_eq_ok, exists_const]
  exact ⟨⟨hsorted.goals_length, hsorted.roles_length, hsorted.budgets_length, hsorted.playbooks_length⟩,
    hsorted.references, rfl⟩

private theorem exportCompanyTemplate_imported : exportCompanyTemplate rules (companyRecord ids t)
    (t.goals.map (goalRecord ids)) (t.roles.map (roleRecord ids)) (t.budgets.map (budgetRecord ids)) =
      .ok t.sorted := by
  have hgl : (t.goals.map (goalRecord ids)).map goalEntry = (goalKeys t).map (importedEntry ids.goal ids.company) := by
    rw [goalKeys, List.map_map, List.map_map]
    rfl
  have hrl : (t.roles.map (roleRecord ids)).map roleEntry = (roleKeys t).map (importedEntry ids.agent ids.company) := by
    rw [roleKeys, List.map_map, List.map_map]
    rfl
  have hbd : (t.budgets.map (budgetRecord ids)).map budgetEntry =
      (budgetKeys t).map (importedEntry ids.budget ids.company) := by
    rw [budgetKeys, List.map_map, List.map_map]
    rfl
  -- no imported budget is for a work item
  have hf : (t.budgets.map (budgetRecord ids)).filter (fun b => b.scope ≠ .workItem) =
      t.budgets.map (budgetRecord ids) := by
    refine filter_eq_self.2 (fun b hb => ?_)
    obtain ⟨b, -, rfl⟩ := List.mem_map.1 hb
    cases hs : b.scope <;> simp [budgetRecord, budgetScope, hs]
  have hsm : (∀ g ∈ t.goals.map (goalRecord ids), g.companyId = ids.company) ∧
      (∀ r ∈ t.roles.map (roleRecord ids), r.companyId = ids.company) ∧
      ∀ b ∈ t.budgets.map (budgetRecord ids), b.companyId = ids.company := by
    refine ⟨fun g hg => ?_, fun r hr => ?_, fun b hb => ?_⟩
    · obtain ⟨g, -, rfl⟩ := List.mem_map.1 hg
      rfl
    · obtain ⟨r, -, rfl⟩ := List.mem_map.1 hr
      rfl
    · obtain ⟨b, -, rfl⟩ := List.mem_map.1 hb
      rfl
  have hrf := h.references
  simp only [exportCompanyTemplate, eq_ok, hidden_eq_ok, exists_const, hf, hgl, hrl, hbd, portableGoalKeys,
    portableBudgetKeys]
  refine ⟨hsm, (), uniqueIds_imported hfresh.goals hrf.goals_nodup, (),
    uniqueIds_imported hfresh.roles hrf.roles_nodup, _,
    portableKeys_imported hfresh.goals h.portable_goalKeys hrf.goals_nodup, _,
    portableRoleKeys_imported hfresh.roles h.portable_roleKeys hrf.roles_nodup, (),
    uniqueIds_imported hfresh.budgets hrf.budgets_nodup, _,
    portableKeys_imported hfresh.budgets h.portable_budgetKeys hrf.budgets_nodup, t.goals, ?_, t.roles, ?_,
    t.budgets, ?_, t.playbooks, ?_, t.company, h.company, assemble_valid h⟩
  · rw [mapM_eq_ok, forall₂_map_left_iff, forall₂_same]
    exact fun g hg => exportGoal_imported h hfresh hg
  · rw [mapM_eq_ok, forall₂_map_left_iff, forall₂_same]
    exact fun r hr => exportRole_imported h hfresh hr
  · rw [mapM_eq_ok, forall₂_map_left_iff, forall₂_same]
    exact fun b hb => exportBudget_imported h hfresh hb
  · simp only [mapM_eq_ok, hidden_eq_ok]
    exact forall₂_same.2 h.playbooks

end

theorem exists_roleOrder (h : WellReferenced t) : ∃ order, roleOrder t.roles = some order := by
  refine exists_rounds (fun done pending hne hs ha => ?_) (Subset.refl _) (fun r hr => .inl hr) (Nat.le_refl _)
  obtain ⟨r, hr⟩ := exists_mem_of_ne_nil _ hne
  have hm : ∀ r ∈ pending, managerOf t r.localKey = r.reportsToKey := by
    intro r hr
    rw [managerOf, find?_eq_some_of_mem h.roles_nodup (hs hr)]
    rfl
  obtain ⟨first, hf, hn⟩ := Grounded.exists_first hm (h.roles_grounded r (hs hr)) hr
  refine ⟨first, hf, ?_⟩
  -- the manager of the first one is a role of the document and not pending, so it was created
  rw [roleReady, Option.all_eq_true]
  intro key hk
  obtain ⟨manager, hmm, rfl⟩ := mem_map.1 (h.managers first (hs hf) key hk)
  rcases ha manager hmm with hp | hd
  · exact absurd (mem_map_of_mem hp) (hn _ hk)
  · exact decide_eq_true hd

theorem exists_goalOrder (h : WellReferenced t) : ∃ order, goalOrder t.goals = some order := by
  refine exists_rounds (fun done pending hne hs ha => ?_) (Subset.refl _) (fun g hg => .inl hg) (Nat.le_refl _)
  obtain ⟨g, hg⟩ := exists_mem_of_ne_nil _ hne
  have hp : ∀ g ∈ pending, parentOf t g.localKey = g.parentKey := by
    intro g hg
    rw [parentOf, find?_eq_some_of_mem h.goals_nodup (hs hg)]
    rfl
  obtain ⟨first, hf, hn⟩ := Grounded.exists_first hp (h.goals_grounded g (hs hg)) hg
  refine ⟨first, hf, ?_⟩
  rw [goalReady, Option.all_eq_true]
  exact fun key hk => decide_eq_true (hn key hk)

/-! ### The round trip -/

private theorem importCompanyTemplate_accepted (h : validateCompanyTemplate rules doc = .ok t)
    (hr : roleOrder t.roles = some roles) (hg : goalOrder t.goals = some goals) :
    ∃ result, importCompanyTemplate ids rules listing Db.empty doc true = .ok (result,
      ⟨[companyRecord ids t], goals.map (goalRecord ids), roles.map (roleRecord ids), t.budgets.map (budgetRecord ids),
        [listing.casefold (Text.strip t.company.name)]⟩) ∧ result.companyId = ids.company := by
  refine ⟨⟨ids.company, (goalKeys t).map (fun key => (key, ids.goal key)),
    (roles.map CompanyTemplateRole.localKey).map (fun key => (key, ids.role key)),
    (budgetKeys t).map (fun key => (key, ids.budget key))⟩, ?_, rfl⟩
  simp only [importCompanyTemplate, createCompany, eq_ok, exists_const]
  exact ⟨t, h, trivial, (fun _ hc => absurd hc not_mem_nil), _, ⟨not_mem_nil, rfl⟩, roles, hr, goals, hg, rfl⟩

/-- A listing of at most `limit` records, all of one company, holds the records of the document in some order. -/
theorem take_listed {β : Type} {f : α → β} {as : List α} {listed : List β} {own limit}
    (hp : listed.Perm ((as.map f).filter own)) (ho : ∀ a, own (f a) = true) (hl : as.length ≤ limit) :
    ∃ as' : List α, as'.Perm as ∧ listed.take limit = as'.map f := by
  have ha : (as.map f).filter own = as.map f := by
    refine filter_eq_self.2 (fun b hb => ?_)
    obtain ⟨a, -, rfl⟩ := mem_map.1 hb
    exact ho a
  rw [ha] at hp
  rw [take_of_length_le (by rwa [hp.length_eq, length_map])]
  exact exists_perm_of_perm_map hp

private theorem Ids.Fresh.rearrange (h : ids.Fresh t) (hr : Rearranged t t') : ids.Fresh t' :=
  ⟨h.goals.perm (hr.goals.map _), h.roles.perm (hr.roles.map _), h.budgets.perm (hr.budgets.map _)⟩

private theorem Rearranged.sorted_eq (hr : Rearranged t t') (h : WellReferenced t) : t'.sorted = t.sorted := by
  have hg := sortBy_eq_of_perm hr.goals.symm h.goals_nodup
  have hrl := sortBy_eq_of_perm hr.roles.symm h.roles_nodup
  have hb := sortBy_eq_of_perm hr.budgets.symm h.budgets_nodup
  simp only [CompanyTemplate.sorted, hr.company, hr.playbooks, ← hg, ← hrl, ← hb]

private theorem exportForCompany_imported (h : Valid rules t) (hfresh : ids.Fresh t) {names : List String}
    (hrl : roles.Perm t.roles) (hg : goals.Perm t.goals) :
    exportCompanyTemplateForCompany rules listing ⟨[companyRecord ids t], goals.map (goalRecord ids),
      roles.map (roleRecord ids), t.budgets.map (budgetRecord ids), names⟩ ids.company = .ok t.sorted := by
  obtain ⟨goals', hg', hge⟩ := take_listed (listing.goals_perm ((goals.map (goalRecord ids)).filter
    (fun g => g.companyId = ids.company))) (fun _ => decide_eq_true rfl) (hg.length_eq ▸ h.goals_length)
  obtain ⟨roles', hr', hre⟩ := take_listed (listing.roles_perm ((roles.map (roleRecord ids)).filter
    (fun r => r.companyId = ids.company))) (fun _ => decide_eq_true rfl) (hrl.length_eq ▸ h.roles_length)
  obtain ⟨budgets', hb', hb⟩ := take_listed (listing.budgets_perm ((t.budgets.map (budgetRecord ids)).filter
    (fun b => b.companyId = ids.company))) (fun _ => decide_eq_true rfl) h.budgets_length
  have hr : Rearranged t { t with goals := goals', roles := roles', budgets := budgets' } :=
    ⟨rfl, hg'.trans hg, hr'.trans hrl, hb', rfl⟩
  have he := exportCompanyTemplate_imported (h.rearrange hr) (hfresh.rearrange hr)
  rw [hr.sorted_eq h.references] at he
  simp only [exportCompanyTemplateForCompany, eq_ok]
  refine ⟨companyRecord ids t, by simp [companyRecord], ?_⟩
  rw [hge, hre, hb]
  exact he

/-- For a document that the validator accepts as `t`, and fresh ids: the document is imported into an empty store, the
export of the new company is `t` with its entries sorted by their keys, and the validator accepts it, exactly if no
required text of the document is blank. -/
theorem template_round_trip {rules : TextRules} {listing : Listing} {ids : Ids} {doc t : CompanyTemplate}
    (h : validateCompanyTemplate rules doc = .ok t) (hfresh : ids.Fresh t) :
    (∃ result db exported, importCompanyTemplate ids rules listing Db.empty doc true = .ok (result, db) ∧
      exportCompanyTemplateForCompany rules listing db result.companyId = .ok exported ∧
      (∃ validated, validateCompanyTemplate rules exported = .ok validated) ∧ exported = t.sorted) ↔
    doc.NoBlankText := by
  constructor
  · rintro ⟨_, _, _, -, -, ⟨validated, hv⟩, rfl⟩
    have hs : EntriesAccepted rules t.sorted := (validateCompanyTemplate_eq_ok.1 hv).1.entriesAccepted
    exact (validateCompanyTemplate_eq_ok.1 h).1.noBlankText (hs.rearrange (rearranged_sorted t).symm)
  · intro hb
    have hvl : Valid rules t := validate_returned h hb
    obtain ⟨roles, hr⟩ := exists_roleOrder hvl.references
    obtain ⟨goals, hg⟩ := exists_goalOrder hvl.references
    obtain ⟨result, hi, hrs⟩ := importCompanyTemplate_accepted h hr hg
    refine ⟨result, _, t.sorted, hi, ?_, ⟨t.sorted, ?_⟩, rfl⟩
    · rw [hrs]
      exact exportForCompany_imported hvl hfresh (rounds_perm hr) (rounds_perm hg)
    · exact valid_iff.2 (hvl.rearrange (rearranged_sorted t))

/-! ### Two documents -/

def plainRules : TextRules := ⟨fun _ => false⟩

def insertionOrder : Listing :=
  ⟨id, fun _ _ => true, id, id, id, fun _ => .refl _, fun _ => .refl _, fun _ => .refl _⟩

def labelledIds : Ids :=
  ⟨"cmp", fun key => "agent_" ++ key, fun key => "role_" ++ key, fun key => "goal_" ++ key, fun key => "bud_" ++ key⟩

def oneGoal (title : String) : CompanyTemplate := ⟨⟨"Cell", ""⟩, [⟨"g", title, "", none, none⟩], [], [], []⟩

/-- A goal whose title is blank is accepted and imported, and the company cannot be exported. -/
theorem blank_title_not_exported :
    validateCompanyTemplate plainRules (oneGoal " ") = .ok (oneGoal "") ∧ labelledIds.Fresh (oneGoal "") ∧
      ∃ result db, importCompanyTemplate labelledIds plainRules insertionOrder Db.empty (oneGoal " ") true =
          .ok (result, db) ∧
        exportCompanyTemplateForCompany plainRules insertionOrder db result.companyId =
          .error "invalid_company_template" := by
  have hfresh : labelledIds.Fresh (oneGoal "") := by
    constructor <;> constructor <;> decide +kernel
  exact ⟨by decide +kernel, hfresh, ⟨"cmp", [("g", "goal_g")], [], []⟩,
    ⟨[⟨"cmp", "Cell", "", [], true⟩], [⟨"goal_g", "cmp", "", "", none, none, some "g"⟩], [], [], ["Cell"]⟩, by rfl,
    by rfl⟩

/-- Validation is idempotent on exactly the documents without blank required texts. -/
theorem validation_idempotent_iff {rules : TextRules} {doc t : CompanyTemplate}
    (h : validateCompanyTemplate rules doc = .ok t) : validateCompanyTemplate rules t = .ok t ↔ doc.NoBlankText := by
  constructor
  · intro ht
    exact (validateCompanyTemplate_eq_ok.1 h).1.noBlankText (validateCompanyTemplate_eq_ok.1 ht).1.entriesAccepted
  · exact fun hb => valid_iff.2 (validate_returned h hb)

theorem validation_idempotent_iff_oneGoal : ¬ (oneGoal " ").NoBlankText := by
  have h : validateCompanyTemplate plainRules (oneGoal " ") = .ok (oneGoal "") := by decide +kernel
  exact mt (validation_idempotent_iff h).2 (by decide +kernel)

def smallCompany : CompanyTemplate where
  company := ⟨" Cell ", "Deliver"⟩
  goals := [⟨"part", "Part", "", some "whole", some "worker"⟩, ⟨"whole", "Whole", "", none, none⟩]
  roles := [⟨"worker", "Worker", "worker", "", ["Work"], ["reports:read"], [], some "manager", some "spend"⟩,
    ⟨"manager", "Manager", "manager", "", [], [], ["review"], none, none⟩]
  budgets := [⟨"spend", .agent, some "worker", .daily, .finite 10, .finite (4 / 5), []⟩]
  playbooks := [⟨"flow", "Flow", [⟨"worker", "Report"⟩]⟩]

theorem template_round_trip_smallCompany :
    ∃ result db exported, importCompanyTemplate labelledIds plainRules insertionOrder Db.empty smallCompany true =
        .ok (result, db) ∧
      exportCompanyTemplateForCompany plainRules insertionOrder db result.companyId = .ok exported ∧
      (∃ validated, validateCompanyTemplate plainRules exported = .ok validated) ∧
      exported = { smallCompany with company := ⟨"Cell", "Deliver"⟩ }.sorted := by
  have hfresh : labelledIds.Fresh { smallCompany with company := ⟨"Cell", "Deliver"⟩ } := by
    constructor <;> constructor <;> decide +kernel
  have hb : smallCompany.NoBlankText := by
    unfold CompanyTemplate.NoBlankText CompanyTemplateGoal.NoBlank CompanyTemplateRole.NoBlank
      CompanyTemplateBudget.NoBlank CompanyTemplatePlaybook.NoBlank CompanyTemplatePlaybookStep.NoBlank
    decide +kernel
  exact (template_round_trip (by decide +kernel) hfresh).2 hb

end WisdoverseCell.Templates
