import WisdoverseCell.Templates.Documents

/-!
# Validating twice

The validator checks the length of a text before it strips it, so a required text that is blank passes and becomes
empty. That is the only thing that can go wrong: what the validator returns is accepted again, and unchanged, exactly
if no required text of the document is blank.
-/

namespace WisdoverseCell.Templates

open List Text

variable {text value key : String} {least most : Nat} {rules : TextRules} {t t' doc : CompanyTemplate}

/-! ### Texts -/

/-- What a check returned passes it again, unchanged, under the condition; and it passes in no other case. -/
structure Returned {α : Type} (check : α → Except String α) (a : α) (condition : Prop) : Prop where
  again : condition → check a = .ok a
  accepted : ∀ b, check a = .ok b → condition

private theorem returned_iff {α : Type} {check : α → Except String α} {a} {condition : Prop} :
    Returned check a condition ↔ ∀ b, check a = .ok b ↔ condition ∧ a = b := by
  constructor
  · exact fun h b => ⟨fun hb => ⟨h.accepted b hb, Except.ok.inj ((h.again (h.accepted b hb)).symm.trans hb)⟩,
      fun hb => hb.2 ▸ h.again hb.1⟩
  · exact fun h => ⟨fun hc => (h a).2 ⟨hc, rfl⟩, fun b hb => ((h b).1 hb).1⟩

private theorem portableText_eq_ok :
    portableText rules value = .ok text ↔ rules.sensitive (strip value) = false ∧ strip value = text := by
  simp only [portableText, eq_ok, exists_const]

theorem textField_eq_ok : textField rules least most value = .ok text ↔
    least ≤ value.length ∧ value.length ≤ most ∧ rules.sensitive (strip value) = false ∧ strip value = text := by
  simp only [textField, eq_ok, portableText_eq_ok, exists_const]

private theorem portableText_returned (h : portableText rules value = .ok text) :
    portableText rules text = .ok text := by
  obtain ⟨hs, rfl⟩ := portableText_eq_ok.1 h
  exact portableText_eq_ok.2 ⟨by rwa [strip_strip], strip_strip value⟩

private theorem textField_returned (h : textField rules least most value = .ok text) :
    Returned (textField rules least most) text (least ≤ (strip value).length) := by
  obtain ⟨-, hm, hs, rfl⟩ := textField_eq_ok.1 h
  refine ⟨fun hl => ?_, fun text' h' => (textField_eq_ok.1 h').1⟩
  rw [textField_eq_ok, strip_strip]
  exact ⟨hl, (length_strip_le value).trans hm, hs, rfl⟩

private theorem optionalText_returned (h : textField rules 0 most value = .ok text) :
    textField rules 0 most text = .ok text := (textField_returned h).again (Nat.zero_le _)

private theorem requiredText_returned (h : textField rules 1 most value = .ok text) (text') :
    textField rules 1 most text = .ok text' ↔ strip value ≠ "" ∧ text = text' := by
  rw [ne_eq, ← String.length_eq_zero_iff, ← ne_eq, ← Nat.one_le_iff_ne_zero]
  exact returned_iff.1 (textField_returned h) text'

private theorem keyField_returned {value key} (h : keyField rules value = .ok key) : keyField rules key = .ok key := by
  cases value with
  | none =>
    obtain rfl := pure_eq_ok.1 h
    rfl
  | some =>
    simp only [keyField, eq_ok] at h
    obtain ⟨text, ht, rfl⟩ := h
    simp only [keyField, eq_ok]
    exact ⟨text, optionalText_returned ht, rfl⟩

section

variable {α : Type} {check : α → Except String α} {condition : α → Prop} {as bs : List α}
  (h : Forall₂ (fun a b => check a = .ok b) as bs)
include h

private theorem forall_again (hc : ∀ a b, check a = .ok b → Returned check b (condition a))
    (ha : ∀ a ∈ as, condition a) :
    ∀ b ∈ bs, check b = .ok b := by
  induction h with
  | nil => exact fun _ hb => nomatch hb
  | cons hab _ ih =>
    rw [forall_mem_cons] at ha ⊢
    exact ⟨(hc _ _ hab).again ha.1, ih ha.2⟩

private theorem forall_accepted (hch : ∀ a b, check a = .ok b → Returned check b (condition a))
    (hal : ∀ b ∈ bs, ∃ c, check b = .ok c) : ∀ a ∈ as, condition a := by
  induction h with
  | nil => exact fun _ ha => nomatch ha
  | cons hab _ ih =>
    rw [forall_mem_cons] at hal ⊢
    obtain ⟨⟨c, hc⟩, hal⟩ := hal
    exact ⟨(hch _ _ hab).accepted c hc, ih hal⟩

private theorem forall_exists : ∀ a ∈ as, ∃ b, check a = .ok b := by
  induction h with
  | nil => exact fun _ ha => nomatch ha
  | cons hab _ ih => exact forall_mem_cons.2 ⟨⟨_, hab⟩, ih⟩

end

private theorem textsField_returned {values texts} (h : textsField rules most values = .ok texts) :
    textsField rules most texts = .ok texts := by
  simp only [textsField, eq_ok, mapM_eq_ok, exists_const] at h ⊢
  obtain ⟨hl, ht⟩ := h
  have ha : ∀ text ∈ texts, portableText rules text = .ok text :=
    forall_again ht (fun _ _ hv => ⟨fun _ => portableText_returned hv, fun _ _ => trivial⟩)
      (fun _ _ => trivial)
  exact ⟨ht.length_eq ▸ hl, forall₂_same.2 ha⟩

/-! ### Required texts -/

def CompanyTemplateGoal.NoBlank (g : CompanyTemplateGoal) : Prop := strip g.localKey ≠ "" ∧ strip g.title ≠ ""

def CompanyTemplateRole.NoBlank (r : CompanyTemplateRole) : Prop :=
  strip r.localKey ≠ "" ∧ strip r.displayName ≠ "" ∧ strip r.role ≠ ""

def CompanyTemplateBudget.NoBlank (b : CompanyTemplateBudget) : Prop := strip b.localKey ≠ ""

def CompanyTemplatePlaybookStep.NoBlank (s : CompanyTemplatePlaybookStep) : Prop :=
  strip s.roleKey ≠ "" ∧ strip s.action ≠ ""

def CompanyTemplatePlaybook.NoBlank (p : CompanyTemplatePlaybook) : Prop :=
  strip p.key ≠ "" ∧ strip p.title ≠ "" ∧ ∀ s ∈ p.steps, s.NoBlank

/-- Every required text of the document has a character that is not white space. -/
def CompanyTemplate.NoBlankText (t : CompanyTemplate) : Prop :=
  strip t.company.name ≠ "" ∧ (∀ g ∈ t.goals, g.NoBlank) ∧ (∀ r ∈ t.roles, r.NoBlank) ∧
    (∀ b ∈ t.budgets, b.NoBlank) ∧ ∀ p ∈ t.playbooks, p.NoBlank

/-! ### Entries -/

private theorem validateCompany_returned {c c' : CompanyTemplateCompany} (h : validateCompany rules c = .ok c') :
    Returned (validateCompany rules) c' (strip c.name ≠ "") := by
  simp only [validateCompany, eq_ok] at h
  obtain ⟨name, hn, mission, hm, rfl⟩ := h
  refine returned_iff.2 (fun c => ?_)
  simp [validateCompany, bind_eq_ok, requiredText_returned hn, optionalText_returned hm]

private theorem validateGoal_returned {g g' : CompanyTemplateGoal} (h : validateGoal rules g = .ok g') :
    Returned (validateGoal rules) g' g.NoBlank := by
  simp only [validateGoal, eq_ok] at h
  obtain ⟨localKey, hk, title, ht, description, hd, parentKey, hp, ownerRoleKey, ho, rfl⟩ := h
  refine returned_iff.2 (fun g => ?_)
  simp [validateGoal, bind_eq_ok, requiredText_returned hk, requiredText_returned ht, optionalText_returned hd,
    keyField_returned hp, keyField_returned ho, CompanyTemplateGoal.NoBlank, and_assoc]

private theorem validateRole_returned {r r' : CompanyTemplateRole} (h : validateRole rules r = .ok r') :
    Returned (validateRole rules) r' r.NoBlank := by
  simp only [validateRole, eq_ok] at h
  obtain ⟨localKey, hk, displayName, hn, role, hrl, title, ht, responsibilities, hrs, permissions,
    hp, skills, hs, manager, hm, budgetKey, hb, rfl⟩ := h
  refine returned_iff.2 (fun r => ?_)
  simp [validateRole, bind_eq_ok, requiredText_returned hk, requiredText_returned hn, requiredText_returned hrl,
    optionalText_returned ht, textsField_returned hrs, textsField_returned hp, textsField_returned hs,
      keyField_returned hm,
    keyField_returned hb, CompanyTemplateRole.NoBlank, and_assoc]

private theorem validateBudget_returned {b b' : CompanyTemplateBudget} (h : validateBudget rules b = .ok b') :
    Returned (validateBudget rules) b' b.NoBlank := by
  simp only [validateBudget, eq_ok, exists_const] at h
  obtain ⟨localKey, hk, scopeKey, hs, hc, hw, hrt, hc', hw', models, hm, rfl⟩ := h
  refine returned_iff.2 (fun b => ?_)
  simp [validateBudget, bind_eq_ok, ensure_eq_ok, requiredText_returned hk, keyField_returned hs, hc, hw, hrt, hc', hw',
    textsField_returned hm, CompanyTemplateBudget.NoBlank]

private theorem validateStep_returned {s s' : CompanyTemplatePlaybookStep} (h : validateStep rules s = .ok s') :
    Returned (validateStep rules) s' s.NoBlank := by
  simp only [validateStep, eq_ok] at h
  obtain ⟨roleKey, hk, action, ha, rfl⟩ := h
  refine returned_iff.2 (fun s => ?_)
  simp [validateStep, bind_eq_ok, -bind_pure_comp, requiredText_returned hk, requiredText_returned ha, pure_eq_ok,
    CompanyTemplatePlaybookStep.NoBlank, and_assoc]

private theorem validatePlaybook_returned {p p'} (h : validatePlaybook rules p = .ok p') :
    Returned (validatePlaybook rules) p' p.NoBlank := by
  simp only [validatePlaybook, eq_ok, exists_const, mapM_eq_ok] at h
  obtain ⟨key, hk, title, ht, hl, steps, hs, rfl⟩ := h
  constructor
  · rintro ⟨hk', ht', hs'⟩
    simp only [validatePlaybook, eq_ok, exists_const, mapM_eq_ok]
    exact ⟨key, (requiredText_returned hk _).2 ⟨hk', rfl⟩, title, (requiredText_returned ht _).2 ⟨ht', rfl⟩,
      hs.length_eq ▸ hl, steps,
      forall₂_same.2 (forall_again hs (fun _ _ => validateStep_returned) hs'), rfl⟩
  · intro p'' h'
    simp only [validatePlaybook, eq_ok, exists_const, mapM_eq_ok] at h'
    obtain ⟨_, hk', _, ht', -, _, hs', -⟩ := h'
    exact ⟨((requiredText_returned hk _).1 hk').1, ((requiredText_returned ht _).1 ht').1,
      forall_accepted hs (fun _ _ => validateStep_returned) (forall_exists hs')⟩

/-! ### Documents -/

/-- The validator returns the document as it is. -/
structure Valid (rules : TextRules) (t : CompanyTemplate) : Prop where
  company : validateCompany rules t.company = .ok t.company
  goals : ∀ g ∈ t.goals, validateGoal rules g = .ok g
  roles : ∀ r ∈ t.roles, validateRole rules r = .ok r
  budgets : ∀ b ∈ t.budgets, validateBudget rules b = .ok b
  playbooks : ∀ p ∈ t.playbooks, validatePlaybook rules p = .ok p
  goals_length : t.goals.length ≤ 500
  roles_length : t.roles.length ≤ 200
  budgets_length : t.budgets.length ≤ 500
  playbooks_length : t.playbooks.length ≤ 100
  references : WellReferenced t

/-- The fields of `t` are those of the document, validated. -/
structure FieldsOf (rules : TextRules) (doc t : CompanyTemplate) : Prop where
  company : validateCompany rules doc.company = .ok t.company
  goals : Forall₂ (fun g g' => validateGoal rules g = .ok g') doc.goals t.goals
  roles : Forall₂ (fun r r' => validateRole rules r = .ok r') doc.roles t.roles
  budgets : Forall₂ (fun b b' => validateBudget rules b = .ok b') doc.budgets t.budgets
  playbooks : Forall₂ (fun p p' => validatePlaybook rules p = .ok p') doc.playbooks t.playbooks
  goals_length : doc.goals.length ≤ 500
  roles_length : doc.roles.length ≤ 200
  budgets_length : doc.budgets.length ≤ 500
  playbooks_length : doc.playbooks.length ≤ 100

private theorem validateFields_eq_ok : validateFields rules doc = .ok t ↔ FieldsOf rules doc t := by
  simp only [validateFields, eq_ok, exists_const, mapM_eq_ok]
  constructor
  · rintro ⟨company, hc, hg, goals, hgl, hr, roles, hrl, hb, budgets, hbd, hp, playbooks, hpl, rfl⟩
    exact ⟨hc, hgl, hrl, hbd, hpl, hg, hr, hb, hp⟩
  · intro h
    exact ⟨t.company, h.company, h.goals_length, t.goals, h.goals, h.roles_length, t.roles, h.roles, h.budgets_length,
      t.budgets, h.budgets, h.playbooks_length, t.playbooks, h.playbooks, rfl⟩

theorem validateCompanyTemplate_eq_ok :
    validateCompanyTemplate rules doc = .ok t ↔ FieldsOf rules doc t ∧ WellReferenced t := by
  simp only [validateCompanyTemplate, eq_ok, validateFields_eq_ok, checkReferences_eq_ok, exists_const]
  constructor
  · rintro ⟨_, hf, hrf, rfl⟩
    exact ⟨hf, hrf⟩
  · exact fun ⟨hf, hrf⟩ => ⟨t, hf, hrf, rfl⟩

theorem valid_iff : validateCompanyTemplate rules t = .ok t ↔ Valid rules t := by
  rw [validateCompanyTemplate_eq_ok]
  constructor
  · rintro ⟨h, hrf⟩
    exact ⟨h.company, forall₂_same.1 h.goals, forall₂_same.1 h.roles, forall₂_same.1 h.budgets,
      forall₂_same.1 h.playbooks, h.goals_length, h.roles_length, h.budgets_length, h.playbooks_length, hrf⟩
  · intro h
    exact ⟨⟨h.company, forall₂_same.2 h.goals, forall₂_same.2 h.roles, forall₂_same.2 h.budgets,
      forall₂_same.2 h.playbooks, h.goals_length, h.roles_length, h.budgets_length, h.playbooks_length⟩,
      h.references⟩

/-- Every entry of the document is accepted by its own checks. -/
structure EntriesAccepted (rules : TextRules) (t : CompanyTemplate) : Prop where
  company : ∃ c, validateCompany rules t.company = .ok c
  goals : ∀ g ∈ t.goals, ∃ g', validateGoal rules g = .ok g'
  roles : ∀ r ∈ t.roles, ∃ r', validateRole rules r = .ok r'
  budgets : ∀ b ∈ t.budgets, ∃ b', validateBudget rules b = .ok b'
  playbooks : ∀ p ∈ t.playbooks, ∃ p', validatePlaybook rules p = .ok p'

theorem FieldsOf.entriesAccepted (h : FieldsOf rules doc t) : EntriesAccepted rules doc :=
  ⟨⟨_, h.company⟩, forall_exists h.goals, forall_exists h.roles, forall_exists h.budgets, forall_exists h.playbooks⟩

theorem FieldsOf.noBlankText (h : FieldsOf rules doc t) (ha : EntriesAccepted rules t) : doc.NoBlankText := by
  obtain ⟨c, hc⟩ := ha.company
  exact ⟨(validateCompany_returned h.company).accepted c hc,
    forall_accepted h.goals (fun _ _ => validateGoal_returned) ha.goals,
    forall_accepted h.roles (fun _ _ => validateRole_returned) ha.roles,
    forall_accepted h.budgets (fun _ _ => validateBudget_returned) ha.budgets,
    forall_accepted h.playbooks (fun _ _ => validatePlaybook_returned) ha.playbooks⟩

theorem validate_returned (h : validateCompanyTemplate rules doc = .ok t) (hb : doc.NoBlankText) : Valid rules t := by
  obtain ⟨hf, hrf⟩ := validateCompanyTemplate_eq_ok.1 h
  obtain ⟨hc, hg, hrl, hbd, hp⟩ := hb
  exact ⟨(validateCompany_returned hf.company).again hc, forall_again hf.goals (fun _ _ => validateGoal_returned) hg,
    forall_again hf.roles (fun _ _ => validateRole_returned) hrl,
    forall_again hf.budgets (fun _ _ => validateBudget_returned) hbd,
    forall_again hf.playbooks (fun _ _ => validatePlaybook_returned) hp,
    hf.goals.length_eq ▸ hf.goals_length, hf.roles.length_eq ▸ hf.roles_length,
    hf.budgets.length_eq ▸ hf.budgets_length, hf.playbooks.length_eq ▸ hf.playbooks_length,
    hrf⟩

/-! ### The order of the entries -/

structure Rearranged (t t' : CompanyTemplate) : Prop where
  company : t'.company = t.company
  goals : t'.goals.Perm t.goals
  roles : t'.roles.Perm t.roles
  budgets : t'.budgets.Perm t.budgets
  playbooks : t'.playbooks = t.playbooks

theorem Rearranged.symm (h : Rearranged t t') : Rearranged t' t :=
  ⟨h.company.symm, h.goals.symm, h.roles.symm, h.budgets.symm, h.playbooks.symm⟩

section

variable (hr : Rearranged t t') (h : WellReferenced t)
include hr

private theorem Rearranged.mem_goalKeys : key ∈ goalKeys t' ↔ key ∈ goalKeys t := (hr.goals.map _).mem_iff

private theorem Rearranged.mem_roleKeys : key ∈ roleKeys t' ↔ key ∈ roleKeys t := (hr.roles.map _).mem_iff

private theorem Rearranged.mem_budgetKeys : key ∈ budgetKeys t' ↔ key ∈ budgetKeys t := (hr.budgets.map _).mem_iff

include h

private theorem Rearranged.parentOf_eq : parentOf t' = parentOf t := by
  funext key
  unfold parentOf
  rw [find?_eq_of_perm hr.goals.symm h.goals_nodup key]

private theorem Rearranged.managerOf_eq : managerOf t' = managerOf t := by
  funext key
  unfold managerOf
  rw [find?_eq_of_perm hr.roles.symm h.roles_nodup key]

private theorem Rearranged.linkedBudget_eq (r) : linkedBudget t' r = linkedBudget t r := by
  unfold linkedBudget
  congr 1
  funext key
  exact (find?_eq_of_perm hr.budgets.symm h.budgets_nodup key).symm

private theorem WellReferenced.rearrange : WellReferenced t' where
  goals_nodup := (hr.goals.map _).nodup_iff.2 h.goals_nodup
  roles_nodup := (hr.roles.map _).nodup_iff.2 h.roles_nodup
  budgets_nodup := (hr.budgets.map _).nodup_iff.2 h.budgets_nodup
  playbooks_nodup := by
    rw [playbookKeys, hr.playbooks]
    exact h.playbooks_nodup
  parents g hg key hk := hr.mem_goalKeys.2 (h.parents g (hr.goals.mem_iff.1 hg) key hk)
  goals_grounded g hg := by
    rw [hr.parentOf_eq h]
    exact h.goals_grounded g (hr.goals.mem_iff.1 hg)
  owners g hg key hk := hr.mem_roleKeys.2 (h.owners g (hr.goals.mem_iff.1 hg) key hk)
  managers r hrl key hk := hr.mem_roleKeys.2 (h.managers r (hr.roles.mem_iff.1 hrl) key hk)
  links r hrl key hk := hr.mem_budgetKeys.2 (h.links r (hr.roles.mem_iff.1 hrl) key hk)
  linked_scopes r hrl b hb := by
    rw [hr.linkedBudget_eq h] at hb
    exact h.linked_scopes r (hr.roles.mem_iff.1 hrl) b hb
  roles_grounded r hrl := by
    rw [hr.managerOf_eq h]
    exact h.roles_grounded r (hr.roles.mem_iff.1 hrl)
  scopes b hb := by
    have hsc := h.scopes b (hr.budgets.mem_iff.1 hb)
    unfold ScopeFound at hsc ⊢
    simpa only [hr.mem_goalKeys, hr.mem_roleKeys] using hsc
  steps p hp s hs := by
    rw [hr.playbooks] at hp
    exact hr.mem_roleKeys.2 (h.steps p hp s hs)

end

theorem EntriesAccepted.rearrange (h : EntriesAccepted rules t) (hr : Rearranged t t') : EntriesAccepted rules t' where
  company := by
    rw [hr.company]
    exact h.company
  goals g hg := h.goals g (hr.goals.mem_iff.1 hg)
  roles r hrl := h.roles r (hr.roles.mem_iff.1 hrl)
  budgets b hb := h.budgets b (hr.budgets.mem_iff.1 hb)
  playbooks p hp := by
    rw [hr.playbooks] at hp
    exact h.playbooks p hp

theorem Valid.rearrange (h : Valid rules t) (hr : Rearranged t t') : Valid rules t' where
  company := by
    rw [hr.company]
    exact h.company
  goals g hg := h.goals g (hr.goals.mem_iff.1 hg)
  roles r hrl := h.roles r (hr.roles.mem_iff.1 hrl)
  budgets b hb := h.budgets b (hr.budgets.mem_iff.1 hb)
  playbooks p hp := by
    rw [hr.playbooks] at hp
    exact h.playbooks p hp
  goals_length := hr.goals.length_eq ▸ h.goals_length
  roles_length := hr.roles.length_eq ▸ h.roles_length
  budgets_length := hr.budgets.length_eq ▸ h.budgets_length
  playbooks_length := hr.playbooks ▸ h.playbooks_length
  references := h.references.rearrange hr

end WisdoverseCell.Templates
