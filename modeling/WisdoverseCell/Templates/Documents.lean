import WisdoverseCell.ControlPlane.Models
import WisdoverseCell.Library.Checked
import WisdoverseCell.Library.Forest
import WisdoverseCell.Library.Listing
import WisdoverseCell.Library.Text

/-!
# Company template documents

The data of a portable company template and its validation.  A text is checked for its length as it stands, then
stripped and checked for sensitive values; the references are checked last (`WellReferenced`).  A `CompanyTemplate`
stands both for a document and for what the validator returns.
-/

namespace WisdoverseCell.Templates

open ControlPlane (BudgetPeriod)

/-! ### Entries -/

structure CompanyTemplateCompany where
  name : String
  mission : String
  deriving DecidableEq

structure CompanyTemplateGoal where
  localKey : String
  title : String
  description : String
  parentKey : Option String
  ownerRoleKey : Option String
  deriving DecidableEq

structure CompanyTemplateRole where
  localKey : String
  displayName : String
  role : String
  title : String
  responsibilities : List String
  permissions : List String
  skillReferences : List String
  reportsToKey : Option String
  budgetKey : Option String
  deriving DecidableEq

structure CompanyTemplatePlaybookStep where
  roleKey : String
  action : String
  deriving DecidableEq

inductive PortableScope
  | company
  | goal
  | agent
  deriving DecidableEq

inductive Amount
  | finite (q : ℚ)
  | nonFinite (x : NonFinite)
  deriving DecidableEq

structure CompanyTemplateBudget where
  localKey : String
  scope : PortableScope
  scopeKey : Option String
  period : BudgetPeriod
  ceilingUsd : Amount
  warningRatio : Amount
  modelAllowlist : List String
  deriving DecidableEq

structure CompanyTemplatePlaybook where
  key : String
  title : String
  steps : List CompanyTemplatePlaybookStep
  deriving DecidableEq

structure CompanyTemplate where
  company : CompanyTemplateCompany
  goals : List CompanyTemplateGoal
  roles : List CompanyTemplateRole
  budgets : List CompanyTemplateBudget
  playbooks : List CompanyTemplatePlaybook
  deriving DecidableEq

/-! ### Fields -/

/-- What a text is searched for: assigned secrets, tokens, and URLs of private hosts. -/
structure TextRules where
  sensitive : String → Bool

variable (rules : TextRules)

def portableText (value : String) : Except String String := do
  let text := Text.strip value
  ensure (rules.sensitive text = false) "portable_field_contains_sensitive_value"
  pure text

def textField (least most : Nat) (value : String) : Except String String := do
  ensure (least ≤ value.length) "string_too_short"
  ensure (value.length ≤ most) "string_too_long"
  portableText rules value

def keyField : Option String → Except String (Option String)
  | none => pure none
  | some value => do
    let text ← textField rules 0 64 value
    pure (some text)

def textsField (most : Nat) (values : List String) : Except String (List String) := do
  ensure (values.length ≤ most) "too_long"
  values.mapM (portableText rules)

def Amount.positive : Amount → Bool
  | finite q => 0 < q
  | nonFinite .infinity => true
  | nonFinite .nan | nonFinite .negInfinity => false

def Amount.atMostOne : Amount → Bool
  | finite q => q ≤ 1
  | nonFinite .negInfinity => true
  | nonFinite .nan | nonFinite .infinity => false

def Amount.isFinite : Amount → Bool
  | finite _ => true
  | nonFinite _ => false

/-! ### Validation of the entries -/

def validateCompany (c : CompanyTemplateCompany) : Except String CompanyTemplateCompany := do
  let name ← textField rules 1 256 c.name
  let mission ← textField rules 0 4000 c.mission
  pure ⟨name, mission⟩

def validateGoal (g : CompanyTemplateGoal) : Except String CompanyTemplateGoal := do
  let localKey ← textField rules 1 64 g.localKey
  let title ← textField rules 1 512 g.title
  let description ← textField rules 0 20000 g.description
  let parentKey ← keyField rules g.parentKey
  let ownerRoleKey ← keyField rules g.ownerRoleKey
  pure ⟨localKey, title, description, parentKey, ownerRoleKey⟩

def validateRole (r : CompanyTemplateRole) : Except String CompanyTemplateRole := do
  let localKey ← textField rules 1 64 r.localKey
  let displayName ← textField rules 1 256 r.displayName
  let role ← textField rules 1 128 r.role
  let title ← textField rules 0 256 r.title
  let responsibilities ← textsField rules 100 r.responsibilities
  let permissions ← textsField rules 50 r.permissions
  let skillReferences ← textsField rules 100 r.skillReferences
  let reportsToKey ← keyField rules r.reportsToKey
  let budgetKey ← keyField rules r.budgetKey
  pure ⟨localKey, displayName, role, title, responsibilities, permissions, skillReferences, reportsToKey, budgetKey⟩

def validateBudget (b : CompanyTemplateBudget) : Except String CompanyTemplateBudget := do
  let localKey ← textField rules 1 64 b.localKey
  let scopeKey ← keyField rules b.scopeKey
  ensure (b.ceilingUsd.positive = true) "greater_than"
  ensure (b.warningRatio.positive = true) "greater_than"
  ensure (b.warningRatio.atMostOne = true) "less_than_equal"
  ensure (b.ceilingUsd.isFinite = true) "portable_budget_numeric_value_must_be_finite"
  ensure (b.warningRatio.isFinite = true) "portable_budget_numeric_value_must_be_finite"
  let modelAllowlist ← textsField rules 100 b.modelAllowlist
  pure ⟨localKey, b.scope, scopeKey, b.period, b.ceilingUsd, b.warningRatio, modelAllowlist⟩

def validateStep (s : CompanyTemplatePlaybookStep) : Except String CompanyTemplatePlaybookStep := do
  let roleKey ← textField rules 1 64 s.roleKey
  let action ← textField rules 1 2000 s.action
  pure ⟨roleKey, action⟩

def validatePlaybook (p : CompanyTemplatePlaybook) : Except String CompanyTemplatePlaybook := do
  let key ← textField rules 1 64 p.key
  let title ← textField rules 1 256 p.title
  ensure (p.steps.length ≤ 100) "too_long"
  let steps ← p.steps.mapM (validateStep rules)
  pure ⟨key, title, steps⟩

/-! ### References -/

def goalKeys (t : CompanyTemplate) : List String := t.goals.map CompanyTemplateGoal.localKey

def roleKeys (t : CompanyTemplate) : List String := t.roles.map CompanyTemplateRole.localKey

def budgetKeys (t : CompanyTemplate) : List String := t.budgets.map CompanyTemplateBudget.localKey

def playbookKeys (t : CompanyTemplate) : List String := t.playbooks.map CompanyTemplatePlaybook.key

def parentOf (t : CompanyTemplate) (key : String) : Option String :=
  (t.goals.find? (fun g => g.localKey = key)).bind CompanyTemplateGoal.parentKey

def managerOf (t : CompanyTemplate) (key : String) : Option String :=
  (t.roles.find? (fun r => r.localKey = key)).bind CompanyTemplateRole.reportsToKey

def checkParents (t : CompanyTemplate) (g : CompanyTemplateGoal) : Except String Unit := do
  ensure (∀ key ∈ g.parentKey, key ∈ goalKeys t) "dangling_goal_parent_reference"
  ensure (reachesRoot (parentOf t) ((goalKeys t).length + 1) [] (some g.localKey) = true) "goal_parent_cycle"

def linkedBudget (t : CompanyTemplate) (r : CompanyTemplateRole) : Option CompanyTemplateBudget :=
  (r.budgetKey.filter (fun key => key ≠ "")).bind (fun key => t.budgets.find? (fun b => b.localKey = key))

def checkRole (t : CompanyTemplate) (r : CompanyTemplateRole) : Except String Unit := do
  ensure (∀ key ∈ r.reportsToKey, key ∈ roleKeys t) "dangling_role_reports_to_reference"
  ensure (∀ key ∈ r.budgetKey, key ∈ budgetKeys t) "dangling_role_budget_reference"
  ensure (∀ b ∈ linkedBudget t r, b.scope = .agent → b.scopeKey = some r.localKey) "role_budget_scope_mismatch"
  ensure (reachesRoot (managerOf t) ((roleKeys t).length + 1) [] (some r.localKey) = true) "role_reporting_cycle"

def ScopeFound (t : CompanyTemplate) (b : CompanyTemplateBudget) : Prop :=
  match b.scope with
  | .company => b.scopeKey = none
  | .goal => b.scopeKey.any (fun key => key ∈ goalKeys t) = true
  | .agent => b.scopeKey.any (fun key => key ∈ roleKeys t) = true

def checkScope (t : CompanyTemplate) (b : CompanyTemplateBudget) : Except String Unit :=
  match b.scope with
  | .company => ensure (b.scopeKey = none) "company_budget_must_not_have_scope_key"
  | .goal => ensure (b.scopeKey.any (fun key => key ∈ goalKeys t) = true) "dangling_budget_goal_scope_reference"
  | .agent => ensure (b.scopeKey.any (fun key => key ∈ roleKeys t) = true) "dangling_budget_role_scope_reference"

def checkReferences (t : CompanyTemplate) : Except String Unit := do
  ensure (goalKeys t).Nodup "duplicate_goal_local_key"
  ensure (roleKeys t).Nodup "duplicate_role_local_key"
  ensure (budgetKeys t).Nodup "duplicate_budget_local_key"
  ensure (playbookKeys t).Nodup "duplicate_playbook_key"
  t.goals.forM (checkParents t)
  t.goals.forM (fun g => ensure (∀ key ∈ g.ownerRoleKey, key ∈ roleKeys t) "dangling_goal_owner_role_reference")
  t.roles.forM (checkRole t)
  t.budgets.forM (checkScope t)
  t.playbooks.forM (fun p =>
    ensure (∀ s ∈ p.steps, s.roleKey ∈ roleKeys t) "dangling_playbook_role_reference")

def validateFields (t : CompanyTemplate) : Except String CompanyTemplate := do
  let company ← validateCompany rules t.company
  ensure (t.goals.length ≤ 500) "too_long"
  let goals ← t.goals.mapM (validateGoal rules)
  ensure (t.roles.length ≤ 200) "too_long"
  let roles ← t.roles.mapM (validateRole rules)
  ensure (t.budgets.length ≤ 500) "too_long"
  let budgets ← t.budgets.mapM (validateBudget rules)
  ensure (t.playbooks.length ≤ 100) "too_long"
  let playbooks ← t.playbooks.mapM (validatePlaybook rules)
  pure ⟨company, goals, roles, budgets, playbooks⟩

/-- The text of a failed check is kept out of the error. -/
def validateCompanyTemplate (t : CompanyTemplate) : Except String CompanyTemplate :=
  (do
    let validated ← validateFields rules t
    checkReferences validated
    pure validated).mapError (fun _ => "invalid_company_template")

/-! ### What the reference checks leave -/

structure WellReferenced (t : CompanyTemplate) : Prop where
  goals_nodup : (goalKeys t).Nodup
  roles_nodup : (roleKeys t).Nodup
  budgets_nodup : (budgetKeys t).Nodup
  playbooks_nodup : (playbookKeys t).Nodup
  parents : ∀ g ∈ t.goals, ∀ key ∈ g.parentKey, key ∈ goalKeys t
  goals_grounded : ∀ g ∈ t.goals, Grounded (parentOf t) g.localKey
  owners : ∀ g ∈ t.goals, ∀ key ∈ g.ownerRoleKey, key ∈ roleKeys t
  managers : ∀ r ∈ t.roles, ∀ key ∈ r.reportsToKey, key ∈ roleKeys t
  links : ∀ r ∈ t.roles, ∀ key ∈ r.budgetKey, key ∈ budgetKeys t
  linked_scopes : ∀ r ∈ t.roles, ∀ b ∈ linkedBudget t r, b.scope = .agent → b.scopeKey = some r.localKey
  roles_grounded : ∀ r ∈ t.roles, Grounded (managerOf t) r.localKey
  scopes : ∀ b ∈ t.budgets, ScopeFound t b
  steps : ∀ p ∈ t.playbooks, ∀ s ∈ p.steps, s.roleKey ∈ roleKeys t

private theorem mem_keys_of_linked {α : Type} {localKey : α → String} {link : α → Option String} {as : List α}
    {key target} (h : (as.find? (fun a => localKey a = key)).bind link = some target) :
    key ∈ as.map localKey := by
  obtain ⟨a, ha, -⟩ := Option.bind_eq_some_iff.1 h
  have hk : localKey a = key := by simpa using List.find?_some ha
  exact List.mem_map.2 ⟨a, List.mem_of_find?_eq_some ha, hk⟩

variable {t : CompanyTemplate}

theorem mem_goalKeys_of_parentOf (key parent) (h : parentOf t key = some parent) : key ∈ goalKeys t :=
  mem_keys_of_linked h

theorem mem_roleKeys_of_managerOf (key manager) (h : managerOf t key = some manager) : key ∈ roleKeys t :=
  mem_keys_of_linked h

private theorem checkScope_eq_ok {b u} : checkScope t b = .ok u ↔ ScopeFound t b := by
  unfold checkScope ScopeFound
  split <;> exact ensure_eq_ok

theorem checkReferences_eq_ok {u} : checkReferences t = .ok u ↔ WellReferenced t := by
  simp only [checkReferences, checkParents, checkRole, eq_ok, forM_eq_ok, checkScope_eq_ok,
    reachesRoot_iff mem_goalKeys_of_parentOf, reachesRoot_iff mem_roleKeys_of_managerOf, exists_const]
  constructor
  · rintro ⟨hg, hr, hb, hp, hpr, ho, hrl, hs, hst⟩
    exact ⟨hg, hr, hb, hp, fun g hm => (hpr g hm).1, fun g hm => (hpr g hm).2, ho,
      fun r hm => (hrl r hm).1, fun r hm => (hrl r hm).2.1, fun r hm => (hrl r hm).2.2.1,
      fun r hm => (hrl r hm).2.2.2, hs, hst⟩
  · intro h
    exact ⟨h.goals_nodup, h.roles_nodup, h.budgets_nodup, h.playbooks_nodup,
      fun g hg => ⟨h.parents g hg, h.goals_grounded g hg⟩, h.owners,
      fun r hr => ⟨h.managers r hr, h.links r hr, h.linked_scopes r hr, h.roles_grounded r hr⟩, h.scopes, h.steps⟩

end WisdoverseCell.Templates
