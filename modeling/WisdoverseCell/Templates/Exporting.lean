import WisdoverseCell.Templates.Documents

/-!
# Exporting a company

The records of a company are exported under portable keys.  A record that came from a template keeps the key it had
there; the others are numbered in the order of their ids.  The entries are sorted by their keys, and the document is
validated as a whole.
-/

namespace WisdoverseCell.Templates

open List
open ControlPlane (BudgetPeriod BudgetScope)

/-! ### Records -/

/-- `playbooks` and `templateImport` are entries of the metadata. -/
structure CompanyContext where
  companyId : String
  name : String
  mission : String
  playbooks : List CompanyTemplatePlaybook
  templateImport : Bool

structure Goal where
  goalId : String
  companyId : String
  title : String
  description : String
  parentGoalId : Option String
  ownerAgentId : Option String
  localKey : Option String

structure RoleImport where
  localKey : Option String
  requestedPermissions : List String
  skillReferences : List String

structure AgentRole where
  roleId : String
  companyId : String
  agentId : String
  displayName : String
  role : String
  title : String
  reportsToAgentId : Option String
  responsibilities : List String
  permissions : List String
  budgetPolicyId : Option String
  status : String
  templateImport : Option RoleImport
  skillReferences : List String

structure BudgetPolicy where
  budgetId : String
  companyId : String
  scope : BudgetScope
  scopeId : Option String
  period : BudgetPeriod
  limitUsd : Amount
  warningThreshold : Amount
  status : String
  modelAllowlist : List String
  localKey : Option String

/-! ### Portable keys -/

/-- A record as it is given a key: its id, the key it was imported with and the ids that are no portable keys. -/
structure KeyEntry where
  id : String
  localKey : Option String
  environment : List String

abbrev KeyMap := List (String × String)

def persistentKey (error : String) (e : KeyEntry) : Except String (Option (String × String)) :=
  match e.localKey with
  | none => pure none
  | some key => do
    ensure (Text.strip key ≠ "") error
    ensure (Text.strip key ∉ e.environment) error
    pure (some (e.id, Text.strip key))

def persistentKeys (error : String) (entries : List KeyEntry) : Except String KeyMap := do
  let keys ← entries.mapM (persistentKey error)
  pure keys.reduceOption

def padded (n : Nat) : List Char := replicate (3 - (Nat.toDigits 10 n).length) '0' ++ Nat.toDigits 10 n

def numberedKey (stem : String) (index : Nat) : String := stem ++ "-" ++ String.ofList (padded index)

def nextIndex (stem : String) (used : List String) (index : Nat) : Nat :=
  (((range (used.length + 1)).map (fun i => index + i)).find? (fun i => numberedKey stem i ∉ used)).getD index

def fillKeys (stem : String) : List String → KeyMap → Nat → KeyMap
  | [], keys, _ => keys
  | id :: ids, keys, index =>
    let i := nextIndex stem (keys.map Prod.snd) index
    fillKeys stem ids (keys ++ [(id, numberedKey stem i)]) (i + 1)

def unkeyed (entries : List KeyEntry) (keys : KeyMap) : List String :=
  sortBy id ((entries.map KeyEntry.id).filter (fun id => id ∉ keys.map Prod.fst))

def portableKeys (stem : String) (entries : List KeyEntry) : Except String KeyMap := do
  let persistent ← persistentKeys ("invalid_persistent_" ++ stem ++ "_local_key") entries
  ensure (persistent.map Prod.snd).Nodup ("duplicate_persistent_" ++ stem ++ "_local_key")
  if persistent.length = entries.length then pure persistent
  else pure (fillKeys stem (unkeyed entries persistent) persistent 1)

def portableGoalKeys (entries : List KeyEntry) : Except String KeyMap := portableKeys "goal" entries

def portableBudgetKeys (entries : List KeyEntry) : Except String KeyMap := portableKeys "budget" entries

def portableRoleKeys (entries : List KeyEntry) (hasPlaybooks : Bool) : Except String KeyMap := do
  let persistent ← persistentKeys "invalid_persistent_role_local_key" entries
  ensure (¬ (persistent ≠ [] ∧ persistent.length ≠ entries.length ∧ hasPlaybooks = true))
    "ambiguous_playbook_role_mapping"
  ensure (persistent.map Prod.snd).Nodup "duplicate_persistent_role_local_key"
  if persistent.length = entries.length then pure persistent
  else if persistent = [] then
    pure ((sortBy id (entries.map KeyEntry.id)).zipIdx 1 |>.map (fun (id, index) => (id, numberedKey "role" index)))
  else pure (fillKeys "role" (unkeyed entries persistent) persistent 1)

/-! ### Numbered keys -/

private theorem padded_inj {n m} (h : padded n = padded m) : n = m := by
  have hz (k : Nat) (ds : List Char) : Nat.ofDigitChars 10 (replicate k '0' ++ ds) 0 = Nat.ofDigitChars 10 ds 0 := by
    induction k with
    | zero => rfl
    | succ k ih => exact ih
  have hr := congrArg (fun ds => Nat.ofDigitChars 10 ds 0) h
  simpa only [padded, hz, Nat.ofDigitChars_toDigits (by decide : 1 < 10) (by decide : 10 ≤ 10)] using hr

private theorem numberedKey_inj {stem n m} (h : numberedKey stem n = numberedKey stem m) : n = m := by
  have hl := congrArg String.toList h
  simp only [numberedKey, String.toList_append, append_cancel_left_eq, String.toList_ofList] at hl
  exact padded_inj hl

/-- The search for a free key ends after at most as many increments as there are used keys, with the first free
index. -/
theorem numberedKey_nextIndex (stem : String) (used : List String) (index : Nat) :
    ∃ n ≤ used.length, nextIndex stem used index = index + n ∧ numberedKey stem (index + n) ∉ used ∧
      ∀ i < n, numberedKey stem (index + i) ∈ used := by
  -- one of the first `used.length + 1` keys is free, since they are different
  have hex : ∃ i ∈ range (used.length + 1), numberedKey stem (index + i) ∉ used := by
    by_contra hno
    have hu : (range (used.length + 1)).map (fun i => numberedKey stem (index + i)) ⊆ used := by
      intro key hk
      obtain ⟨i, hi, rfl⟩ := mem_map.1 hk
      exact Decidable.of_not_not (fun hn => hno ⟨i, hi, hn⟩)
    have hn : ((range (used.length + 1)).map (fun i => numberedKey stem (index + i))).Nodup :=
      nodup_range.map (fun i j hij => Nat.add_left_cancel (numberedKey_inj hij))
    have hl := (subperm_of_subset hn hu).length_le
    rw [length_map, length_range] at hl
    omega
  unfold nextIndex
  rw [find?_map]
  cases hf : (range (used.length + 1)).find? ((fun i => decide (numberedKey stem i ∉ used)) ∘ fun i => index + i) with
  | none =>
    obtain ⟨i, hi, hk⟩ := hex
    exact absurd (decide_eq_true hk) (find?_eq_none.1 hf i hi)
  | some n =>
    obtain ⟨hk, hn, hlt⟩ := find?_range_eq_some.1 hf
    refine ⟨n, Nat.lt_succ_iff.1 (mem_range.1 hn), rfl, of_decide_eq_true hk, fun i hi => ?_⟩
    simpa using hlt i hi

/-! ### Entries -/

def AgentRole.exportedPermissions (r : AgentRole) : List String :=
  let requested := (r.templateImport.map RoleImport.requestedPermissions).getD []
  if requested = [] then r.permissions else requested

def AgentRole.exportedSkills (r : AgentRole) : List String :=
  if r.skillReferences = [] then (r.templateImport.map RoleImport.skillReferences).getD [] else r.skillReferences

def AgentRole.localKey (r : AgentRole) : Option String := r.templateImport.bind RoleImport.localKey

def goalEntry (g : Goal) : KeyEntry := ⟨g.goalId, g.localKey, [g.goalId, g.companyId]⟩

def roleEntry (r : AgentRole) : KeyEntry := ⟨r.agentId, r.localKey, [r.agentId, r.companyId]⟩

def budgetEntry (b : BudgetPolicy) : KeyEntry := ⟨b.budgetId, b.localKey, [b.budgetId, b.companyId]⟩

def uniqueIds (entries : List KeyEntry) (error : String) : Except String Unit :=
  ensure ((∀ e ∈ entries, Text.strip e.id ≠ "") ∧ (entries.map KeyEntry.id).Nodup) error

/-- A failed validation, with the rejected value kept out of the error. -/
def hidden {α : Type} (x : Except String α) : Except String α := x.mapError (fun _ => "invalid_company_template")

variable (rules : TextRules) (goalIds roleIds budgetIds : KeyMap)

def exportGoal (g : Goal) : Except String CompanyTemplateGoal := do
  ensure (∀ id ∈ g.parentGoalId, (goalIds.lookup id).isSome) "dangling_goal_parent_reference"
  ensure (∀ id ∈ g.ownerAgentId, (roleIds.lookup id).isSome) "dangling_goal_owner_role_reference"
  let localKey ← require (goalIds.lookup g.goalId) "key_error"
  hidden (validateGoal rules ⟨localKey, g.title, g.description, g.parentGoalId.bind (fun id => goalIds.lookup id),
    g.ownerAgentId.bind (fun id => roleIds.lookup id)⟩)

def exportRole (r : AgentRole) : Except String CompanyTemplateRole := do
  ensure (∀ id ∈ r.reportsToAgentId, (roleIds.lookup id).isSome) "dangling_role_reports_to_reference"
  let localKey ← require (roleIds.lookup r.agentId) "key_error"
  hidden (validateRole rules ⟨localKey, r.displayName, r.role, r.title, r.responsibilities, r.exportedPermissions,
    r.exportedSkills, r.reportsToAgentId.bind (fun id => roleIds.lookup id),
    r.budgetPolicyId.bind (fun id => budgetIds.lookup id)⟩)

def exportScope (b : BudgetPolicy) : Except String (PortableScope × Option String) :=
  match b.scope with
  | .company => pure (.company, none)
  | .goal => do
    let key ← require (b.scopeId.bind (fun id => goalIds.lookup id)) "dangling_budget_goal_scope_reference"
    pure (.goal, some key)
  | .agent => do
    let key ← require (b.scopeId.bind (fun id => roleIds.lookup id)) "dangling_budget_role_scope_reference"
    pure (.agent, some key)
  | .workItem => .error "unsupported_portable_budget_scope"

def exportBudget (b : BudgetPolicy) : Except String CompanyTemplateBudget := do
  let (scope, scopeKey) ← exportScope goalIds roleIds b
  let localKey ← require (budgetIds.lookup b.budgetId) "key_error"
  hidden (validateBudget rules ⟨localKey, scope, scopeKey, b.period, b.limitUsd, b.warningThreshold, b.modelAllowlist⟩)

/-- The whole document: its fields are validated already, its size and references are not. -/
def assemble (company : CompanyTemplateCompany) (goals : List CompanyTemplateGoal) (roles : List CompanyTemplateRole)
    (budgets : List CompanyTemplateBudget) (playbooks : List CompanyTemplatePlaybook) :
    Except String CompanyTemplate := do
  let t : CompanyTemplate := ⟨company, sortBy CompanyTemplateGoal.localKey goals,
    sortBy CompanyTemplateRole.localKey roles, sortBy CompanyTemplateBudget.localKey budgets, playbooks⟩
  ensure (t.goals.length ≤ 500 ∧ t.roles.length ≤ 200 ∧ t.budgets.length ≤ 500 ∧ t.playbooks.length ≤ 100) "too_long"
  checkReferences t
  pure t

/-- `export_company_template`. -/
def exportCompanyTemplate (company : CompanyContext) (goals : List Goal) (roles : List AgentRole)
    (allBudgets : List BudgetPolicy) : Except String CompanyTemplate := do
  ensure ((∀ g ∈ goals, g.companyId = company.companyId) ∧ (∀ r ∈ roles, r.companyId = company.companyId) ∧
    ∀ b ∈ allBudgets, b.companyId = company.companyId) "company_template_records_must_share_company"
  let budgets := allBudgets.filter (fun b => b.scope ≠ .workItem)
  uniqueIds (goals.map goalEntry) "duplicate_goal_source_id"
  uniqueIds (roles.map roleEntry) "duplicate_role_source_id"
  let goalIds ← portableGoalKeys (goals.map goalEntry)
  let roleIds ← portableRoleKeys (roles.map roleEntry) (!company.playbooks.isEmpty)
  uniqueIds (budgets.map budgetEntry) "duplicate_budget_source_id"
  let budgetIds ← portableBudgetKeys (budgets.map budgetEntry)
  let goals ← goals.mapM (exportGoal rules goalIds roleIds)
  let roles ← roles.mapM (exportRole rules roleIds budgetIds)
  let budgets ← budgets.mapM (exportBudget rules goalIds roleIds budgetIds)
  let playbooks ← company.playbooks.mapM (fun p => hidden (validatePlaybook rules p))
  let portable ← hidden (validateCompany rules ⟨company.name, company.mission⟩)
  hidden (assemble portable goals roles budgets playbooks)

end WisdoverseCell.Templates
