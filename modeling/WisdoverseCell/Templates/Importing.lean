import WisdoverseCell.Templates.Exporting

/-!
# Importing a template

An import creates a company and, under new ids, a record for every entry of the document: the budgets, the roles, each
after the one it reports to, then the goals, each after its parent.  Imported roles and budgets are paused and the roles
hold no permissions.
-/

namespace WisdoverseCell.Templates

open ControlPlane (BudgetScope)

/-! ### The store -/

/-- `names` are the reserved names of imported companies. -/
structure Db where
  companies : List CompanyContext
  goals : List Goal
  roles : List AgentRole
  budgets : List BudgetPolicy
  names : List String

def Db.empty : Db := ⟨[], [], [], [], []⟩

/-- How the database folds the case of a name, searches companies and orders the rows of a listing. -/
structure Listing where
  casefold : String → String
  found : String → CompanyContext → Bool
  goals : List Goal → List Goal
  roles : List AgentRole → List AgentRole
  budgets : List BudgetPolicy → List BudgetPolicy
  goals_perm : ∀ rows, (goals rows).Perm rows
  roles_perm : ∀ rows, (roles rows).Perm rows
  budgets_perm : ∀ rows, (budgets rows).Perm rows

def exportCompanyTemplateForCompany (rules : TextRules) (listing : Listing) (db : Db) (companyId : String) :
    Except String CompanyTemplate := do
  let company ← require (db.companies.find? (fun c => c.companyId = companyId)) "company_not_found"
  exportCompanyTemplate rules company ((listing.goals (db.goals.filter (fun g => g.companyId = companyId))).take 500)
    ((listing.roles (db.roles.filter (fun r => r.companyId = companyId))).take 200)
    ((listing.budgets (db.budgets.filter (fun b => b.companyId = companyId))).take 500)

/-! ### New records -/

/-- The ids that are generated for the company and for the entries, by their keys. -/
structure Ids where
  company : String
  agent : String → String
  role : String → String
  goal : String → String
  budget : String → String

def reference (ids : String → String) (key : Option String) : Option String := (key.filter (fun k => k ≠ "")).map ids

variable (ids : Ids)

def goalRecord (g : CompanyTemplateGoal) : Goal where
  goalId := ids.goal g.localKey
  companyId := ids.company
  title := g.title
  description := g.description
  parentGoalId := reference ids.goal g.parentKey
  ownerAgentId := reference ids.agent g.ownerRoleKey
  localKey := some g.localKey

def roleRecord (r : CompanyTemplateRole) : AgentRole where
  roleId := ids.role r.localKey
  companyId := ids.company
  agentId := ids.agent r.localKey
  displayName := r.displayName
  role := r.role
  title := r.title
  reportsToAgentId := reference ids.agent r.reportsToKey
  responsibilities := r.responsibilities
  permissions := []
  budgetPolicyId := reference ids.budget r.budgetKey
  status := "paused"
  templateImport := some ⟨some r.localKey, r.permissions, r.skillReferences⟩
  skillReferences := []

def budgetScope : PortableScope → BudgetScope
  | .company => .company
  | .goal => .goal
  | .agent => .agent

def budgetRecord (b : CompanyTemplateBudget) : BudgetPolicy where
  budgetId := ids.budget b.localKey
  companyId := ids.company
  scope := budgetScope b.scope
  scopeId := match b.scope with
    | .company => none
    | .goal => b.scopeKey.map ids.goal
    | .agent => b.scopeKey.map ids.agent
  period := b.period
  limitUsd := b.ceilingUsd
  warningThreshold := b.warningRatio
  status := "paused"
  modelAllowlist := b.modelAllowlist
  localKey := some b.localKey

/-! ### The order of creation -/

def roleReady (created : List String) (_ : List CompanyTemplateRole) (r : CompanyTemplateRole) : Bool :=
  r.reportsToKey.all (fun key => key ∈ created)

def goalReady (_ : List String) (pending : List CompanyTemplateGoal) (g : CompanyTemplateGoal) : Bool :=
  g.parentKey.all (fun key => key ∉ pending.map CompanyTemplateGoal.localKey)

def roleOrder (roles : List CompanyTemplateRole) : Option (List CompanyTemplateRole) :=
  rounds roleReady CompanyTemplateRole.localKey roles.length [] roles

def goalOrder (goals : List CompanyTemplateGoal) : Option (List CompanyTemplateGoal) :=
  rounds goalReady CompanyTemplateGoal.localKey goals.length [] goals

/-! ### The import -/

structure ImportResult where
  companyId : String
  goalIds : KeyMap
  roleIds : KeyMap
  budgetIds : KeyMap

def companyRecord (t : CompanyTemplate) : CompanyContext :=
  ⟨ids.company, t.company.name, t.company.mission, t.playbooks, true⟩

def createCompany (listing : Listing) (db : Db) (company : CompanyContext) : Except String Db := do
  let name := listing.casefold (Text.strip company.name)
  ensure (name ∉ db.names) "company_template_name_collision"
  pure { db with companies := db.companies ++ [company], names := db.names ++ [name] }

/-- `import_company_template`. -/
def importCompanyTemplate (rules : TextRules) (listing : Listing) (db : Db) (payload : CompanyTemplate)
    (permissionsReviewed : Bool) : Except String (ImportResult × Db) := do
  let t ← validateCompanyTemplate rules payload
  ensure (permissionsReviewed = true) "company_template_permissions_review_required"
  let possibleCollisions := (db.companies.filter (listing.found t.company.name)).take 500
  ensure (∀ c ∈ possibleCollisions, listing.casefold c.name ≠ listing.casefold t.company.name)
    "company_template_name_collision"
  let db ← createCompany listing db (companyRecord ids t)
  let roles ← require (roleOrder t.roles) "role_reporting_cycle"
  let goals ← require (goalOrder t.goals) "goal_parent_cycle"
  pure (⟨ids.company, (goalKeys t).map (fun key => (key, ids.goal key)), (roles.map CompanyTemplateRole.localKey).map
      (fun key => (key, ids.role key)), (budgetKeys t).map (fun key => (key, ids.budget key))⟩, { db with
      budgets := db.budgets ++ t.budgets.map (budgetRecord ids)
      roles := db.roles ++ roles.map (roleRecord ids)
      goals := db.goals ++ goals.map (goalRecord ids) })

end WisdoverseCell.Templates
