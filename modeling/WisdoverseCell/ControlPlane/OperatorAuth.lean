import WisdoverseCell.ControlPlane.Models
import WisdoverseCell.Library.Checked
import WisdoverseCell.Library.Scopes
import WisdoverseCell.Library.Text

/-!
# Operator authorization

Every request of the control plane passes two checks before its handler runs: `authorizeControlPlaneRequest` requires
the action of the route for one company, chosen from the path, the query, the body and the default, and
`authorizeResource` for the company of every stored record that a known path parameter names.
-/

namespace WisdoverseCell.ControlPlane

open List Text

variable {u : Unit}

structure ApiError where
  statusCode : Nat
  detail : String

/-! ### Principals -/

structure OperatorPrincipal where
  actorId : String
  companyScopes : List String
  scopes : List String
  roleIds : List String

def OperatorPrincipal.require (p : OperatorPrincipal) (action companyId : String) : Except ApiError Unit :=
  if ("*" ∉ p.companyScopes ∧ companyId ∉ p.companyScopes) ∨ ("*" ∉ p.scopes ∧ action ∉ p.scopes) then
    .error ⟨403, "operator_scope_denied"⟩
  else .ok ()

structure Demand where
  action : String
  companyId : String

def OperatorPrincipal.Meets (p : OperatorPrincipal) (d : Demand) : Prop :=
  Covers "*" p.companyScopes d.companyId ∧ Covers "*" p.scopes d.action

variable {p : OperatorPrincipal}

theorem OperatorPrincipal.require_eq_ok {action companyId} :
    p.require action companyId = .ok u ↔ p.Meets ⟨action, companyId⟩ := by
  unfold OperatorPrincipal.require OperatorPrincipal.Meets Covers
  split <;> simp_all <;> tauto

/-! ### Requests -/

inductive Method
  | get
  | head
  | post
  | put
  | patch
  | delete
  deriving DecidableEq

/-- A request as it reaches a route; `valid` says whether the rest of it passes the route's own validation. -/
structure Request where
  pathParams : List (String × String)
  queryParams : List (String × String)
  body : Option Json
  valid : Bool

def Request.query (r : Request) (name : String) : Option String := r.queryParams.reverse.lookup name

/-- `_action`: the scope a method and path need. -/
def operatorAction (method : Method) (path : String) : String :=
  if endsWith path "/retention" then "audit:retention"
  else if method = .get ∨ method = .head then
    if endsWith path "/audit-export" then "audit:export"
    else if contains path "/knowledge" then "knowledge:read" else "control-plane:read"
  else if contains path "/knowledge" then
    if method = .delete then "knowledge:delete" else "knowledge:write"
  else if ["/run", "/retry", "/wake", "/run-once"].any (endsWith path) then "work:execute"
  else if contains path "/approvals/" then "approval:resolve"
  else if contains path "/company-templates/import" then "template:import"
  else if contains path "/evolution-proposals" then "evolution:write"
  else if contains path "/agents" then "agent:write"
  else if contains path "/budgets" ∨ contains path "/budget-usage" then "budget:write"
  else if contains path "/executions" then
    if endsWith path "/control" then "execution:control" else "execution:recover"
  else "work:write"

/-! ### The request check -/

def Request.bodyObject (r : Request) (method : Method) : JsonObj :=
  if method = .get ∨ method = .head ∨ method = .delete then []
  else
    match r.body with
    | some (.obj kvs) => kvs
    | _ => []

def firstText : List String → String → String
  | [], last => last
  | s :: rest, last => if s ≠ "" then s else firstText rest last

/-- Of the path, the query, the body or the settings, whichever comes first.  A body value counts as soon as it is
true in a condition. -/
def Request.gateCompany (rt : Runtime) (defaultCompany : String) (method : Method) (r : Request) : String :=
  let ofBody : String :=
    match (r.bodyObject method).lookup "company_id" with
    | some v => if v.truthy then rt.str v else ""
    | none => ""
  firstText [(r.pathParams.lookup "company_id").getD "", (r.query "company_id").getD "", ofBody] defaultCompany

def directoryPath (path : String) : Bool :=
  endsWith path "/companies" || contains path "/company-templates/import"

def authorizeControlPlaneRequest (rt : Runtime) (defaultCompany : String) (method : Method) (path : String)
    (r : Request) (p : OperatorPrincipal) : Except ApiError Unit := do
  p.require (operatorAction method path) (r.gateCompany rt defaultCompany method)
  if directoryPath path then p.require "company:directory" "*" else pure ()

/-! ### The resource check -/

inductive Resource
  | approval
  | run
  | artifact
  | goal
  | proposal
  | workItem
  deriving DecidableEq

def Resource.parameter : Resource → String
  | .approval => "approval_id"
  | .run => "run_id"
  | .artifact => "artifact_id"
  | .goal => "goal_id"
  | .proposal => "proposal_id"
  | .workItem => "work_item_id"

def lookups : List Resource := [.approval, .run, .artifact, .goal, .proposal, .workItem]

abbrev Owners := Resource → String → Option String

def Request.owner (owners : Owners) (r : Request) (resource : Resource) : Option String :=
  ((r.pathParams.lookup resource.parameter).filter (fun id => id ≠ "")).bind (owners resource)

def authorizeResource (owners : Owners) (method : Method) (path : String) (r : Request) (p : OperatorPrincipal) :
    Except ApiError Unit :=
  checkEach (fun resource =>
    match r.owner owners resource with
    | some companyId => p.require (operatorAction method path) companyId
    | none => .ok ()) lookups

/-! ### The demands of both checks -/

def gateDemands (rt : Runtime) (defaultCompany : String) (method : Method) (path : String) (r : Request) :
    List Demand :=
  ⟨operatorAction method path, r.gateCompany rt defaultCompany method⟩ ::
    if directoryPath path then [⟨"company:directory", "*"⟩] else []

def resourceDemands (owners : Owners) (method : Method) (path : String) (r : Request) : List Demand :=
  (lookups.filterMap (r.owner owners)).map (Demand.mk (operatorAction method path))

/-- The gate of the router as a list of demands. -/
theorem authorizeControlPlaneRequest_eq_ok {rt defaultCompany method path r} :
    authorizeControlPlaneRequest rt defaultCompany method path r p = .ok u ↔
      ∀ d ∈ gateDemands rt defaultCompany method path r, p.Meets d := by
  unfold authorizeControlPlaneRequest gateDemands
  rw [bind_eq_ok, forall_mem_cons]
  by_cases hd : directoryPath path = true
  · simp only [hd, if_true, OperatorPrincipal.require_eq_ok, forall_mem_singleton]
    exact ⟨fun ⟨_, hg, hb⟩ => ⟨hg, hb⟩, fun ⟨hg, hb⟩ => ⟨(), hg, hb⟩⟩
  · simp only [if_neg hd, OperatorPrincipal.require_eq_ok, pure_eq_ok]
    exact ⟨fun ⟨_, hg, _⟩ => ⟨hg, forall_mem_nil _⟩, fun ⟨hg, _⟩ => ⟨(), hg, trivial⟩⟩

/-- The check of the resource as a list of demands. -/
theorem authorizeResource_eq_ok {owners method path r} : authorizeResource owners method path r p = .ok u ↔
      ∀ d ∈ resourceDemands owners method path r, p.Meets d := by
  unfold authorizeResource resourceDemands
  rw [checkEach_eq_ok]
  simp only [forall_mem_map, mem_filterMap, forall_exists_index, and_imp]
  constructor
  · intro h companyId resource hm ho
    have hc := h resource hm
    rw [ho] at hc
    exact OperatorPrincipal.require_eq_ok.1 hc
  · intro h resource hm
    cases ho : r.owner owners resource with
    | none => rfl
    | some companyId => exact OperatorPrincipal.require_eq_ok.2 (h companyId resource hm ho)

end WisdoverseCell.ControlPlane
