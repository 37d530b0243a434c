import WisdoverseCell.ControlPlane.Routes

/-!
# Isolation of companies

The checks of a request demand an action for a list of companies (`Handler.demands`); whether an operator of some
companies can make a handler work for another one depends only on that list (`company_isolation_iff`).
-/

namespace WisdoverseCell.ControlPlane

open List Option

variable {p : OperatorPrincipal} {u : Unit}

namespace Handler

variable {rt : Runtime} {defaultCompany : String} {owners : Owners} {h : Handler} {r : Request}

def guardDemands (rt : Runtime) (defaultCompany : String) (owners : Owners) (h : Handler) (r : Request) : List Demand :=
  match h.route.guard, h.company rt defaultCompany owners r with
  | some action, some companyId => [⟨action, companyId⟩]
  | _, _ => []

def demands (rt : Runtime) (defaultCompany : String) (owners : Owners) (h : Handler) (r : Request) : List Demand :=
  gateDemands rt defaultCompany h.route.method (h.route.path r.pathParams) r ++
    resourceDemands owners h.route.method (h.route.path r.pathParams) r ++ h.guardDemands rt defaultCompany owners r

def checkedCompanies (rt : Runtime) (defaultCompany : String) (owners : Owners) (h : Handler) (r : Request) :
    List String :=
  (h.demands rt defaultCompany owners r).map Demand.companyId

private theorem checkCompany_eq_ok : h.checkCompany rt defaultCompany owners r p = .ok u ↔
    ∀ d ∈ h.guardDemands rt defaultCompany owners r, p.Meets d := by
  unfold checkCompany guardDemands
  cases h.route.guard with
  | none => simp
  | some =>
    cases h.company rt defaultCompany owners r with
    | none => simp
    | some => rw [OperatorPrincipal.require_eq_ok, forall_mem_singleton]

private theorem authorize_eq_ok : h.authorize rt defaultCompany owners r p = .ok u ↔
    ∀ d ∈ h.demands rt defaultCompany owners r, p.Meets d := by
  simp only [authorize, demands, bind_eq_ok, authorizeControlPlaneRequest_eq_ok, authorizeResource_eq_ok,
    checkCompany_eq_ok, forall_mem_append]
  exact ⟨fun ⟨_, hg, _, hr, hgr⟩ => ⟨⟨hg, hr⟩, hgr⟩, fun ⟨⟨hg, hr⟩, hgr⟩ => ⟨(), hg, (), hr, hgr⟩⟩

end Handler

/-- Every operator without the wildcard who gets through to a handler has the handler's company in scope exactly when
that company, or the wildcard, is among the companies the checks are made for. -/
theorem company_isolation_iff (rt : Runtime) (defaultCompany : String) (owners : Owners) (h : Handler) (r : Request) :
    (∀ p : OperatorPrincipal, "*" ∉ p.companyScopes → h.authorize rt defaultCompany owners r p = .ok () →
      ∀ c, h.company rt defaultCompany owners r = some c → c ∈ p.companyScopes) ↔
    ∀ c, h.company rt defaultCompany owners r = some c →
      c ∈ h.checkedCompanies rt defaultCompany owners r ∨ "*" ∈ h.checkedCompanies rt defaultCompany owners r := by
  have hch (P : String → Prop) : (∀ c ∈ h.checkedCompanies rt defaultCompany owners r, P c) ↔
      ∀ d ∈ h.demands rt defaultCompany owners r, P d.companyId := forall_mem_map
  constructor
  · intro ha c hc
    rw [← mem_every_scope_iff]
    intro s hs hcv
    -- an operator of the checked companies with every action
    refine ha ⟨"", s, ["*"], []⟩ hs (Handler.authorize_eq_ok.2 (fun d hd => ⟨?_, .inl mem_cons_self⟩)) c hc
    exact (hch _).1 hcv d hd
  · intro ha p hp hok c hc
    refine mem_every_scope_iff.2 (ha c hc) p.companyScopes hp ((hch _).2 (fun d hd => ?_))
    exact (Handler.authorize_eq_ok.1 hok d hd).1

def crossingRequest : Request :=
  ⟨[("agent_id", "coder")], [("company_id", "acme")],
    some (.obj [("company_id", .str "rival"), ("agent_id", .str "coder"), ("display_name", .str "Coder")]), true⟩

def acmeOperator : OperatorPrincipal := ⟨"acme-operator", ["acme"], ["agent:write"], []⟩

/-- An operator of one company moves the agent of another: the query names the first company and the body the second. -/
theorem update_agent_crosses_companies : "*" ∉ acmeOperator.companyScopes ∧ "rival" ∉ acmeOperator.companyScopes ∧
      ∀ (rt : Runtime) (owners : Owners),
        Handler.updateAgent.authorize rt "default" owners crossingRequest acmeOperator = .ok () ∧
          Handler.updateAgent.company rt "default" owners crossingRequest = some "rival" :=
  ⟨by decide, by decide, fun _ _ => ⟨rfl, rfl⟩⟩

/-! ### Handlers that are always isolated -/

def Request.Matches (r : Request) (route : Route) : Prop :=
  r.pathParams.map Prod.fst = route.template.filterMap (fun
    | .lit _ => none
    | .param name => some name) ∧ ∀ kv ∈ r.pathParams, kv.2 ≠ ""

namespace Handler

variable {rt : Runtime} {defaultCompany : String} {owners : Owners} {h : Handler} {r : Request} {c : String}

private theorem gateCompany_mem_checked :
    r.gateCompany rt defaultCompany h.route.method ∈ h.checkedCompanies rt defaultCompany owners r :=
  mem_map.2 ⟨⟨operatorAction h.route.method (h.route.path r.pathParams), _⟩,
    mem_append_left _ (mem_append_left _ mem_cons_self), rfl⟩

private theorem owner_mem_checked {resource} (ho : r.owner owners resource = some c) :
    c ∈ h.checkedCompanies rt defaultCompany owners r := by
  have hm : resource ∈ lookups := by cases resource <;> decide
  refine mem_map.2 ⟨⟨operatorAction h.route.method (h.route.path r.pathParams), c⟩, ?_, rfl⟩
  exact mem_append_left _ (mem_append_right _ (mem_map_of_mem (mem_filterMap.2 ⟨resource, hm, ho⟩)))

private theorem guarded_mem_checked {action} (hg : h.route.guard = some action)
    (hc : h.company rt defaultCompany owners r = some c) : c ∈ h.checkedCompanies rt defaultCompany owners r := by
  refine mem_map.2 ⟨⟨action, c⟩, mem_append_right _ ?_, rfl⟩
  rw [guardDemands, hg, hc]
  exact mem_singleton_self _

private theorem gateCompany_of_get (hp : r.pathParams.lookup "company_id" = none) :
    r.gateCompany rt defaultCompany .get = resolveCompany defaultCompany (r.query "company_id") := by
  unfold Request.gateCompany Request.bodyObject
  rw [hp]
  cases hq : r.query "company_id" with
  | none => simp [firstText, resolveCompany]
  | some s => by_cases hs : s = "" <;> simp [firstText, resolveCompany, hs]

private theorem gateCompany_of_path {method} (hp : r.pathParams.lookup "company_id" = some c) (hne : c ≠ "") :
    r.gateCompany rt defaultCompany method = c := by
  simp [Request.gateCompany, hp, firstText, hne]

private theorem source_of_get (hg : h.route.method = .get) :
    h.route.guard ≠ none ∨ h.route.source = .path ∨ h.route.source = .directory ∨
      (∃ resource, h.route.source = .record resource) ∨
      ((h.route.source = .query .optional ∨ h.route.source = .query .bounded) ∧
        .param "company_id" ∉ h.route.template) := by
  cases h <;> first
    | exact .inl (by decide)
    | exact absurd hg (by decide)
    | exact .inr (.inl rfl)
    | exact .inr (.inr (.inl rfl))
    | exact .inr (.inr (.inr (.inl ⟨_, rfl⟩)))
    | exact .inr (.inr (.inr (.inr (by decide))))

private theorem lookup_company_of_matches (hm : r.Matches h.route) (hp : .param "company_id" ∉ h.route.template) :
    r.pathParams.lookup "company_id" = none := by
  rw [lookup_eq_none_iff]
  intro kv hkv
  refine bne_iff_ne.2 (fun heq => hp ?_)
  have hn : kv.1 ∈ r.pathParams.map Prod.fst := mem_map_of_mem hkv
  rw [hm.1, ← heq] at hn
  obtain ⟨segment, hs, hsm⟩ := mem_filterMap.1 hn
  cases segment with
  | lit => exact absurd hsm (by simp)
  | param =>
    cases hsm
    exact hs

private theorem reading_mem_checked (hge : h.route.method = .get) (hm : r.Matches h.route)
    (hc : h.company rt defaultCompany owners r = some c) : c ∈ h.checkedCompanies rt defaultCompany owners r := by
  rcases source_of_get hge with hg | hsr
  · obtain ⟨action, ha⟩ := ne_none_iff_exists'.1 hg
    exact guarded_mem_checked ha hc
  obtain ⟨-, hc⟩ := ite_none_right_eq_some.1 hc
  rcases hsr with hs | hs | ⟨resource, hs⟩ | ⟨hs, hp⟩
  · rw [hs] at hc
    have hne : c ≠ "" := by
      obtain ⟨l, l', hl, -⟩ := lookup_eq_some_iff.1 hc
      exact hm.2 ("company_id", c) (by rw [hl]; simp)
    rw [← @gateCompany_of_path rt defaultCompany r c h.route.method hc hne]
    exact gateCompany_mem_checked
  · rw [hs] at hc
    cases hc
  · rw [hs] at hc
    exact owner_mem_checked hc
  · have hgt := @gateCompany_of_get rt defaultCompany r (lookup_company_of_matches hm hp)
    have hcm : c = resolveCompany defaultCompany (r.query "company_id") := by
      rcases hs with hs | hs
      · rw [hs] at hc
        exact (some.inj hc).symm
      · rw [hs] at hc
        cases hq : r.query "company_id" with
        | none =>
          rw [hq] at hc
          exact (some.inj hc).symm
        | some =>
          simp only [hq, QueryField.company, boundedText, map_eq_some_iff] at hc
          obtain ⟨t, ht, rfl⟩ := hc
          split at ht
          · rw [some.inj ht]
          · cases ht
    rw [hcm, ← hgt, ← hge]
    exact gateCompany_mem_checked

end Handler

/-- No operator without the wildcard reads for a company out of scope, whichever handler and request. -/
theorem reads_isolated {rt : Runtime} {defaultCompany : String} {owners : Owners} {h : Handler} {r : Request}
    {c} (hg : h.route.method = .get) (hm : r.Matches h.route) (hp : "*" ∉ p.companyScopes)
    (hok : h.authorize rt defaultCompany owners r p = .ok ()) (hc : h.company rt defaultCompany owners r = some c) :
    c ∈ p.companyScopes := by
  obtain ⟨d, hd, rfl⟩ := mem_map.1 (Handler.reading_mem_checked hg hm hc)
  exact (Handler.authorize_eq_ok.1 hok d hd).1.mem hp

def acmeReader : OperatorPrincipal := ⟨"acme-reader", ["acme"], ["control-plane:read"], []⟩

def goalsRequest : Request := ⟨[], [("company_id", "acme")], none, true⟩

/-- An operator of one company lists its goals. -/
theorem reads_isolated_goals : "*" ∉ acmeReader.companyScopes ∧ ∀ (rt : Runtime) (owners : Owners),
    Handler.listGoals.authorize rt "default" owners goalsRequest acmeReader = .ok () ∧
      "acme" ∈ acmeReader.companyScopes := by
  refine ⟨by decide, fun rt owners => ?_⟩
  have hok : Handler.listGoals.authorize rt "default" owners goalsRequest acmeReader = .ok () := rfl
  exact ⟨hok, reads_isolated rfl ⟨rfl, forall_mem_nil _⟩ (by decide) hok rfl⟩

end WisdoverseCell.ControlPlane
