import WisdoverseCell.ControlPlane.BudgetGuard
import WisdoverseCell.Library.Pool

/-!
# One active budget policy for a scope and period

Creating or activating a policy looks for another active one of the same key and writes later; no constraint repeats the
check.  There is at most one in every run in which no operation makes its check while another one for the key is between
its check and its commit.
-/

namespace WisdoverseCell.ControlPlane

open List Option Table

variable {policy existing : BudgetPolicy} {limitUsd : Option ℚ≥0} {modelAllowlist : Option (List String)}
  {activated : Option (BudgetKey × String)} {i : Nat}

/-! ### Records -/

inductive PolicyStatus
  | active
  | paused
  | archived
  deriving DecidableEq

def PolicyStatus.value : PolicyStatus → String
  | .active => "active"
  | .paused => "paused"
  | .archived => "archived"

def budgetPolicyStatus (status : String) : Except String PolicyStatus :=
  match Text.lower (Text.strip status) with
  | "active" => .ok .active
  | "paused" => .ok .paused
  | "archived" => .ok .archived
  | _ => .error "invalid_budget_policy_status"

def PolicyStatus.validTransitions : PolicyStatus → List PolicyStatus
  | .active => [.paused, .archived]
  | .paused => [.active, .archived]
  | .archived => []

def scopeIdForPolicy (scope : BudgetScope) (scopeId : Option String) : Except String (Option String) :=
  let cleaned := (scopeId.map Text.strip).filter (fun s => s ≠ "")
  if scope = .company then
    if cleaned.isSome then .error "company_scope_id_forbidden" else .ok none
  else if cleaned.isNone then .error "scope_id_required"
  else .ok cleaned

def cleanModelAllowlist (models : List String) : List String := (models.map Text.strip).filter (fun s => s ≠ "")

def normalizeRecord (p : BudgetPolicy) : Except String BudgetPolicy := do
  let scopeId ← scopeIdForPolicy p.scope p.scopeId
  ensure (p.limitUsd ≠ 0) "budget amount must be positive"
  let status ← budgetPolicyStatus p.status
  return { p with
    scopeId := scopeId
    status := status.value
    modelAllowlist := cleanModelAllowlist p.modelAllowlist }

/-- `_ensure_no_active_policy_conflict`, for an operation that leaves a policy active; `currentBudgetId` is the id of
the policy if it exists already. -/
def ensureNoActivePolicyConflict (db : Db) (activates : Bool) (key : BudgetKey) (currentBudgetId : Option String) :
    Except String Unit :=
  if activates then
    match getActiveBudgetPolicy db key with
    | none => .ok ()
    | some existing => ensure (some existing.budgetId = currentBudgetId) "active_budget_policy_conflict"
  else .ok ()

/-! ### Operations -/

structure PolicyChange where
  limitUsd : Option ℚ≥0
  status : Option String
  modelAllowlist : Option (List String)
  deriving DecidableEq

inductive BudgetCommand
  | create (policy : BudgetPolicy)
  | update (companyId budgetId : String) (change : PolicyChange)
  deriving DecidableEq

inductive PolicyWrite
  | insert (policy : BudgetPolicy)
  | update (existing : BudgetPolicy) (limitUsd : Option ℚ≥0) (status : Option PolicyStatus)
      (modelAllowlist : Option (List String))
  deriving DecidableEq

/-- An operation before its first read, after the read of the policy it updates, and after its check. -/
inductive BudgetOperation
  | received (command : BudgetCommand)
  | found (existing : BudgetPolicy) (change : PolicyChange)
  | checked (write : PolicyWrite)
  | ended
  deriving DecidableEq

def createBudgetPolicy (db : Db) (policy : BudgetPolicy) : Except String PolicyWrite := do
  let record ← normalizeRecord policy
  ensureNoActivePolicyConflict db record.isActive record.key none
  return .insert record

def transitionStatus (current target : PolicyStatus) : Except String PolicyStatus :=
  if target = current ∨ target ∈ current.validTransitions then .ok target else .error "invalid_budget_policy_transition"

def updateBudgetPolicy (db : Db) (existing : BudgetPolicy) (change : PolicyChange) : Except String PolicyWrite := do
  let record ← normalizeRecord existing
  let status ← change.status.mapM budgetPolicyStatus
  ensureNoActivePolicyConflict db (status = some .active) existing.key (some existing.budgetId)
  ensure (change.limitUsd ≠ some 0) "budget amount must be positive"
  let current ← budgetPolicyStatus record.status
  let target ← status.mapM (transitionStatus current)
  return .update existing change.limitUsd target (change.modelAllowlist.map cleanModelAllowlist)

def PolicyWrite.commit (db : Db) : PolicyWrite → Option Db
  | .insert policy => (db.budgetPolicies.insert policy).map (fun policies => { db with budgetPolicies := policies })
  | .update existing limitUsd status modelAllowlist =>
    match db.budgetPolicies.get existing.budgetId with
    | none => none
    | some _ => some { db with
        budgetPolicies := db.budgetPolicies.modify existing.budgetId
          (fun p => p.edited limitUsd (status.map PolicyStatus.value) modelAllowlist)
          (fun p => p.edited_budgetId limitUsd (status.map PolicyStatus.value) modelAllowlist) }

def BudgetOperation.next (db : Db) : BudgetOperation → Option (Db × BudgetOperation)
  | .received (.create policy) =>
    match createBudgetPolicy db policy with
    | .error _ => some (db, .ended)
    | .ok write => some (db, .checked write)
  | .received (.update companyId budgetId change) =>
    match db.budgetPolicies.get budgetId with
    | none => some (db, .ended)
    | some existing => some (db, if existing.companyId = companyId then .found existing change else .ended)
  | .found existing change =>
    match updateBudgetPolicy db existing change with
    | .error _ => some (db, .ended)
    | .ok write => some (db, .checked write)
  | .checked write =>
    match write.commit db with
    | none => some (db, .ended)
    | some db' => some (db', .ended)
  | .ended => none

def budgetOperations : Program Db BudgetOperation Empty BudgetCommand Unit where
  env _ e := nomatch e
  start db command := some (db, .received command)
  next db operation _ := operation.next db

/-! ### Activations -/

def Db.UniqueActive (db : Db) : Prop :=
  ∀ p ∈ db.budgetPolicies, ∀ q ∈ db.budgetPolicies, p.isActive = true → q.isActive = true → p.key = q.key → p = q

def PolicyWrite.activates : PolicyWrite → Option (BudgetKey × String)
  | .insert policy => if policy.isActive then some (policy.key, policy.budgetId) else none
  | .update existing _ status _ => if status = some .active then some (existing.key, existing.budgetId) else none

def BudgetOperation.activates : BudgetOperation → Option (BudgetKey × String)
  | .checked write => write.activates
  | .received _ | .found .. | .ended => none

def BudgetOperation.holds (key : BudgetKey) (operation : BudgetOperation) : Bool :=
  operation.activates.any (fun r => r.1 = key)

def BudgetOperation.checks (db : Db) : BudgetOperation → Option PolicyWrite
  | .received (.create policy) => (createBudgetPolicy db policy).toOption
  | .found existing change => (updateBudgetPolicy db existing change).toOption
  | .received (.update ..) | .checked _ | .ended => none

def NoOverlap (s : Pool Db BudgetOperation) : PoolAct Empty BudgetCommand Unit → Prop
  | .next i _ => ∀ operation ∈ s.procs[i]?, ∀ write ∈ operation.checks s.shared, ∀ r ∈ write.activates,
      s.procs.countP (BudgetOperation.holds r.1) = 0
  | .env _ | .start _ | .stop _ => True

variable {db db' : Db} {key : BudgetKey} {budgetId : String} {s t : Pool Db BudgetOperation}
  {a : PoolAct Empty BudgetCommand Unit}

instance : (a : PoolAct Empty BudgetCommand Unit) → Decidable (NoOverlap s a)
  | .next i _ => inferInstanceAs (Decidable (∀ operation ∈ s.procs[i]?, _))
  | .env _ | .start _ | .stop _ => isTrue trivial

/-! ### What a check finds -/

def NoOther (db : Db) (key : BudgetKey) (budgetId : String) : Prop :=
  ∀ p ∈ db.budgetPolicies, p.isActive = true → p.key = key → p.budgetId = budgetId

def Stored (db : Db) (existing : BudgetPolicy) : Prop :=
  ∃ p ∈ db.budgetPolicies, p.budgetId = existing.budgetId ∧ p.key = existing.key

private theorem noOther_of_ensure {current u} (hu : db.UniqueActive)
    (h : ensureNoActivePolicyConflict db true key current = .ok u) (hc : ∀ id ∈ current, id = budgetId) :
    NoOther db key budgetId := by
  intro p hp ha hk
  unfold ensureNoActivePolicyConflict at h
  rw [if_pos rfl] at h
  split at h
  · rename_i hn
    rw [getActiveBudgetPolicy_eq_none hn hp hk] at ha
    cases ha
  · rename_i existing hs
    obtain ⟨hm, hk', ha'⟩ := getActiveBudgetPolicy_eq_some hs
    rw [hu p hp existing hm ha ha' (hk.trans hk'.symm)]
    exact hc _ (ensure_eq_ok.1 h).symm

def BudgetOperation.Sound (db : Db) : BudgetOperation → Prop
  | .found existing _ => Stored db existing
  | .checked (.insert policy) => policy.isActive = true → NoOther db policy.key policy.budgetId
  | .checked (.update existing _ status _) =>
    Stored db existing ∧ (status = some .active → NoOther db existing.key existing.budgetId)
  | .received _ | .ended => True

variable {write : PolicyWrite}

private theorem createBudgetPolicy_sound (hu : db.UniqueActive) (h : createBudgetPolicy db policy = .ok write) :
    (BudgetOperation.checked write).Sound db := by
  obtain ⟨record, -, h⟩ := bind_eq_ok.1 h
  obtain ⟨_, hc, h⟩ := bind_eq_ok.1 h
  cases pure_eq_ok.1 h
  intro ha
  rw [ha] at hc
  exact noOther_of_ensure hu hc (fun id hid => by cases hid)

variable {current : PolicyStatus}

private theorem transitionStatus_eq_ok {target result} (h : transitionStatus current target = .ok result) :
    result = target := by
  unfold transitionStatus at h
  split at h
  · cases h
    rfl
  · cases h

variable {status : Option PolicyStatus}

private theorem mapM_transitionStatus {target} (h : status.mapM (transitionStatus current) = .ok target) :
    target = status := by
  cases status with
  | none =>
    cases h
    rfl
  | some =>
    obtain ⟨result, hr, h⟩ := bind_eq_ok.1 h
    cases pure_eq_ok.1 h
    rw [transitionStatus_eq_ok hr]

private theorem updateBudgetPolicy_sound {change} (hu : db.UniqueActive) (hs : Stored db existing)
    (h : updateBudgetPolicy db existing change = .ok write) : (BudgetOperation.checked write).Sound db := by
  obtain ⟨record, -, h⟩ := bind_eq_ok.1 h
  obtain ⟨status, -, h⟩ := bind_eq_ok.1 h
  obtain ⟨_, hc, h⟩ := bind_eq_ok.1 h
  obtain ⟨_, -, h⟩ := bind_eq_ok.1 h
  obtain ⟨current, -, h⟩ := bind_eq_ok.1 h
  obtain ⟨target, ht, h⟩ := bind_eq_ok.1 h
  cases pure_eq_ok.1 h
  cases mapM_transitionStatus ht
  refine ⟨hs, fun ha => ?_⟩
  rw [decide_eq_true ha] at hc
  exact noOther_of_ensure hu hc (fun id hid => (some.inj hid).symm)

/-! ### What a commit does -/

/-- Every policy is kept with its key, and the only one that may become active is the one given. -/
structure PolicyCommit (db db' : Db) (activated : Option (BudgetKey × String)) : Prop where
  active : ∀ p' ∈ db'.budgetPolicies, p'.isActive = true → activated = some (p'.key, p'.budgetId) ∨
    ∃ p ∈ db.budgetPolicies, p.isActive = true ∧ p.key = p'.key ∧ p.budgetId = p'.budgetId
  kept : ∀ p ∈ db.budgetPolicies, ∃ p' ∈ db'.budgetPolicies, p'.budgetId = p.budgetId ∧ p'.key = p.key

private theorem insert_policyCommit {policies}
    (h : db.budgetPolicies.insert policy = some policies) :
      PolicyCommit db { db with budgetPolicies := policies } (PolicyWrite.insert policy).activates where
  active := by
    intro p' hp' ha
    rcases (mem_insert h).1 hp' with ho | rfl
    · exact .inr ⟨p', ho, ha, rfl, rfl⟩
    · exact .inl (if_pos ha)
  kept p hp := ⟨p, (mem_insert h).2 (.inl hp), rfl, rfl⟩

private theorem edited_isActive {p : BudgetPolicy}
    (h : (p.edited limitUsd (status.map PolicyStatus.value) modelAllowlist).isActive = true) :
    status = some .active ∨ p.isActive = true := by
  cases status with
  | none => exact .inr h
  | some status =>
    cases status with
    | active => exact .inl rfl
    | paused =>
      have hv : PolicyStatus.paused.value = "active" := of_decide_eq_true h
      exact absurd hv (by decide)
    | archived =>
      have hv : PolicyStatus.archived.value = "active" := of_decide_eq_true h
      exact absurd hv (by decide)

private theorem update_policyCommit (hs : Stored db existing) :
    PolicyCommit db { db with
      budgetPolicies := db.budgetPolicies.modify existing.budgetId
        (fun p => p.edited limitUsd (status.map PolicyStatus.value) modelAllowlist)
        (fun p => p.edited_budgetId limitUsd (status.map PolicyStatus.value) modelAllowlist) }
      (PolicyWrite.update existing limitUsd status modelAllowlist).activates where
  active := by
    intro p' hp' ha
    obtain ⟨p, hp, ⟨hid, rfl⟩ | ⟨-, rfl⟩⟩ := of_mem_modify
      (fun p => p.edited_budgetId limitUsd (status.map PolicyStatus.value) modelAllowlist) hp'
    · rcases edited_isActive ha with rfl | ho
      · obtain ⟨q, hq, hqd, hqk⟩ := hs
        have hsm : p = q := eq_of_key_eq hp hq (hid.trans hqd.symm)
        refine .inl ?_
        rw [PolicyWrite.activates, if_pos rfl, ← hqk, ← hid, hsm]
        rfl
      · exact .inr ⟨p, hp, ho, rfl, rfl⟩
    · exact .inr ⟨p, hp, ha, rfl, rfl⟩
  kept := by
    intro p hp
    refine ⟨_, update_mem (fun p => p.edited_budgetId limitUsd (status.map PolicyStatus.value) modelAllowlist) hp, ?_⟩
    split <;> exact ⟨rfl, rfl⟩

private theorem policyCommit_of_commit (hs : (BudgetOperation.checked write).Sound db)
    (h : write.commit db = some db') :
    PolicyCommit db db' write.activates := by
  cases write with
  | insert =>
    obtain ⟨policies, hi, rfl⟩ := map_eq_some_iff.1 h
    exact insert_policyCommit hi
  | update =>
    unfold PolicyWrite.commit at h
    dsimp only at h
    split at h
    · cases h
    · cases h
      exact update_policyCommit hs.1

private theorem noOther_of_activates (hs : (BudgetOperation.checked write).Sound db)
    (h : write.activates = some (key, budgetId)) : NoOther db key budgetId := by
  cases write with
  | insert =>
    obtain ⟨ha, h⟩ := ite_none_right_eq_some.1 h
    cases h
    exact hs ha
  | update =>
    obtain ⟨ha, h⟩ := ite_none_right_eq_some.1 h
    cases h
    exact hs.2 ha

private theorem PolicyCommit.uniqueActive (h : PolicyCommit db db' activated) (hu : db.UniqueActive)
    (ho : ∀ key id, activated = some (key, id) → NoOther db key id) : db'.UniqueActive := by
  intro p hp q hq hpc hqc hk
  refine eq_of_key_eq hp hq ?_
  rcases h.active p hp hpc with hn | ⟨p', hp', hp'active, hp'key, hp'id⟩
  · rcases h.active q hq hqc with hn' | ⟨q', hq', hq'active, hq'key, hq'id⟩
    · exact congrArg Prod.snd (some.inj (hn.symm.trans hn'))
    · exact ((ho _ _ hn q' hq' hq'active (hq'key.trans hk.symm)).symm.trans hq'id)
  · rcases h.active q hq hqc with hn' | ⟨q', hq', hq'active, hq'key, hq'id⟩
    · exact hp'id.symm.trans (ho _ _ hn' p' hp' hp'active (hp'key.trans hk))
    · have hs := hu p' hp' q' hq' hp'active hq'active (hp'key.trans (hk.trans hq'key.symm))
      rw [← hp'id, hs, hq'id]

private theorem PolicyCommit.stored (h : PolicyCommit db db' activated) (hs : Stored db existing) :
    Stored db' existing := by
  obtain ⟨p, hp, hid, hk⟩ := hs
  obtain ⟨p', hp', hid', hk'⟩ := h.kept p hp
  exact ⟨p', hp', hid'.trans hid, hk'.trans hk⟩

private theorem PolicyCommit.noOther (h : PolicyCommit db db' activated) (ho : NoOther db key budgetId)
    (hne : ∀ r ∈ activated, r.1 ≠ key) : NoOther db' key budgetId := by
  intro p' hp' ha hk
  rcases h.active p' hp' ha with hn | ⟨p, hp, hpc, hpk, hpd⟩
  · exact absurd hk (hne _ hn)
  · exact hpd.symm.trans (ho p hp hpc (hpk.trans hk))

private theorem PolicyCommit.sound {operation : BudgetOperation} (h : PolicyCommit db db' activated)
    (hs : operation.Sound db) (hne : ∀ r ∈ activated, operation.holds r.1 = false) : operation.Sound db' := by
  have hd : ∀ {key id}, operation.activates = some (key, id) → ∀ r ∈ activated, r.1 ≠ key := by
    intro key id ha r hr hk
    have hh := hne r hr
    rw [BudgetOperation.holds, ha, hk] at hh
    simp at hh
  cases operation with
  | received | ended => trivial
  | found => exact h.stored hs
  | checked write =>
    cases write with
    | insert =>
      intro hac
      exact h.noOther (hs hac) (hd (if_pos hac))
    | update =>
      refine ⟨h.stored hs.1, fun hac => h.noOther (hs.2 hac) (hd (if_pos hac))⟩

/-! ### Runs -/

structure OneActive (s : Pool Db BudgetOperation) : Prop where
  unique : s.shared.UniqueActive
  sound : ∀ operation ∈ s.procs, operation.Sound s.shared
  alone : ∀ key, s.procs.countP (BudgetOperation.holds key) ≤ 1

variable {p q : BudgetOperation}

private theorem OneActive.advance (h : OneActive s) (hp : s.procs[i]? = some p) (hq : q.Sound s.shared)
    (ha : ∀ key, q.holds key = true → s.procs.countP (BudgetOperation.holds key) = 0) :
    OneActive ⟨s.shared, s.procs.set i q⟩ where
  unique := h.unique
  sound := forall_mem_set h.sound (fun _ ho => ho) hq
  alone := by
    intro key
    have hc := countP_set_add (p := BudgetOperation.holds key) (b := q) hp
    have ho := h.alone key
    by_cases hh : q.holds key = true
    · have hz := ha key hh
      rw [if_pos hh, hz] at hc
      show (s.procs.set i q).countP (BudgetOperation.holds key) ≤ 1
      omega
    · rw [if_neg hh] at hc
      show (s.procs.set i q).countP (BudgetOperation.holds key) ≤ 1
      omega

private theorem OneActive.end (h : OneActive s) (hp : s.procs[i]? = some p) :
    OneActive ⟨s.shared, s.procs.set i .ended⟩ := h.advance hp trivial (fun _ hh => by cases hh)

private theorem OneActive.check (h : OneActive s) (hp : s.procs[i]? = some p) (hok : NoOverlap s (.next i ()))
    (hc : p.checks s.shared = some write) (hs : (BudgetOperation.checked write).Sound s.shared) :
    OneActive ⟨s.shared, s.procs.set i (.checked write)⟩ := by
  refine h.advance hp hs (fun key hh => ?_)
  obtain ⟨r, hr, hk⟩ := (any_eq_true _ _).1 hh
  rw [← of_decide_eq_true hk]
  exact hok p hp write hc r hr

private theorem OneActive.commit (h : OneActive s) (hp : s.procs[i]? = some (.checked write))
    (hc : write.commit s.shared = some db) : OneActive ⟨db, s.procs.set i .ended⟩ := by
  have hs := h.sound _ (mem_of_getElem? hp)
  have hcm := policyCommit_of_commit hs hc
  have hcn (key : BudgetKey) : (s.procs.set i .ended).countP (BudgetOperation.holds key) +
      (if (BudgetOperation.checked write).holds key then 1 else 0) = s.procs.countP (BudgetOperation.holds key) :=
    countP_set_add (p := BudgetOperation.holds key) (b := BudgetOperation.ended) hp
  refine ⟨hcm.uniqueActive h.unique (fun key id => noOther_of_activates hs), ?_, fun key => ?_⟩
  · intro operation hm
    rcases mem_or_eq_of_mem_set hm with ho | rfl
    · refine hcm.sound (h.sound operation ho) (fun r hr => ?_)
      have hh : (BudgetOperation.checked write).holds r.1 = true := by
        rw [BudgetOperation.holds, BudgetOperation.activates, hr]
        exact decide_eq_true rfl
      have hz := hcn r.1
      rw [if_pos hh] at hz
      have hon := h.alone r.1
      have hn : (s.procs.set i .ended).countP (BudgetOperation.holds r.1) = 0 := by omega
      exact Bool.eq_false_iff.2 (countP_eq_zero.1 hn operation hm)
    · trivial
  · have hle := hcn key
    have hon := h.alone key
    show (s.procs.set i .ended).countP (BudgetOperation.holds key) ≤ 1
    omega

private theorem OneActive.next (h : OneActive s) (hp : s.procs[i]? = some p) (hok : NoOverlap s (.next i ()))
    (hn : p.next s.shared = some (db, q)) : OneActive ⟨db, s.procs.set i q⟩ := by
  cases p with
  | received command =>
    cases command with
    | create =>
      simp only [BudgetOperation.next] at hn
      split at hn
      · cases hn
        exact h.end hp
      · rename_i write hw
        cases hn
        exact h.check hp hok (toOption_eq_some.2 hw) (createBudgetPolicy_sound h.unique hw)
    | update =>
      simp only [BudgetOperation.next] at hn
      split at hn
      · cases hn
        exact h.end hp
      · rename_i existing hg
        cases hn
        split
        · refine h.advance hp ⟨existing, (get_eq_some.1 hg).1, rfl, rfl⟩ (fun _ hh => by cases hh)
        · exact h.end hp
  | found =>
    simp only [BudgetOperation.next] at hn
    split at hn
    · cases hn
      exact h.end hp
    · rename_i write hw
      cases hn
      have hs := h.sound _ (mem_of_getElem? hp)
      exact h.check hp hok (toOption_eq_some.2 hw) (updateBudgetPolicy_sound h.unique hs hw)
  | checked =>
    simp only [BudgetOperation.next] at hn
    split at hn
    · cases hn
      exact h.end hp
    · rename_i hc
      cases hn
      exact h.commit hp hc
  | ended => cases hn

private theorem OneActive.step (h : OneActive s) (hok : NoOverlap s a) (hst : Pool.step budgetOperations s a = some t) :
    OneActive t := by
  cases Pool.moves_of_step hst with
  | @env e => cases e
  | start hs =>
    cases hs
    refine ⟨h.unique, ?_, fun key => ?_⟩
    · intro operation hm
      rcases mem_concat.1 hm with hm | rfl
      · exact h.sound operation hm
      · trivial
    · rw [countP_append, countP_singleton]
      exact h.alone key
  | next hp hn => exact h.next hp hok hn
  | stop =>
    exact ⟨h.unique, fun operation hm => h.sound operation (eraseIdx_subset hm),
      fun key => (countP_eraseIdx_le _ _ _).trans (h.alone key)⟩

/-- In every interleaving in which the checks and commits for a key do not overlap, at most one active policy has a
key. -/
theorem one_active_policy (hprocs : s.procs = []) (hunique : s.shared.UniqueActive)
    (hrun : Run (Steps (Pool.step budgetOperations)) NoOverlap s t) : t.shared.UniqueActive := by
  have hs : OneActive s := ⟨hunique, by simp [hprocs], by simp [hprocs]⟩
  exact (hrun.invariant (I := OneActive) hs (fun _ _ _ h hok hst => h.step hok hst)).unique

/-! ### Two creations -/

def noBudgets : Pool Db BudgetOperation := ⟨Db.empty, []⟩

private theorem noBudgets_unique : noBudgets.shared.UniqueActive := fun _ hp => absurd hp not_mem_nil

def companyBudget (budgetId : String) : BudgetPolicy := ⟨budgetId, "c", .company, .daily, 10, none, "active", []⟩

/-- Both look before one of them commits. -/
theorem both_active : noBudgets.procs = [] ∧ noBudgets.shared.UniqueActive ∧
      ∃ t, Run (Steps (Pool.step budgetOperations)) Always noBudgets t ∧ ¬ t.shared.UniqueActive := by
  refine ⟨rfl, noBudgets_unique,
    exists_run_with [.start (.create (companyBudget "b1")), .start (.create (companyBudget "b2")),
    .next 0 (), .next 1 (), .next 0 (), .next 1 ()]
    (fun t => t.shared.budgetPolicies.rows = [companyBudget "b1", companyBudget "b2"]) (by decide +kernel)
    (fun t _ ht hu => ?_)⟩
  have hm (b : String) (hb : companyBudget b ∈ [companyBudget "b1", companyBudget "b2"]) :
      companyBudget b ∈ t.shared.budgetPolicies := by
    rw [← ht] at hb
    exact hb
  have hs := hu _ (hm "b1" (by simp)) _ (hm "b2" (by simp)) rfl rfl rfl
  exact absurd (congrArg BudgetPolicy.budgetId hs) (by decide)

/-- One after the other, the second is refused. -/
theorem one_active_policy_sequential : ∃ t, Run (Steps (Pool.step budgetOperations)) NoOverlap noBudgets t ∧
      t.shared.budgetPolicies.rows = [companyBudget "b1"] ∧ t.procs = [.ended, .ended] ∧ t.shared.UniqueActive :=
  exists_run_with [.start (.create (companyBudget "b1")), .start (.create (companyBudget "b2")), .next 0 (), .next 0 (),
      .next 1 ()] (fun t => t.shared.budgetPolicies.rows = [companyBudget "b1"] ∧ t.procs = [.ended, .ended])
    (by decide +kernel) (fun _ hrn ⟨hr, hp⟩ => ⟨hr, hp, one_active_policy rfl noBudgets_unique hrn⟩)

end WisdoverseCell.ControlPlane
