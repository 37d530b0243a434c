import WisdoverseCell.Library.Pool
import WisdoverseCell.LlmGateway.GovernedCalls

/-!
# Concurrent calls and the limit of a policy

A call checks its budget against what is recorded, calls the provider, and records what it cost.  The recorded usage
stays within the limit in every run in which a call that passes its check while others are open finds room for their
estimates.
-/

namespace WisdoverseCell.LlmGateway

open List
open ControlPlane (BudgetPolicy BudgetGuard.check BudgetGuard.recordUsage getBudgetUsageTotal Time)

variable {cost : ℚ≥0} {entry : Entry} {reservation : Option Reservation} {canExecute : Bool} {i : Nat} {req : Request}

/-! ### Calls as processes -/

inductive Stage
  | checking (req : Request) (entry : Entry)
  | calling (req : Request) (call : Call) (reservation : Option Reservation) (loop : Recovery)
  | recording (req : Request) (reservation : Option Reservation) (costUsd : ℚ≥0)
  | ended
  deriving DecidableEq

/-- What a call waits for: the circuit breaker, after the check; the provider; the time at which the usage is
recorded. -/
inductive Reply
  | checked (canExecute : Bool)
  | provider (answer : Answer)
  | recorded (now : Time)

inductive Event
  | setPolicies (policies : Table BudgetPolicy.budgetId)

section

variable (config : RetryConfig) (settings : Settings)

def estimate (req : Request) (call : Call) : ℚ≥0 :=
  estimateCost settings req.inputTokens call.maxTokens call.model

/-- A call goes on to its next await; the check and the record are separate ones. -/
def Stage.next (config : RetryConfig) (settings : Settings) (db : ControlPlane.Db) :
    Stage → Reply → Option (ControlPlane.Db × Stage)
  | .checking req entry, .checked canExecute =>
    match authorize settings db req entry canExecute with
    | .error _ => some (db, .ended)
    | .ok (call, reservation) =>
      match Recovery.fresh config call.model false with
      | .again loop => some (db, .calling req call reservation loop)
      | .returned .. | .raised => some (db, .ended)
  | .calling req call reservation loop, .provider answer =>
    match loop.next config call.allowFallback answer with
    | .again loop' => some (db, .calling req call reservation loop')
    | .returned model inputTokens outputTokens =>
      some (db, .recording req reservation (estimateCost settings inputTokens outputTokens model))
    | .raised => some (db, .ended)
  | .recording req (some reservation) costUsd, .recorded now =>
    some (BudgetGuard.recordUsage now db reservation.companyId reservation.budgetId costUsd req.runId, .ended)
  | .recording _ none _, .recorded _ => some (db, .ended)
  | _, _ => none

def gateway :
    Program ControlPlane.Db Stage Event (Request × Entry) Reply where
  env db | .setPolicies policies => some { db with budgetPolicies := policies }
  start db r := some (db, .checking r.1 r.2)
  next := Stage.next config settings

/-! ### What is open -/

def Stage.outstanding (budgetId : String) : Stage → ℚ≥0
  | .calling req call (some reservation) _ => if reservation.budgetId = budgetId then estimate settings req call else 0
  | .recording _ (some reservation) costUsd => if reservation.budgetId = budgetId then costUsd else 0
  | .checking .. | .calling _ _ none _ | .recording _ none _ | .ended => 0

def openCost (budgetId : String) (s : Pool ControlPlane.Db Stage) : ℚ≥0 :=
  (s.procs.map (Stage.outstanding settings budgetId)).sum

def Stage.opens (budgetId : String) (db : ControlPlane.Db) (canExecute : Bool) :
    Stage → Option ℚ≥0
  | .checking req entry =>
    match authorize settings db req entry canExecute with
    | .ok (call, some reservation) =>
      if reservation.budgetId = budgetId then some (estimate settings req call) else none
    | .ok (_, none) | .error _ => none
  | .calling .. | .recording .. | .ended => none

def Stage.costs (answer : Answer) : Stage → Option (ℚ≥0 × ℚ≥0)
  | .calling req call _ loop =>
    match loop.next config call.allowFallback answer with
    | .returned model inputTokens outputTokens =>
      some (estimateCost settings inputTokens outputTokens model, estimate settings req call)
    | .again _ | .raised => none
  | .checking .. | .recording .. | .ended => none

def LeavesRoom (budgetId : String) (limit : ℚ≥0)
    (s : Pool ControlPlane.Db Stage) : PoolAct Event (Request × Entry) Reply → Prop
  | .env (.setPolicies policies) => ∀ p ∈ policies.rows, p.budgetId = budgetId → p.limitUsd = limit
  | .next i (.checked canExecute) => ∀ stage ∈ s.procs[i]?, ∀ cost ∈ stage.opens settings budgetId s.shared canExecute,
      openCost settings budgetId s ≠ 0 →
        getBudgetUsageTotal s.shared budgetId + openCost settings budgetId s + cost ≤ limit
  | .next i (.provider answer) => ∀ stage ∈ s.procs[i]?, ∀ costs ∈ stage.costs config settings answer, costs.1 ≤ costs.2
  | .next _ (.recorded _) | .start _ | .stop _ => True

end

variable {config : RetryConfig} {settings : Settings} {budgetId : String} {limit : ℚ≥0}
  {s t : Pool ControlPlane.Db Stage} {a : PoolAct Event (Request × Entry) Reply} {db : ControlPlane.Db}

instance (a : PoolAct Event (Request × Entry) Reply) : Decidable (LeavesRoom config settings budgetId limit s a) := by
  unfold LeavesRoom
  split <;> infer_instance

/-! ### The invariant -/

structure WithinLimit (settings : Settings) (budgetId : String) (limit : ℚ≥0) (s : Pool ControlPlane.Db Stage) :
    Prop where
  fixed : ∀ p ∈ s.shared.budgetPolicies, p.budgetId = budgetId → p.limitUsd = limit
  room : getBudgetUsageTotal s.shared budgetId + openCost settings budgetId s ≤ limit

private theorem getBudgetUsageTotal_recordUsage (now) (db) (companyId charged costUsd runId) :
    getBudgetUsageTotal (BudgetGuard.recordUsage now db companyId charged costUsd runId) budgetId =
      getBudgetUsageTotal db budgetId + if charged = budgetId then costUsd else 0 := by
  unfold getBudgetUsageTotal BudgetGuard.recordUsage
  rw [filter_append, map_append, sum_append]
  by_cases h : charged = budgetId <;> simp [h]

private theorem room_of_opens {stage : Stage} (hf : ∀ p ∈ db.budgetPolicies, p.budgetId = budgetId → p.limitUsd = limit)
    (h : stage.opens settings budgetId db canExecute = some cost) : getBudgetUsageTotal db budgetId + cost ≤ limit := by
  cases stage with
  | calling | recording | ended => cases h
  | checking =>
    simp only [Stage.opens] at h
    split at h
    · rename_i call reservation ha
      obtain ⟨hb, h⟩ := Option.ite_none_right_eq_some.1 h
      cases h
      have hc := (authorize_eq_ok ha).2
      unfold checkControlPlaneBudget at hc
      split at hc
      · obtain ⟨_, hd, hc⟩ := bind_eq_ok.1 hc
        obtain ⟨key, -, hd⟩ := bind_eq_ok.1 hd
        obtain ⟨decision, hg, hd⟩ := bind_eq_ok.1 hd
        cases pure_eq_ok.1 hd
        obtain ⟨_, hal, hc⟩ := bind_eq_ok.1 hc
        obtain ⟨charged, hch, hr⟩ := Option.map_eq_some_iff.1 (pure_eq_ok.1 hc)
        cases hr
        obtain ⟨p, hp, hid, hrm⟩ := ControlPlane.BudgetGuard.check_allowed hg (ensure_eq_ok.1 hal) hch
        rw [hf p hp (hid.trans hb)] at hrm
        cases hb
        exact hrm
      · cases hc
    all_goals cases h

variable {q p : Stage}

private theorem WithinLimit.replace (h : WithinLimit settings budgetId limit s) (hp : s.procs[i]? = some p)
    (hpl : db.budgetPolicies = s.shared.budgetPolicies)
    (hle : getBudgetUsageTotal db budgetId + q.outstanding settings budgetId ≤
      getBudgetUsageTotal s.shared budgetId + p.outstanding settings budgetId) :
    WithinLimit settings budgetId limit ⟨db, s.procs.set i q⟩ where
  fixed := by
    rw [hpl]
    exact h.fixed
  room := by
    have ho : openCost settings budgetId ⟨db, s.procs.set i q⟩ + p.outstanding settings budgetId =
        openCost settings budgetId s + q.outstanding settings budgetId :=
      sum_map_set_add (Stage.outstanding settings budgetId) hp q
    refine le_trans ?_ h.room
    refine le_of_add_le_add_right (a := p.outstanding settings budgetId) ?_
    calc getBudgetUsageTotal db budgetId + openCost settings budgetId ⟨db, s.procs.set i q⟩ +
          p.outstanding settings budgetId
        = getBudgetUsageTotal db budgetId + q.outstanding settings budgetId + openCost settings budgetId s := by
          rw [add_assoc, ho]
          ac_rfl
      _ ≤ getBudgetUsageTotal s.shared budgetId + p.outstanding settings budgetId + openCost settings budgetId s :=
          add_le_add_left hle _
      _ = getBudgetUsageTotal s.shared budgetId + openCost settings budgetId s + p.outstanding settings budgetId := by
          ac_rfl

private theorem WithinLimit.open (h : WithinLimit settings budgetId limit s)
    (hp : s.procs[i]? = some (.checking req entry))
    (hok : LeavesRoom config settings budgetId limit s (.next i (.checked canExecute)))
    (ho : (Stage.checking req entry).opens settings budgetId s.shared canExecute = some cost)
    (hq : q.outstanding settings budgetId = cost) :
    WithinLimit settings budgetId limit ⟨s.shared, s.procs.set i q⟩ where
  fixed := h.fixed
  room := by
    have hop : openCost settings budgetId ⟨s.shared, s.procs.set i q⟩ + 0 = openCost settings budgetId s + cost :=
      hq ▸ sum_map_set_add (Stage.outstanding settings budgetId) hp q
    rw [add_zero] at hop
    rw [hop]
    by_cases hz : openCost settings budgetId s = 0
    · rw [hz, zero_add]
      exact room_of_opens h.fixed ho
    · rw [← add_assoc]
      exact hok _ hp cost ho hz

private theorem WithinLimit.checked (h : WithinLimit settings budgetId limit s)
    (hp : s.procs[i]? = some (.checking req entry))
    (hok : LeavesRoom config settings budgetId limit s (.next i (.checked canExecute)))
    (hn : (Stage.checking req entry).next config settings s.shared (.checked canExecute) = some (db, q)) :
    WithinLimit settings budgetId limit ⟨db, s.procs.set i q⟩ := by
  simp only [Stage.next] at hn
  split at hn
  · cases hn
    exact h.replace hp rfl le_rfl
  · rename_i call reservation ha
    split at hn
    · rename_i loop hl
      cases hn
      -- only a reservation in this budget adds to what is open
      cases reservation with
      | none => exact h.replace hp rfl le_rfl
      | some reservation =>
        by_cases hb : reservation.budgetId = budgetId
        · have ho : (Stage.checking req entry).opens settings budgetId s.shared canExecute =
              some (estimate settings req call) := by
            simp only [Stage.opens, ha]
            exact if_pos hb
          exact h.open hp hok ho (if_pos hb)
        · refine h.replace hp rfl (le_of_eq ?_)
          rw [Stage.outstanding, if_neg hb, Stage.outstanding]
    all_goals
      cases hn
      exact h.replace hp rfl le_rfl

private theorem WithinLimit.answered {call loop answer}
    (h : WithinLimit settings budgetId limit s) (hp : s.procs[i]? = some (.calling req call reservation loop))
    (hok : LeavesRoom config settings budgetId limit s (.next i (.provider answer)))
    (hn : (Stage.calling req call reservation loop).next config settings s.shared (.provider answer) = some (db, q)) :
    WithinLimit settings budgetId limit ⟨db, s.procs.set i q⟩ := by
  simp only [Stage.next] at hn
  split at hn
  · cases hn
    refine h.replace hp rfl (le_of_eq ?_)
    cases reservation <;> rfl
  · rename_i model inputTokens outputTokens hr
    cases hn
    have hc : estimateCost settings inputTokens outputTokens model ≤ estimate settings req call := by
      refine hok _ hp (estimateCost settings inputTokens outputTokens model, estimate settings req call) ?_
      simp only [Stage.costs, hr]
      rfl
    refine h.replace hp rfl (add_le_add_right ?_ _)
    cases reservation with
    | none => exact le_rfl
    | some =>
      simp only [Stage.outstanding]
      split
      · exact hc
      · exact le_rfl
  · cases hn
    refine h.replace hp rfl (add_le_add_right ?_ _)
    exact zero_le

private theorem WithinLimit.recorded {costUsd now} (h : WithinLimit settings budgetId limit s)
    (hp : s.procs[i]? = some (.recording req reservation costUsd))
    (hn : (Stage.recording req reservation costUsd).next config settings s.shared (.recorded now) = some (db, q)) :
    WithinLimit settings budgetId limit ⟨db, s.procs.set i q⟩ := by
  cases reservation with
  | none =>
    cases hn
    exact h.replace hp rfl le_rfl
  | some =>
    cases hn
    refine h.replace hp rfl (le_of_eq ?_)
    rw [getBudgetUsageTotal_recordUsage]
    exact add_zero _

private theorem WithinLimit.next {reply} (h : WithinLimit settings budgetId limit s) (hp : s.procs[i]? = some p)
    (hok : LeavesRoom config settings budgetId limit s (.next i reply))
    (hn : p.next config settings s.shared reply = some (db, q)) :
    WithinLimit settings budgetId limit ⟨db, s.procs.set i q⟩ := by
  cases p with
  | checking =>
    cases reply with
    | checked => exact h.checked hp hok hn
    | provider | recorded => cases hn
  | calling =>
    cases reply with
    | provider => exact h.answered hp hok hn
    | checked | recorded => cases hn
  | recording req reservation =>
    cases reply with
    | recorded => exact h.recorded hp hn
    | checked | provider => cases reservation <;> cases hn
  | ended => cases reply <;> cases hn

private theorem WithinLimit.step (h : WithinLimit settings budgetId limit s)
    (hok : LeavesRoom config settings budgetId limit s a)
    (hst : Pool.step (gateway config settings) s a = some t) : WithinLimit settings budgetId limit t := by
  cases Pool.moves_of_step hst with
  | env he =>
    rename_i event shared
    cases event with
    | setPolicies =>
      cases he
      exact ⟨hok, h.room⟩
  | start hs =>
    cases hs
    refine ⟨h.fixed, le_of_eq_of_le ?_ h.room⟩
    simp [openCost, Stage.outstanding]
  | next hp hn => exact h.next hp hok hn
  | stop => exact ⟨h.fixed, (add_le_add_right (sum_map_eraseIdx_le _ _ _) _).trans h.room⟩

/-- In every interleaving of calls that cost at most their estimates and leave room for the open ones, the recorded
usage of a policy stays within its limit. -/
theorem recorded_usage_within_limit (hprocs : s.procs = [])
    (hfixed : ∀ p ∈ s.shared.budgetPolicies, p.budgetId = budgetId → p.limitUsd = limit)
    (husage : getBudgetUsageTotal s.shared budgetId ≤ limit)
    (hrun : Run (Steps (Pool.step (gateway config settings))) (LeavesRoom config settings budgetId limit) s t) :
    getBudgetUsageTotal t.shared budgetId ≤ limit := by
  have hs : WithinLimit settings budgetId limit s := by
    refine ⟨hfixed, ?_⟩
    rw [openCost, hprocs, map_nil, sum_nil, add_zero]
    exact husage
  have he : WithinLimit settings budgetId limit t :=
    hrun.invariant (I := WithinLimit settings budgetId limit) hs (fun _ _ _ h hok hst => h.step hok hst)
  exact le_self_add.trans he.room

/-! ### Two calls -/

def oneDollar : ControlPlane.Db :=
  { ControlPlane.Db.empty with
    budgetPolicies := ⟨[⟨"bud_1", "cmp_1", .company, .daily, 1, none, "active", []⟩], nodup_singleton _⟩ }

def largeRequest : Request := ⟨"coder", none, 10000, 0, none, none, none, none, none⟩

def atRest : Pool ControlPlane.Db Stage := ⟨oneDollar, []⟩

def arrives : PoolAct Event (Request × Entry) Reply := .start (largeRequest, .complete 0 none)

def answeredInFull (i : Nat) : List (PoolAct Event (Request × Entry) Reply) :=
  [.next i (.provider (.reply 0 10000)), .next i (.recorded 0)]

/-- Two calls are checked before one of them is recorded: 1.50 USD are spent. -/
theorem concurrent_calls_overspend :
    atRest.procs = [] ∧ (∀ p ∈ atRest.shared.budgetPolicies, p.budgetId = "bud_1" → p.limitUsd = 1) ∧
      ∃ t, Run (Steps (Pool.step (gateway defaultRetryConfig demoSettings))) Always atRest t ∧
        getBudgetUsageTotal t.shared "bud_1" = 3 / 2 := by
  refine ⟨rfl, ?_, exists_run_exec
    ([arrives, arrives, .next 0 (.checked true), .next 1 (.checked true)] ++ answeredInFull 0 ++
    answeredInFull 1) (by decide +kernel)⟩
  intro p hp _
  rw [mem_singleton.1 hp]

/-- Two calls one after the other. -/
theorem recorded_usage_within_limit_sequential : ∃ t, Run (Steps (Pool.step (gateway defaultRetryConfig demoSettings)))
        (LeavesRoom defaultRetryConfig demoSettings "bud_1" 1) atRest t ∧
      t.procs = [.ended, .ended] ∧ getBudgetUsageTotal t.shared "bud_1" ≤ 1 := by
  refine exists_run_and ([arrives, arrives, .next 0 (.checked true)] ++ answeredInFull 0 ++ [.next 1 (.checked true)])
    (by decide +kernel) (fun t hr => recorded_usage_within_limit rfl ?_ (by decide +kernel) hr)
  intro p hp _
  rw [mem_singleton.1 hp]

end WisdoverseCell.LlmGateway
