import Mathlib.Data.Prod.Lex
import WisdoverseCell.ControlPlane.Recoverability
import WisdoverseCell.Library.Listing
import WisdoverseCell.Library.Locks

/-!
# The row locks of the ledger transactions

Which rows a claim, the completion of an execution and a recovery lock, and in which order.  A completion locks the
company last, only for the status of the work item.  So a claim that marks an expired lease can wait for its completion,
which waits for the company; there is no other cycle.
-/

namespace WisdoverseCell.ControlPlane

open List Option

variable {low : ℕ}

inductive Row
  | company (companyId : String)
  | agentRole (companyId agentId : String)
  | budgetPolicy (budgetId : String)
  | approval (approvalId : String)
  | lease (executionId : String)
  | reservation (executionId budgetId : String)
  | agentRun (runId : String)
  | workItem (workItemId : String)
  deriving DecidableEq

inductive LedgerTx
  | claim (now : Time) (agent : AgentRole) (request : ClaimRequest)
  /-- `settle`, and `update_work_item_status` for an execution of a work item. -/
  | completion (ticket : ExecutionTicket) (workItemId : Option String)
  | recover (now : Time) (companyId runId : String)

inductive LedgerPoint
  | claiming (now : Time) (agent : AgentRole) (request : ClaimRequest)
  | binding (now : Time) (agent : AgentRole) (request : ClaimRequest)
  | budgeting (now : Time) (agent : AgentRole) (request : ClaimRequest) (intent : BoundIntent) (work : Option WorkItem)
      (approved : Option ApprovalRequest)
  | settling (ticket : ExecutionTicket) (workItemId : Option String)
  | settled (workItemId : Option String)
  | recovering (now : Time) (executionId : String)
  | ended

/-! ### Claims -/

def markLocks (now : Time) (lease : ExecutionLease) : List Row :=
  if lease.state = .running ∧ lease.expiresAt ≤ now then [.lease lease.executionId] else []

def workLocks (work : Option WorkItem) : List Row :=
  match work with
  | none => []
  | some w => [.workItem w.workItemId]

def policyLocks (db : Db) (companyId : String) : List Row :=
  (sortBy BudgetPolicy.budgetId (db.budgetPolicies.rows.filter (fun p => p.companyId = companyId ∧
    p.status = "active"))).map (fun p => .budgetPolicy p.budgetId)

def freeLocks (rt : Runtime) (now : Time) (db : Db) (agent : AgentRole) (request : ClaimRequest)
    (intent : BoundIntent) :
    List Row × LedgerPoint :=
  if request.payload.lookup "trigger" = some (.str "heartbeat") ∧ ¬ heartbeatElapsed rt now db agent intent.current then
    ([], .ended)
  else
    match claimWork db agent.companyId request.work with
    | .error _ => ([], .ended)
    | .ok work =>
      if requiresApproval intent.current work then
        match (validApprovals now db agent intent.digest).find? ApprovalRequest.usable with
        | some approved => (policyLocks db agent.companyId, .budgeting now agent request intent work (some approved))
        | none => (workLocks work, .ended)
      else (policyLocks db agent.companyId, .budgeting now agent request intent work none)

def claimLocks (rt : Runtime) (now : Time) (db : Db) (agent : AgentRole) (request : ClaimRequest) :
    List Row × LedgerPoint :=
  match bindIntent rt db agent request with
  | .error _ => ([], .ended)
  | .ok intent =>
    match db.leases.get intent.executionId with
    | some existing =>
      if existing.intentHash ≠ intent.digest ∨ existing.state.terminal then ([], .ended)
      else (markLocks now existing, .ended)
    | none =>
      match db.activeLease agent.companyId intent.resource with
      | some active => (markLocks now active, .ended)
      | none => freeLocks rt now db agent request intent

def grantLocks (rt : Runtime) (now : Time) (db : Db) (agent : AgentRole) (request : ClaimRequest) (intent : BoundIntent)
    (work : Option WorkItem) (approved : Option ApprovalRequest) : List Row :=
  match claimBudgets rt now db agent request intent with
  | .error _ => []
  | .ok _ => approved.toList.map (fun a => .approval a.approvalId) ++ workLocks work

/-! ### Settlements -/

def settleLocks (db : Db) (ticket : ExecutionTicket) (lease : ExecutionLease) : List Row :=
  (db.reservationsOf ticket.executionId).map (fun r => .reservation r.executionId r.budgetId) ++
    if (db.reservationsOf ticket.executionId).all (fun r => r.state = .reserved) then
      ((db.agentRuns.get ticket.runId).filter (fun run => run.companyId = lease.companyId)).toList.map
        (fun run => .agentRun run.runId)
    else []

/-- `update_work_item_status` locks the company of the work item, and the work item. -/
def statusLocks (db : Db) (workItemId : Option String) : List Row :=
  match workItemId.bind db.workItems.get with
  | none => []
  | some work => [.company work.companyId, .workItem work.workItemId]

def recoverLocks (now : Time) (db : Db) (executionId : String) : List Row :=
  match db.leases.get executionId with
  | none => []
  | some lease =>
    if lease.state.active ∧ lease.expiresAt ≤ now then
      settleLocks db (recoveryTicket db lease) lease ++ workLocks (heldWork db lease)
    else []

/-! ### Programs -/

def ledgerStart (db : Db) : LedgerTx → List Row × LedgerPoint
  | .claim now agent request =>
    if (db.companies.get agent.companyId).isSome then ([.company agent.companyId], .claiming now agent request)
    else ([], .ended)
  | .completion ticket workItemId =>
    if (db.leases.get ticket.executionId).isSome then ([.lease ticket.executionId], .settling ticket workItemId)
    else ([], .ended)
  | .recover now companyId runId =>
    match db.leaseOfRun companyId runId with
    | none => ([], .ended)
    | some lease => ([.lease lease.executionId], .recovering now lease.executionId)

def ledgerResume (rt : Runtime) (db : Db) : LedgerPoint → Option (List Row × LedgerPoint)
  | .claiming now agent request =>
    if (db.agentRoles.get (agent.companyId, agent.agentId)).isSome then
      some ([.agentRole agent.companyId agent.agentId], .binding now agent request)
    else none
  | .binding now agent request => some (claimLocks rt now db agent request)
  | .budgeting now agent request intent work approved =>
    some (grantLocks rt now db agent request intent work approved, .ended)
  | .settling ticket workItemId =>
    match db.leases.get ticket.executionId with
    | none => none
    | some lease =>
      if lease.ownerId = ticket.ownerId ∧ lease.state = .running then
        some (settleLocks db ticket lease, .settled workItemId)
      else none
  | .settled workItemId => some (statusLocks db workItemId, .ended)
  | .recovering now executionId => some (recoverLocks now db executionId, .ended)
  | .ended => none

def ledgerLocks (rt : Runtime) : LockProgram Db Row LedgerPoint LedgerTx := ⟨ledgerStart, ledgerResume rt⟩

/-! ### The order of the locks -/

/-- The kind of a row, by its place in a lock order with the companies and what claims lock behind them at `c`. -/
@[simp]
def Row.place (c : ℕ) : Row → ℕ
  | .company _ => c
  | .agentRole _ _ => c + 1
  | .budgetPolicy _ => c + 2
  | .approval _ => c + 3
  | .lease _ => 10
  | .reservation _ _ => 11
  | .agentRun _ => 12
  | .workItem _ => 20

/-- Policies are ordered by their ids as well. -/
def Row.rank (c : ℕ) (r : Row) : ℕ ×ₗ String :=
  toLex (r.place c, match r with
    | .budgetPolicy budgetId => budgetId
    | _ => "")

def Row.guarded : Row → Prop
  | .reservation _ _ => True
  | _ => False

def Before (c : ℕ) (r r' : Row) : Prop := r.guarded ∨ r.rank c < r'.rank c

variable {c : ℕ} {rt : Runtime} {db : Db} {r : Row}

private theorem before_of_place {r'} (h : r.place c < r'.place c) : Before c r r' :=
  .inr (Prod.Lex.toLex_lt_toLex.2 (.inl h))

@[simp]
def LedgerPoint.reach (c : ℕ) : LedgerPoint → ℕ
  | .claiming .. => c + 1
  | .binding .. => c + 2
  | .budgeting .. => c + 3
  | .settling .. => 11
  | .settled _ => 13
  | .recovering .. => 11
  | .ended => 21

def LedgerPoint.settles : LedgerPoint → Option String
  | .settling ticket _ => some ticket.executionId
  | .recovering _ executionId => some executionId
  | .claiming .. | .binding .. | .budgeting .. | .settled _ | .ended => none

def LedgerTx.visits : LedgerTx → LedgerPoint → Prop
  | .claim .., .claiming .. | .claim .., .binding .. | .claim .., .budgeting .. | .claim .., .ended => True
  | .completion .., .settling .. | .completion .., .settled _ | .completion .., .ended => True
  | .recover .., .recovering .. | .recover .., .ended => True
  | _, _ => False

/-- The rows of one reading are in order, beyond `low` and before `high`. -/
structure Between (c low high : ℕ) (rows : List Row) : Prop where
  ordered : rows.Pairwise (Before c)
  low : ∀ r ∈ rows, low ≤ r.place c
  high : ∀ r ∈ rows, r.place c < high

private theorem Between.nil (c low high : ℕ) : Between c low high [] := ⟨.nil, by simp, by simp⟩

private theorem Between.singleton {high} (hl : low ≤ r.place c) (hh : r.place c < high) : Between c low high [r] :=
  ⟨pairwise_singleton _ _, by simpa using hl, by simpa using hh⟩

variable {rows : List Row}

private theorem Between.append {mid high rows'} (h : Between c low mid rows) (h' : Between c mid high rows')
    (hl : low ≤ mid) (hh : mid ≤ high) : Between c low high (rows ++ rows') where
  ordered := pairwise_append.2 ⟨h.ordered, h'.ordered, fun r hr r' hr' =>
    before_of_place ((h.high r hr).trans_le (h'.low r' hr'))⟩
  low := forall_mem_append.2 ⟨h.low, fun r hr => hl.trans (h'.low r hr)⟩
  high := forall_mem_append.2 ⟨fun r hr => (h.high r hr).trans_le hh, h'.high⟩

private theorem between_workLocks (work) (hl : low ≤ 20) : Between c low 21 (workLocks work) := by
  cases work with
  | none => exact .nil c low 21
  | some => exact .singleton hl (Nat.lt_succ_self 20)

private theorem between_policyLocks (db) (companyId) : Between c (c + 2) (c + 3) (policyLocks db companyId) := by
  have hp (r : Row) (hr : r ∈ policyLocks db companyId) : r.place c = c + 2 := by
    obtain ⟨p, -, rfl⟩ := mem_map.1 hr
    rfl
  refine ⟨?_, fun r hr => (hp r hr).ge, fun r hr => (hp r hr).trans_lt (Nat.lt_succ_self _)⟩
  have hs := pairwise_sortBy_lt (db.budgetPolicies.filter (fun p => p.companyId = companyId ∧
    p.status = "active")).nodup
  exact hs.map _ (fun p q hlt => .inr (Prod.Lex.toLex_lt_toLex.2 (.inr ⟨rfl, hlt⟩)))

private theorem between_settleLocks (db) (ticket lease) : Between c 11 13 (settleLocks db ticket lease) := by
  have hr : Between c 11 12 ((db.reservationsOf ticket.executionId).map
      (fun r => .reservation r.executionId r.budgetId)) := by
    refine ⟨?_, forall_mem_map.2 (fun r _ => le_rfl), forall_mem_map.2 (fun r _ => Nat.lt_succ_self 11)⟩
    exact List.Pairwise.map _ (fun r r' _ => .inl trivial) (pairwise_of_forall (fun _ _ => trivial))
  refine hr.append ?_ (by decide) (by decide)
  split
  · cases (db.agentRuns.get ticket.runId).filter (fun run => run.companyId = lease.companyId) with
    | none => exact .nil c 12 13
    | some => exact .singleton le_rfl (Nat.lt_succ_self 12)
  · exact .nil c 12 13

private theorem between_grantLocks (hc : c ≤ 13) (now agent request intent work approved) :
    Between c (c + 3) 21 (grantLocks rt now db agent request intent work approved) := by
  unfold grantLocks
  split
  · exact .nil c _ 21
  · have ha : Between c (c + 3) (c + 4) (approved.toList.map (fun a => .approval a.approvalId)) := by
      cases approved with
      | none => exact .nil c _ _
      | some => exact .singleton le_rfl (Nat.lt_succ_self _)
    exact ha.append (between_workLocks work (by omega)) (by omega) (by omega)

private theorem between_recoverLocks (now executionId) : Between c 11 21 (recoverLocks now db executionId) := by
  unfold recoverLocks
  split
  · exact .nil c 11 21
  · split
    · exact (between_settleLocks db _ _).append (between_workLocks _ (by decide)) (by decide) (by decide)
    · exact .nil c 11 21

def LedgerTx.isClaim : LedgerTx → Bool
  | .claim .. => true
  | .completion .. | .recover .. => false

def LedgerTx.isCompletion : LedgerTx → Bool
  | .completion .. => true
  | .claim .. | .recover .. => false

private theorem LedgerTx.visits_ended (tx : LedgerTx) : tx.visits .ended := by cases tx <;> trivial

/-- How a transaction reads on: the rows it locks next are beyond those it has. -/
structure Proceeds (c : ℕ) (tx : LedgerTx) (point point' : LedgerPoint) (rows : List Row) : Prop where
  visits : tx.visits point'
  between : Between c (point.reach c) (point'.reach c) rows
  reach : point.reach c ≤ point'.reach c

variable {point : LedgerPoint} {tx : LedgerTx}

private theorem proceeds_ended (hr : Between c (point.reach c) 21 rows) (hrc : point.reach c ≤ 21) :
    Proceeds c tx point .ended rows :=
  ⟨tx.visits_ended, hr, hrc⟩

private theorem proceeds_freeLocks (hc : c ≤ 13) (htx : tx.isClaim = true) (now agent request intent) :
    Proceeds c tx (.binding now agent request) (freeLocks rt now db agent request intent).2
      (freeLocks rt now db agent request intent).1 := by
  have hr : LedgerPoint.reach c (.binding now agent request) ≤ 21 := by
    simp
    omega
  have hb (work : Option WorkItem) (approved : Option ApprovalRequest) :
      Proceeds c tx (.binding now agent request) (.budgeting now agent request intent work approved)
        (policyLocks db agent.companyId) := by
    refine ⟨?_, between_policyLocks db _, Nat.le_succ _⟩
    cases tx with
    | claim => trivial
    | completion | recover => cases htx
  unfold freeLocks
  split
  · exact proceeds_ended (.nil c _ 21) hr
  · split
    · exact proceeds_ended (.nil c _ 21) hr
    · split
      · split
        · exact hb _ _
        · exact proceeds_ended (between_workLocks _ (by simp; omega)) hr
      · exact hb _ _

private theorem claimLocks_cases (hc : c ≤ 13) (htx : tx.isClaim = true) (now agent request) :
    (∃ executionId, claimLocks rt now db agent request = ([.lease executionId], .ended)) ∨
      Proceeds c tx (.binding now agent request) (claimLocks rt now db agent request).2
        (claimLocks rt now db agent request).1 := by
  have hr : LedgerPoint.reach c (.binding now agent request) ≤ 21 := by
    simp
    omega
  have hm (lease : ExecutionLease) : (∃ executionId, (markLocks now lease, LedgerPoint.ended) =
      ([.lease executionId], .ended)) ∨ Proceeds c tx (.binding now agent request) .ended (markLocks now lease) := by
    unfold markLocks
    split
    · exact .inl ⟨_, rfl⟩
    · exact .inr (proceeds_ended (.nil c _ 21) hr)
  unfold claimLocks
  split
  · exact .inr (proceeds_ended (.nil c _ 21) hr)
  · split
    · split
      · exact .inr (proceeds_ended (.nil c _ 21) hr)
      · exact hm _
    · split
      · exact hm _
      · exact .inr (proceeds_freeLocks hc htx now agent request _)

variable {point' : LedgerPoint}

private theorem ledgerResume_cases (hc : c ≤ 13) (htx : tx.visits point)
    (h : ledgerResume rt db point = some (rows, point')) :
    Proceeds c tx point point' rows ∨
      (tx.isClaim = true ∧ point.reach c = c + 2 ∧ ∃ executionId, rows = [.lease executionId] ∧ point' = .ended) ∨
      (tx.isCompletion = true ∧ point.reach c = 13 ∧
        ∃ companyId workItemId, rows = [.company companyId, .workItem workItemId] ∧ point' = .ended) := by
  cases point with
  | claiming =>
    cases tx with
    | claim =>
      unfold ledgerResume at h
      obtain ⟨-, h⟩ := ite_none_right_eq_some.1 h
      cases h
      exact .inl ⟨trivial, .singleton le_rfl (Nat.lt_succ_self _), Nat.le_succ _⟩
    | completion | recover => cases htx
  | binding now agent request =>
    cases tx with
    | claim =>
      have heq := some.inj h
      rcases claimLocks_cases hc (rfl : (LedgerTx.claim _ _ _).isClaim = true) now agent request with
        ⟨executionId, hm⟩ | hn
      · obtain ⟨rfl, rfl⟩ := Prod.mk.inj (hm.symm.trans heq)
        exact .inr (.inl ⟨rfl, rfl, executionId, rfl, rfl⟩)
      · rw [heq] at hn
        exact .inl hn
    | completion | recover => cases htx
  | budgeting now agent request intent work approved =>
    cases h
    exact .inl (proceeds_ended (between_grantLocks hc now agent request intent work approved) (by simp; omega))
  | settling =>
    cases tx with
    | completion =>
      unfold ledgerResume at h
      dsimp only at h
      split at h
      · cases h
      · split at h
        · cases h
          exact .inl ⟨trivial, between_settleLocks db _ _, by simp⟩
        · cases h
    | claim | recover => cases htx
  | settled =>
    cases tx with
    | completion =>
      cases h
      unfold statusLocks
      split
      · exact .inl ⟨trivial, .nil c 13 21, by simp⟩
      · exact .inr (.inr ⟨rfl, rfl, _, _, rfl, rfl⟩)
    | claim | recover => cases htx
  | recovering now executionId =>
    cases h
    exact .inl (proceeds_ended (between_recoverLocks now executionId) (by simp))
  | ended => cases h

private theorem ledgerStart_inOrder (db tx) : tx.visits (ledgerStart db tx).2 ∧
    Between c 0 ((ledgerStart db tx).2.reach c) (ledgerStart db tx).1 := by
  cases tx with
  | claim =>
    unfold ledgerStart
    dsimp only
    split
    · exact ⟨trivial, .singleton (Nat.zero_le _) (Nat.lt_succ_self _)⟩
    · exact ⟨trivial, .nil c 0 21⟩
  | completion =>
    unfold ledgerStart
    dsimp only
    split
    · exact ⟨trivial, .singleton (Nat.zero_le _) (Nat.lt_succ_self 10)⟩
    · exact ⟨trivial, .nil c 0 21⟩
  | recover =>
    unfold ledgerStart
    dsimp only
    split
    · exact ⟨trivial, .nil c 0 21⟩
    · exact ⟨trivial, .singleton (Nat.zero_le _) (Nat.lt_succ_self 10)⟩

/-! ### Every transaction -/

structure InOrder (c : ℕ) (t : Locker Row LedgerPoint LedgerTx) : Prop where
  visits : t.tx.visits t.point
  ordered : t.requested.Pairwise (Before c)
  high : ∀ r ∈ t.requested, r.place c < t.point.reach c

private theorem InOrder.keeps {t} (h : InOrder c t) : t.Keeps (Row.rank c) Row.guarded := by
  intro r hr hf w hw
  have hb := (pairwise_append.1 h.ordered).2.2 r (mem_reverse.2 hr) w (mem_of_mem_head? hw)
  exact hb.resolve_left hf

private theorem InOrder.lock {held rest} (h : InOrder c ⟨tx, held, r :: rest, point⟩) :
    InOrder c ⟨tx, r :: held, rest, point⟩ := by
  have hs := Locker.requested_lock tx held rest r point
  exact ⟨h.visits, hs ▸ h.ordered, hs ▸ h.high⟩

private theorem InOrder.resume {held} (h : InOrder c ⟨tx, held, [], point⟩)
    (hn : Proceeds c tx point point' rows) : InOrder c ⟨tx, held, rows, point'⟩ := by
  have hh (r : Row) (hr : r ∈ held.reverse) : r.place c < point.reach c := h.high r (mem_append_left _ hr)
  have ho : held.reverse.Pairwise (Before c) := (pairwise_append.1 h.ordered).1
  refine ⟨hn.visits, pairwise_append.2 ⟨ho, hn.between.ordered, fun r hr r' hr' => ?_⟩,
    forall_mem_append.2 ⟨fun r hr => (hh r hr).trans_le hn.reach, hn.between.high⟩⟩
  exact before_of_place ((hh r hr).trans_le (hn.between.low r' hr'))

private theorem inOrder_start (db tx) : InOrder c ⟨tx, [], (ledgerStart db tx).1, (ledgerStart db tx).2⟩ := by
  obtain ⟨hv, hb⟩ := ledgerStart_inOrder (c := c) db tx
  exact ⟨hv, hb.ordered, hb.high⟩

def Marking (t : Locker Row LedgerPoint LedgerTx) : Prop :=
  t.tx.isClaim = true ∧ t.point = .ended ∧ (t.wanted = [] ∨ ∃ executionId, t.wanted = [.lease executionId])

def Reporting (t : Locker Row LedgerPoint LedgerTx) : Prop :=
  t.tx.isCompletion = true ∧ t.point = .ended ∧
    (t.wanted = [] ∨ (∀ r ∈ t.held, r.place 0 < 20) ∧ ∃ workItemId, t.wanted = [.workItem workItemId] ∨
      ∃ companyId, t.wanted = [.company companyId, .workItem workItemId])

variable {ok : LockState Db Row LedgerPoint LedgerTx → LockAct Db LedgerTx → Prop} {db₀ : Db}
  {s : LockState Db Row LedgerPoint LedgerTx}

private theorem leases_first (hrn : Run (Steps (ledgerLocks rt).step) ok ⟨db₀, []⟩ s) :
    ∀ t ∈ s.txs, InOrder 13 t ∨ Marking t := by
  refine hrn.lockers (L := fun t => InOrder 13 t ∨ Marking t) (by simp) (fun db tx => .inl (inOrder_start db tx)) ?_ ?_
  · rintro tx held r rest point (h | ⟨hc, he, hnl | ⟨executionId, hw⟩⟩)
    · exact .inl h.lock
    · cases hnl
    · cases hw
      exact .inr ⟨hc, he, .inl rfl⟩
  · rintro db tx held point rows point' (h | ⟨-, rfl, -⟩) hr
    · rcases ledgerResume_cases le_rfl h.visits hr with hn | ⟨hc, -, executionId, rfl, rfl⟩ |
        ⟨hcm, hrc, companyId, workItemId, rfl, rfl⟩
      · exact .inl (h.resume hn)
      · exact .inr ⟨hc, rfl, .inr ⟨executionId, rfl⟩⟩
      · have hco : Between 13 13 14 [.company companyId] := .singleton le_rfl (Nat.lt_succ_self 13)
        have hwr : Between 13 14 21 [.workItem workItemId] := .singleton (by simp) (by simp)
        have hrw := hco.append hwr (by simp) (by simp)
        refine .inl (h.resume ⟨tx.visits_ended, by rw [hrc]; exact hrw, by rw [hrc]; decide⟩)
    · cases hr

private theorem companies_first (hrn : Run (Steps (ledgerLocks rt).step) ok ⟨db₀, []⟩ s) :
    ∀ t ∈ s.txs, InOrder 0 t ∨ Reporting t := by
  refine hrn.lockers (L := fun t => InOrder 0 t ∨ Reporting t) (by simp) (fun db tx => .inl (inOrder_start db tx)) ?_ ?_
  · rintro tx held r rest point (h | ⟨hc, he, hnl | ⟨hh, workItemId, hw | ⟨companyId, hw⟩⟩⟩)
    · exact .inl h.lock
    · cases hnl
    · cases hw
      exact .inr ⟨hc, he, .inl rfl⟩
    · cases hw
      refine .inr ⟨hc, he, .inr ⟨?_, workItemId, .inl rfl⟩⟩
      exact forall_mem_cons.2 ⟨by simp, hh⟩
  · rintro db tx held point rows point' (h | ⟨-, rfl, -⟩) hrs
    · rcases ledgerResume_cases (Nat.zero_le 13) h.visits hrs with hn | ⟨-, hrc, executionId, rfl, rfl⟩ |
        ⟨hc, hrc, companyId, workItemId, rfl, rfl⟩
      · exact .inl (h.resume hn)
      · have hrw : Between 0 2 21 [.lease executionId] := .singleton (by simp) (by simp)
        exact .inl (h.resume ⟨tx.visits_ended, by rw [hrc]; exact hrw, by rw [hrc]; decide⟩)
      · refine .inr ⟨hc, rfl, .inr ⟨fun r hr => ?_, workItemId, .inr ⟨companyId, rfl⟩⟩⟩
        have hlt := h.high r (mem_append_left _ (mem_reverse.2 hr))
        rw [hrc] at hlt
        exact hlt.trans (by decide)
    · cases hrs

/-! ### Reservations -/

structure Guards (t : Locker Row LedgerPoint LedgerTx) : Prop where
  reservation : ∀ executionId budgetId, .reservation executionId budgetId ∈ t.requested → .lease executionId ∈ t.held
  lease : ∀ executionId ∈ t.point.settles, .lease executionId ∈ t.requested

private theorem reservation_of_settleLocks {ticket lease executionId budgetId}
    (h : .reservation executionId budgetId ∈ settleLocks db ticket lease) : ticket.executionId = executionId := by
  unfold settleLocks at h
  rcases mem_append.1 h with h | h
  · obtain ⟨r, hr, heq⟩ := mem_map.1 h
    obtain ⟨rfl, -⟩ := Row.reservation.inj heq
    exact (Db.mem_reservationsOf.1 hr).2.symm
  · split at h
    · obtain ⟨run, -, heq⟩ := mem_map.1 h
      cases heq
    · cases h

private theorem settles_of_reservation {executionId budgetId} (htx : tx.visits point)
    (h : ledgerResume rt db point = some (rows, point')) (hr : .reservation executionId budgetId ∈ rows) :
    point.settles = some executionId := by
  by_cases hrc : 13 ≤ point.reach 13
  · rcases ledgerResume_cases le_rfl htx h with hn | ⟨-, -, _, rfl, -⟩ | ⟨-, -, _, _, rfl, -⟩
    · have hlw := hrc.trans (hn.between.low _ hr)
      simp at hlw
    · simp at hr
    · simp at hr
  · cases point with
    | settling =>
      unfold ledgerResume at h
      dsimp only at h
      split at h
      · cases h
      · split at h
        · cases h
          exact congrArg some (reservation_of_settleLocks hr)
        · cases h
    | recovering =>
      cases h
      unfold recoverLocks at hr
      split at hr
      · cases hr
      · rename_i lease hl
        split at hr
        · rcases mem_append.1 hr with hr | hr
          · have hid := reservation_of_settleLocks hr
            exact congrArg some ((Table.get_eq_some.1 hl).2.symm.trans hid)
          · unfold workLocks at hr
            split at hr
            · cases hr
            · simp at hr
        · cases hr
    | claiming | binding | budgeting | settled | ended => simp at hrc

private theorem settles_claimLocks (rt db) (now agent request) :
    (claimLocks rt now db agent request).2.settles = none := by
  unfold claimLocks freeLocks
  repeat' split
  all_goals rfl

private theorem settles_of_resume (h : ledgerResume rt db point = some (rows, point')) : point'.settles = none := by
  cases point with
  | binding now agent request =>
    have hn := settles_claimLocks rt db now agent request
    rwa [some.inj h] at hn
  | claiming | settling =>
    unfold ledgerResume at h
    dsimp only at h
    repeat' split at h
    all_goals cases h
    rfl
  | budgeting | settled | recovering =>
    cases h
    rfl
  | ended => cases h

private theorem guards_start (db tx) : Guards ⟨tx, [], (ledgerStart db tx).1, (ledgerStart db tx).2⟩ := by
  unfold ledgerStart
  split
  all_goals split
  all_goals exact ⟨by simp [Locker.requested], by simp [Locker.requested, LedgerPoint.settles]⟩

private theorem guards_of_run (hrn : Run (Steps (ledgerLocks rt).step) ok ⟨db₀, []⟩ s) :
    ∀ t ∈ s.txs, t.tx.visits t.point ∧ Guards t := by
  refine hrn.lockers (L := fun t => t.tx.visits t.point ∧ Guards t) (by simp)
    (fun db tx => ⟨(ledgerStart_inOrder (c := 0) db tx).1, guards_start db tx⟩) ?_ ?_
  · rintro tx held r rest point ⟨hv, hrs, hl⟩
    have hs := Locker.requested_lock tx held rest r point
    refine ⟨hv, fun executionId budgetId hr => ?_, hs ▸ hl⟩
    exact mem_cons_of_mem _ (hrs executionId budgetId (hs ▸ hr))
  · rintro db tx held point rows point' ⟨hv, hrs, hl⟩ hre
    refine ⟨?_, fun executionId budgetId hr => ?_, ?_⟩
    · rcases ledgerResume_cases (Nat.zero_le 13) hv hre with hn | ⟨-, -, _, -, rfl⟩ | ⟨-, -, _, _, -, rfl⟩
      · exact hn.visits
      · exact tx.visits_ended
      · exact tx.visits_ended
    · rcases mem_append.1 hr with hr | hr
      · exact hrs executionId budgetId (mem_append_left _ hr)
      · have hm := hl executionId (settles_of_reservation hv hre hr)
        simpa [Locker.requested] using hm
    · rw [settles_of_resume hre]
      simp

/-! ### Cyclic waits -/

def Row.isLease : Row → Bool
  | .lease _ => true
  | _ => false

def Row.isCompany : Row → Bool
  | .company _ => true
  | _ => false

def markBlocked (txs : List (Locker Row LedgerPoint LedgerTx)) : Bool :=
  txs.any (fun t => t.tx.isClaim && t.blockedOn txs Row.isLease)

def statusBlocked (txs : List (Locker Row LedgerPoint LedgerTx)) : Bool :=
  txs.any (fun t => t.tx.isCompletion && t.blockedOn txs Row.isCompany)

private theorem not_guarded_of_wants (hrn : Run (Steps (ledgerLocks rt).step) ok ⟨db₀, []⟩ s) (i j) (r)
    (hw : Wants s.txs i j r) : ¬ r.guarded := by
  intro hr
  cases r with
  | reservation executionId budgetId =>
    have hg (t : Locker Row LedgerPoint LedgerTx) (ht : t ∈ s.txs)
        (hrq : .reservation executionId budgetId ∈ t.requested) : Row.lease executionId ∈ t.held :=
      (guards_of_run hrn t ht).2.reservation executionId budgetId hrq
    exact not_wants_of_guarded (hrn.heldOnce heldOnce_nil) hg hw
  | company | agentRole | budgetPolicy | approval | lease | agentRun | workItem => exact hr

private theorem markBlocked_of_cyclicWait (hr : Run (Steps (ledgerLocks rt).step) ok ⟨db₀, []⟩ s)
    (hc : CyclicWait s.txs) : markBlocked s.txs = true := by
  obtain ⟨i, j, t, ht, hw, hb⟩ := hc.exists_breaks (Row.rank 13) (not_guarded_of_wants hr)
  rcases leases_first hr t (mem_of_getElem? ht) with ho | ⟨hcl, -, hn | ⟨executionId, hwn⟩⟩
  · exact absurd ho.keeps hb
  · exact absurd (Locker.keeps_of_wanted_nil hn) hb
  · have hbl := Locker.blockedOn_of_waits Row.isLease ht hw hwn rfl
    exact any_eq_true.2 ⟨t, mem_of_getElem? ht, by rw [hcl, hbl]; rfl⟩

private theorem statusBlocked_of_cyclicWait (hrn : Run (Steps (ledgerLocks rt).step) ok ⟨db₀, []⟩ s)
    (hc : CyclicWait s.txs) : statusBlocked s.txs = true := by
  obtain ⟨i, j, t, ht, hwt, hb⟩ := hc.exists_breaks (Row.rank 0) (not_guarded_of_wants hrn)
  rcases companies_first hrn t (mem_of_getElem? ht) with ho | ⟨hcm, -, hn | ⟨hh, workItemId, hl⟩⟩
  · exact absurd ho.keeps hb
  · exact absurd (Locker.keeps_of_wanted_nil hn) hb
  rcases hl with hwn | ⟨companyId, hwn⟩
  · -- The work item is beyond all rows that a completion holds.
    refine absurd (fun r hr hf w hw => ?_) hb
    rw [hwn] at hw
    cases hw
    exact (before_of_place (c := 0) (hh r hr)).resolve_left hf
  · have hbl := Locker.blockedOn_of_waits Row.isCompany ht hwt hwn rfl
    exact any_eq_true.2 ⟨t, mem_of_getElem? ht, by rw [hcm, hbl]; rfl⟩

def expiredRun : List Act :=
  [.wake 0 httpAgent { keyedCall "k1" with workItemId := some "w" } none, .tick (seconds 1000)]

def completionSettles : List (LockAct Db LedgerTx) :=
  [.start (.completion ⟨"c:k1", "run-k1", "owner-k1", 2, false⟩ (some "w")), .lock 0, .resume 0, .lock 0, .lock 0,
    .resume 0]

def claimStarts : LockAct Db LedgerTx :=
  .start (.claim (seconds 1000) httpAgent { keyedCall "k2" with workItemId := some "w" }.claimRequest)

/-- The ledger transactions never wait in a cycle, unless a claim waits to mark a lease while a completion waits for a
company. -/
theorem no_cyclic_wait (rt : Runtime) (db₀ : Db) (s : LockState Db Row LedgerPoint LedgerTx)
    (hrun : Run (Steps (ledgerLocks rt).step) Always ⟨db₀, []⟩ s)
    (hfree : ¬ (markBlocked s.txs = true ∧ statusBlocked s.txs = true)) : ¬ CyclicWait s.txs := by
  intro hc
  exact hfree ⟨markBlocked_of_cyclicWait hrun hc, statusBlocked_of_cyclicWait hrun hc⟩

/-- A claim waits for a completion, and nobody for the claim. -/
theorem claim_waits_for_completion : ∃ t, Run (Steps (step plainRuntime)) Always oneTaskSys t ∧ ∃ s,
      Run (Steps (ledgerLocks plainRuntime).step) Always ⟨t.db, []⟩ s ∧ Waits s.txs 1 0 ∧ ¬ CyclicWait s.txs := by
  refine exists_run_with expiredRun (fun t => ∃ s, exec (ledgerLocks plainRuntime).step Always ⟨t.db, []⟩
    (completionSettles ++ [.lock 0, claimStarts]) = some s ∧ waitsFor s.txs 1 0 ∧ statusBlocked s.txs = false)
    (by decide +kernel) (fun t _ ht => ?_)
  obtain ⟨s, hs, hw, hb⟩ := ht
  refine ⟨s, run_of_exec hs, waits_of_waitsFor hw, no_cyclic_wait _ _ s (run_of_exec hs) (fun h => ?_)⟩
  rw [hb] at h
  cases h.2

/-- The claim holds the company and waits for the lease that it marks as abandoned; the completion holds this lease and
waits for the company. -/
theorem claim_and_completion_wait_for_each_other :
    oneTaskSys.Initial ∧ ∃ t, Run (Steps (step plainRuntime)) Always oneTaskSys t ∧ ∃ s,
      Run (Steps (ledgerLocks plainRuntime).step) Always ⟨t.db, []⟩ s ∧ CyclicWait s.txs := by
  refine ⟨oneTaskSys_initial, exists_run_with expiredRun (fun t => ∃ s, exec (ledgerLocks plainRuntime).step Always
    ⟨t.db, []⟩ (completionSettles ++ [claimStarts, .lock 1, .resume 1, .lock 1, .resume 1]) = some s ∧
      waitsFor s.txs 0 1 ∧ waitsFor s.txs 1 0) (by decide +kernel) (fun t _ ht => ?_)⟩
  obtain ⟨s, hs, hc, hcl⟩ := ht
  exact ⟨s, run_of_exec hs, 0, .tail (.single (waits_of_waitsFor hc)) (waits_of_waitsFor hcl)⟩

end WisdoverseCell.ControlPlane
