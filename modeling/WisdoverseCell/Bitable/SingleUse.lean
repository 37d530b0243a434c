import WisdoverseCell.Bitable.Callbacks

/-!
# Confirmed writes are authorised and made once

A write should be one that a proposal describes, confirmed by its proposer, at most one for each action id and none
after a rejection.  The chat agent checks none of these, so this holds in every run in which the requests that reach it
are sanctioned.
-/

namespace WisdoverseCell.Bitable

open List Option

variable {store : Store} {task : Task} {i : Nat} {gw : Gateway} {s t : Pool Store Task}
  {a : PoolAct Event Arrival Reply} {op : PendingOp} {actionId : String}

/-! ### Authorised writes -/

def PendingOp.target (op : PendingOp) : Target :=
  match op.recordId with
  | some recordId => .update recordId
  | none => .create

structure PendingOp.Applied (op : PendingOp) (w : Write) : Prop where
  actionId : w.actionId = op.actionId
  proposer : w.userId = op.proposerId
  target : w.target = op.target
  table : w.tableId = op.tableId.getD ""
  fields : ∃ cleaned view, sanitizeFields op.fields = some cleaned ∧ w.fields = resolveDuplexLinks view cleaned

def Happening.writes (actionId : String) : Happening → Bool
  | .wrote w => w.actionId = actionId
  | .rejected _ => false

/-- The second event of the history is no write of an operation that the first one rejected. -/
def NotAfterRejection : Happening → Happening → Prop
  | .rejected actionId, .wrote w => w.actionId ≠ actionId
  | .rejected _, .rejected _ | .wrote _, _ => True

/-! ### The condition -/

/-- The request confirms this proposal: its kind, its proposer, and no table where the proposal names none. -/
def PendingOp.Admits (op : PendingOp) (request : Request) : Prop :=
  op.recordId.isSome = decide (request.kind = .update) ∧ (op.tableId = none → request.tableId = "") ∧
    request.userId = op.proposerId

instance (request : Request) : Decidable (op.Admits request) := inferInstanceAs (Decidable (_ ∧ _ ∧ _))

def Task.opens (actionId : String) (task : Task) : Bool :=
  decide (task.stage ≠ .answered) && decide (task.request.actionId = actionId)

/-- No request for the operation is open, and it was neither carried out nor rejected. -/
def Unused (s : Pool Store Task) (actionId : String) : Prop :=
  s.procs.countP (Task.opens actionId) = 0 ∧ s.shared.history.countP (Happening.writes actionId) = 0 ∧
    .rejected actionId ∉ s.shared.history

instance : Decidable (Unused s actionId) := inferInstanceAs (Decidable (_ ∧ _ ∧ _))

def Sanctioned (gw : Gateway) (s : Pool Store Task) : PoolAct Event Arrival Reply → Prop
  | .start arrival => ∀ r ∈ gw.forward s.shared arrival, r.2.actionId ≠ "" ∧
      ∀ op ∈ s.shared.pending, op.actionId = r.2.actionId → op.Admits r.2 ∧ Unused s r.2.actionId
  | .env (.reject actionId) => s.procs.countP (Task.opens actionId) = 0
  | .env (.tick _) | .env (.propose _ _) | .next _ _ | .stop _ => True

instance (a : PoolAct Event Arrival Reply) : Decidable (Sanctioned gw s a) := by
  unfold Sanctioned
  split <;> infer_instance

/-! ### The invariant -/

def Stage.Sound (store : Store) (actionId : String) : Stage → Prop
  | .write target tableId fields =>
    ∃ op ∈ store.pending, op.actionId = actionId ∧ target = op.target ∧ tableId = op.tableId.getD "" ∧
      fields = op.fields
  | .lookup | .answered => True

structure Task.Sound (store : Store) (task : Task) : Prop where
  id_ne : task.request.actionId ≠ ""
  named : task.request.actionId ∈ store.named
  admitted : ∀ op ∈ store.pending, op.actionId = task.request.actionId → op.Admits task.request
  stage : task.stage.Sound store task.request.actionId

structure CallbackSound (s : Pool Store Task) : Prop where
  tasks : ∀ task ∈ s.procs, task.Sound s.shared
  once : ∀ op ∈ s.shared.pending,
    s.procs.countP (Task.opens op.actionId) + s.shared.history.countP (Happening.writes op.actionId) ≤ 1
  unrejected : ∀ op ∈ s.shared.pending, .rejected op.actionId ∈ s.shared.history →
    s.procs.countP (Task.opens op.actionId) = 0
  writes : ∀ w, .wrote w ∈ s.shared.history → ∃ op ∈ s.shared.pending, op.Applied w
  order : s.shared.history.Pairwise NotAfterRejection

private theorem CallbackSound.writes_eq_zero (hs : CallbackSound s)
    (h : ∀ op ∈ s.shared.pending, op.actionId ≠ actionId) :
    s.shared.history.countP (Happening.writes actionId) = 0 := by
  refine countP_eq_zero.2 ?_
  intro e he hw
  cases e with
  | wrote w =>
    obtain ⟨op, hop, ha⟩ := hs.writes w he
    exact h op hop (ha.actionId.symm.trans (of_decide_eq_true hw))
  | rejected => cases hw

private theorem CallbackSound.opens_eq_zero (hs : CallbackSound s) (h : actionId ∉ s.shared.named) :
    s.procs.countP (Task.opens actionId) = 0 := by
  refine countP_eq_zero.2 ?_
  intro task ht ho
  have hid : task.request.actionId = actionId := of_decide_eq_true (Bool.and_eq_true_iff.1 ho).2
  exact h (hid ▸ (hs.tasks task ht).named)

/-! ### Steps -/

private theorem Task.Sound.of_subset {store'} (h : task.Sound store) (hp : store.pending ⊆ store'.pending)
    (hn : store.named ⊆ store'.named)
    (hs : ∀ op ∈ store'.pending, op.actionId = task.request.actionId → op ∈ store.pending) : task.Sound store' where
  id_ne := h.id_ne
  named := hn h.named
  admitted op hop hid := h.admitted op (hs op hop hid) hid
  stage := by
    have hst := h.stage
    unfold Stage.Sound at hst ⊢
    split at hst
    · obtain ⟨op, hop, hr⟩ := hst
      exact ⟨op, hp hop, hr⟩
    · trivial
    · trivial

private theorem CallbackSound.propose {p : Proposal} (hs : CallbackSound s)
    (h : propose s.shared actionId p = some store) :
    CallbackSound ⟨store, s.procs⟩ := by
  unfold Bitable.propose at h
  split at h
  · cases h
  split at h
  · cases h
  rename_i hfresh
  simp only [not_or, not_exists, not_and] at hfresh
  obtain ⟨hne, hn, hp⟩ := hfresh
  cases h
  refine ⟨?_, ?_, ?_, ?_, hs.order⟩
  · intro task ht
    refine (hs.tasks task ht).of_subset (subset_append_left _ _) (Subset.refl _) ?_
    intro op hop hid
    rcases mem_concat.1 hop with hop | rfl
    · exact hop
    · exact absurd (hs.tasks task ht).named (hid ▸ hn)
  · intro op hop
    rcases mem_concat.1 hop with hop | rfl
    · exact hs.once op hop
    · have ho := hs.opens_eq_zero hn
      have hwr := hs.writes_eq_zero hp
      dsimp only
      omega
  · intro op hop hr
    rcases mem_concat.1 hop with hop | rfl
    · exact hs.unrejected op hop hr
    · exact hs.opens_eq_zero hn
  · intro w hw
    obtain ⟨op, hop, ha⟩ := hs.writes w hw
    exact ⟨op, mem_append_left _ hop, ha⟩

private theorem CallbackSound.reject (hs : CallbackSound s) (hok : s.procs.countP (Task.opens actionId) = 0) :
    CallbackSound ⟨{ s.shared with history := s.shared.history ++ [.rejected actionId] }, s.procs⟩ := by
  refine ⟨?_, ?_, ?_, ?_, ?_⟩
  · intro task ht
    have ht := hs.tasks task ht
    exact ⟨ht.id_ne, ht.named, ht.admitted, ht.stage⟩
  · intro op hop
    have ho := hs.once op hop
    simpa [countP_append, Happening.writes] using ho
  · intro op hop hr
    rcases mem_concat.1 hr with hr | hn
    · exact hs.unrejected op hop hr
    · have hid : op.actionId = actionId := Happening.rejected.inj hn
      rw [hid]
      exact hok
  · intro w hw
    rcases mem_concat.1 hw with hw | hn
    · exact hs.writes w hw
    · cases hn
  · refine pairwise_append.2 ⟨hs.order, pairwise_singleton _ _, ?_⟩
    intro e he e' he'
    obtain rfl := mem_singleton.1 he'
    cases e <;> trivial

private theorem forward_frame {store' arrival request} (h : gw.forward store arrival = some (store', request)) :
    store'.pending = store.pending ∧ store'.named = store.named ∧ store'.history = store.history := by
  cases arrival with
  | callback =>
    obtain ⟨kind, -, hf⟩ := bind_eq_some_iff.1 h
    split at hf
    · rename_i s' hd
      cases hf
      unfold dedupBitableAction at hd
      split at hd
      · obtain ⟨rfl, -⟩ := Prod.mk.inj hd
        exact ⟨rfl, rfl, rfl⟩
      split at hd
      · cases (Prod.mk.inj hd).2
      · obtain ⟨rfl, -⟩ := Prod.mk.inj hd
        exact ⟨rfl, rfl, rfl⟩
    · cases hf
  | request =>
    cases h
    exact ⟨rfl, rfl, rfl⟩

private theorem CallbackSound.accept {arrival} (hs : CallbackSound s) (hok : Sanctioned gw s (.start arrival))
    (h : s.shared.accept gw arrival = some (store, task)) : CallbackSound ⟨store, s.procs ++ [task]⟩ := by
  obtain ⟨⟨store', request⟩, hf, heq⟩ := map_eq_some_iff.1 h
  obtain ⟨rfl, rfl⟩ := Prod.mk.inj heq
  obtain ⟨hp, hn, hh⟩ := forward_frame hf
  obtain ⟨hne, hfr⟩ := hok _ hf
  -- a request for another operation adds to no count, and this one is the first for its operation
  have hc : ∀ op ∈ s.shared.pending, op.actionId ≠ request.actionId →
      (s.procs ++ [(⟨request, .lookup⟩ : Task)]).countP (Task.opens op.actionId) =
        s.procs.countP (Task.opens op.actionId) := by
    intro op _ hid
    simp [countP_append, Task.opens, Ne.symm hid]
  refine ⟨?_, ?_, ?_, ?_, ?_⟩
  · intro task' ht'
    rcases mem_concat.1 ht' with ht' | rfl
    · refine (hs.tasks task' ht').of_subset ?_ ?_ ?_
      · rw [hp]
        exact Subset.refl _
      · rw [hn]
        exact subset_append_left _ _
      · intro op hop _
        exact hp ▸ hop
    · refine ⟨hne, mem_append_right _ (mem_singleton.2 rfl), ?_, trivial⟩
      intro op hop hid
      exact (hfr op (hp ▸ hop) hid).1
  · intro op hop
    have hop' : op ∈ s.shared.pending := hp ▸ hop
    dsimp only
    rw [hh]
    by_cases hid : op.actionId = request.actionId
    · obtain ⟨ho, hwr, -⟩ := (hfr op hop' hid).2
      rw [hid, hwr, countP_append, ho]
      simp [Task.opens]
    · rw [hc op hop' hid]
      exact hs.once op hop'
  · intro op hop hr
    have hop' : op ∈ s.shared.pending := hp ▸ hop
    rw [hh] at hr
    by_cases hid : op.actionId = request.actionId
    · obtain ⟨-, -, hu⟩ := (hfr op hop' hid).2
      exact absurd (hid ▸ hr) hu
    · rw [hc op hop' hid]
      exact hs.unrejected op hop' hr
  · intro w hw
    obtain ⟨op, hop, ha⟩ := hs.writes w (hh ▸ hw)
    exact ⟨op, hp ▸ hop, ha⟩
  · rw [hh]
    exact hs.order

private theorem lookupOperation_sound (h : task.Sound store) :
    (lookupOperation store task.request).Sound store task.request.actionId := by
  unfold lookupOperation
  rw [if_neg h.id_ne]
  split
  · trivial
  · rename_i op hop
    have hm := mem_of_find?_eq_some hop
    have hf := find?_some hop
    simp only [decide_eq_true_eq] at hf
    obtain ⟨hkn, ht, -⟩ := h.admitted op hm hf.1
    refine ⟨op, hm, hf.1, ?_, ?_, rfl⟩
    · unfold PendingOp.target
      cases hr : op.recordId with
      | none =>
        rw [hr] at hkn
        cases hk : task.request.kind with
        | update => simp [hk] at hkn
        | create => rfl
      | some =>
        rw [hr] at hkn
        cases hk : task.request.kind with
        | update => rfl
        | create => simp [hk] at hkn
    · cases htb : op.tableId with
      | none => exact ht htb
      | some => rfl

private theorem opens_lookup_le (hs : task.stage = .lookup) (stage) (actionId) :
    (if Task.opens actionId { task with stage := stage } then 1 else 0) ≤ if Task.opens actionId task then
      1 else 0 := by
  by_cases hid : task.request.actionId = actionId
  · simp only [Task.opens, hid, hs, decide_true, Bool.and_true]
    split <;> simp
  · simp [Task.opens, hid]

private theorem CallbackSound.lookup (hs : CallbackSound s) (ht : s.procs[i]? = some task)
    (hst : task.stage = .lookup) :
    CallbackSound ⟨s.shared, s.procs.set i { task with stage := lookupOperation s.shared task.request }⟩ := by
  have hsn := hs.tasks task (mem_of_getElem? ht)
  have hc : ∀ actionId, (s.procs.set i { task with stage := lookupOperation s.shared task.request }).countP
      (Task.opens actionId) ≤ s.procs.countP (Task.opens actionId) := by
    intro actionId
    have hse := countP_set_add (p := Task.opens actionId)
      (b := { task with stage := lookupOperation s.shared task.request }) ht
    have hle := opens_lookup_le hst (lookupOperation s.shared task.request) actionId
    omega
  refine ⟨?_, ?_, ?_, hs.writes, hs.order⟩
  · have hs' := lookupOperation_sound hsn
    exact forall_mem_set hs.tasks (fun _ h => h) ⟨hsn.id_ne, hsn.named, hsn.admitted, hs'⟩
  · intro op hop
    have ho := hs.once op hop
    have hle := hc op.actionId
    dsimp only
    omega
  · intro op hop hr
    have hz := hs.unrejected op hop hr
    have hle := hc op.actionId
    dsimp only
    omega

private theorem writeOperation_cases (store) (request target tableId fields reply) :
    writeOperation store request target tableId fields reply = store ∨
    ∃ cleaned, sanitizeFields fields = some cleaned ∧ writeOperation store request target tableId fields reply =
      { store with history := store.history ++
        [.wrote ⟨target, tableId, resolveDuplexLinks reply.view cleaned, request.userId, request.actionId⟩] } := by
  unfold writeOperation
  split
  · exact .inl rfl
  · rename_i cleaned hc
    split
    · exact .inr ⟨cleaned, hc, rfl⟩
    · exact .inl rfl

private theorem countP_answered {procs : List Task} (h : procs[i]? = some task) (actionId) :
    (procs.set i { task with stage := .answered }).countP (Task.opens actionId) +
      (if Task.opens actionId task then 1 else 0) = procs.countP (Task.opens actionId) := by
  have hs := countP_set_add (p := Task.opens actionId) (b := { task with stage := .answered }) h
  have hc : Task.opens actionId { task with stage := .answered } = false := by simp [Task.opens]
  rw [hc] at hs
  exact hs

private theorem CallbackSound.answer (hs : CallbackSound s) (ht : s.procs[i]? = some task) :
    CallbackSound ⟨s.shared, s.procs.set i { task with stage := .answered }⟩ := by
  have hsn := hs.tasks task (mem_of_getElem? ht)
  refine ⟨?_, ?_, ?_, hs.writes, hs.order⟩
  · exact forall_mem_set hs.tasks (fun _ h => h) ⟨hsn.id_ne, hsn.named, hsn.admitted, trivial⟩
  · intro op hop
    have ho := hs.once op hop
    have hst := countP_answered ht op.actionId
    dsimp only
    omega
  · intro op hop hr
    have hz := hs.unrejected op hop hr
    have hst := countP_answered ht op.actionId
    dsimp only
    omega

private theorem CallbackSound.wrote {w : Write} (hs : CallbackSound s) (ht : s.procs[i]? = some task)
    (ho : task.stage ≠ .answered) (hid : w.actionId = task.request.actionId) (hop : op ∈ s.shared.pending)
    (ha : op.Applied w) : CallbackSound ⟨{ s.shared with history := s.shared.history ++ [.wrote w] },
      s.procs.set i { task with stage := .answered }⟩ := by
  have hsn := hs.tasks task (mem_of_getElem? ht)
  have hon : Task.opens task.request.actionId task = true := by simp [Task.opens, ho]
  refine ⟨?_, ?_, ?_, ?_, ?_⟩
  · refine forall_mem_set hs.tasks (fun _ h => ⟨h.id_ne, h.named, h.admitted, h.stage⟩) ?_
    exact ⟨hsn.id_ne, hsn.named, hsn.admitted, trivial⟩
  · intro op' hop'
    have hoc := hs.once op' hop'
    have hst := countP_answered ht op'.actionId
    simp only [countP_append, countP_singleton]
    by_cases hsm : op'.actionId = task.request.actionId
    · rw [hsm, if_pos hon] at hst
      rw [hsm] at hoc ⊢
      rw [if_pos (by simp [Happening.writes, hid])]
      omega
    · rw [if_neg (by simp [Happening.writes, hid, Ne.symm hsm])]
      omega
  · intro op' hop' hr
    have hol : .rejected op'.actionId ∈ s.shared.history := by
      rcases mem_concat.1 hr with hr | hn
      · exact hr
      · cases hn
    have hz := hs.unrejected op' hop' hol
    have hst := countP_answered ht op'.actionId
    dsimp only
    omega
  · intro w' hw'
    rcases mem_concat.1 hw' with hw' | hn
    · exact hs.writes w' hw'
    · obtain rfl := Happening.wrote.inj hn
      exact ⟨op, hop, ha⟩
  · refine pairwise_append.2 ⟨hs.order, pairwise_singleton _ _, ?_⟩
    intro e he e' he'
    obtain rfl := mem_singleton.1 he'
    cases e with
    | wrote => trivial
    | rejected actionId =>
      -- the operation would have no open request
      intro hr
      have hod : op.actionId = actionId := ha.actionId.symm.trans hr
      have hz := hs.unrejected op hop (hod ▸ he)
      have hst := countP_answered ht op.actionId
      rw [← ha.actionId, hid, if_pos hon] at hst
      rw [← ha.actionId, hid] at hz
      omega

private theorem CallbackSound.serve {task' reply} (hs : CallbackSound s) (ht : s.procs[i]? = some task)
    (h : s.shared.serve task reply = some (store, task')) : CallbackSound ⟨store, s.procs.set i task'⟩ := by
  unfold Store.serve at h
  split at h
  · rename_i hst
    cases h
    exact hs.lookup ht hst
  · rename_i target tableId fields hst
    cases h
    rcases writeOperation_cases s.shared task.request target tableId fields reply with
      hsm | ⟨cleaned, hc, hw⟩
    · rw [hsm]
      exact hs.answer ht
    · have hsn := hs.tasks task (mem_of_getElem? ht)
      have hd := hsn.stage
      rw [hst] at hd
      obtain ⟨op, hop, hid, rfl, rfl, rfl⟩ := hd
      rw [hw]
      refine hs.wrote ht (by rw [hst]; exact Stage.noConfusion) rfl hop ?_
      exact ⟨hid.symm, (hsn.admitted op hop hid).2.2, rfl, rfl, cleaned, reply.view, hc, rfl⟩
  · cases h

private theorem step_callbackSound (hs : CallbackSound s) (hok : Sanctioned gw s a)
    (h : Pool.step (chatAgent gw) s a = some t) : CallbackSound t := by
  cases Pool.moves_of_step h with
  | @env e store he =>
    cases e with
    | tick =>
      cases he
      refine ⟨?_, hs.once, hs.unrejected, hs.writes, hs.order⟩
      intro task ht
      have hsn := hs.tasks task ht
      exact ⟨hsn.id_ne, hsn.named, hsn.admitted, hsn.stage⟩
    | propose => exact hs.propose he
    | reject =>
      simp only [chatAgent, Store.event] at he
      split at he
      · cases he
        exact hs.reject hok
      · cases he
  | start he => exact hs.accept hok he
  | next hp he => exact hs.serve hp he
  | @stop i =>
    refine ⟨fun task ht => hs.tasks task (eraseIdx_subset ht), ?_, ?_, hs.writes, hs.order⟩
    · intro op hop
      have ho := hs.once op hop
      have hle := countP_eraseIdx_le (Task.opens op.actionId) s.procs i
      dsimp only
      omega
    · intro op hop hr
      have hz := hs.unrejected op hop hr
      have hle := countP_eraseIdx_le (Task.opens op.actionId) s.procs i
      dsimp only
      omega

/-! ### Runs -/

structure AtRest (s : Pool Store Task) : Prop where
  procs : s.procs = []
  history : s.shared.history = []

private theorem AtRest.callbackSound (h : AtRest s) : CallbackSound s where
  tasks task ht := by
    rw [h.procs] at ht
    cases ht
  once op _ := by
    rw [h.procs, h.history]
    exact Nat.zero_le 1
  unrejected op _ _ := by
    rw [h.procs]
    rfl
  writes w hw := by
    rw [h.history] at hw
    cases hw
  order := by
    rw [h.history]
    exact List.Pairwise.nil

/-- In every run in which the requests are sanctioned, every write is that of a proposal and was confirmed by its
proposer, there is at most one for an action id, and none after its card was rejected. -/
theorem writes_authorised_once {gw : Gateway} {s t : Pool Store Task} (hs : AtRest s)
    (h : Run (Steps (Pool.step (chatAgent gw))) (Sanctioned gw) s t) :
    (∀ w, .wrote w ∈ t.shared.history → ∃ op ∈ t.shared.pending, op.Applied w) ∧
      (∀ actionId, t.shared.history.countP (Happening.writes actionId) ≤ 1) ∧
      t.shared.history.Pairwise NotAfterRejection := by
  have hsn : CallbackSound t := h.invariant (I := CallbackSound) hs.callbackSound
      (fun _ _ _ hsn hok hst => step_callbackSound hsn hok hst)
  refine ⟨hsn.writes, ?_, hsn.order⟩
  intro actionId
  by_cases hk : ∃ op ∈ t.shared.pending, op.actionId = actionId
  · obtain ⟨op, hop, rfl⟩ := hk
    exact le_trans (Nat.le_add_left _ _) (hsn.once op hop)
  · have hz := hsn.writes_eq_zero (fun op hop hid => hk ⟨op, hop, hid⟩)
    omega

/-! ### One proposal -/

def plainGateway : Gateway := ⟨fun value => stringField value "action_id"⟩

def emptyStore : Pool Store Task := ⟨⟨0, [], [], [], []⟩, []⟩

private theorem emptyStore_atRest : AtRest emptyStore := ⟨rfl, rfl⟩

def proposal : Proposal := ⟨some "rec_1", [("status", .str "done")], "ou_alice", "", ""⟩

def confirmButton (actionId : String) : Json :=
  .obj [("action", .str "confirm_bitable_update"), ("action_id", .str actionId)]

def reply : Reply := ⟨⟨false, none, none⟩, true⟩

def confirmed (operator : String) (i : Nat) : List (PoolAct Event Arrival Reply) :=
  [.start (.callback operator (confirmButton "act_1") false), .next i reply, .next i reply]

/-- A second operator confirms the rejected proposal, and again after the 30 seconds of the gateway. -/
theorem other_operator_writes_twice :
    AtRest emptyStore ∧ ∃ t, Run (Steps (Pool.step (chatAgent plainGateway))) Always emptyStore t ∧
      ¬ (∀ w, .wrote w ∈ t.shared.history → ∃ op ∈ t.shared.pending, op.Applied w) ∧
      t.shared.history.countP (Happening.writes "act_1") = 2 ∧
      ¬ t.shared.history.Pairwise NotAfterRejection := by
  refine ⟨emptyStore_atRest, exists_run_with ([.env (.propose "act_1" proposal), .env (.reject "act_1")] ++
    confirmed "ou_bob" 0 ++ [.env (.tick 30000)] ++ confirmed "ou_bob" 1) (fun t =>
      t.shared.pending = [⟨"act_1", some "rec_1", [("status", .str "done")], "ou_alice", none, 1800000⟩] ∧
        t.shared.history = [.rejected "act_1",
          .wrote ⟨.update "rec_1", "", [("status", .str "done")], "ou_bob", "act_1"⟩,
          .wrote ⟨.update "rec_1", "", [("status", .str "done")], "ou_bob", "act_1"⟩]) (by decide +kernel)
    (fun t _ ⟨hp, hh⟩ => ⟨?_, ?_, ?_⟩)⟩
  · intro hal
    rw [hp, hh] at hal
    obtain ⟨op, hop, ha⟩ := hal _ (mem_cons_of_mem _ mem_cons_self)
    obtain rfl := mem_singleton.1 hop
    exact absurd ha.proposer (by decide)
  · rw [hh]
    decide
  · rw [hh]
    intro ho
    exact (pairwise_cons.1 ho).1 _ mem_cons_self rfl

/-- The proposer clicks twice; the gateway drops the second click. -/
theorem writes_authorised_once_doubleClick :
    ∃ t, Run (Steps (Pool.step (chatAgent plainGateway))) (Sanctioned plainGateway) emptyStore t ∧
      t.shared.history = [.wrote ⟨.update "rec_1", "", [("status", .str "done")], "ou_alice", "act_1"⟩] ∧
      t.shared.history.countP (Happening.writes "act_1") ≤ 1 :=
  exists_run_with ([.env (.propose "act_1" proposal)] ++ confirmed "ou_alice" 0)
    (fun t => t.shared.history = [.wrote ⟨.update "rec_1", "", [("status", .str "done")], "ou_alice", "act_1"⟩] ∧
      (Pool.step (chatAgent plainGateway) t (.start (.callback "ou_alice" (confirmButton "act_1") false))).isNone)
    (by decide +kernel) (fun _ hr ht => ⟨ht.1, (writes_authorised_once emptyStore_atRest hr).2.1 "act_1"⟩)

end WisdoverseCell.Bitable
