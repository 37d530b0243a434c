import WisdoverseCell.DevAgent.RowMonitor

/-!
# Runs of AgentForge

A transaction that is alone with a task uses up an attempt for each run that it starts, and a retry gives one more.
So the runs of a task are at most one more than its retries, if a run and the commit of its status are not torn apart
(`Attended`), as they are by a crash in between.
-/

namespace WisdoverseCell.DevAgent.Transactions

open List Option

variable {row : Option TaskRow} {runs : Nat} {a : SessionAct Call Call.Reply Request} {id : String} {m : RowState}
  {c : Call} {k : Dev Unit}

def runsOf (id : String) (calls : List (Sigma Call.Reply)) : Nat := calls.countP (fun c => isRun id c.1)

private theorem runsOf_append (id) (calls calls') :
    runsOf id (calls ++ calls') = runsOf id calls + runsOf id calls' := countP_append

/-! ### Attempts -/

def TaskStatus.beforeRun : TaskStatus → Bool
  | .pending | .planning | .awaitingApproval => true
  | .executing | .securityScanning | .mrCreating | .mrCreated | .qaTriggered | .reviewing | .completed | .failed
  | .expired => false

def retriesOf : Option TaskRow → Nat
  | none => 0
  | some row => row.retryCount

def used : Option TaskRow → Nat
  | none => 0
  | some row => if TaskStatus.beforeRun row.status then row.retryCount else row.retryCount + 1

private theorem used_le (row) : used row ≤ 1 + retriesOf row := by
  cases row with
  | none => exact Nat.zero_le _
  | some =>
    unfold used retriesOf
    dsimp only
    split <;> omega

private theorem beforeRun_of_startable {status} (h : TaskStatus.startable status = true) :
    TaskStatus.beforeRun status = true := by
  rcases of_decide_eq_true h with rfl | rfl <;> rfl

/-- Along an edge of the lifecycle no attempt comes back; and one is used up where a run is recorded. -/
theorem used_write {running row change} (h : MayChange running row change)
    (ho : running = true → TaskStatus.startable row.status = true) :
    used (some row) + (if running && change.status.isSome then 1 else 0) ≤ used (some (change.write row)) := by
  unfold MayChange at h
  unfold used TaskChange.write
  split at h
  · rename_i hs
    simp [hs, h.1]
  · rename_i status hs
    obtain ⟨hc, hr, hrc⟩ := h
    rw [hs, hr]
    cases running with
    | false =>
      cases hrw : row.status <;> cases status <;>
        simp_all [canTransition, TaskStatus.validTransitions, TaskStatus.beforeRun]
    | true =>
      have hb := ho rfl
      rcases hrc rfl with rfl | rfl <;> rcases of_decide_eq_true hb with heq | heq <;>
        simp [heq, TaskStatus.beforeRun]

structure RunBound (row : Option TaskRow) (m : RowState) (runs : Nat) : Prop where
  spent : runs + used row ≤ used m.row + (if m.running then 1 else 0)
  bound : runs + used row ≤ 1 + retriesOf row
  retries : m.retried = false → retriesOf m.row = retriesOf row
  started : m.running = true → ∃ row, m.row = some row ∧ TaskStatus.startable row.status = true

private theorem RunBound.begin (row) : RunBound row ⟨row, false, false⟩ 0 where
  spent := by simp
  bound := by simpa using used_le row
  retries _ := rfl
  started h := Bool.noConfusion h

private theorem RunBound.write {w} (h : RunBound row m runs) (hm : m.MayWrite id w) :
    RunBound row (m.write id w) runs := by
  cases w with
  | insertTask =>
    dsimp only [RowState.write]
    split
    · rename_i hid
      obtain ⟨hn, hp, hz⟩ := hm hid
      have hi : m.running = false := by
        by_contra hrn
        obtain ⟨row', hr', -⟩ := h.started (Bool.not_eq_false _ ▸ hrn)
        rw [hn] at hr'
        cases hr'
      have hs := h.spent
      rw [hn, hi] at hs
      refine ⟨?_, h.bound, fun hr => ?_, fun hrn => ?_⟩
      · simpa [hn, hi, used, hp, hz, TaskStatus.beforeRun] using hs
      · rw [← h.retries hr, hn]
        exact hz
      · rw [hi] at hrn
        cases hrn
    · exact h
  | setTask taskId change =>
    dsimp only [RowState.write]
    split
    · rename_i hid
      obtain ⟨row', hr', hc⟩ := hm hid
      have ho : m.running = true → TaskStatus.startable row'.status = true := by
        intro hrn
        obtain ⟨row'', hr'', hst⟩ := h.started hrn
        rwa [some.inj (hr'.symm.trans hr'')]
      have hu := used_write hc ho
      have hs := h.spent
      rw [hr'] at hs ⊢
      refine ⟨?_, h.bound, fun hr => ?_, fun hrn => ?_⟩
      · cases hrn : m.running <;> cases hsta : change.status <;>
          simp [hrn, hsta] at hs hu ⊢ <;> omega
      · rw [Bool.or_eq_false_iff, isSome_eq_false_iff, isNone_iff_eq_none] at hr
        rw [← h.retries hr.1, hr']
        simp [retriesOf, TaskChange.write, hr.2]
      · rw [Bool.and_eq_true, isNone_iff_eq_none] at hrn
        unfold MayChange at hc
        rw [hrn.2] at hc
        rw [hc.2] at hrn
        cases hrn.1
    · exact h
  | addLog => exact h
  | addEvent => exact h

private theorem RunBound.call (r) (h : RunBound row m runs) (hm : isRun id c = true → m.MayRun) :
    RunBound row ((rowMonitor id true).call m c r) (runs + if isRun id c then 1 else 0) := by
  dsimp only [rowMonitor]
  cases hrn : isRun id c with
  | false => simpa [hrn] using h
  | true =>
    obtain ⟨⟨row', hr', hs⟩, hi, hr⟩ := hm hrn
    -- the row has not used up its attempt, and its retries are those that are committed
    have hsp := h.spent
    have hrt := h.retries hr
    have hu : used m.row = retriesOf m.row := by
      simp [hr', used, retriesOf, beforeRun_of_startable hs]
    simp only [hi] at hsp
    refine ⟨?_, ?_, fun _ => hrt, fun _ => ⟨row', hr', hs⟩⟩
    · simp at hsp ⊢
      omega
    · simp at hsp ⊢
      omega

private theorem runBound_of_reach {cs} (h : (rowMonitor id true).Reach row m cs) : RunBound row m (runsOf id cs) := by
  induction h with
  | begin => exact .begin row
  | write _ hm ih => exact ih.write hm
  | @call m cs c r _ hm _ ih =>
    rw [runsOf_append]
    have ho : runsOf id [⟨c, r⟩] = if isRun id c then 1 else 0 := by simp [runsOf, countP_cons]
    rw [ho]
    exact ih.call r hm

/-! ### The condition -/

def unsettled (id : String) (σ : DevSession) : Bool := σ.pending.any (fun c => isRun id c.1)

def openRuns (id : String) (σ : DevSession) : Nat := runsOf id σ.pending

private theorem openRuns_eq_zero {σ} (h : unsettled id σ = false) : openRuns id σ = 0 :=
  countP_eq_zero.2 (fun c hc => by simpa using any_eq_false.1 h c hc)

def current (id : String) (σ : DevSession) : Bool := !σ.missed.any (relevant id)

/-- A run starts from data that nobody has changed, its answer is handled, and nobody else commits a change of the
task until it is committed. -/
def attendedMove (others : List DevSession) (reply : (c : Call) → c.Reply) (σ : DevSession) : Bool :=
  match σ.prog with
  | .call c _ =>
    handled c (reply c) && match c with
      | .runWorkflow id _ => current id σ && others.all (fun τ => !unsettled id τ)
      | _ => true
  | .commit _ => others.all (fun τ => τ.pending.all (fun c =>
      match c.1 with
      | .runWorkflow id _ => !σ.writes.any (relevant id)
      | _ => true))
  | .done _ | .raise _ | .read _ | .write _ _ => true

def isAnyRun : Call → Bool
  | .runWorkflow _ _ => true
  | _ => false

def Attended (cfg : Settings) (s : DevSessions) : SessionAct Call Call.Reply Request → Prop
  | .start _ => True
  | .next i reply => (devAgent cfg).Fresh s (.next i reply) ∧
      s.sessions[i]?.all (attendedMove (s.sessions.eraseIdx i) reply) = true
  | .stop i => s.sessions[i]?.all (fun σ => σ.pending.all (fun c => !isAnyRun c.1)) = true

instance (cfg : Settings) (s : DevSessions) (a : SessionAct Call Call.Reply Request) :
    Decidable (Attended cfg s a) := by
  unfold Attended
  split <;> infer_instance

/-! ### Interleavings -/

structure Accounted (cfg : Settings) (id : String) (s : DevSessions) : Prop where
  tracked : Tracked (devAgent cfg) (rowMonitor id true) (relevant id) s
  current : ∀ σ ∈ s.sessions, unsettled id σ = true → current id σ = true
  exclusive : ∀ (i j : Nat) (σ τ : DevSession), s.sessions[i]? = some σ → s.sessions[j]? = some τ →
    unsettled id σ = true → unsettled id τ = true → i = j
  account : runsOf id s.calls ≤ used (s.db.tasks.get id) + (s.sessions.map (openRuns id)).sum

section

variable {cfg : Settings} {id : String} {s t : DevSessions} {σ σ' : DevSession} {i : Nat}

private theorem Accounted.put (h : Accounted cfg id s) (hσ : s.sessions[i]? = some σ) (hp : σ'.pending = σ.pending)
    (hm : σ'.missed = σ.missed) (ht : Tracked (devAgent cfg) (rowMonitor id true) (relevant id) (s.put i σ')) :
    Accounted cfg id (s.put i σ') := by
  have ho : unsettled id σ' = unsettled id σ := by rw [unsettled, hp, unsettled]
  have hc : Transactions.current id σ' = Transactions.current id σ := by
    rw [Transactions.current, hm, Transactions.current]
  -- the session at `i` is open just as it was before
  have hb (l : Nat) (θ : DevSession) (hθ : (s.sessions.set i σ')[l]? = some θ) (hθopen : unsettled id θ = true) :
      ∃ θ', s.sessions[l]? = some θ' ∧ unsettled id θ' = true := by
    rcases getElem?_set_cases hθ with ⟨rfl, rfl⟩ | ⟨-, hol⟩
    · exact ⟨σ, hσ, ho ▸ hθopen⟩
    · exact ⟨θ, hol, hθopen⟩
  refine ⟨ht, fun τ hτ hτopen => ?_, fun j k τ τ' hτ hτ' hτopen hτopen' => ?_, ?_⟩
  · rcases mem_or_eq_of_mem_set hτ with hol | rfl
    · exact h.current τ hol hτopen
    · rw [hc]
      exact h.current σ (mem_of_getElem? hσ) (ho ▸ hτopen)
  · obtain ⟨θ, hθ, hθopen⟩ := hb j τ hτ hτopen
    obtain ⟨θ', hθ', hθopen'⟩ := hb k τ' hτ' hτopen'
    exact h.exclusive j k θ θ' hθ hθ' hθopen hθopen'
  · have hsm := sum_map_set_add (openRuns id) hσ σ'
    have hs : openRuns id σ' = openRuns id σ := congrArg (runsOf id) hp
    have ha := h.account
    change runsOf id s.calls ≤ used (s.db.tasks.get id) + ((s.sessions.set i σ').map (openRuns id)).sum
    omega

private theorem Accounted.start (h : Accounted cfg id s) {request}
    (ht : Tracked (devAgent cfg) (rowMonitor id true) (relevant id)
      { s with sessions := s.sessions ++ [(devAgent cfg).opened request] }) :
    Accounted cfg id { s with sessions := s.sessions ++ [(devAgent cfg).opened request] } := by
  refine ⟨ht, fun τ hτ hτopen => ?_, fun j k τ τ' hτ hτ' hτopen hτopen' => ?_, ?_⟩
  · rcases mem_concat.1 hτ with hτ | rfl
    · exact h.current τ hτ hτopen
    · cases hτopen
  · rcases getElem?_append_singleton hτ with hτ | ⟨-, rfl⟩
    · rcases getElem?_append_singleton hτ' with hτ' | ⟨-, rfl⟩
      · exact h.exclusive j k τ τ' hτ hτ' hτopen hτopen'
      · cases hτopen'
    · cases hτopen
  · rw [map_append, sum_append]
    exact Nat.le_trans h.account (Nat.add_le_add_left (Nat.le_add_right _ _) _)

private theorem Accounted.stop (h : Accounted cfg id s) (hσ : s.sessions[i]? = some σ) (hs : unsettled id σ = false)
    (ht : Tracked (devAgent cfg) (rowMonitor id true) (relevant id) { s with sessions := s.sessions.eraseIdx i }) :
    Accounted cfg id { s with sessions := s.sessions.eraseIdx i } := by
  refine ⟨ht, fun τ hτ => h.current τ (eraseIdx_subset hτ), fun j k τ τ' hτ hτ' hτopen hτopen' => ?_, ?_⟩
  · simp only [getElem?_eraseIdx] at hτ hτ'
    split at hτ <;> split at hτ' <;> have := h.exclusive _ _ τ τ' hτ hτ' hτopen hτopen' <;> omega
  · have hsm := sum_map_eraseIdx_add (openRuns id) hσ
    have hz := openRuns_eq_zero hs
    have ha := h.account
    change runsOf id s.calls ≤ used (s.db.tasks.get id) + ((s.sessions.eraseIdx i).map (openRuns id)).sum
    omega

private theorem Accounted.call (h : Accounted cfg id s) {r} (hσ : s.sessions[i]? = some σ)
    (ha : isRun id c = true → Transactions.current id σ = true ∧ ∀ τ ∈ s.sessions.eraseIdx i, unsettled id τ = false)
    (ht : Tracked (devAgent cfg) (rowMonitor id true) (relevant id)
      ⟨s.db, s.calls ++ [⟨c, r⟩], s.sessions.set i (σ.called c r k)⟩) :
    Accounted cfg id ⟨s.db, s.calls ++ [⟨c, r⟩], s.sessions.set i (σ.called c r k)⟩ := by
  have ho : unsettled id (σ.called c r k) = (unsettled id σ || isRun id c) := by simp [unsettled, Session.called]
  have hoh (hr : isRun id c = true) (j : Nat) (τ : DevSession) (hne : j ≠ i) (hτ : s.sessions[j]? = some τ) :
      unsettled id τ = false := (ha hr).2 τ (mem_eraseIdx_iff_getElem?.2 ⟨j, hne, hτ⟩)
  -- with the session that calls, no other one is open
  have hot (j : Nat) (τ : DevSession) (hne : j ≠ i) (hτ : s.sessions[j]? = some τ)
      (hm : unsettled id (σ.called c r k) = true) : unsettled id τ = false := by
    rw [ho, Bool.or_eq_true] at hm
    rcases hm with hol | hr
    · by_contra hτopen
      exact hne (h.exclusive j i τ σ hτ hσ (Bool.not_eq_false _ ▸ hτopen) hol)
    · exact hoh hr j τ hne hτ
  refine ⟨ht, fun τ hτ hτopen => ?_, fun j l τ τ' hτ hτ' hτopen hτopen' => ?_, ?_⟩
  · rcases mem_or_eq_of_mem_set hτ with hol | rfl
    · exact h.current τ hol hτopen
    · rw [ho, Bool.or_eq_true] at hτopen
      rcases hτopen with hol | hr
      · exact h.current σ (mem_of_getElem? hσ) hol
      · exact (ha hr).1
  · rcases getElem?_set_cases hτ with ⟨rfl, rfl⟩ | ⟨hj, hol⟩ <;>
      rcases getElem?_set_cases hτ' with ⟨rfl, rfl⟩ | ⟨hl, ho'⟩
    · rfl
    · rw [hot l τ' hl ho' hτopen] at hτopen'
      cases hτopen'
    · rw [hot j τ hj hol hτopen'] at hτopen
      cases hτopen
    · exact h.exclusive j l τ τ' hol ho' hτopen hτopen'
  · have hs := sum_map_set_add (openRuns id) hσ (σ.called c r k)
    have hp : openRuns id (σ.called c r k) = openRuns id σ + runsOf id [⟨c, r⟩] := runsOf_append id _ _
    have hac := h.account
    change runsOf id (s.calls ++ _) ≤
      used (s.db.tasks.get id) + ((s.sessions.set i (σ.called c r k)).map (openRuns id)).sum
    rw [runsOf_append]
    omega

private theorem Accounted.used_commit (h : Accounted cfg id s) (hσ : s.sessions[i]? = some σ)
    (hp : σ.prog = .commit k) :
    openRuns id σ + used (s.db.tasks.get id) ≤ used (((devAgent cfg).visible s.db σ).tasks.get id) := by
  have hmm := mem_of_getElem? hσ
  cases h.tracked.follow σ hmm with
  | undisturbed m hm hr hsn hg =>
    rw [hp] at hg
    have hs := (runBound_of_reach hr).spent
    have hi : m.running = false := hg.1
    replace hsn : ((devAgent cfg).visible s.db σ).tasks.get id = m.row := hsn
    rw [hi] at hs
    rw [hsn]
    exact hs
  | disturbed hm hw =>
    have hc : unsettled id σ = false := by
      by_contra ho
      have hcr := h.current σ hmm (Bool.not_eq_false _ ▸ ho)
      rw [Transactions.current, hm] at hcr
      cases hcr
    have hv : ((devAgent cfg).visible s.db σ).tasks.get id = s.db.tasks.get id :=
      (follows_rowMonitor cfg id true).view_applyAll hw
    rw [openRuns_eq_zero hc, hv, Nat.zero_add]

/-- A commit that leaves the task alone if another session has a run of it under way. -/
theorem Accounted.commit (h : Accounted cfg id s) (hσ : s.sessions[i]? = some σ) (hp : σ.prog = .commit k)
    (ha : ∀ τ ∈ s.sessions.eraseIdx i, unsettled id τ = true → σ.writes.any (relevant id) = false)
    (ht : Tracked (devAgent cfg) (rowMonitor id true) (relevant id) ⟨(devAgent cfg).visible s.db σ, s.calls,
      (s.sessions.map (fun τ => τ.miss σ.writes)).set i (σ.committed k)⟩) :
    Accounted cfg id ⟨(devAgent cfg).visible s.db σ, s.calls,
      (s.sessions.map (fun τ => τ.miss σ.writes)).set i (σ.committed k)⟩ := by
  -- the open sessions are others, as they were before the commit
  have hb (l : Nat) (θ : DevSession)
      (hθ : ((s.sessions.map (fun τ => τ.miss σ.writes)).set i (σ.committed k))[l]? = some θ)
      (hθopen : unsettled id θ = true) :
      ∃ τ, l ≠ i ∧ s.sessions[l]? = some τ ∧ θ = τ.miss σ.writes ∧ unsettled id τ = true := by
    rcases getElem?_set_cases hθ with ⟨rfl, rfl⟩ | ⟨hne, ho⟩
    · cases hθopen
    · rw [getElem?_map] at ho
      obtain ⟨τ, hτ, rfl⟩ := map_eq_some_iff.1 ho
      exact ⟨τ, hne, hτ, rfl, hθopen⟩
  refine ⟨ht, fun θ hθ hθopen => ?_, fun j l θ θ' hθ hθ' hθopen hθopen' => ?_, ?_⟩
  · obtain ⟨l, hl⟩ := mem_iff_getElem?.1 hθ
    obtain ⟨τ, hne, hτ, rfl, hτopen⟩ := hb l θ hl hθopen
    have hc := h.current τ (mem_of_getElem? hτ) hτopen
    have hw := ha τ (mem_eraseIdx_iff_getElem?.2 ⟨l, hne, hτ⟩) hτopen
    unfold Transactions.current at hc ⊢
    rw [Session.miss, any_append, hw, Bool.or_false]
    exact hc
  · obtain ⟨τ, -, hτ, -, hτopen⟩ := hb j θ hθ hθopen
    obtain ⟨τ', -, hτ', -, hτopen'⟩ := hb l θ' hθ' hθopen'
    exact h.exclusive j l τ τ' hτ hτ' hτopen hτopen'
  · have hm : (s.sessions.map (fun τ => τ.miss σ.writes))[i]? = some (σ.miss σ.writes) := by
      rw [getElem?_map, hσ, map_some]
    have hsm := sum_map_set_add (openRuns id) hm (σ.committed k)
    have hs : (s.sessions.map (fun τ => τ.miss σ.writes)).map (openRuns id) = s.sessions.map (openRuns id) := by
      rw [List.map_map]
      rfl
    have hk : openRuns id (σ.miss σ.writes) = openRuns id σ := rfl
    have hn : openRuns id (σ.committed k) = 0 := rfl
    have hu := h.used_commit hσ hp
    have hac := h.account
    rw [hs] at hsm
    dsimp only
    omega

private theorem Attended.fresh (h : Attended cfg s a) : (devAgent cfg).Fresh s a := by
  cases a with
  | start => trivial
  | next => exact h.1
  | stop => trivial

private theorem Attended.move {reply} (h : Attended cfg s (.next i reply)) (hσ : s.sessions[i]? = some σ) :
    attendedMove (s.sessions.eraseIdx i) reply σ = true := by
  have ha := h.2
  rwa [hσ, all_some] at ha

private theorem eq_runWorkflow_of_isRun (h : isRun id c = true) : ∃ workflowId, c = .runWorkflow id workflowId := by
  cases c with
  | runWorkflow taskId workflowId =>
    obtain rfl := of_decide_eq_true h
    exact ⟨workflowId, rfl⟩
  | _ => cases h

private theorem Accounted.step (h : Accounted cfg id s) (hok : Attended cfg s a)
    (hs : (devAgent cfg).step s a = some t) :
    Accounted cfg id t := by
  have ht : Tracked (devAgent cfg) (rowMonitor id true) (relevant id) t := by
    refine tracked_step h.tracked hok.fresh hs ?_
    rintro - i reply σ c k rfl hσ hp
    have hm := hok.move hσ
    rw [attendedMove, hp] at hm
    exact (Bool.and_eq_true_iff.1 hm).1
  cases Server.moves_of_step hs with
  | start => exact h.start ht
  | read hσ => exact h.put hσ rfl rfl ht
  | skip hσ => exact h.put hσ rfl rfl ht
  | write hσ => exact h.put hσ rfl rfl ht
  | @call i reply σ c k hσ hp =>
    refine h.call hσ (fun hr => ?_) ht
    have hm := hok.move hσ
    obtain ⟨workflowId, rfl⟩ := eq_runWorkflow_of_isRun hr
    rw [attendedMove, hp] at hm
    obtain ⟨hcr, hot⟩ := Bool.and_eq_true_iff.1 (Bool.and_eq_true_iff.1 hm).2
    refine ⟨hcr, fun τ hτ => ?_⟩
    simpa using all_eq_true.1 hot τ hτ
  | @commit i reply σ k hσ hp =>
    refine h.commit hσ hp (fun τ hτ hop => ?_) ht
    have hm := hok.move hσ
    rw [attendedMove, hp] at hm
    obtain ⟨c, hc, hr⟩ := any_eq_true.1 hop
    have ho := all_eq_true.1 (all_eq_true.1 hm τ hτ) c hc
    obtain ⟨workflowId, heq⟩ := eq_runWorkflow_of_isRun hr
    rw [heq] at ho
    simpa using ho
  | @stop i hi =>
    have hσ := getElem?_eq_getElem hi
    refine h.stop hσ ?_ ht
    have ha : s.sessions[i]?.all (fun σ => σ.pending.all (fun c => !isAnyRun c.1)) = true := hok
    rw [hσ, all_some] at ha
    refine any_eq_false.2 (fun c hc hr => ?_)
    obtain ⟨workflowId, heq⟩ := eq_runWorkflow_of_isRun hr
    have hn := all_eq_true.1 ha c hc
    rw [heq] at hn
    cases hn

private theorem accounted_of_no_sessions (hs : s.sessions = []) (hc : s.calls = []) : Accounted cfg id s where
  tracked := tracked_of_no_sessions _ _ _ hs
  current := by simp [hs]
  exclusive := by simp [hs]
  account := by simp [hc, runsOf]

private theorem Accounted.runs_le (h : Accounted cfg id s) : runsOf id s.calls ≤ 1 + retriesOf (s.db.tasks.get id) := by
  have ha := h.account
  by_cases hnn : ∀ σ ∈ s.sessions, unsettled id σ = false
  · have hz : (s.sessions.map (openRuns id)).sum = 0 := by
      refine sum_eq_zero (fun n hn => ?_)
      obtain ⟨σ, hσ, rfl⟩ := mem_map.1 hn
      exact openRuns_eq_zero (hnn σ hσ)
    have hu := used_le (s.db.tasks.get id)
    omega
  · push Not at hnn
    obtain ⟨σ, hmm, ho⟩ := hnn
    replace ho := Bool.eq_true_of_not_eq_false ho
    obtain ⟨i, hσ⟩ := mem_iff_getElem?.1 hmm
    have hs : (s.sessions.map (openRuns id)).sum = openRuns id σ := by
      refine sum_map_eq_of_others (openRuns id) hσ (fun j τ hne hτ => openRuns_eq_zero ?_)
      by_contra hτopen
      exact hne (h.exclusive j i τ σ hτ hσ (Bool.not_eq_false _ ▸ hτopen) ho)
    cases h.tracked.follow σ hmm with
    | undisturbed m hm hr =>
      have hb := (runBound_of_reach hr).bound
      change openRuns id σ + used (s.db.tasks.get id) ≤ 1 + retriesOf (s.db.tasks.get id) at hb
      omega
    | disturbed hm =>
      have hc := h.current σ hmm ho
      rw [Transactions.current, hm] at hc
      cases hc

/-- As long as runs and the commits of their statuses are not torn apart, a task is run at most once more than it was
retried. -/
theorem runs_le_retries (cfg : Settings) (db : DevDb) (s : DevSessions)
    (hrun : Run (Steps (devAgent cfg).step) (Attended cfg) (noSessions db) s) (id : String) :
    runsOf id s.calls ≤ 1 + retriesOf (s.db.tasks.get id) :=
  (hrun.invariant (accounted_of_no_sessions rfl rfl) (fun _ _ _ h hok hs => h.step hok hs)).runs_le

end

/-! ### A crash -/

def startsQueued : List (SessionAct Call Call.Reply Request) :=
  twoTasks ++ .start (.cancelWorkflow "dev_1") :: goesOn 0 3 succeeds ++
    [.stop 0, .start (.reconcile 5)] ++ goesOn 0 10 succeeds

/-- A queued task is run once. -/
theorem runs_le_retries_queued :
    ∃ s, Run (Steps (devAgent (smallAgent 1)).step) (Attended (smallAgent 1)) (noSessions .empty) s ∧
      runsOf "dev_2" s.calls = 1 ∧ runsOf "dev_2" s.calls ≤ 1 + retriesOf (s.db.tasks.get "dev_2") :=
  exists_run_and (startsQueued ++ goesOn 0 5 succeeds) (by decide +kernel)
    (fun s hr => runs_le_retries (smallAgent 1) .empty s hr "dev_2")

/-- The agent stops after the run and before the commit, and the next reconciliation runs the task again. -/
theorem crash_runs_twice : ∃ s, Run (Steps (devAgent (smallAgent 1)).step) Always (noSessions .empty) s ∧
      (s.db.tasks.get "dev_2").isSome = true ∧ 1 + retriesOf (s.db.tasks.get "dev_2") < runsOf "dev_2" s.calls :=
  exists_run_exec (startsQueued ++ [.stop 0, .start (.reconcile 6)] ++ goesOn 0 10 succeeds) (by decide +kernel)

end WisdoverseCell.DevAgent.Transactions
