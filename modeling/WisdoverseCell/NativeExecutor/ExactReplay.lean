import WisdoverseCell.Library.Pool
import WisdoverseCell.NativeExecutor.Dispatch

/-!
# One invocation, one receipt

Over every interleaving of calls, failures and crashes, the handler is invoked at most once for a run, and every call
that returns a response returns the stored one.  The permissions to invoke the handler that are out and those that were
used add up to at most one for each run (`ExecutorSound`).
-/

namespace WisdoverseCell.NativeExecutor

open List Option Table
open ControlPlane (Runtime)

variable {f : Row → Row} {c' c : Call} {calls : List Call} {i now : Nat} {stage : Stage} {j : Json} {rt : Runtime}
  {s t : Sys} {a : Act} {ledger ledger' ledger'' : Ledger} {row row' row'' : Row} {runId hash : String}
  {response : ExecutorResponse}

/-! ### What a later ledger keeps -/

/-- The row is unchanged, or it was running and has come to a final state. -/
def Row.Follows (row row' : Row) : Prop :=
  row' = row ∨ (row.state = .running ∧ row'.state ≠ .running ∧ row'.runId = row.runId ∧
    row'.companyId = row.companyId ∧ row'.requestHash = row.requestHash ∧ row'.createdAt = row.createdAt)

def Ledger.Follows (ledger ledger' : Ledger) : Prop := ∀ row ∈ ledger, ∃ row' ∈ ledger', row.Follows row'

private theorem Row.Follows.trans (h : row.Follows row') (h' : row'.Follows row'') : row.Follows row'' := by
  rcases h with rfl | ⟨hr, hf, hs⟩
  · exact h'
  · rcases h' with rfl | ⟨hr', -⟩
    · exact .inr ⟨hr, hf, hs⟩
    · exact absurd hr' hf

private theorem Row.Follows.runId_eq (h : row.Follows row') : row'.runId = row.runId := by
  rcases h with rfl | ⟨-, -, hr, -⟩
  · rfl
  · exact hr

private theorem Row.Follows.requestHash_eq (h : row.Follows row') : row'.requestHash = row.requestHash := by
  rcases h with rfl | ⟨-, -, -, -, hh, -⟩
  · rfl
  · exact hh

private theorem Ledger.Follows.refl (ledger : Ledger) : ledger.Follows ledger := fun row hr => ⟨row, hr, .inl rfl⟩

private theorem Ledger.Follows.trans (h : ledger.Follows ledger') (h' : ledger'.Follows ledger'') :
    ledger.Follows ledger'' := by
  intro row hr
  obtain ⟨row', hr', hf⟩ := h row hr
  obtain ⟨row'', hr'', hf'⟩ := h' row' hr'
  exact ⟨row'', hr'', hf.trans hf'⟩

private theorem Ledger.Follows.insert (h : ledger.insert row = some ledger') : ledger.Follows ledger' :=
  fun row' hr' => ⟨row', (mem_insert h).2 (.inl hr'), .inl rfl⟩

private theorem Row.openFor_iff : row.openFor runId hash = true ↔
    row.runId = runId ∧ row.requestHash = hash ∧ row.state = .running := by
  simp [Row.openFor]

private theorem Ledger.Follows.update (hf : ∀ row, (f row).runId = row.runId) (hs : ∀ row, (f row).state ≠ .running)
    (hc : ∀ row, (f row).companyId = row.companyId) (hh : ∀ row, (f row).requestHash = row.requestHash)
    (hcr : ∀ row, (f row).createdAt = row.createdAt) :
    ledger.Follows (ledger.update (fun row => row.openFor runId hash) f hf) := by
  intro row hr
  refine ⟨_, update_mem hf hr, ?_⟩
  split
  · rename_i ho
    exact .inr ⟨(Row.openFor_iff.1 ho).2.2, hs row, hf row, hc row, hh row, hcr row⟩
  · exact .inl rfl

private theorem Ledger.complete_eq_some (h : ledger.complete runId hash response now = some ledger') :
    (∃ row ∈ ledger, row.openFor runId hash = true) ∧
      ledger' = ledger.update (fun row => row.openFor runId hash) (fun row => { row with
        state := .completed response.status
        response := some response.modelDump
        updatedAt := now }) (by intro; rfl) := by
  obtain ⟨ha, h⟩ := ite_none_right_eq_some.1 h
  exact ⟨any_eq_true.1 ha, (some.inj h).symm⟩

private theorem Ledger.Follows.complete (h : ledger.complete runId hash response now = some ledger') :
    ledger.Follows ledger' := by
  obtain ⟨-, rfl⟩ := Ledger.complete_eq_some h
  exact .update _ (fun _ => nofun) (fun _ => rfl) (fun _ => rfl) (fun _ => rfl)

private theorem Ledger.Follows.markUncertain : ledger.Follows (ledger.markUncertain runId hash now) :=
  .update _ (fun _ => nofun) (fun _ => rfl) (fun _ => rfl) (fun _ => rfl)

/-! ### Rows -/

/-- A completed row has a dumped response of its status, any other row has none. -/
def Row.Sound (row : Row) : Prop :=
  (row.response = none ∧ (row.state = .running ∨ row.state = .uncertain)) ∨
  ∃ response : ExecutorResponse, row.response = some response.modelDump ∧ row.state = .completed response.status ∧
    (response.status = .recorded ∨ response.status = .failed)

private theorem Row.Sound.response_eq_none (h : row.Sound) (hr : row.state = .running) : row.response = none := by
  rcases h with ⟨hn, -⟩ | ⟨response, -, hs, -⟩
  · exact hn
  · rw [hr] at hs
    cases hs

private theorem Row.Sound.ne_running (h : row.Sound) (hj : row.response = some j) : row.state ≠ .running := by
  intro hr
  rw [h.response_eq_none hr] at hj
  cases hj

private theorem Row.Sound.eq_of_follows (h : row.Sound) (hj : row.response = some j) (hf : row.Follows row') :
    row' = row := by
  rcases hf with heq | ⟨hr, -⟩
  · exact heq
  · exact absurd hr (h.ne_running hj)

private theorem Row.Sound.modelDump_eq (h : row.Sound) (hj : row.response = some j)
    (hv : ExecutorResponse.modelValidate j = some response) : row.response = some response.modelDump := by
  rcases h with ⟨hn, -⟩ | ⟨stored, hs, -⟩
  · rw [hn] at hj
    cases hj
  · obtain rfl : stored.modelDump = j := some.inj (hs.symm.trans hj)
    rw [ExecutorResponse.modelValidate_modelDump] at hv
    rw [hs, some.inj hv]

def Ledger.Sound (ledger : Ledger) : Prop := ∀ row ∈ ledger, row.Sound

private theorem Ledger.Sound.insert {r} (h : ledger.Sound)
    (hi : ledger.insert (claimRow rt r now) = some ledger') : ledger'.Sound := by
  intro row hr
  rcases (mem_insert hi).1 hr with ho | rfl
  · exact h row ho
  · exact .inl ⟨rfl, .inl rfl⟩

private theorem Ledger.Sound.update {p hf} (h : ledger.Sound)
    (hr : ∀ row ∈ ledger, p row = true → (f row).Sound) : Ledger.Sound (ledger.update p f hf) := by
  intro row hrw
  obtain ⟨old, ho, rfl⟩ := mem_update.1 hrw
  split
  · rename_i hp
    exact hr old ho hp
  · exact h old ho

private theorem Ledger.Sound.complete (h : ledger.Sound) (hs : response.status = .recorded ∨ response.status = .failed)
    (hc : ledger.complete runId hash response now = some ledger') : ledger'.Sound := by
  obtain ⟨-, rfl⟩ := Ledger.complete_eq_some hc
  exact h.update (fun _ _ _ => .inr ⟨response, rfl, rfl, hs⟩)

private theorem Ledger.Sound.markUncertain (h : ledger.Sound) : Ledger.Sound (ledger.markUncertain runId hash now) := by
  refine h.update (fun row hr ho => .inl ⟨?_, .inr rfl⟩)
  exact (h row hr).response_eq_none (Row.openFor_iff.1 ho).2.2

/-! ### Stored digests and responses -/

def Ledger.Holds (ledger : Ledger) (runId hash : String) : Prop :=
  ∃ row ∈ ledger, row.runId = runId ∧ row.requestHash = hash

def Ledger.Answers (ledger : Ledger) (runId hash : String) (response : ExecutorResponse) : Prop :=
  ∃ row ∈ ledger, row.runId = runId ∧ row.requestHash = hash ∧ row.response = some response.modelDump

private theorem Ledger.Holds.follows (h : ledger.Holds runId hash) (hf : ledger.Follows ledger') :
    ledger'.Holds runId hash := by
  obtain ⟨row, hrw, hrn, hh⟩ := h
  obtain ⟨row', hr', hr⟩ := hf row hrw
  exact ⟨row', hr', hr.runId_eq.trans hrn, hr.requestHash_eq.trans hh⟩

private theorem Ledger.Follows.mem (hf : ledger.Follows ledger') (hs : ledger.Sound) (hrw : row ∈ ledger)
    (hj : row.response = some j) : row ∈ ledger' := by
  obtain ⟨row', hr', hr⟩ := hf row hrw
  rwa [(hs row hrw).eq_of_follows hj hr] at hr'

private theorem Ledger.Answers.follows (h : ledger.Answers runId hash response) (hs : ledger.Sound)
    (hf : ledger.Follows ledger') : ledger'.Answers runId hash response := by
  obtain ⟨row, hr, hrn, hh, hj⟩ := h
  exact ⟨row, hf.mem hs hr hj, hrn, hh, hj⟩

private theorem Ledger.Answers.of_complete (h : ledger.complete runId hash response now = some ledger') :
    ledger'.Answers runId hash response := by
  obtain ⟨⟨row, hr, ho⟩, rfl⟩ := Ledger.complete_eq_some h
  obtain ⟨hrn, hh, -⟩ := Row.openFor_iff.1 ho
  refine ⟨_, update_mem _ hr, ?_⟩
  rw [if_pos ho]
  exact ⟨hrn, hh, rfl⟩

/-! ### Permissions -/

def Call.permits (c : Call) (runId : String) : Bool :=
  match c.stage with
  | .permitted => c.request.runId = runId
  | .claiming | .reading | .handling | .completing _ | .failing | .answering _ => false

/-- The permissions to invoke the handler for a run: those that are out and those that were used. -/
def Sys.permits (s : Sys) (runId : String) : Nat :=
  s.calls.countP (fun c => c.permits runId) + s.history.invocations.countP (fun inv => inv.request.runId = runId)

/-- A call that is not about to invoke the handler adds no permission. -/
theorem countP_set_le (hc : calls[i]? = some c) (h : c'.permits runId = false) :
    (calls.set i c').countP (fun c => c.permits runId) ≤ calls.countP (fun c => c.permits runId) := by
  have hcn := countP_set_add (p := fun c : Call => c.permits runId) (b := c') hc
  rw [h, if_neg Bool.false_ne_true] at hcn
  omega

/-! ### The invariant -/

def Call.Sound (rt : Runtime) (ledger : Ledger) (c : Call) : Prop :=
  match c.stage with
  | .permitted => ledger.Holds c.request.runId (requestDigest rt c.request)
  | .completing response => response.status = .recorded ∨ response.status = .failed
  | .answering response => ledger.Answers c.request.runId (requestDigest rt c.request) response
  | .claiming | .reading | .handling | .failing => True

structure ExecutorSound (rt : Runtime) (s : Sys) : Prop where
  rows : s.ledger.Sound
  calls : ∀ c ∈ s.calls, c.Sound rt s.ledger
  once : ∀ runId, s.permits runId ≤ 1
  invocations : ∀ inv ∈ s.history.invocations, s.ledger.Holds inv.request.runId (requestDigest rt inv.request)
  answers : ∀ q ∈ s.history.answers, s.ledger.Answers q.1.runId (requestDigest rt q.1) q.2
  receipts : ∀ q ∈ s.history.receipts, ∃ hash, s.ledger.Answers q.1 hash q.2

private theorem Call.Sound.follows (h : c.Sound rt ledger) (hs : ledger.Sound) (hf : ledger.Follows ledger') :
    c.Sound rt ledger' := by
  unfold Call.Sound at h ⊢
  split at h
  · exact h.follows hf
  · exact h
  · exact h.follows hs hf
  all_goals trivial

private theorem ExecutorSound.next (h : ExecutorSound rt s) (hf : s.ledger.Follows t.ledger) (hrw : t.ledger.Sound)
    (hcl : ∀ c ∈ t.calls, c ∈ s.calls ∨ c.Sound rt t.ledger) (ho : ∀ runId, t.permits runId ≤ 1)
    (hi : ∀ inv ∈ t.history.invocations, inv ∈ s.history.invocations ∨
      t.ledger.Holds inv.request.runId (requestDigest rt inv.request))
    (ha : ∀ q ∈ t.history.answers, q ∈ s.history.answers ∨ t.ledger.Answers q.1.runId (requestDigest rt q.1) q.2)
    (hr : ∀ q ∈ t.history.receipts, q ∈ s.history.receipts ∨ ∃ hash, t.ledger.Answers q.1 hash q.2) :
    ExecutorSound rt t where
  rows := hrw
  calls c hc := by
    rcases hcl c hc with hol | hn
    · exact (h.calls c hol).follows h.rows hf
    · exact hn
  once := ho
  invocations inv hin := by
    rcases hi inv hin with hol | hn
    · exact (h.invocations inv hol).follows hf
    · exact hn
  answers q hq := by
    rcases ha q hq with hol | hn
    · exact (h.answers q hol).follows h.rows hf
    · exact hn
  receipts q hq := by
    rcases hr q hq with hol | hn
    · obtain ⟨hash, hol⟩ := h.receipts q hol
      exact ⟨hash, hol.follows h.rows hf⟩
    · exact hn

private theorem ExecutorSound.silent (h : ExecutorSound rt s) (hf : s.ledger.Follows t.ledger) (hr : t.ledger.Sound)
    (hh : t.history = s.history) (hc : ∀ c ∈ t.calls, c ∈ s.calls ∨ c.Sound rt t.ledger)
    (ho : ∀ runId, t.permits runId ≤ 1) : ExecutorSound rt t :=
  h.next hf hr hc ho (fun _ hi => .inl (hh ▸ hi)) (fun _ hq => .inl (hh ▸ hq))
    (fun _ hq => .inl (hh ▸ hq))

private theorem ExecutorSound.once_of_calls (h : ExecutorSound rt s)
    (hh : t.history.invocations = s.history.invocations)
    (hc : t.calls.countP (fun c => c.permits runId) ≤ s.calls.countP (fun c => c.permits runId)) :
    t.permits runId ≤ 1 := by
  have ho := h.once runId
  unfold Sys.permits at ho ⊢
  rw [hh]
  omega

private theorem ExecutorSound.permits_eq_zero (h : ExecutorSound rt s) (hf : ∀ row ∈ s.ledger, row.runId ≠ runId) :
    s.permits runId = 0 := by
  have hcl : s.calls.countP (fun c => c.permits runId) = 0 := by
    refine countP_eq_zero.2 (fun c hc hp => ?_)
    have hs := h.calls c hc
    unfold Call.permits at hp
    split at hp
    · rename_i hst
      rw [Call.Sound, hst] at hs
      obtain ⟨row, hr, hrn, -⟩ := hs
      exact hf row hr (hrn.trans (of_decide_eq_true hp))
    all_goals cases hp
  have hi : s.history.invocations.countP (fun inv => inv.request.runId = runId) = 0 := by
    refine countP_eq_zero.2 (fun inv hin hrn => ?_)
    obtain ⟨row, hr, hrow_run, -⟩ := h.invocations inv hin
    exact hf row hr (hrow_run.trans (of_decide_eq_true hrn))
  rw [Sys.permits, hcl, hi]

private theorem mem_or_sound_of_set (h : c'.Sound rt ledger) : ∀ x ∈ calls.set i c', x ∈ calls ∨ x.Sound rt ledger := by
  intro x hx
  rcases mem_or_eq_of_mem_set hx with ho | rfl
  · exact .inl ho
  · exact .inr h

private theorem Moves.sound (hs : ExecutorSound rt s) (h : Moves rt s c stage) :
    Call.Sound rt s.ledger { c with stage := stage } := by
  cases h with
  | conflict => trivial
  | replayed hsr hh =>
    obtain ⟨hr, hrn, j, hj, hv⟩ := hsr
    exact ⟨_, hr, hrn, hh, (hs.rows _ hr).modelDump_eq hj hv⟩
  | built hb => exact buildResponse_status hb
  | failed => trivial

private theorem Moves.permits_eq_false (h : Moves rt s c stage) :
    Call.permits { c with stage := stage } runId = false := by
  cases h <;> rfl

private theorem effect_executorSound (hs : ExecutorSound rt s) (h : Effect rt s t) : ExecutorSound rt t := by
  cases h with
  | arrived c hsg =>
    refine hs.silent (.refl _) hs.rows rfl (fun x hx => ?_) (fun runId => ?_)
    · rcases mem_concat.1 hx with hx | rfl
      · exact .inl hx
      · exact .inr (by simp [Call.Sound, hsg])
    · refine hs.once_of_calls rfl ?_
      simp [countP_append, Call.permits, hsg]
  | left =>
    exact hs.silent (.refl _) hs.rows rfl (fun x hx => .inl (eraseIdx_subset hx))
      (fun runId => hs.once_of_calls rfl (countP_eraseIdx_le _ _ _))
  | moved hc hm =>
    have hsn := hm.sound hs
    exact hs.silent (.refl _) hs.rows rfl (mem_or_sound_of_set hsn)
      (fun runId => hs.once_of_calls rfl (countP_set_le hc hm.permits_eq_false))
  | @granted i now c ledger hc hi =>
    have hf := (insert_eq_some hi).2
    have hhl : ledger.Holds c.request.runId (requestDigest rt c.request) := ⟨_, (mem_insert hi).2 (.inr rfl), rfl, rfl⟩
    refine hs.silent (.insert hi) (hs.rows.insert hi) rfl (mem_or_sound_of_set hhl) (fun runId => ?_)
    by_cases hrn : runId = c.request.runId
    · -- the run was not in the ledger, so this is its first permission
      subst hrn
      have hz : s.permits c.request.runId = 0 := hs.permits_eq_zero hf
      unfold Sys.permits at hz ⊢
      have hcn := countP_set_add (p := fun c' : Call => c'.permits c.request.runId)
        (b := { c with stage := .permitted }) hc
      have hon : (if Call.permits { c with stage := .permitted } c.request.runId then 1 else 0) = 1 :=
        if_pos (decide_eq_true rfl)
      simp only [Sys.move]
      omega
    · refine hs.once_of_calls rfl (countP_set_le hc ?_)
      exact decide_eq_false (Ne.symm hrn)
  | @invoked i c hc hsg =>
    have hhl : s.ledger.Holds c.request.runId (requestDigest rt c.request) := by
      have hsn := hs.calls c (mem_of_getElem? hc)
      rwa [Call.Sound, hsg] at hsn
    refine hs.next (.refl _) hs.rows (mem_or_sound_of_set trivial) (fun runId => ?_) (fun inv hin => ?_)
      (fun _ hq => .inl hq) (fun _ hq => .inl hq)
    · have ho := hs.once runId
      unfold Sys.permits at ho ⊢
      simp only [invoke, Sys.move, countP_append, countP_singleton]
      by_cases hrn : c.request.runId = runId
      · have hp : c.permits runId = true := by simp [Call.permits, hsg, hrn]
        have hh : Call.permits { c with stage := .handling } runId = false := rfl
        have hu := countP_set_add (p := fun c : Call => c.permits runId) (b := { c with stage := .handling }) hc
        rw [hp, hh, if_pos rfl, if_neg Bool.false_ne_true] at hu
        simp only [hrn, decide_true, if_true]
        omega
      · have hh : Call.permits { c with stage := .handling } runId = false := rfl
        have hle := countP_set_le hc hh
        simp only [hrn, decide_false, Bool.false_eq_true, if_false]
        omega
    · rcases mem_concat.1 hin with hin | rfl
      · exact .inl hin
      · exact .inr hhl
  | @completed i now c response ledger stage hc hsg hl hn =>
    have hst := hs.calls c (mem_of_getElem? hc)
    rw [Call.Sound, hsg] at hst
    have hsn : Call.Sound rt ledger { c with stage := stage } := by
      rcases hn with rfl | rfl
      · trivial
      · exact Ledger.Answers.of_complete hl
    refine hs.silent (.complete hl) (hs.rows.complete hst hl) rfl (mem_or_sound_of_set hsn)
      (fun runId => hs.once_of_calls rfl (countP_set_le hc ?_))
    rcases hn with rfl | rfl <;> rfl
  | uncertain =>
    exact hs.silent .markUncertain hs.rows.markUncertain rfl (fun x hx => .inl (eraseIdx_subset hx))
      (fun runId => hs.once_of_calls rfl (countP_eraseIdx_le _ _ _))
  | @answered i c response hc hsg =>
    have ha : s.ledger.Answers c.request.runId (requestDigest rt c.request) response := by
      have hsn := hs.calls c (mem_of_getElem? hc)
      rwa [Call.Sound, hsg] at hsn
    refine hs.next (.refl _) hs.rows (fun x hx => .inl (eraseIdx_subset hx))
      (fun runId => hs.once_of_calls rfl (countP_eraseIdx_le _ _ _)) (fun _ hin => .inl hin)
      (fun q hq => ?_) (fun _ hq => .inl hq)
    rcases mem_concat.1 hq with hq | rfl
    · exact .inl hq
    · exact .inr ha
  | lookedUp receipts hr =>
    refine hs.next (.refl _) hs.rows (fun _ hc => .inl hc) hs.once (fun _ hin => .inl hin)
      (fun _ hq => .inl hq) (fun q hq => ?_)
    rcases mem_append.1 hq with hol | hnw
    · exact .inl hol
    · obtain ⟨row, hrw, hrn, j, hj, hv⟩ := hr q hnw
      exact .inr ⟨row.requestHash, row, hrw, hrn, rfl, (hs.rows row hrw).modelDump_eq hj hv⟩

private theorem effect_follows (h : Effect rt s t) : s.ledger.Follows t.ledger := by
  cases h with
  | granted _ hi => exact .insert hi
  | completed _ _ hl => exact .complete hl
  | uncertain => exact .markUncertain
  | arrived | left | moved | invoked | answered | lookedUp => exact .refl _

/-! ### Runs -/

def Sys.init : Sys := ⟨empty, [], ⟨[], [], []⟩⟩

private theorem init_executorSound : ExecutorSound rt Sys.init where
  rows row hr := absurd hr (not_mem_empty row)
  calls _ hc := nomatch hc
  once _ := Nat.zero_le _
  invocations _ hi := nomatch hi
  answers _ hq := nomatch hq
  receipts _ hq := nomatch hq

private theorem run_follows (h : Run (Steps (step rt)) Always s t) : s.ledger.Follows t.ledger :=
  h.relates (Q := fun s t => s.ledger.Follows t.ledger) (fun _ => .refl _) (fun _ _ _ h h' => h.trans h')
    (fun _ _ _ _ hs => effect_follows (step_effect hs))

private theorem Row.Sound.states (h : row.Sound) : row.state = .running ∨ row.state = .uncertain ∨
    row.state = .completed .recorded ∨ row.state = .completed .failed := by
  rcases h with ⟨-, hr | hu⟩ | ⟨response, -, hst, hs | hs⟩
  · exact .inl hr
  · exact .inr (.inl hu)
  · exact .inr (.inr (.inl (hs ▸ hst)))
  · exact .inr (.inr (.inr (hs ▸ hst)))

/-- In every state of every run: the handler was invoked at most once for a run, and only for the request whose digest
is stored; rows are running, recorded, failed or uncertain, and in every later state a row is as it is now or has gone
from running to one of the other states; and every response that was returned for a run is the stored one. -/
theorem executed_once_replayed_exactly {rt : Runtime} {t : Sys} (h : Run (Steps (step rt)) Always Sys.init t) :
    (∀ runId, t.history.invocations.countP (fun inv => inv.request.runId = runId) ≤ 1) ∧
    (∀ inv ∈ t.history.invocations, ∃ row ∈ t.ledger, row.runId = inv.request.runId ∧
      row.requestHash = requestDigest rt inv.request) ∧
    (∀ row ∈ t.ledger, row.state = .running ∨ row.state = .uncertain ∨ row.state = .completed .recorded ∨
      row.state = .completed .failed) ∧
    (∀ u, Run (Steps (step rt)) Always t u → t.ledger.Follows u.ledger) ∧
    (∀ q ∈ t.history.answers, ∃ row ∈ t.ledger, row.runId = q.1.runId ∧ row.requestHash = requestDigest rt q.1 ∧
      row.response = some q.2.modelDump) ∧
    (∀ q ∈ t.history.receipts, ∃ row ∈ t.ledger, row.runId = q.1 ∧ row.response = some q.2.modelDump) ∧
    ∀ q ∈ t.history.answers, ∀ q' ∈ t.history.answers, q.1.runId = q'.1.runId → q.2.modelDump = q'.2.modelDump := by
  have hs : ExecutorSound rt t := h.invariant (I := ExecutorSound rt) init_executorSound
      (fun _ _ _ hs _ hst => effect_executorSound hs (step_effect hst))
  refine ⟨fun runId => ?_, hs.invocations, fun row hrw => (hs.rows row hrw).states,
    fun u hrn => run_follows hrn, hs.answers, fun q hq => ?_, fun q hq q' hq' hrn => ?_⟩
  · have ho := hs.once runId
    unfold Sys.permits at ho
    omega
  · obtain ⟨hash, row, hrw, hrn, -, hr⟩ := hs.receipts q hq
    exact ⟨row, hrw, hrn, hr⟩
  · obtain ⟨row, hrw, hrow_run, -, hr⟩ := hs.answers q hq
    obtain ⟨row', hrw', hrow_run', -, hr'⟩ := hs.answers q' hq'
    obtain rfl : row = row' := eq_of_key_eq hrw hrw' (hrow_run.trans (hrn.trans hrow_run'.symm))
    exact some.inj (hr.symm.trans hr')

/-! ### A duplicate and a conflicting call -/

def plainRuntime : Runtime := ⟨fun _ => "digest", fun _ => "1.0", fun _ => "", fun _ => none, fun _ => none⟩

def qaExecutor (companyId : String) : Executor := ⟨"qa-agent", companyId, ["run"]⟩

def runRequest (companyId : String) (h : bounded 48 companyId) : ExecutorRequest where
  companyId := companyId
  action := "run"
  agentId := "agent"
  runId := "run-1"
  traceId := none
  goalId := none
  workItemId := none
  input := []
  maxCostUsd := 1
  companyId_bounded := h
  action_bounded := by decide
  agentId_bounded := by decide
  runId_bounded := by decide
  traceId_bounded := nofun
  goalId_bounded := nofun
  workItemId_bounded := nofun
  input_finite := rfl
  maxCostUsd_nonneg := by decide +kernel
  maxCostUsd_le := by decide +kernel

def callsOfRun : List Act :=
  let request := runRequest "a" (by decide)
  let other := runRequest "b" (by decide)
  [.execute (qaExecutor "a") request "run-1", .execute (qaExecutor "a") request "run-1",
    .execute (qaExecutor "b") other "run-1", .claim 1 0, .claim 0 0, .claim 2 0, .invoke 1,
    .finish 1 (some (.object [("status", .str "done")])), .complete 1 1 false, .read 0, .read 2, .answer 0, .answer 0,
    .lookup "a" "run-1"]

/-- Of three concurrent calls for a run, one invokes the handler, one gets its response and one is refused. -/
theorem executed_once_replayed_exactly_contended :
    ∃ t, Run (Steps (step plainRuntime)) Always Sys.init t ∧ t.history.answers.length = 2 ∧
      t.history.receipts.length = 1 ∧ t.calls.length = 0 ∧
      t.history.invocations.countP (fun inv => inv.request.runId = "run-1") ≤ 1 :=
  exists_run_with callsOfRun
    (fun t => t.history.answers.length = 2 ∧ t.history.receipts.length = 1 ∧ t.calls.length = 0) (by decide +kernel)
    (fun _ hrn ⟨ha, hr, hc⟩ => ⟨ha, hr, hc, (executed_once_replayed_exactly hrn).1 "run-1"⟩)

end WisdoverseCell.NativeExecutor
