import WisdoverseCell.Library.Exclusive
import WisdoverseCell.RequirementManager.StatusChanges

/-!
# Handoffs happen once

Behind the lock of its row a handoff finds the receipt of its requirement, or stores a receipt and an event together.  A
requirement has at most one receipt, which has exactly one event with the reviewed text.  The lock keeps the snapshot of
a handoff true until it commits (`Transaction.Holds`).
-/

namespace WisdoverseCell.RequirementManager

open List Option Table Function

variable {command : MutationCommand} {loaded : Requirement} {m : Mutation} {locked : ConfirmedRequirementSnapshot}
  {q : HandoffRequest} {rt : HandoffRuntime} {s : Pool RequirementStore Transaction}

/-! ### What is to hold -/

def Event.handoffOf (e : Event) : Option String :=
  match e.payload with
  | .taskNeedsDecompose payload => some payload.requirementId
  | .requirementConfirmed .. | .requirementRejected .. | .requirementChanged .. => none

def RequirementStore.handoffEvents (store : RequirementStore) (requirementId : String) : List Event :=
  store.outbox.rows.filter (fun e => e.handoffOf = some requirementId)

/-- The event that belongs to a receipt, made from the snapshot of a confirmed requirement whose text was reviewed. -/
structure Announces (rt : HandoffRuntime) (r : DeliveryHandoffReceipt) (locked : ConfirmedRequirementSnapshot)
    (e : Event) : Prop where
  eventId : e.eventId = r.eventId
  payload : ∃ p, e.payload = .taskNeedsDecompose p ∧ p.requirementId = r.requirementId ∧
    p.subject = locked.title ∧ p.description = locked.description ∧
    contentHash rt r.requirementId p.subject p.description = r.requirementHash
  confirmed : locked.requirementId = r.requirementId ∧ locked.status = .confirmed

structure HandoffsOnce (rt : HandoffRuntime) (store : RequirementStore) : Prop where
  mapped : Exclusive store.receipts (fun _ => true) (fun r => (r.companyId, r.projectId, r.wpId))
  announced : ∀ r ∈ store.receipts, ∃ locked e, store.handedOver r.requirementId = some locked ∧
    store.handoffEvents r.requirementId = [e] ∧ Announces rt r locked e
  recorded : ∀ id, store.receipts.get id = none → store.handoffEvents id = []
  commanded : ∀ r ∈ store.receipts, ∃ command : DeliveryHandoffCommand,
    r.commandHash = command.digest rt ∧ r.companyId = command.companyId

def Transaction.Holds (store : RequirementStore) : Transaction → Prop
  | .handoff session q locked => session < store.sessions ∧ locked.requirementId = q.requirementId ∧
    (store.locks q.requirementId = some session →
      ∃ r, store.requirements.get q.requirementId = some r ∧ r.snapshot = locked)
  | .mutation _ _ | .ended _ => True

/-- Locks of earlier sessions are not taken, and the rows behind them do not change. -/
structure LocksRespected (a b : RequirementStore) : Prop where
  sessions : a.sessions ≤ b.sessions
  rows : ∀ id n, n < a.sessions → b.locks id = some n →
    a.locks id = some n ∧ ∀ r, a.requirements.get id = some r → b.requirements.get id = some r

section

variable {rt : HandoffRuntime} {a b : RequirementStore}

private theorem Transaction.Holds.stable {tx : Transaction} (hG : LocksRespected a b) (h : tx.Holds a) :
    tx.Holds b := by
  cases tx with
  | handoff =>
    obtain ⟨hs, hid, hrw⟩ := h
    refine ⟨hs.trans_le hG.sessions, hid, fun hl => ?_⟩
    obtain ⟨ho, hk⟩ := hG.rows _ _ hs hl
    obtain ⟨r, hr, hsn⟩ := hrw ho
    exact ⟨r, hk r hr, hsn⟩
  | mutation => trivial
  | ended => trivial

private theorem HandoffsOnce.of_same (h : HandoffsOnce rt a) (hrc : b.receipts = a.receipts)
    (he : ∀ id, b.handoffEvents id = a.handoffEvents id) (hh : b.handedOver = a.handedOver) :
    HandoffsOnce rt b where
  mapped := hrc ▸ h.mapped
  announced r hr := by
    rw [hh, he]
    exact h.announced r (hrc ▸ hr)
  recorded id hid := (he id).trans (h.recorded id (hrc ▸ hid))
  commanded r hr := h.commanded r (hrc ▸ hr)

private theorem LocksRespected.refl (a) : LocksRespected a a := ⟨le_rfl, fun _ _ _ h => ⟨h, fun _ hr => hr⟩⟩

private theorem LocksRespected.of_unlocked (hs : b.sessions = a.sessions) (hrw : b.requirements = a.requirements)
    (hl : ∀ id n, b.locks id = some n → a.locks id = some n) : LocksRespected a b :=
  ⟨hs.ge, fun id n _ h => ⟨hl id n h, fun _ hr => hrw ▸ hr⟩⟩

end

/-! ### One step -/

section

variable {rt : HandoffRuntime} {a b : RequirementStore}

private theorem handoffEvents_insert {outbox e} (hi : a.outbox.insert e = some outbox) (hb : b.outbox = outbox) (id) :
    b.handoffEvents id = a.handoffEvents id ++ if e.handoffOf = some id then [e] else [] := by
  unfold RequirementStore.handoffEvents
  rw [hb, (insert_eq_some hi).1, filter_append, filter_singleton]
  simp

private theorem mutation_payload (h : command.mutation loaded = .ok (some m)) (eventId traceId correlationId) :
    Event.handoffOf ⟨eventId, m.payload, traceId, correlationId⟩ = none := by
  have hm := mutation_eq_ok h
  cases command with
  | confirm confirmedBy | reject reason rejectedBy | update changes =>
    obtain ⟨_, -, hm⟩ := bind_eq_ok.1 hm
    obtain rfl := pure_eq_ok.1 hm
    rfl

private theorem storeEvent_handoffsOnce {e} (h : storeEvent a e = some b) (hS : HandoffsOnce rt a) :
    HandoffsOnce rt b ∧ LocksRespected a b := by
  cases e with
  | create =>
    obtain ⟨requirements, hi, rfl⟩ := map_eq_some_iff.1 h
    exact ⟨hS.of_same rfl (fun _ => rfl) rfl, le_rfl, fun _ _ _ hl => ⟨hl, fun _ hr => get_insert_of_some hi hr⟩⟩
  | endSession =>
    cases h
    exact ⟨hS.of_same rfl (fun _ => rfl) rfl, .of_unlocked rfl rfl (fun _ _ => locks_of_unlock)⟩

private theorem commit_handoffsOnce {eventId} (h : a.commit command loaded m eventId = some b)
    (hm : command.mutation loaded = .ok (some m)) (hf : a.locks loaded.id = none) (hS : HandoffsOnce rt a) :
    HandoffsOnce rt b ∧ LocksRespected a b := by
  obtain ⟨outbox, confirmedText, hi, rfl, -⟩ := commit_eq_some h
  refine ⟨hS.of_same rfl (fun id => ?_) rfl, le_rfl, fun id n _ hl => ⟨hl, fun r hr => ?_⟩⟩
  · rw [handoffEvents_insert hi rfl, mutation_payload hm, if_neg nofun, append_nil]
  · have hid : id ≠ loaded.id := by
      rintro rfl
      change a.locks loaded.id = some n at hl
      rw [hf] at hl
      cases hl
    change (a.requirements.modify loaded.id m.write m.write_id).get id = some r
    rw [get_modify, if_neg hid, hr]

private theorem save_handoffsOnce (hs : a.save (q.receipt rt) (q.event rt locked) = .ok b)
    (hnw : a.receipts.get q.requirementId = none) (hid : locked.requirementId = q.requirementId)
    (hc : locked.status = .confirmed)
    (hhs : contentHash rt locked.requirementId locked.title locked.description = q.command.requirementHash)
    (hS : HandoffsOnce rt a) :
      HandoffsOnce rt { b with handedOver := update b.handedOver q.requirementId (some locked) } := by
  obtain ⟨hu, receipts, outbox, hrc, ho, rfl⟩ := save_eq_ok hs
  have he (id : String) : RequirementStore.handoffEvents { a with
      receipts := receipts
      outbox := outbox
      handedOver := update a.handedOver q.requirementId (some locked) } id =
      a.handoffEvents id ++ if q.requirementId = id then [q.event rt locked] else [] := by
    rw [handoffEvents_insert ho rfl]
    simp [HandoffRequest.event, Event.handoffOf]
  have hrv : contentHash rt q.requirementId locked.title locked.description = q.command.requirementHash := hid ▸ hhs
  have hm : Announces rt (q.receipt rt) locked (q.event rt locked) := ⟨rfl, ⟨_, rfl, rfl, rfl, rfl, hrv⟩, hid, hc⟩
  constructor
  · exact hS.mapped.insert hrc (fun _ r hr hsl => absurd hsl (hu r hr))
  · intro r hr
    rw [he]
    rcases (mem_insert hrc).1 hr with hr | rfl
    · have hne : q.requirementId ≠ r.requirementId := by
        intro heq
        exact get_eq_none.1 hnw r hr heq.symm
      obtain ⟨locked', e, hh, hev, ha⟩ := hS.announced r hr
      refine ⟨locked', e, ?_, ?_, ha⟩
      · change update a.handedOver q.requirementId (some locked) r.requirementId = some locked'
        rw [update_of_ne hne.symm, hh]
      · rw [hev, if_neg hne, append_nil]
    · refine ⟨locked, q.event rt locked, update_self _ _ _, ?_, hm⟩
      change a.handoffEvents q.requirementId ++ (if q.requirementId = q.requirementId then _ else _) = _
      rw [hS.recorded _ hnw, if_pos rfl, nil_append]
  · intro id hn
    change receipts.get id = none at hn
    rw [get_insert hrc] at hn
    split at hn
    · cases hn
    · rename_i hne
      rw [he, hS.recorded id hn, if_neg (fun heq => hne heq.symm), nil_append]
  · intro r hr
    rcases (mem_insert hrc).1 hr with hr | rfl
    · exact hS.commanded r hr
    · exact ⟨q.command, rfl, rfl⟩

private theorem HandoffsOnce.unlock (h : HandoffsOnce rt a) (requirementId) :
    HandoffsOnce rt (a.unlock requirementId) := h.of_same rfl (fun _ => rfl) rfl

private theorem endHandoff_handoffsOnce {session} (answer) (hS : HandoffsOnce rt a)
    (hL : (Transaction.handoff session q locked).Holds a) :
    HandoffsOnce rt (endHandoff rt a session q locked answer).1 := by
  unfold endHandoff
  split
  · split
    · exact hS.unlock _
    · rename_i receipt committed hok
      rcases handoff_eq_ok hok with ⟨-, -, rfl⟩ | ⟨hn, -, hc, hh, saved, hs, rfl⟩
      · exact hS.unlock _
      · exact (save_handoffsOnce hs hn hL.2.1 hc hh hS).unlock _
  · exact hS

private theorem lock_respected {requirementId} (hf : a.locks requirementId = none) :
    LocksRespected a (a.lock requirementId) := by
  refine ⟨Nat.le_succ _, fun id n hn hl => ⟨?_, fun _ hr => hr⟩⟩
  change update a.locks requirementId (some a.sessions) id = some n at hl
  by_cases hid : id = requirementId
  · subst hid
    rw [update_self] at hl
    exact absurd (some.inj hl) hn.ne'
  · rwa [update_of_ne hid] at hl

end

/-! ### Runs -/

structure Untouched (s : Pool RequirementStore Transaction) : Prop where
  receipts : s.shared.receipts = .empty
  events : ∀ e ∈ s.shared.outbox.rows, e.handoffOf = none
  procs : s.procs = []

private theorem Untouched.handoffsOnce (h : Untouched s) : HandoffsOnce rt s.shared := by
  refine ⟨?_, fun r hr => ?_, fun id _ => ?_, fun r hr => ?_⟩
  · rw [h.receipts]
    exact Exclusive.empty
  · rw [h.receipts] at hr
    exact absurd hr (not_mem_empty r)
  · refine filter_eq_nil_iff.2 (fun e he => ?_)
    simp [h.events e he]
  · rw [h.receipts] at hr
    exact absurd hr (not_mem_empty r)

private theorem run_handoffsOnce {t : Pool RequirementStore Transaction} (h0 : Untouched s)
    (hrn : Run (Steps (Pool.step (requirementManager rt))) Always s t) :
    HandoffsOnce rt t.shared ∧ ∀ tx ∈ t.procs, tx.Holds t.shared := by
  refine hrn.pool (S := HandoffsOnce rt) (L := fun store tx => tx.Holds store) (G := LocksRespected) h0.handoffsOnce
    (by simp [h0.procs]) (fun _ _ _ hG hL => hL.stable hG) ?_ ?_ ?_
  · intro s e b hS _ hen
    exact storeEvent_handoffsOnce hen hS
  · intro s request b tx hS _ hs
    cases request with
    | mutate =>
      cases hs
      refine ⟨hS, .refl _, ?_⟩
      unfold beginMutation
      split <;> trivial
    | handoff =>
      rcases beginHandoff_cases hs with ⟨⟨outcome, rfl⟩, rfl⟩ | ⟨r, hr, hf, rfl, rfl⟩
      · exact ⟨hS, .refl _, trivial⟩
      · refine ⟨hS.of_same rfl (fun _ => rfl) rfl, lock_respected hf, Nat.lt_succ_self _, ?_, fun _ => ⟨r, hr, rfl⟩⟩
        exact (get_eq_some.1 hr).2
  · intro s i answer tx b tx' hS hL _ _ hn
    cases tx with
    | mutation =>
      obtain ⟨⟨outcome, rfl⟩, rfl | ⟨m, hm, hf, hc⟩⟩ := endMutation_cases hn
      · exact ⟨hS, .refl _, trivial⟩
      · obtain ⟨hS', hG⟩ := commit_handoffsOnce hc hm hf hS
        exact ⟨hS', hG, trivial⟩
    | handoff session q locked =>
      obtain ⟨hrw, -, hss, hl⟩ := endHandoff_frame rt s.shared session q locked answer
      have hS' := endHandoff_handoffsOnce answer hS hL
      have he := endHandoff_ended rt s.shared session q locked answer
      rw [some.inj hn] at hrw hss hl hS' he
      obtain ⟨outcome, rfl⟩ := he
      exact ⟨hS', .of_unlocked hss hrw hl, trivial⟩
    | ended => cases hn

/-! ### Repeated commands -/

/-- What a call does that finds a receipt stored: nothing changes, the command that made the receipt is answered with
it, and any other command is refused. -/
structure Repeated (rt : HandoffRuntime) (s t : Pool RequirementStore Transaction) (i session : Nat)
    (q : HandoffRequest) (stored : DeliveryHandoffReceipt) : Prop where
  receipts : t.shared.receipts = s.shared.receipts
  outbox : t.shared.outbox = s.shared.outbox
  requirements : t.shared.requirements = s.shared.requirements
  answer : ∃ original : DeliveryHandoffCommand, stored.commandHash = original.digest rt ∧
    (q.command = original → s.shared.locks q.requirementId = some session →
      t.procs[i]? = some (.ended (.returned stored))) ∧
    (q.command ≠ original → ∃ e, t.procs[i]? = some (.ended (.failed e)))

section

variable {rt : HandoffRuntime} {store : RequirementStore} {session : Nat} {q : HandoffRequest}
  {locked : ConfirmedRequirementSnapshot} {answer : TransactionAnswer} {stored : DeliveryHandoffReceipt}

private theorem step_handoff (rt) {i} (h : s.procs[i]? = some (.handoff session q locked)) (answer) :
    Pool.step (requirementManager rt) s (.next i answer) = some ⟨(endHandoff rt s.shared session q locked answer).1,
        s.procs.set i (endHandoff rt s.shared session q locked answer).2⟩ := by
  simp only [Pool.step, h, bind_some, requirementManager, map_some]

private theorem handoff_stored (hg : store.receipts.get q.requirementId = some stored) (verified) :
    store.handoff rt q locked verified =
      if stored.commandHash = q.command.digest rt ∧ stored.companyId = q.command.companyId then .ok (stored, store)
      else .error (.value "handoff_mapping_conflict") := by
  simp only [RequirementStore.handoff, hg, ensure]
  split <;> rfl

private theorem endHandoff_stored (rt session locked answer) (hg : store.receipts.get q.requirementId = some stored) :
    (endHandoff rt store session q locked answer).1.receipts = store.receipts ∧
      (endHandoff rt store session q locked answer).1.outbox = store.outbox ∧
      (stored.commandHash = q.command.digest rt → stored.companyId = q.command.companyId →
        store.locks q.requirementId = some session →
        (endHandoff rt store session q locked answer).2 = .ended (.returned stored)) ∧
      (stored.commandHash ≠ q.command.digest rt →
        ∃ e, (endHandoff rt store session q locked answer).2 = .ended (.failed e)) := by
  unfold endHandoff
  rw [handoff_stored hg]
  by_cases hl : store.locks q.requirementId = some session
  · by_cases hs : stored.commandHash = q.command.digest rt ∧ stored.companyId = q.command.companyId
    · rw [if_pos hl, if_pos hs]
      exact ⟨rfl, rfl, fun _ _ _ => rfl, fun hne => absurd hs.1 hne⟩
    · rw [if_pos hl, if_neg hs]
      exact ⟨rfl, rfl, fun hh hc => absurd ⟨hh, hc⟩ hs, fun _ => ⟨_, rfl⟩⟩
  · rw [if_neg hl]
    exact ⟨rfl, rfl, fun _ _ h => absurd h hl, fun _ => ⟨_, rfl⟩⟩

private theorem endHandoff_added {r}
    (hr : r ∈ (endHandoff rt store session q locked answer).1.receipts) (hn : r ∉ store.receipts) :
    r = q.receipt rt ∧ store.locks q.requirementId = some session ∧ locked.status = .confirmed := by
  unfold endHandoff at hr
  split at hr
  · rename_i hl
    split at hr
    · exact absurd hr hn
    · rename_i receipt committed hok
      rcases handoff_eq_ok hok with ⟨-, -, rfl⟩ | ⟨-, -, hc, -, saved, hs, rfl⟩
      · exact absurd hr hn
      · obtain ⟨-, receipts, outbox, hrc, -, rfl⟩ := save_eq_ok hs
        rcases (mem_insert hrc).1 hr with hr | rfl
        · exact absurd hr hn
        · exact ⟨rfl, hl, hc⟩
  · exact absurd hr hn

end

/-- In every interleaving, a requirement has at most one receipt, every receipt has exactly one event and a work package
of its own, and the event's text is the reviewed text of the confirmed requirement that the handoff had locked, which
is still the stored row when the receipt is saved.  A call that finds a receipt returns it to the command that made it
and refuses every other one. -/
theorem handoff_exactly_once {rt : HandoffRuntime} (hsha : Injective rt.sha256)
    {s₀ s : Pool RequirementStore Transaction} (h0 : Untouched s₀)
    (hrun : Run (Steps (Pool.step (requirementManager rt))) Always s₀ s) :
    (∀ r ∈ s.shared.receipts, ∀ r' ∈ s.shared.receipts, r.requirementId = r'.requirementId → r = r') ∧
    HandoffsOnce rt s.shared ∧
    ∀ i answer session q locked t, s.procs[i]? = some (.handoff session q locked) →
      Pool.step (requirementManager rt) s (.next i answer) = some t →
      (∀ r ∈ t.shared.receipts, r ∉ s.shared.receipts → r = q.receipt rt ∧
        ∃ row, s.shared.requirements.get q.requirementId = some row ∧ row.snapshot = locked ∧ row.status = .confirmed) ∧
      ∀ stored, s.shared.receipts.get q.requirementId = some stored → Repeated rt s t i session q stored := by
  obtain ⟨hS, hL⟩ := run_handoffsOnce h0 hrun
  refine ⟨fun r hr r' hr' heq => eq_of_key_eq hr hr' heq, hS, ?_⟩
  intro i answer session q locked t hp hst
  have ht : t = ⟨(endHandoff rt s.shared session q locked answer).1,
      s.procs.set i (endHandoff rt s.shared session q locked answer).2⟩ :=
    some.inj (hst.symm.trans (step_handoff rt hp answer))
  obtain ⟨hi, -⟩ := List.getElem?_eq_some_iff.1 hp
  have hpr : t.procs[i]? = some (endHandoff rt s.shared session q locked answer).2 := by
    rw [ht]
    exact getElem?_set_self hi
  constructor
  · intro r hr hn
    rw [ht] at hr
    obtain ⟨hm, hl, hc⟩ := endHandoff_added hr hn
    obtain ⟨-, -, hrw⟩ := hL _ (mem_of_getElem? hp)
    obtain ⟨row, hg, hs⟩ := hrw hl
    exact ⟨hm, row, hg, hs, (congrArg ConfirmedRequirementSnapshot.status hs).trans hc⟩
  · intro stored hg
    obtain ⟨hrc, ho, hsm, hot⟩ := endHandoff_stored rt session locked answer hg
    obtain ⟨original, hh, hcm⟩ := hS.commanded stored (get_eq_some.1 hg).1
    refine ⟨by rw [ht]; exact hrc, by rw [ht]; exact ho, by rw [ht]; exact (endHandoff_frame ..).1, original,
      hh, ?_, ?_⟩
    · rintro rfl hl
      rw [hpr, hsm hh hcm hl]
    · intro hne
      obtain ⟨e, he⟩ := hot (fun heq => hne (DeliveryHandoffCommand.digest_inj hsha (heq.symm.trans hh)))
      exact ⟨e, by rw [hpr, he]⟩

/-! ### A handoff and its repetition -/

private theorem onePending_untouched : Untouched onePending := ⟨rfl, nofun, rfl⟩

def firstHandoff : HandoffRequest where
  requirementId := "r"
  command := ⟨"c", 1, 7, "g", "w", contentHash plainHandoffs "r" "A" "d", "reviewed", "P"⟩
  reviewedBy := "bob"
  idempotencyKey := "requirement-delivery:r"
  traceId := none

def handedTwice : List (PoolAct StoreEvent RequirementRequest TransactionAnswer) :=
  [.start (.mutate "r" (.confirm "ann")), .next 0 ⟨"e1", true⟩, .start (.handoff firstHandoff), .next 1 ⟨"", true⟩,
    .start (.handoff firstHandoff)]

/-- A handoff is repeated after its commit. -/
theorem handoff_exactly_once_repeated :
    ∃ s t, Run (Steps (Pool.step (requirementManager plainHandoffs))) Always onePending s ∧
      Pool.step (requirementManager plainHandoffs) s (.next 2 ⟨"", true⟩) = some t ∧
      s.shared.receipts.get "r" = some (firstHandoff.receipt plainHandoffs) ∧
      Repeated plainHandoffs s t 2 1 firstHandoff (firstHandoff.receipt plainHandoffs) := by
  refine exists_run_step_with handedTwice (fun s _ => s.procs[2]? =
      some (.handoff 1 firstHandoff ⟨"r", "A", "d", .confirmed, some "ann"⟩) ∧
    s.shared.receipts.get "r" = some (firstHandoff.receipt plainHandoffs)) (by decide +kernel) (fun s t hr hs h => ?_)
  obtain ⟨-, -, hc⟩ := handoff_exactly_once injective_id onePending_untouched hr
  exact ⟨h.2, (hc 2 _ 1 firstHandoff _ _ h.1 hs).2 _ h.2⟩

end WisdoverseCell.RequirementManager
