import WisdoverseCell.RequirementManager.Transactions

/-!
# The lifecycle under concurrent transactions

A transaction checks the transition on the row that it read, without a lock, and writes to whatever row is stored by
then. As long as every write finds the status, title and description that its transaction read, the lifecycle is kept
in all interleavings (`lifecycle_respected`).
-/

namespace WisdoverseCell.RequirementManager

open Option Table

/-! ### What is to hold -/

def StatusRespected (a b : RequirementStore) : Prop :=
  ∀ id r, a.requirements.get id = some r → ∃ r', b.requirements.get id = some r' ∧
    (r'.status = r.status ∨ CanTransition r.status r'.status)

def RejectedKept (a b : RequirementStore) : Prop :=
  ∀ id r, a.requirements.get id = some r → r.status = .rejected →
    ∃ r', b.requirements.get id = some r' ∧ r'.status = .rejected

def ConfirmedAsRead (a : RequirementStore) : Prop :=
  ∀ id r, a.requirements.get id = some r → r.status = .confirmed → a.confirmedText id = some (r.title, r.description)

private theorem StatusRespected.rejectedKept {a b} (h : StatusRespected a b) : RejectedKept a b := by
  intro id r hr hrj
  obtain ⟨r', hr', hs | hc⟩ := h id r hr
  · exact ⟨r', hr', hs.trans hrj⟩
  · rw [hrj] at hc
    exact absurd hc List.not_mem_nil

/-! ### Writes to the row that was read -/

def MutationCommand.writes (command : MutationCommand) (loaded : Requirement) : Bool :=
  match command.mutation loaded with
  | .ok (some _) => true
  | .ok none | .error _ => false

def Transaction.Current (store : RequirementStore) : Transaction → Prop
  | .mutation command loaded => command.writes loaded = true → ∀ stored ∈ store.requirements.get loaded.id,
    (stored.status, stored.title, stored.description) = (loaded.status, loaded.title, loaded.description)
  | .handoff _ _ _ | .ended _ => True

def NoStaleWrite (s : Pool RequirementStore Transaction) :
    PoolAct StoreEvent RequirementRequest TransactionAnswer → Prop
  | .next i _ => ∀ tx ∈ s.procs[i]?, tx.Current s.shared
  | .env _ | .start _ | .stop _ => True

instance (store : RequirementStore) : (tx : Transaction) → Decidable (tx.Current store)
  | .mutation _ _ => inferInstanceAs (Decidable (_ → _))
  | .handoff _ _ _ | .ended _ => isTrue trivial

instance (s : Pool RequirementStore Transaction) (a : PoolAct StoreEvent RequirementRequest TransactionAnswer) :
    Decidable (NoStaleWrite s a) := by
  unfold NoStaleWrite
  split <;> infer_instance

/-! ### One step -/

section

variable {rt : HandoffRuntime} {a b : RequirementStore}

structure RowsRespected (a b : RequirementStore) : Prop where
  status : StatusRespected a b
  confirmed : ∀ id r', b.requirements.get id = some r' → r'.status = .confirmed →
    b.confirmedText id = some (r'.title, r'.description) ∨
      (a.requirements.get id = some r' ∧ b.confirmedText id = a.confirmedText id)

private theorem RowsRespected.confirmedAsRead (h : RowsRespected a b) (ha : ConfirmedAsRead a) : ConfirmedAsRead b := by
  intro id r hr hc
  rcases h.confirmed id r hr hc with ht | ⟨ho, ht⟩
  · exact ht
  · exact ht.trans (ha id r ho hc)

private theorem RowsRespected.of_same (hrw : b.requirements = a.requirements) (ht : b.confirmedText = a.confirmedText) :
    RowsRespected a b where
  status id r hr := ⟨r, hrw ▸ hr, .inl rfl⟩
  confirmed id r hr _ := .inr ⟨hrw ▸ hr, by rw [ht]⟩

private theorem storeEvent_rows {e} (h : storeEvent a e = some b) : RowsRespected a b := by
  cases e with
  | create =>
    obtain ⟨requirements, hi, rfl⟩ := map_eq_some_iff.1 h
    refine ⟨fun k r hr => ⟨r, get_insert_of_some hi hr, .inl rfl⟩, fun k r hr hc => .inr ⟨?_, rfl⟩⟩
    change requirements.get k = some r at hr
    rw [get_insert hi] at hr
    split at hr
    · -- the new row is pending
      cases hr
      cases hc
    · exact hr
  | endSession =>
    cases h
    exact .of_same rfl rfl

private theorem commit_rows {command loaded m eventId}
    (h : a.commit command loaded m eventId = some b) (hm : command.mutation loaded = .ok (some m))
    (hcr : ∀ stored ∈ a.requirements.get loaded.id,
      (stored.status, stored.title, stored.description) = (loaded.status, loaded.title, loaded.description)) :
    RowsRespected a b := by
  obtain ⟨outbox, confirmedText, -, rfl, ho, ht⟩ := commit_eq_some h
  have hg (id : String) : (a.requirements.modify loaded.id m.write m.write_id).get id =
      if id = loaded.id then (a.requirements.get id).map m.write else a.requirements.get id :=
    get_modify m.write_id _ _
  constructor
  · intro id r hr
    by_cases hid : id = loaded.id
    · subst hid
      obtain ⟨hs, -⟩ := Prod.mk.inj (hcr r hr)
      exact ⟨m.write r, by rw [hg, if_pos rfl, hr]; rfl, (mutation_respects hm hs).status⟩
    · exact ⟨r, by rw [hg, if_neg hid, hr], .inl rfl⟩
  · intro id r' hr' hc
    by_cases hid : id = loaded.id
    · subst hid
      left
      rw [hg, if_pos rfl] at hr'
      obtain ⟨stored, hst, rfl⟩ := map_eq_some_iff.1 hr'
      obtain ⟨hs, hw⟩ := Prod.mk.inj (hcr stored hst)
      obtain ⟨htt, hd⟩ := Prod.mk.inj hw
      obtain ⟨⟨confirmedBy, rfl⟩, hk, hk'⟩ := (mutation_respects hm hs).confirmed hc
      change confirmedText loaded.id = _
      rw [ht confirmedBy rfl, hk, hk', htt, hd]
    · right
      rw [hg, if_neg hid] at hr'
      exact ⟨hr', ho id hid⟩

private theorem step_rows {s t act} (hok : NoStaleWrite s act)
    (hs : Pool.step (requirementManager rt) s act = some t) : RowsRespected s.shared t.shared := by
  cases Pool.moves_of_step hs with
  | env h => exact storeEvent_rows h
  | @start request shared tx h =>
    cases request with
    | mutate =>
      cases h
      exact .of_same rfl rfl
    | handoff =>
      rcases beginHandoff_cases h with ⟨-, rfl⟩ | ⟨r, -, -, rfl, -⟩
      · exact .of_same rfl rfl
      · exact .of_same rfl rfl
  | @next i answer shared tx tx' hp h =>
    cases tx with
    | mutation command loaded =>
      obtain ⟨-, rfl | ⟨m, hm, -, hc⟩⟩ := endMutation_cases h
      · exact .of_same rfl rfl
      · have hw : command.writes loaded = true := by rw [MutationCommand.writes, hm]
        exact commit_rows hc hm (hok _ hp hw)
    | handoff session q locked =>
      obtain ⟨hr, ht, -⟩ := endHandoff_frame rt s.shared session q locked answer
      rw [some.inj h] at hr ht
      exact .of_same hr ht
    | ended => cases h
  | stop => exact .of_same rfl rfl

end

/-- If every write finds the status, title and description that its transaction read, then in every state reached the
confirmed requirements have the texts that were read, every next step moves along valid transitions, and rejected
requirements stay rejected. -/
theorem lifecycle_respected {rt : HandoffRuntime} {s₀ s : Pool RequirementStore Transaction}
    (h0 : ConfirmedAsRead s₀.shared) (hrun : Run (Steps (Pool.step (requirementManager rt))) NoStaleWrite s₀ s) :
    ConfirmedAsRead s.shared ∧ (∀ act t, NoStaleWrite s act → Pool.step (requirementManager rt) s act = some t →
        StatusRespected s.shared t.shared) ∧
      ∀ t, Run (Steps (Pool.step (requirementManager rt))) NoStaleWrite s t → RejectedKept s.shared t.shared := by
  refine ⟨?_, fun act t hok hs => (step_rows hok hs).status, fun t hl => ?_⟩
  · exact hrun.invariant (I := fun s => ConfirmedAsRead s.shared) h0
      (fun _ _ _ h hok hs => (step_rows hok hs).confirmedAsRead h)
  · refine Run.relates (Q := fun s t => RejectedKept s.shared t.shared) hl (fun s id r hr hrj => ⟨r, hr, hrj⟩)
      (fun s t u hst htu id r hr hrj => ?_) (fun _ _ _ hok hs => (step_rows hok hs).status.rejectedKept)
    obtain ⟨r', hr', hrj'⟩ := hst id r hr hrj
    exact htu id r' hr' hrj'

/-! ### Two transactions on one requirement -/

def plainHandoffs : HandoffRuntime := ⟨"c", id⟩

def onePending : Pool RequirementStore Transaction where
  shared := {
    requirements := ⟨[⟨"r", "A", "d", .pending, "medium", "功能", none, none, []⟩], by decide⟩
    receipts := .empty
    outbox := .empty
    locks := fun _ => none
    sessions := 0
    confirmedText := fun _ => none
    handedOver := fun _ => none }
  procs := []

private theorem onePending_confirmedAsRead : ConfirmedAsRead onePending.shared := by
  intro id r hr hc
  obtain rfl := List.mem_singleton.1 (get_eq_some.1 hr).1
  cases hc

def statusOf (s : Pool RequirementStore Transaction) (id : String) : Option RequirementStatus :=
  (s.shared.requirements.get id).map Requirement.status

def textOf (s : Pool RequirementStore Transaction) (id : String) : Option (String × String) :=
  (s.shared.requirements.get id).map (fun r => (r.title, r.description))

def overtaken (second : MutationCommand) : List (PoolAct StoreEvent RequirementRequest TransactionAnswer) :=
  [.start (.mutate "r" (.confirm "ann")), .start (.mutate "r" second), .next 1 ⟨"e1", true⟩]

/-- A confirmation that a rejection overtakes makes the rejected requirement confirmed; one that an update overtakes
confirms the new title. -/
theorem overlapping_transactions_break_lifecycle : ConfirmedAsRead onePending.shared ∧
    (∃ s t, Run (Steps (Pool.step (requirementManager plainHandoffs))) Always onePending s ∧
      Pool.step (requirementManager plainHandoffs) s (.next 0 ⟨"e2", true⟩) = some t ∧
      statusOf s "r" = some .rejected ∧ statusOf t "r" = some .confirmed ∧ ¬ StatusRespected s.shared t.shared) ∧
    ∃ s, Run (Steps (Pool.step (requirementManager plainHandoffs))) Always onePending s ∧
      statusOf s "r" = some .confirmed ∧ textOf s "r" = some ("B", "d") ∧
      s.shared.confirmedText "r" = some ("A", "d") := by
  refine ⟨onePending_confirmedAsRead, ?_, ?_⟩
  · refine exists_run_step_with (overtaken (.reject "no" "bob")) (fun s t => statusOf s "r" = some .rejected ∧
      statusOf t "r" = some .confirmed) (by decide +kernel) (fun s t _ _ h => ⟨h.1, h.2, fun hrs => ?_⟩)
    obtain ⟨r, hr, hrj⟩ := map_eq_some_iff.1 h.1
    obtain ⟨r', hr', hrj'⟩ := hrs.rejectedKept "r" r hr hrj
    have hc := h.2
    rw [statusOf, hr', map_some, hrj'] at hc
    cases hc
  · exact exists_run_exec (overtaken (.update ⟨some "B", none, none, none, none⟩) ++ [.next 0 ⟨"e2", true⟩])
      (by decide +kernel)

/-- A requirement is edited and then confirmed. -/
theorem lifecycle_respected_sequential :
    ∃ s, Run (Steps (Pool.step (requirementManager plainHandoffs))) NoStaleWrite onePending s ∧
      statusOf s "r" = some .confirmed ∧ textOf s "r" = some ("B", "d") ∧ ConfirmedAsRead s.shared :=
  exists_run_with [.start (.mutate "r" (.update ⟨some "B", none, none, none, none⟩)), .next 0 ⟨"e1", true⟩,
      .start (.mutate "r" (.confirm "ann")), .next 1 ⟨"e2", true⟩]
    (fun s => statusOf s "r" = some .confirmed ∧ textOf s "r" = some ("B", "d")) (by decide +kernel)
    (fun _ hr ⟨hs, ht⟩ => ⟨hs, ht, (lifecycle_respected onePending_confirmedAsRead hr).1⟩)

end WisdoverseCell.RequirementManager
