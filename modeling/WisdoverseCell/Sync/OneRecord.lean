import WisdoverseCell.Library.Transition
import WisdoverseCell.Sync.Engine

/-!
# One record for each work package

The record of a work package is made in Bitable while the transaction that maps it is open.  As long as the transaction
lives, every record is mapped (`Mirrored`).  What breaks this is a transaction that is lost after it has made a record,
a lost answer of `create_record`, and a blank record id.
-/

namespace WisdoverseCell.Sync

open List Option Table Failing

variable {b : Bool} {memberMap : List (String × String)} {input : OpInput} {α : Type} {rt : SyncRuntime} {opId : Int}
  {recordId : Option String} {wp : WorkPackageData} {cfg : SyncConfig} {w : SyncWorld}

/-! ### The invariant -/

def MappedTo (mappings : Table MappingRow.opId) (opId : Int) : Prop :=
  ∃ m, mappings.get opId = some m ∧ feishuRecordId m.recordId ≠ none

/-- No work package has two records, and while the transaction lives each work package with a record is mapped. -/
structure Mirrored (tx : SyncTx) : Prop where
  once : ∀ opId, tx.created.countP (BitableRecord.mirrors opId) ≤ 1
  mapped : tx.alive = true → ∀ r ∈ tx.created, ∀ opId, r.mirrors opId = true → MappedTo tx.store.mappings opId

/-- A property of the mappings and the records made, which may ask less of a transaction that is lost. -/
structure Robust (I : SyncTx → Prop) : Prop where
  lose : ∀ tx, I tx → I { tx with alive := false }
  count : ∀ tx n errors, I tx → I { tx with processed := n, errors := errors }
  store : ∀ tx s, s.mappings = tx.store.mappings → I tx → I { tx with store := s }

private theorem robust_mirrored : Robust Mirrored where
  lose _ h := ⟨h.once, fun ha => Bool.noConfusion ha⟩
  count _ _ _ h := ⟨h.once, h.mapped⟩
  store tx s hs h := ⟨h.once, fun ha r hr opId hm => by
    change MappedTo s.mappings opId
    rw [hs]
    exact h.mapped ha r hr opId hm⟩

private theorem robust_unchanged (w : SyncWorld) :
    Robust (fun tx => tx.created = w.created ∧ tx.store.mappings = w.store.mappings) where
  lose _ h := h
  count _ _ _ h := h
  store _ _ hs h := ⟨h.1, hs.trans h.2⟩

namespace Robust

variable {I : SyncTx → Prop} (hI : Robust I)

include hI

private theorem statement (b) : Keeps I (statement b) := by
  intro tx h
  unfold Sync.statement
  split
  · exact h
  · exact hI.lose tx h

private theorem changeStore {f} (hf : ∀ s, (f s).mappings = s.mappings) : Keeps I (changeStore f) :=
  keeps_modify (fun tx h => hI.store tx _ (hf _) h)

private theorem createLog (b) (syncType) : Keeps I (createLog b syncType) := by
  refine (hI.statement b).bind (fun _ => (keeps_read _).bind (fun id => ?_))
  refine Keeps.bind ?_ (fun _ => keeps_pure id)
  exact hI.changeStore (fun _ => rfl)

private theorem completeLog (b) (id n error) : Keeps I (completeLog b id n error) :=
  (hI.statement b).bind (fun _ => hI.changeStore (fun _ => rfl))

private theorem stageEvent (b) (event) : Keeps I (stageEvent b event) :=
  (hI.statement b).bind (fun _ => hI.changeStore (fun _ => rfl))

private theorem upsertSubtask (b) (item) : Keeps I (upsertSubtask b item) := by
  refine (hI.statement b).bind (fun _ => ?_)
  refine Keeps.bind ?_ (fun _ => (keeps_read _).bind (fun _ => keeps_lift _))
  exact hI.changeStore (fun _ => rfl)

private theorem maybeStageDecompose (rt cfg) (parentIds wp data) (b) :
    Keeps I (maybeStageDecompose rt cfg parentIds wp data b) := by
  unfold Sync.maybeStageDecompose
  split
  · exact keeps_pure _
  · split
    · exact (keeps_lift _).bind (fun _ => hI.stageEvent b _)
    · exact keeps_pure _

private theorem attemptAll (rt) {f : α → SyncM Unit} {as} (hf : ∀ a ∈ as, Keeps I (f a)) :
    Keeps I (attemptAll countProcessed (reportError rt) f as) :=
  keeps_forEach (fun a ha => keeps_attempt (hf a ha) (fun tx => hI.count tx _ _) (fun _ tx => hI.count tx _ _))

private theorem runSide {syncType side b' b'' body} (hb : Keeps I body) :
    Keeps I (runSide rt syncType side b b' b'' body) := by
  refine (hI.createLog b syncType).bind (fun logId => (keeps_lift _).bind (fun op => ?_))
  refine (hb.bind (fun _ => ?_)).catching (fun e => ?_)
  · exact (keeps_read _).bind (fun _ => (hI.completeLog _ _ _ _).bind (fun _ =>
      (keeps_lift _).bind (fun _ => keeps_pure _)))
  · exact (keeps_read _).bind (fun _ => (hI.completeLog _ _ _ _).bind (fun _ =>
      (keeps_lift _).bind (fun _ => keeps_pure _)))

private theorem storeSubtasks (rt) (records) : Keeps I (storeSubtasks rt records) := by
  induction records with
  | nil => exact keeps_pure _
  | cons head rest ih =>
    unfold Sync.storeSubtasks
    split
    · exact (keeps_modify (fun tx => hI.count tx _ _)).bind (fun _ => ih)
    · exact ih
    · exact (hI.upsertSubtask _ _).bind (fun _ => ih.bind (fun _ => keeps_pure _))

private theorem rollUpAll (rt) (input) : Keeps I (rollUpAll rt input) := by
  refine (keeps_lift _).bind (fun records => (hI.storeSubtasks rt records).bind (fun subtasks => ?_))
  refine (keeps_lift _).bind (fun rollups => hI.attemptAll rt (fun r _ => ?_))
  exact (keeps_lift _).bind (fun _ => hI.stageEvent _ _)

end Robust

/-! ### Mirroring one work package -/

private theorem get_upsertedMappings_self (t) (recordId wp) :
    ∃ m, (upsertedMappings t recordId wp).get wp.opId = some m ∧ m.recordId = recordId := by
  unfold upsertedMappings
  cases hg : t.get wp.opId with
  | some m =>
    refine ⟨m.assign recordId wp, ?_, rfl⟩
    dsimp only
    rw [get_modify, if_pos rfl, hg]
    rfl
  | none =>
    obtain ⟨t', ht'⟩ := insert_isSome (a := MappingRow.mk wp.opId recordId wp.projectId (some wp.title)) hg
    exact ⟨_, by rw [ht']; exact get_insert_self ht', rfl⟩

private theorem get_upsertedMappings_of_ne {t} (h : opId ≠ wp.opId) :
    (upsertedMappings t recordId wp).get opId = t.get opId := by
  unfold upsertedMappings
  cases hg : t.get wp.opId with
  | some =>
    dsimp only
    rw [get_modify, if_neg h]
  | none =>
    obtain ⟨t', ht'⟩ := insert_isSome (a := MappingRow.mk wp.opId recordId wp.projectId (some wp.title)) hg
    dsimp only
    rw [ht', getD_some, get_insert ht', if_neg h]

private theorem mirrors_iff :
    BitableRecord.mirrors opId ⟨recordId, workPackageToFeishuFields wp memberMap⟩ = true ↔ opId = wp.opId := by
  have hl : (workPackageToFeishuFields wp memberMap).lookup fieldOpId = some (.int wp.opId) := lookup_cons_self
  simp only [BitableRecord.mirrors, hl, decide_eq_true_eq, some.injEq, Json.int.injEq]
  exact eq_comm

private theorem decide_create {mapping} (h : decideWorkPackageProjection wp mapping = .ok .create) :
    ∀ m ∈ mapping, feishuRecordId m.recordId = none := by
  rintro m rfl
  obtain ⟨_, -, h⟩ := bind_eq_ok.1 h
  obtain ⟨_, -, h⟩ := bind_eq_ok.1 h
  cases hid : feishuRecordId m.recordId with
  | none => rfl
  | some =>
    rw [hid] at h
    cases h

/-- The answer of `create_record` arrives, with an id that is not blank if a record is made. -/
def CreateAnswer.Arrives : CreateAnswer → Prop
  | .created recordId => feishuRecordId recordId ≠ none
  | .lost _ _ => False
  | .refused _ => True

instance (a : CreateAnswer) : Decidable a.Arrives := by
  unfold CreateAnswer.Arrives
  split <;> infer_instance

section

variable {wp : WorkPackageData} {memberMap : List (String × String)} {tx : SyncTx}

private theorem Mirrored.count_eq_zero (h : Mirrored tx) (ha : tx.alive = true)
    (hn : ∀ m ∈ tx.store.mappings.get opId, feishuRecordId m.recordId = none) :
    tx.created.countP (BitableRecord.mirrors opId) = 0 := by
  refine countP_eq_zero.2 (fun r hr hm => ?_)
  obtain ⟨m, hg, hid⟩ := h.mapped ha r hr opId hm
  exact hid (hn m hg)

private theorem Mirrored.once_create (h : Mirrored tx) (hn : tx.created.countP (BitableRecord.mirrors wp.opId) = 0)
    (opId) :
    (tx.created ++ [BitableRecord.mk recordId (workPackageToFeishuFields wp memberMap)]).countP
      (BitableRecord.mirrors opId) ≤ 1 := by
  rw [countP_append, countP_singleton]
  by_cases hop : opId = wp.opId
  · rw [if_pos (mirrors_iff.2 hop), hop, hn]
  · rw [if_neg (fun hm => hop (mirrors_iff.1 hm))]
    exact h.once opId

private theorem Mirrored.create {answer} (h : Mirrored tx) (ha : tx.alive = true)
    (hn : ∀ m ∈ tx.store.mappings.get wp.opId, feishuRecordId m.recordId = none) (har : answer.Arrives) :
    Mirrored ((createRecord answer (workPackageToFeishuFields wp memberMap) >>=
      fun recordId => upsertMapping b recordId wp) tx).2 := by
  cases answer with
  | refused => exact h
  | lost => exact har.elim
  | created recordId =>
    have hz := h.count_eq_zero ha hn
    let tx₁ : SyncTx := { tx with created := tx.created ++ [⟨recordId, workPackageToFeishuFields wp memberMap⟩] }
    have hc : createRecord (.created recordId) (workPackageToFeishuFields wp memberMap) tx = (.ok recordId, tx₁) := rfl
    rw [bind_of_ok hc]
    have ho : ∀ opId, tx₁.created.countP (BitableRecord.mirrors opId) ≤ 1 := h.once_create hz
    unfold upsertMapping
    rw [bind_eq]
    rcases hs : statement b tx₁ with ⟨⟨e⟩ | ⟨u⟩, tx₂⟩
    · have hl : Mirrored { tx₁ with alive := false } := ⟨ho, fun ha => Bool.noConfusion ha⟩
      have htx₂ : tx₂ = { tx₁ with alive := false } := by
        unfold statement at hs
        split at hs
        · cases hs
        · exact (Prod.mk.inj hs).2.symm
      rw [htx₂]
      exact hl
    · obtain ⟨-, htx₂⟩ := statement_eq_ok hs
      rw [htx₂]
      refine ⟨ho, fun _ r hr opId hm => ?_⟩
      change MappedTo (upsertedMappings tx.store.mappings recordId wp) opId
      by_cases hop : opId = wp.opId
      · obtain ⟨m, hg, hid⟩ := get_upsertedMappings_self tx.store.mappings recordId wp
        exact ⟨m, by rw [hop]; exact hg, by rw [hid]; exact har⟩
      · have hol : r ∈ tx.created := by
          rcases mem_concat.1 hr with hr | hr
          · exact hr
          · rw [hr] at hm
            exact absurd (mirrors_iff.1 hm) hop
        obtain ⟨m, hg, hid⟩ := h.mapped ha r hol opId hm
        exact ⟨m, by rw [get_upsertedMappings_of_ne hop]; exact hg, hid⟩

end

private theorem keeps_mirrorWorkPackage {parentIds item}
    (h : item.2.create.Arrives) : Failing.Keeps Mirrored (mirrorWorkPackage rt cfg memberMap parentIds item) := by
  refine (Failing.keeps_lift _).bind (fun data => ?_)
  intro tx htx
  unfold syncSingleWorkPackage
  rw [Failing.bind_eq]
  rcases hg : getMappingByOpId item.2.lookup data.opId tx with ⟨⟨e⟩ | ⟨mapping⟩, tx₁⟩
  · have hk : Failing.Keeps Mirrored (getMappingByOpId item.2.lookup data.opId) :=
      (robust_mirrored.statement _).bind (fun _ => Failing.keeps_read _)
    have := hk tx htx
    rw [hg] at this
    exact this
  -- the lookup succeeded, so the transaction lives and the mapping is the one that is stored
  obtain ⟨_, tx₂, hs, hr⟩ := Failing.bind_eq_ok hg
  obtain ⟨ha, htx₂⟩ := statement_eq_ok hs
  rw [htx₂] at hr
  cases hr
  dsimp only
  rw [Failing.bind_eq]
  have hst := robust_mirrored.maybeStageDecompose rt cfg parentIds item.1 data item.2.stage
  rcases hd : decideWorkPackageProjection data (tx.store.mappings.get data.opId) with e | action
  · exact htx
  refine Failing.keeps_after (fun _ => hst) ?_
  cases action with
  | update => exact htx
  | create => exact htx.create ha (decide_create hd) h

/-! ### Runs -/

private theorem keeps_mirrorAll
    (h : ∀ packages, input.workPackages = .ok packages → ∀ item ∈ packages, item.2.create.Arrives) :
    Keeps Mirrored (mirrorAll rt cfg input) := by
  unfold mirrorAll
  rcases hp : input.workPackages with e | packages
  · exact fun _ htx => htx
  · exact robust_mirrored.attemptAll rt (fun item hi => keeps_mirrorWorkPackage (h packages hp item hi))

def takesEffect {α : Type} (commit : CommitAnswer) (body : SyncM α) (w : SyncWorld) : Bool :=
  match body w.begin with
  | (.error _, _) => false
  | (.ok _, tx) => tx.alive && commit != .refused

private theorem transaction_world (commit : CommitAnswer) (body : SyncM α) (w) : (transaction commit body w).2 =
      if takesEffect commit body w then ⟨(body w.begin).2.store, (body w.begin).2.created⟩
      else ⟨w.store, (body w.begin).2.created⟩ := by
  unfold transaction takesEffect
  rcases body w.begin with ⟨⟨e⟩ | ⟨a⟩, tx⟩
  · rfl
  · cases ha : tx.alive <;> cases commit <;> simp [ha]

private theorem alive_of_takesEffect {commit : CommitAnswer} {body : SyncM α} (h : takesEffect commit body w = true) :
    (body w.begin).2.alive = true := by
  unfold takesEffect at h
  rcases hb : body w.begin with ⟨⟨e⟩ | ⟨a⟩, tx⟩
  · rw [hb] at h
    cases h
  · rw [hb] at h
    exact (Bool.and_eq_true_iff.1 h).1

/-- A run of one of the two sides, under its lock. -/
inductive SyncRun
  | opToFeishu (cfg : SyncConfig) (input : OpInput)
  | feishuToOp (input : FeishuInput)

def SyncWorld.step (rt : SyncRuntime) (w : SyncWorld) : SyncRun → Option SyncWorld
  | .opToFeishu cfg input => some (syncOpToFeishu rt cfg input w).2
  | .feishuToOp input => some (syncFeishuToOp rt input w).2

def opBody (rt : SyncRuntime) (cfg : SyncConfig) (input : OpInput) : SyncM SideResult :=
  runSide rt "op_to_feishu" .openproject input.createLog input.completeLog input.completeFailedLog
    (mirrorAll rt cfg input)

def feishuBody (rt : SyncRuntime) (input : FeishuInput) : SyncM SideResult :=
  runSide rt "feishu_to_op" .feishuBitable input.createLog input.completeLog input.completeFailedLog
    (rollUpAll rt input)

/-- Every answer of `create_record` arrives, and a run that makes a record takes effect. -/
def RecordsKept (rt : SyncRuntime) (w : SyncWorld) : SyncRun → Prop
  | .opToFeishu cfg input =>
    (∀ item ∈ (input.workPackages.toOption.getD []), item.2.create.Arrives) ∧
      ((syncOpToFeishu rt cfg input w).2.created = w.created ∨ takesEffect input.commit (opBody rt cfg input) w = true)
  | .feishuToOp _ => True

instance (rt : SyncRuntime) (w : SyncWorld) (r : SyncRun) : Decidable (RecordsKept rt w r) := by
  unfold RecordsKept
  split <;> infer_instance

private theorem underLock_world (lock run) (w) :
    (underLock lock run w).2 = w ∨ (underLock lock run w).2 = (run w).2 := by
  rcases lock with e | _ | _
  · exact .inl rfl
  · exact .inl rfl
  · exact .inr rfl

private theorem Mirrored.begin_of {s tx} (h : Mirrored tx) (ha : tx.alive = true)
    (hs : s.mappings = tx.store.mappings) (hc : w.created = tx.created) (hw : w.store = s) : Mirrored w.begin := by
  refine ⟨fun opId => ?_, fun _ r hr opId hm => ?_⟩
  · change w.created.countP _ ≤ 1
    rw [hc]
    exact h.once opId
  · change MappedTo w.store.mappings opId
    rw [hw, hs]
    exact h.mapped ha r (by rw [← hc]; exact hr) opId hm

private theorem mirrored_opToFeishu (h : Mirrored w.begin) (hk : RecordsKept rt w (.opToFeishu cfg input)) :
    Mirrored (syncOpToFeishu rt cfg input w).2.begin := by
  obtain ⟨ha, he⟩ := hk
  have hb : Mirrored (opBody rt cfg input w.begin).2 := by
    refine robust_mirrored.runSide (keeps_mirrorAll (fun packages hp item hi => ha item ?_)) _ h
    rw [hp]
    exact hi
  rcases underLock_world input.lock (doSyncToBitable rt cfg input) w with hs | hr
  · unfold syncOpToFeishu
    rw [hs]
    exact h
  · have hw : (syncOpToFeishu rt cfg input w).2 = _ := hr.trans (transaction_world input.commit (opBody rt cfg input) w)
    rw [hw] at he ⊢
    split at he
    · next hin =>
      rw [if_pos hin]
      exact hb.begin_of (alive_of_takesEffect hin) rfl rfl rfl
    · next ho =>
      rw [if_neg ho]
      rcases he with hcr | hin
      · have hc : (opBody rt cfg input w.begin).2.created = w.created := hcr
        rw [hc]
        exact h
      · exact absurd hin ho

private theorem mirrored_feishuToOp {input} (h : Mirrored w.begin) : Mirrored (syncFeishuToOp rt input w).2.begin := by
  have hb : (feishuBody rt input w.begin).2.created = w.created ∧
      (feishuBody rt input w.begin).2.store.mappings = w.store.mappings :=
    (robust_unchanged w).runSide ((robust_unchanged w).rollUpAll rt input) w.begin ⟨rfl, rfl⟩
  rcases underLock_world input.lock (doSyncProgressToOpenproject rt input) w with hs | hr
  · unfold syncFeishuToOp
    rw [hs]
    exact h
  · have hw : (syncFeishuToOp rt input w).2 = _ := hr.trans (transaction_world input.commit (feishuBody rt input) w)
    rw [hw]
    split
    · exact h.begin_of rfl hb.2 hb.1 rfl
    · exact h.begin_of rfl rfl hb.1 rfl

/-- Over any sequence of runs that keep the records they make, each work package gets at most one record. -/
theorem one_record_per_work_package {rt : SyncRuntime} {s : SyncStore} {w : SyncWorld}
    (h : Run (Steps (SyncWorld.step rt)) (RecordsKept rt) ⟨s, []⟩ w) (opId : Int) :
    w.created.countP (BitableRecord.mirrors opId) ≤ 1 := by
  have hi : Mirrored (SyncWorld.begin ⟨s, []⟩) := ⟨fun _ => Nat.zero_le _, fun _ => forall_mem_nil _⟩
  have hin : Mirrored w.begin := by
    refine h.invariant (I := fun w => Mirrored w.begin) hi ?_
    rintro w₁ (⟨cfg, input⟩ | input) w₂ hw₁ hk hs
    · cases hs
      exact mirrored_opToFeishu hw₁ hk
    · cases hs
      exact mirrored_feishuToOp hw₁
  exact hin.once opId

/-- A full sync is a sequence of runs: that of the second side follows if the first one returns. -/
theorem fullSync_run (rt : SyncRuntime) (cfg : SyncConfig) (opInput : OpInput) (feishuInput : FeishuInput)
    (w : SyncWorld) :
    Run (Steps (SyncWorld.step rt)) Always w (fullSync rt cfg opInput feishuInput w).2 := by
  have hop : Run (Steps (SyncWorld.step rt)) Always w (syncOpToFeishu rt cfg opInput w).2 :=
    Run.single (a := .opToFeishu cfg opInput) trivial rfl
  unfold fullSync
  rw [bind_eq]
  rcases hr : syncOpToFeishu rt cfg opInput w with ⟨⟨e⟩ | ⟨op⟩, w₁⟩ <;> rw [hr] at hop
  · exact hop
  · have hf : Run (Steps (SyncWorld.step rt)) Always w₁ (syncFeishuToOp rt feishuInput w₁).2 :=
      Run.single (a := .feishuToOp feishuInput) trivial rfl
    dsimp only
    rw [bind_eq]
    rcases hs : syncFeishuToOp rt feishuInput w₁ with ⟨⟨e⟩ | ⟨feishu⟩, w₂⟩ <;> rw [hs] at hf
    · exact hop.trans hf
    · exact hop.trans hf

def packageRun (commit : CommitAnswer) (recordId : String) : SyncRun :=
  .opToFeishu plainConfig {
    lock := .ok true
    createLog := true
    members := .ok []
    workPackages := .ok [(plainPackage 1, ⟨true, .created (some recordId), .ok (), true, true⟩)]
    completeLog := true
    completeFailedLog := true
    commit := commit }

def recordCount (w : SyncWorld) : Nat := w.created.countP (BitableRecord.mirrors 1)

/-- The second run finds the mapping of the first one. -/
theorem one_record_after_two_runs :
    ∃ w, Run (Steps (SyncWorld.step plainRuntime)) (RecordsKept plainRuntime) emptyWorld w ∧
      w.created.length = 1 ∧ recordCount w ≤ 1 :=
  exists_run_and [packageRun .committed "rec1", packageRun .committed "rec2"] (by decide +kernel)
    (fun _ hr => one_record_per_work_package hr 1)

/-- The commit of the first run fails, and the second run makes another record. -/
theorem record_made_again : ∃ w, Run (Steps (SyncWorld.step plainRuntime)) Always emptyWorld w ∧ recordCount w = 2 :=
  exists_run_exec [packageRun .refused "rec1", packageRun .committed "rec2"] (by decide +kernel)

end WisdoverseCell.Sync
