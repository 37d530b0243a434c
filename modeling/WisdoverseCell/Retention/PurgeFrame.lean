import WisdoverseCell.Retention.RetentionStore

/-!
# What a retention run leaves alone

`apply` keeps every row that is protected from it, and answers a repeated request from the stored receipt
(`apply_keeps_protected`).  Request ids are kept per company and dry runs have none (`request_id_per_company`).
-/

namespace WisdoverseCell.Retention

open Option Table
open ControlPlane (Time Runtime Artifact)

variable {rt : Runtime} {db db' : Db} {command : RetentionCommand} {requestId : Option String} {now cutoff : Time}
  {locks : RowLocks} {receipt : RetentionReceipt}

/-- What an accepted run does: a dry run only reads, a repeated request is answered from the stored run, and a new one
purges and stores its receipt. -/
inductive Applied (rt : Runtime) (db : Db) (command : RetentionCommand) (requestId : Option String) (now cutoff : Time)
    (locks : RowLocks) : RetentionReceipt → Db → Prop
  | dryRun {receipt : _} (hdry : command.dryRun = true) : Applied rt db command requestId now cutoff locks receipt db
  | replayed {id previous} (hdry : command.dryRun = false) (hid : requestId = some id)
      (hprevious : db.retentionRuns.get (command.companyId, id) = some previous)
      (hsame : previous.commandHash = command.digest rt) :
      Applied rt db command requestId now cutoff locks previous.receipt db
  | purged {id receipt db₁ db₂ runs} (hdry : command.dryRun = false) (hid : requestId = some id)
      (haudits : AuditsPurged rt now command.companyId (retentionCandidates db command cutoff locks) db db₁)
      (hknowledge : KnowledgePurged (expiredKnowledge db command now cutoff locks) db₁ db₂)
      (hruns : db.retentionRuns.insert ⟨command.companyId, id, command.digest rt, receipt, now⟩ = some runs) :
      Applied rt db command requestId now cutoff locks receipt { db₂ with retentionRuns := runs }

theorem applied_of_apply (h : apply rt db command requestId now cutoff locks = .ok (receipt, db')) :
    Applied rt db command requestId now cutoff locks receipt db' := by
  simp only [apply, bind_eq_ok, ensure_eq_ok] at h
  obtain ⟨-, -, h⟩ := h
  split at h
  · rename_i hd
    obtain ⟨-, rfl⟩ := Prod.mk.inj (pure_eq_ok.1 h)
    exact .dryRun hd
  · rename_i hd
    have hd : command.dryRun = false := Bool.eq_false_of_not_eq_true hd
    simp only [bind_eq_ok, require_eq_ok] at h
    obtain ⟨id, hid, h⟩ := h
    split at h
    · rename_i previous hp
      simp only [bind_eq_ok, ensure_eq_ok] at h
      obtain ⟨-, hs, h⟩ := h
      obtain ⟨rfl, rfl⟩ := Prod.mk.inj (pure_eq_ok.1 h)
      exact .replayed hd hid hp hs
    · simp only [bind_eq_ok, require_eq_ok] at h
      obtain ⟨⟨outboxCount, db₁⟩, ha, runs, hr, h⟩ := h
      obtain ⟨rfl, rfl⟩ := Prod.mk.inj (pure_eq_ok.1 h)
      have hpr := auditsPurged_of_eq_some ha
      have hk := purgeKnowledge_purged now command.companyId db₁ (expiredKnowledge db command now cutoff locks)
      have hkp : (purgeKnowledge now command.companyId db₁
        (expiredKnowledge db command now cutoff locks)).retentionRuns =
          db.retentionRuns := by
        rw [hk.rest, hpr.rest]
      rw [hkp] at hr
      exact .purged hd hid hpr hk hr

/-! ### Protected rows -/

def Db.Protected (db : Db) (command : RetentionCommand) (cutoff : Time) (e : AuditEvent) : Prop :=
  (∃ o ∈ db.outbox, o.correlationId = some e.auditEventId ∧ o.status ≠ .published) ∨
    (∃ a ∈ db.artifacts, a.companyId = e.companyId ∧ evidencePin a e.auditEventId = true) ∨
    cutoff ≤ e.createdAt ∨ e.companyId ≠ command.companyId

def Db.ProtectedOutbox (db : Db) (command : RetentionCommand) (o : OutboxEvent) : Prop :=
  o.status ≠ .published ∨
    ∀ e ∈ db.auditEvents, o.correlationId = some e.auditEventId → e.companyId ≠ command.companyId

private theorem not_protected_of_candidate {e} (h : e ∈ retentionCandidates db command cutoff locks) :
    ¬ db.Protected command cutoff e := by
  obtain ⟨-, hc, hol, hp, hpn⟩ := mem_retentionCandidates h
  rintro (⟨o, ho, hcr, hs⟩ | ⟨a, ha, hac, hpi⟩ | hnew | hot)
  · have : db.pending e.auditEventId = true := List.any_eq_true.2 ⟨o, ho, decide_eq_true ⟨hcr, hs⟩⟩
    rw [hp] at this
    cases this
  · have : db.pinned command.companyId e.auditEventId = true :=
      List.any_eq_true.2 ⟨a, ha, decide_eq_true ⟨hac.trans hc, hpi⟩⟩
    rw [hpn] at this
    cases this
  · exact absurd hol (Nat.not_lt.2 hnew)
  · exact hot hc

structure Db.KeepsProtected (db : Db) (command : RetentionCommand) (now cutoff : Time) (db' : Db) : Prop where
  auditEvents : ∀ e ∈ db.auditEvents, db.Protected command cutoff e → e ∈ db'.auditEvents
  outbox : ∀ o ∈ db.outbox, db.ProtectedOutbox command o → o ∈ db'.outbox
  knowledge : ∀ k ∈ db.knowledge, k.isAccessible now = true ∨ k.companyId ≠ command.companyId → k ∈ db'.knowledge
  auditTombstones : ∀ t ∈ db.auditTombstones, t ∈ db'.auditTombstones
  knowledgeTombstones : ∀ t ∈ db.knowledgeTombstones, t ∈ db'.knowledgeTombstones
  retentionRuns : ∀ r ∈ db.retentionRuns, r ∈ db'.retentionRuns
  rest : db'.companies = db.companies ∧ db'.artifacts = db.artifacts ∧ db'.roles = db.roles

private theorem Db.KeepsProtected.refl (db : Db) : db.KeepsProtected command now cutoff db :=
  ⟨fun _ h _ => h, fun _ h _ => h, fun _ h _ => h, fun _ h => h, fun _ h => h, fun _ h => h, rfl, rfl, rfl⟩

/-- A purge keeps everything that is protected. -/
theorem Applied.keepsProtected (h : Applied rt db command requestId now cutoff locks receipt db') :
    db.KeepsProtected command now cutoff db' := by
  cases h with
  | dryRun => exact .refl db
  | replayed => exact .refl db
  | @purged id receipt db₁ db₂ runs hd hid had hkw hrn =>
    have hrs := hkw.rest
    have hr₁ := had.rest
    have hev : db₂.auditEvents = db₁.auditEvents := by rw [hrs]
    have hot : db₂.outbox = db₁.outbox := by rw [hrs]
    have htm : db₂.auditTombstones = db₁.auditTombstones := by rw [hrs]
    have hkn : db₁.knowledge = db.knowledge := by rw [hr₁]
    have hg : db₁.knowledgeTombstones = db.knowledgeTombstones := by rw [hr₁]
    refine ⟨fun e he hp => ?_, fun o ho hp => ?_, fun k hk hkp => ?_, fun t ht => ?_, fun t ht => ?_,
      fun r hr => (mem_insert hrn).2 (.inl hr), ?_⟩
    · change e ∈ db₂.auditEvents
      rw [hev, had.events]
      refine ⟨he, fun r hr hid => ?_⟩
      obtain rfl := Indexed.eq_of_key_eq (mem_retentionCandidates hr).1 he hid
      exact not_protected_of_candidate hr hp
    · change o ∈ db₂.outbox
      rw [hot, had.outbox]
      refine ⟨ho, fun r hr => decide_eq_false ?_⟩
      rintro ⟨hc, hs⟩
      rcases hp with hu | hoh
      · exact hu hs
      · obtain ⟨hm, hcm, -⟩ := mem_retentionCandidates hr
        exact hoh r hm hc hcm
    · change k ∈ db₂.knowledge
      rw [hkw.knowledge, hkn]
      refine ⟨hk, fun r hr hid => ?_⟩
      obtain ⟨hm, hcm, hex⟩ := mem_expiredKnowledge hr
      obtain rfl := eq_of_key_eq hm hk hid
      rcases hkp with ha | hoh
      · rw [KnowledgeRecord.not_accessible_of_expired hex] at ha
        cases ha
      · exact hoh hcm
    · change t ∈ db₂.auditTombstones
      rw [htm, had.tombstones]
      exact .inl ht
    · exact hkw.kept t (hg ▸ ht)
    · exact ⟨by rw [hrs, hr₁], by rw [hrs, hr₁], by rw [hrs, hr₁]⟩

private theorem apply_dryRun (hd : command.dryRun = true)
    (h : apply rt db command requestId now cutoff locks = .ok (receipt, db')) : db' = db := by
  cases applied_of_apply h with
  | dryRun => rfl
  | replayed hn => exact absurd (hd.symm.trans hn) (by simp)
  | purged hn => exact absurd (hd.symm.trans hn) (by simp)

/-! ### Repeated requests -/

private theorem Applied.stored (h : Applied rt db command requestId now cutoff locks receipt db')
    (hd : command.dryRun = false) :
    ∃ id run, requestId = some id ∧ db'.retentionRuns.get (command.companyId, id) = some run ∧
      run.commandHash = command.digest rt ∧ run.receipt = receipt := by
  cases h with
  | dryRun ht => exact absurd (hd.symm.trans ht) (by simp)
  | replayed _ hid hp hs => exact ⟨_, _, hid, hp, hs, rfl⟩
  | purged _ hid _ _ hr => exact ⟨_, _, hid, get_insert_self hr, rfl, rfl⟩

private theorem apply_stored {id run} (hc : (db.companies.get command.companyId).isSome = true)
    (hd : command.dryRun = false) (hr : db.retentionRuns.get (command.companyId, id) = some run) :
    apply rt db command (some id) now cutoff locks = if run.commandHash = command.digest rt then .ok (run.receipt, db)
      else .error (.invalid "retention_request_conflict") := by
  unfold apply
  simp only [ensure, hc, hd, require, hr, if_true, bind, Except.bind, Bool.false_eq_true, if_false]
  by_cases hs : run.commandHash = command.digest rt
  · simp [hs, pure, Except.pure]
  · simp [hs]

/-- For every content of the store and every accepted command, protected rows are kept, a dry run changes nothing, and
as long as the stored runs stay, the company's request id gives the stored receipt to the same command and is refused
to any other one that is not a dry run; neither changes the store. -/
theorem apply_keeps_protected (hsha : Function.Injective rt.sha256)
    (h : apply rt db command requestId now cutoff locks = .ok (receipt, db')) :
    db.KeepsProtected command now cutoff db' ∧ (command.dryRun = true → db' = db) ∧
      (command.dryRun = false → ∃ id, requestId = some id ∧ ∀ later : Db,
        (∀ c ∈ db'.companies, c ∈ later.companies) → (∀ r ∈ db'.retentionRuns, r ∈ later.retentionRuns) →
        ∀ (again : RetentionCommand) (now' cutoff' : Time) (locks' : RowLocks), again.companyId = command.companyId →
          again.dryRun = false →
            (again = command → apply rt later again (some id) now' cutoff' locks' = .ok (receipt, later)) ∧
            (again ≠ command → apply rt later again (some id) now' cutoff' locks' =
              .error (.invalid "retention_request_conflict"))) := by
  have ha := applied_of_apply h
  have hk := ha.keepsProtected
  refine ⟨hk, fun hdr => apply_dryRun hdr h, fun hdr => ?_⟩
  obtain ⟨id, run, hid, hru, hh, hr⟩ := ha.stored hdr
  refine ⟨id, hid, fun later hcm hrn again now' cutoff' locks' hco hag => ?_⟩
  -- the company and the stored run are still there
  have he : (later.companies.get again.companyId).isSome = true := by
    simp only [apply, eq_ok] at h
    obtain ⟨-, ht, -⟩ := h
    obtain ⟨c, hc⟩ := isSome_iff_exists.1 ht
    obtain ⟨hm, hcd⟩ := get_eq_some.1 hc
    rw [hco]
    exact isSome_iff_exists.2 ⟨c, get_eq_some.2 ⟨hcm c (hk.rest.1 ▸ hm), hcd⟩⟩
  have hs : later.retentionRuns.get (again.companyId, id) = some run := by
    obtain ⟨hm, hke⟩ := get_eq_some.1 hru
    exact get_eq_some.2 ⟨hrn run hm, by rw [hco]; exact hke⟩
  rw [apply_stored he hag hs, hh]
  constructor
  · rintro rfl
    rw [if_pos rfl, hr]
  · intro hne
    rw [if_neg (fun hd => hne (RetentionCommand.digest_inj hsha hd).symm)]

/-! ### Two companies -/

def plainDigests : Runtime where
  sha256 := id
  floatText _ := "0.0"
  reprText _ := ""
  parseDecimal _ := none
  parseInt _ := none

def keyedEvent (auditEventId companyId key : String) (createdAt : Time) : AuditEvent where
  auditEventId := auditEventId
  companyId := companyId
  action := "work_item.created"
  targetType := "work_item"
  targetId := "w"
  actorType := "system"
  actorId := ""
  traceId := none
  runId := none
  workItemId := none
  idempotencyKey := some key
  detail := [("domain_event", .str "work_item.created")]
  createdAt := createdAt

def twoCompanies : Db :=
  { Db.empty with
    companies := ⟨["a", "b"], by decide⟩
    auditEvents := ((Indexed.empty.insert (keyedEvent "audit-a" "a" "k" 0)).bind (fun events =>
      events.insert (keyedEvent "audit-b" "b" "k" 0))).getD .empty }

def purgeOf (companyId : String) (dryRun : Bool) (h : 1 ≤ companyId.length ∧ companyId.length ≤ 48) :
    RetentionCommand :=
  ⟨companyId, 100, dryRun, h, by decide⟩

def noLocks : RowLocks := ⟨[], []⟩

/-- After the request `r` of one company, the request `r` of another one is carried out, and so is a dry run of the
first company under `r`. -/
theorem request_id_per_company :
    ∃ receipt db₁, apply plainDigests twoCompanies (purgeOf "a" false (by decide)) (some "r") 2 1 noLocks =
        .ok (receipt, db₁) ∧
      (∃ receipt₂ db₂, apply plainDigests db₁ (purgeOf "b" false (by decide)) (some "r") 2 1 noLocks =
        .ok (receipt₂, db₂) ∧ db₂.auditEvents.table.rows ≠ db₁.auditEvents.table.rows) ∧
      ∃ receipt₃, apply plainDigests db₁ (purgeOf "a" true (by decide)) (some "r") 2 1 noLocks =
        .ok (receipt₃, db₁) ∧ receipt₃ ≠ receipt := by
  have hf : (apply plainDigests twoCompanies (purgeOf "a" false (by decide)) (some "r") 2 1 noLocks).toOption.any
      (fun (receipt, db₁) =>
        (apply plainDigests db₁ (purgeOf "b" false (by decide)) (some "r") 2 1 noLocks).toOption.any (fun (_, db₂) =>
          db₂.auditEvents.table.rows ≠ db₁.auditEvents.table.rows) &&
        (apply plainDigests db₁ (purgeOf "a" true (by decide)) (some "r") 2 1 noLocks).toOption.any
          (fun (receipt₃, _) => receipt₃ ≠ receipt)) = true := by
    decide +kernel
  obtain ⟨⟨receipt, db₁⟩, hok, ht⟩ := (any_eq_true _ _).1 hf
  obtain ⟨ho, hd⟩ := Bool.and_eq_true_iff.1 ht
  obtain ⟨⟨receipt₂, db₂⟩, hok₂, hc⟩ := (any_eq_true _ _).1 ho
  obtain ⟨⟨receipt₃, db₃⟩, hok₃, hp⟩ := (any_eq_true _ _).1 hd
  have hok₃ := toOption_eq_some.1 hok₃
  obtain rfl : db₃ = db₁ := (apply_dryRun rfl hok₃)
  exact ⟨receipt, db₃, toOption_eq_some.1 hok, ⟨receipt₂, db₂, toOption_eq_some.1 hok₂, of_decide_eq_true hc⟩,
    receipt₃, hok₃, of_decide_eq_true hp⟩

/-- A purge and its repetition. -/
theorem apply_keeps_protected_repeated :
    ∃ receipt db₁, apply plainDigests twoCompanies (purgeOf "a" false (by decide)) (some "r") 2 1 noLocks =
        .ok (receipt, db₁) ∧ twoCompanies.KeepsProtected (purgeOf "a" false (by decide)) 2 1 db₁ ∧
      apply plainDigests db₁ (purgeOf "a" false (by decide)) (some "r") 9 8 noLocks = .ok (receipt, db₁) := by
  have hf : (apply plainDigests twoCompanies (purgeOf "a" false (by decide)) (some "r") 2 1 noLocks).toOption.isSome =
      true := by
    decide +kernel
  obtain ⟨⟨receipt, db₁⟩, hok⟩ := isSome_iff_exists.1 hf
  have hok := toOption_eq_some.1 hok
  have hs : Function.Injective plainDigests.sha256 := fun _ _ h => h
  obtain ⟨hk, -, hr⟩ := apply_keeps_protected hs hok
  obtain ⟨id, hid, hl⟩ := hr rfl
  cases hid
  exact ⟨receipt, db₁, hok, hk, (hl db₁ (fun _ h => h) (fun _ h => h) _ 9 8 noLocks rfl rfl).1 rfl⟩

end WisdoverseCell.Retention
