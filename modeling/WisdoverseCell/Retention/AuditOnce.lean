import WisdoverseCell.Retention.PurgeFrame
import WisdoverseCell.Retention.Transactions

/-!
# Appends with an idempotency key are recorded once

A key is recorded by a live row or, after a purge, by its tombstone.  In every run in which no append inserts a row
whose key has been purged since its lookups (`Unpurged`), a key has one record at most and every append returns its id.
-/

namespace WisdoverseCell.Retention

open List Option Table Function
open ControlPlane (Time Runtime)

variable {events : Indexed AuditEvent.auditEventId AuditEvent.dedupe} {now : Time} {rows : List AuditEvent} {db : Db}
  {p : Append}

/-! ### Records of a key -/

def Db.Live (db : Db) (company key id : String) : Prop :=
  ∃ e ∈ db.auditEvents, e.dedupe = some (company, key) ∧ e.auditEventId = id

def Db.Retained (rt : Runtime) (db : Db) (company key id : String) : Prop :=
  ∃ t ∈ db.auditTombstones, t.dedupe = some (company, idempotencyDigest rt company key) ∧ t.receipt.auditEventId = id

def Db.Recorded (rt : Runtime) (db : Db) (company key id : String) : Prop :=
  db.Live company key id ∨ db.Retained rt company key id

/-- No key has both a live row and a tombstone. -/
def Db.RecordsExclusive (rt : Runtime) (db : Db) : Prop :=
  ∀ company key id id', key ≠ "" → db.Live company key id → ¬ db.Retained rt company key id'

section

variable {rt : Runtime} {db db' : Db} {e answer : AuditEvent} {company key id id' : String}

private theorem Db.Live.unique (h : db.Live company key id) (h' : db.Live company key id') : id = id' := by
  obtain ⟨e, he, hk, rfl⟩ := h
  obtain ⟨e', he', hk', rfl⟩ := h'
  rw [Indexed.eq_of_index_eq he he' hk hk']

private theorem Db.Retained.unique (h : db.Retained rt company key id) (h' : db.Retained rt company key id') :
    id = id' := by
  obtain ⟨t, ht, hk, rfl⟩ := h
  obtain ⟨t', ht', hk', rfl⟩ := h'
  rw [Indexed.eq_of_index_eq ht ht' hk hk']

private theorem Db.Recorded.unique (he : db.RecordsExclusive rt) (hk : key ≠ "") (h : db.Recorded rt company key id)
    (h' : db.Recorded rt company key id') : id = id' := by
  rcases h with hl | hr <;> rcases h' with hl' | hr'
  · exact hl.unique hl'
  · exact absurd hr' (he company key id id' hk hl)
  · exact absurd hr (he company key id' id hk hl')
  · exact hr.unique hr'

/-! ### Lookups -/

private theorem lookLive_eq_some (h : lookLive db e = some answer) :
    ∃ key, e.idempotencyKey = some key ∧ db.Live e.companyId key answer.auditEventId := by
  obtain ⟨key, hk, hf⟩ := bind_eq_some_iff.1 h
  obtain ⟨hm, hi⟩ := Indexed.find_eq_some.1 hf
  exact ⟨key, hk, answer, hm, hi, rfl⟩

private theorem lookRetained_eq_some (h : lookRetained rt db e = some answer) :
    ∃ key, e.idempotencyKey = some key ∧ db.Retained rt e.companyId key answer.auditEventId := by
  obtain ⟨key, hk, hf⟩ := bind_eq_some_iff.1 h
  obtain ⟨t, ht, rfl⟩ := map_eq_some_iff.1 hf
  obtain ⟨hm, hi⟩ := Indexed.find_eq_some.1 ht
  exact ⟨key, hk, t, hm, hi, rfl⟩

private theorem not_live_of_lookLive (hk : e.idempotencyKey = some key) (h : lookLive db e = none) :
    ¬ db.Live e.companyId key id := by
  rintro ⟨e', he', hi, -⟩
  simp only [lookLive, hk, bind_some, getAuditByIdempotency] at h
  exact Indexed.find_eq_none.1 h e' he' hi

private theorem not_retained_of_lookRetained (hk : e.idempotencyKey = some key) (h : lookRetained rt db e = none) :
    ¬ db.Retained rt e.companyId key id := by
  rintro ⟨t, ht, hi, -⟩
  simp only [lookRetained, hk, bind_some, getRetainedAudit, map_eq_none_iff] at h
  exact Indexed.find_eq_none.1 h t ht hi

private theorem recorded_of_keyRecorded (h : keyRecorded rt db e = true) :
    ∃ key id, e.idempotencyKey = some key ∧ db.Recorded rt e.companyId key id := by
  unfold keyRecorded at h
  rcases Bool.or_eq_true_iff.1 h with hr | hl
  · obtain ⟨answer, hf⟩ := isSome_iff_exists.1 hr
    obtain ⟨key, hk, hrc⟩ := lookRetained_eq_some hf
    exact ⟨key, _, hk, .inr hrc⟩
  · obtain ⟨answer, hf⟩ := isSome_iff_exists.1 hl
    obtain ⟨key, hk, hrc⟩ := lookLive_eq_some hf
    exact ⟨key, _, hk, .inl hrc⟩

/-! ### What writes keep -/

/-- Records stay, as live rows or as tombstones. -/
structure Db.KeepsRecords (rt : Runtime) (db db' : Db) : Prop where
  recorded : ∀ company key id, key ≠ "" → db.Recorded rt company key id → db'.Recorded rt company key id
  retained : ∀ company key id, db.Retained rt company key id → db'.Retained rt company key id

private theorem Db.KeepsRecords.of_eq (he : db'.auditEvents = db.auditEvents)
    (ht : db'.auditTombstones = db.auditTombstones) : db.KeepsRecords rt db' := by
  constructor
  · intro company key id _ h
    unfold Recorded Live Retained at h ⊢
    rw [he, ht]
    exact h
  · intro company key id h
    unfold Retained at h ⊢
    rw [ht]
    exact h

private theorem Db.RecordsExclusive.of_eq (h : db.RecordsExclusive rt) (he : db'.auditEvents = db.auditEvents)
    (ht : db'.auditTombstones = db.auditTombstones) : db'.RecordsExclusive rt := by
  unfold RecordsExclusive Live Retained at h ⊢
  rw [he, ht]
  exact h

private theorem insert_keepsRecords (hi : db.auditEvents.insert e = some events) (he : db'.auditEvents = events)
    (htm : db'.auditTombstones = db.auditTombstones) : db.KeepsRecords rt db' := by
  constructor
  · intro company key id _ h
    rcases h with ⟨e', he', hk, hid⟩ | ⟨t, ht, hk, hid⟩
    · exact .inl ⟨e', he ▸ (Indexed.mem_insert hi).2 (.inl he'), hk, hid⟩
    · exact .inr ⟨t, htm ▸ ht, hk, hid⟩
  · rintro company key id ⟨t, ht, hk, hid⟩
    exact ⟨t, htm ▸ ht, hk, hid⟩

private theorem insert_recordsExclusive (hi : db.auditEvents.insert e = some events) (he : db'.auditEvents = events)
    (htm : db'.auditTombstones = db.auditTombstones) (h : db.RecordsExclusive rt)
    (hn : ∀ key id, e.idempotencyKey = some key → ¬ db.Retained rt e.companyId key id) : db'.RecordsExclusive rt := by
  rintro company key id id' hne ⟨e', he', hk, hid⟩ ⟨t, ht, htk, htd⟩
  rw [htm] at ht
  rcases (Indexed.mem_insert hi).1 (he ▸ he') with ho | rfl
  · exact h company key id id' hne ⟨e', ho, hk, hid⟩ ⟨t, ht, htk, htd⟩
  · obtain ⟨rfl, hek⟩ := AuditEvent.dedupe_eq_some.1 hk
    exact hn key id' hek ⟨t, ht, htk, htd⟩

private theorem purged_keepsRecords (h : AuditsPurged rt now company rows db db')
    (hrw : ∀ r ∈ rows, r ∈ db.auditEvents ∧ r.companyId = company) : db.KeepsRecords rt db' := by
  constructor
  · rintro c key id hne (⟨e, he, hk, hid⟩ | ⟨t, ht, hk, hid⟩)
    · by_cases hp : ∃ r ∈ rows, r.auditEventId = e.auditEventId
      · obtain ⟨r, hr, hrd⟩ := hp
        obtain ⟨hm, rfl⟩ := hrw r hr
        obtain rfl := Indexed.eq_of_key_eq hm he hrd
        obtain ⟨rfl, hek⟩ := AuditEvent.dedupe_eq_some.1 hk
        refine .inr ⟨auditTombstone rt now r.companyId r, (h.tombstones _).2 (.inr ⟨r, hr, rfl⟩), ?_, hid⟩
        rw [AuditTombstone.dedupe_eq_some]
        refine ⟨rfl, ?_⟩
        simp [auditTombstone, hek, hne]
      · push Not at hp
        exact .inl ⟨e, (h.events e).2 ⟨he, hp⟩, hk, hid⟩
    · exact .inr ⟨t, (h.tombstones t).2 (.inl ht), hk, hid⟩
  · rintro c key id ⟨t, ht, hk, hid⟩
    exact ⟨t, (h.tombstones t).2 (.inl ht), hk, hid⟩

private theorem purged_recordsExclusive (hs : Injective rt.sha256) (h : AuditsPurged rt now company rows db db')
    (hrw : ∀ r ∈ rows, r ∈ db.auditEvents ∧ r.companyId = company) (hex : db.RecordsExclusive rt) :
    db'.RecordsExclusive rt := by
  rintro c key id id' hne ⟨e, he, hke, hid⟩ ⟨t, ht, htk, htd⟩
  obtain ⟨hm, hk⟩ := (h.events e).1 he
  rcases (h.tombstones t).1 ht with ho | ⟨r, hr, rfl⟩
  · exact hex c key id id' hne ⟨e, hm, hke, hid⟩ ⟨t, ho, htk, htd⟩
  · -- a new tombstone with the key is of the live row itself, which is gone
    obtain ⟨hrm, rfl⟩ := hrw r hr
    obtain ⟨rfl, hh⟩ := AuditTombstone.dedupe_eq_some.1 htk
    obtain ⟨key', hk', hd⟩ := map_eq_some_iff.1 hh
    obtain ⟨-, rfl⟩ := idempotencyDigest_inj hs hd
    have hrk : r.dedupe = some (r.companyId, key') := AuditEvent.dedupe_eq_some.2 ⟨rfl, (filter_eq_some_iff.1 hk').1⟩
    exact hk r hr (congrArg _ (Indexed.eq_of_index_eq hrm hm hrk hke))

private theorem Applied.keepsRecords (hs : Injective rt.sha256) {command requestId cutoff locks receipt}
    (h : Applied rt db command requestId now cutoff locks receipt db') (he : db.RecordsExclusive rt) :
    db.KeepsRecords rt db' ∧ db'.RecordsExclusive rt := by
  cases h with
  | dryRun | replayed => exact ⟨.of_eq rfl rfl, he⟩
  | @purged id receipt db₁ db₂ runs hd hid ha hkn =>
    have hrw : ∀ r ∈ retentionCandidates db command cutoff locks,
        r ∈ db.auditEvents ∧ r.companyId = command.companyId := fun r hr =>
      ⟨(mem_retentionCandidates hr).1, (mem_retentionCandidates hr).2.1⟩
    have hk := purged_keepsRecords ha hrw
    have he₁ := purged_recordsExclusive hs ha hrw he
    have hev : db₂.auditEvents = db₁.auditEvents := by rw [hkn.rest]
    have ht : db₂.auditTombstones = db₁.auditTombstones := by rw [hkn.rest]
    have hk₂ : db₁.KeepsRecords rt { db₂ with retentionRuns := runs } := .of_eq hev ht
    exact ⟨⟨fun c key id hne hrc => hk₂.recorded c key id hne (hk.recorded c key id hne hrc),
      fun c key id hrt => hk₂.retained c key id (hk.retained c key id hrt)⟩,
      he₁.of_eq hev ht⟩

end

private theorem KnowledgeTask.write_audits {db₁ : Db} {task : KnowledgeTask} (h : task.write db = .ok db₁) :
    db₁.auditEvents = db.auditEvents ∧ db₁.auditTombstones = db.auditTombstones := by
  cases task with
  | creating => cases h
  | holding =>
    simp only [write, insertKnowledge, eq_ok] at h
    obtain ⟨-, -, knowledge, -, rfl⟩ := h
    exact ⟨rfl, rfl⟩
  | revising =>
    simp only [write, reviseKnowledge, eq_ok] at h
    obtain ⟨-, -, rfl⟩ := h
    exact ⟨rfl, rfl⟩
  | deleting =>
    simp only [write, deleteKnowledge, eq_ok] at h
    obtain ⟨-, -, tombstones, -, rfl⟩ := h
    exact ⟨rfl, rfl⟩

/-! ### Steps -/

/-- What an append in progress whose key was recorded when it began can count on. -/
structure LateSound (rt : Runtime) (db : Db) (p : Append) : Prop where
  live : p.stage = .live →
    ∃ key id, p.event.idempotencyKey = some key ∧ key ≠ "" ∧ db.Recorded rt p.event.companyId key id
  again : p.stage = .again → ∃ key id, p.event.idempotencyKey = some key ∧ db.Retained rt p.event.companyId key id
  insert : p.stage ≠ .insert

structure AppendsSound (rt : Runtime) (s : Sys) : Prop where
  exclusive : s.db.RecordsExclusive rt
  answers : ∀ q ∈ s.history.answers, ∀ key, q.1.idempotencyKey = some key → key ≠ "" →
    s.db.Recorded rt q.1.companyId key q.2.auditEventId
  created : ∀ c ∈ s.history.created, ∀ key, c.event.idempotencyKey = some key → key ≠ "" →
    s.db.Recorded rt c.event.companyId key c.event.auditEventId
  once : ∀ company key, key ≠ "" →
    (s.history.created.filter (fun c => c.event.dedupe = some (company, key))).length ≤ 1
  late : ∀ p ∈ s.appends, p.late = true → LateSound rt s.db p

def Act.insertsAt : Act → Option Nat
  | .insertAppend i _ => some i
  | _ => none

/-- An append inserts its row only while its key has no tombstone. -/
def Unpurged (rt : Runtime) (s : Sys) (a : Act) : Prop :=
  ∀ p ∈ a.insertsAt.bind (s.appends[·]?), lookRetained rt s.db p.event = none

instance (rt : Runtime) (s : Sys) (a : Act) : Decidable (Unpurged rt s a) :=
  inferInstanceAs (Decidable (∀ p ∈ a.insertsAt.bind (s.appends[·]?), lookRetained rt s.db p.event = none))

section

variable {rt : Runtime} {s t : Sys} {a : Act}

private theorem LateSound.keeps {db'} (h : LateSound rt db p) (hk : db.KeepsRecords rt db') : LateSound rt db' p := by
  refine ⟨fun hs => ?_, fun hs => ?_, h.insert⟩
  · obtain ⟨key, id, hke, hne, hr⟩ := h.live hs
    exact ⟨key, id, hke, hne, hk.recorded _ _ _ hne hr⟩
  · obtain ⟨key, id, hke, hrt⟩ := h.again hs
    exact ⟨key, id, hke, hk.retained _ _ _ hrt⟩

private theorem AppendsSound.keeps (h : AppendsSound rt s) (hk : s.db.KeepsRecords rt t.db)
    (he : t.db.RecordsExclusive rt) (ha : t.history.answers = s.history.answers)
    (hcr : t.history.created = s.history.created)
    (hl : ∀ p ∈ t.appends, p.late = true → p ∈ s.appends ∨ LateSound rt t.db p) : AppendsSound rt t := by
  refine ⟨he, ?_, ?_, ?_, fun p hp hpl => ?_⟩
  · rw [ha]
    exact fun q hq key hke hne => hk.recorded _ _ _ hne (h.answers q hq key hke hne)
  · rw [hcr]
    exact fun c hc key hke hne => hk.recorded _ _ _ hne (h.created c hc key hke hne)
  · rw [hcr]
    exact h.once
  · rcases hl p hp hpl with ho | hs
    · exact (h.late p ho hpl).keeps hk
    · exact hs

private theorem AppendsSound.looks (h : AppendsSound rt s) (hdb : t.db = s.db) (hh : t.history = s.history)
    (hl : ∀ p ∈ t.appends, p.late = true → p ∈ s.appends ∨ LateSound rt s.db p) : AppendsSound rt t := by
  have hk : s.db.KeepsRecords rt t.db := .of_eq (by rw [hdb]) (by rw [hdb])
  refine h.keeps hk (by rw [hdb]; exact h.exclusive) (by rw [hh]) (by rw [hh]) (fun p hp hpl => ?_)
  rw [hdb]
  exact hl p hp hpl

private theorem recorded_of_found {e answer key} (hk : e.idempotencyKey = some key)
    (h : lookRetained rt db e = some answer ∨ lookLive db e = some answer) :
    db.Recorded rt e.companyId key answer.auditEventId := by
  rcases h with hf | hf
  · obtain ⟨key', hk', hr⟩ := lookRetained_eq_some hf
    obtain rfl := some.inj (hk.symm.trans hk')
    exact .inr hr
  · obtain ⟨key', hk', hr⟩ := lookLive_eq_some hf
    obtain rfl := some.inj (hk.symm.trans hk')
    exact .inl hr

private theorem AppendsSound.inserted (h : AppendsSound rt s) {outboxId} (hu : lookRetained rt s.db p.event = none)
    (hdb : insertAuditEvent s.db p.event outboxId = .ok t.db) (ha : t.appends ⊆ s.appends)
    (hh : t.history = { s.history with
      answers := s.history.answers ++ [(p.event, p.event)]
      created := s.history.created ++ [creationOf p.event outboxId] }) : AppendsSound rt t := by
  obtain ⟨events, outbox, hi, -, hdb'⟩ := insertAuditEvent_eq_ok hdb
  have hev : t.db.auditEvents = events := by rw [hdb']
  have ht : t.db.auditTombstones = s.db.auditTombstones := by rw [hdb']
  have hk : s.db.KeepsRecords rt t.db := insert_keepsRecords hi hev ht
  have hn (key id : String) (hke : p.event.idempotencyKey = some key) :
      ¬ s.db.Retained rt p.event.companyId key id := not_retained_of_lookRetained hke hu
  have hnw (key : String) (hke : p.event.idempotencyKey = some key) :
      t.db.Recorded rt p.event.companyId key p.event.auditEventId :=
    .inl ⟨p.event, hev ▸ (Indexed.mem_insert hi).2 (.inr rfl), AuditEvent.dedupe_eq_some.2 ⟨rfl, hke⟩, rfl⟩
  refine ⟨insert_recordsExclusive hi hev ht h.exclusive hn, ?_, ?_, ?_, fun q hq hql => (h.late q (ha hq) hql).keeps hk⟩
  · rw [hh]
    intro q hq key hke hne
    rcases mem_concat.1 hq with hq | rfl
    · exact hk.recorded _ _ _ hne (h.answers q hq key hke hne)
    · exact hnw key hke
  · rw [hh]
    intro c hc key hke hne
    rcases mem_concat.1 hc with hc | rfl
    · exact hk.recorded _ _ _ hne (h.created c hc key hke hne)
    · exact hnw key hke
  · rw [hh]
    intro company key hne
    change ((s.history.created ++ [creationOf p.event outboxId]).filter _).length ≤ 1
    rw [filter_append, length_append]
    by_cases hp : p.event.dedupe = some (company, key)
    · -- a row created earlier would be on record
      have hnn : s.history.created.filter (fun c => c.event.dedupe = some (company, key)) = [] := by
        refine filter_eq_nil_iff.2 (fun c hc hck => ?_)
        obtain ⟨rfl, hke⟩ := AuditEvent.dedupe_eq_some.1 hp
        obtain ⟨hcm, hck⟩ := AuditEvent.dedupe_eq_some.1 (of_decide_eq_true hck)
        rcases hcm ▸ h.created c hc key hck hne with ⟨e, he, hek, -⟩ | hr
        · exact (Indexed.insert_eq_some hi).2 e he _ hp hek
        · exact hn key _ hke hr
      rw [hnn]
      simp [creationOf, hp]
    · have hs : [creationOf p.event outboxId].filter (fun c => c.event.dedupe = some (company, key)) = [] := by
        simp [creationOf, hp]
      rw [hs]
      exact h.once company key hne

private theorem effect_appendsSound (hsh : Injective rt.sha256) (hok : Unpurged rt s a) (h : AppendsSound rt s)
    (he : Effect rt s a t) : AppendsSound rt t := by
  cases he with
  | other hdb ha hts hh =>
    have hk : s.db.KeepsRecords rt t.db := .of_eq hdb.auditEvents hdb.auditTombstones
    exact h.keeps hk (h.exclusive.of_eq hdb.auditEvents hdb.auditTombstones) (by rw [hh]) (by rw [hh])
      (fun p hp _ => .inl (ha hp))
  | answered hdb ha hts hf hh =>
    have hk : s.db.KeepsRecords rt t.db := .of_eq (by rw [hdb]) (by rw [hdb])
    refine ⟨by rw [hdb]; exact h.exclusive, ?_, ?_, ?_, fun p hp hpl => (h.late p (ha hp) hpl).keeps hk⟩
    · rw [hh, hdb]
      intro q hq key hke hne
      rcases mem_concat.1 hq with hq | rfl
      · exact h.answers q hq key hke hne
      · exact recorded_of_found hke hf
    · rw [hh, hdb]
      exact h.created
    · rw [hh]
      exact h.once
  | @begun e hdb hke hn ha hts hh =>
    refine h.looks hdb hh (fun p hp hpl => ?_)
    rw [ha] at hp
    rcases mem_concat.1 hp with hp | rfl
    · exact .inl hp
    · obtain ⟨key, id, hek, hr⟩ := recorded_of_keyRecorded hpl
      have hs : firstStage e = .live := by simp [firstStage, hek]
      refine .inr ⟨fun _ => ⟨key, id, hek, ?_, hr⟩, fun hag => ?_, ?_⟩
      · rintro rfl
        exact hke hek
      · exact absurd (hs.symm.trans hag) (by simp)
      · change firstStage e ≠ .insert
        rw [hs]
        simp
  | @notLive p hdb hp hs hn ha hts hh =>
    refine h.looks hdb hh (fun q hq hql => ?_)
    rcases ha q hq with ho | rfl
    · exact .inl ho
    · obtain ⟨key, id, hke, -, hr⟩ := (h.late p hp hql).live hs
      refine .inr ⟨(by simp), fun _ => ⟨key, id, hke, ?_⟩, (by simp)⟩
      rcases hr with hlv | hrt
      · exact absurd hlv (not_live_of_lookLive hke hn)
      · exact hrt
  | @notRetained p hdb hp hs hn ha hts hh =>
    refine h.looks hdb hh (fun q hq hql => ?_)
    rcases ha q hq with ho | rfl
    · exact .inl ho
    · obtain ⟨key, id, hke, hrt⟩ := (h.late p hp hql).again hs
      exact absurd hrt (not_retained_of_lookRetained hke hn)
  | inserted hac hp hs hdb ha hts hh =>
    subst hac
    exact h.inserted (hok _ hp) hdb ha hh
  | planned hdb ha hts hpn =>
    obtain ⟨han, hc, -⟩ := hpn.history_eq
    have hk : s.db.KeepsRecords rt t.db := .of_eq (by rw [hdb]) (by rw [hdb])
    exact h.keeps hk (by rw [hdb]; exact h.exclusive) han hc (fun p hp _ => .inl (ha ▸ hp))
  | locked hdb ha ht hfr hts hh =>
    exact h.looks hdb hh (fun p hp _ => .inl (ha ▸ hp))
  | @wrote task db₁ e ht hw hke had ha hts hh =>
    obtain ⟨he₁, ht₁⟩ := task.write_audits hw
    obtain ⟨events, outbox, hi, -, hdb⟩ := insertAuditEvent_eq_ok had
    rw [he₁] at hi
    have hev : t.db.auditEvents = events := by rw [hdb]
    have htm : t.db.auditTombstones = s.db.auditTombstones := by rw [hdb, ← ht₁]
    exact h.keeps (insert_keepsRecords hi hev htm)
      (insert_recordsExclusive hi hev htm h.exclusive (fun key id hk' =>
        absurd (hke.symm.trans hk') (by simp)))
      (by rw [hh]) (by rw [hh]) (fun p hp _ => .inl (ha ▸ hp))
  | purged hfr hdb ha hts hh =>
    have hlt : ∀ p ∈ t.appends, p.late = true → p ∈ s.appends ∨ LateSound rt t.db p := fun p hp _ => .inl (ha ▸ hp)
    have hap := applied_of_apply hdb
    obtain ⟨hk, hex⟩ := hap.keepsRecords hsh h.exclusive
    exact h.keeps hk hex (by rw [hh]) (by rw [hh]) hlt

end

/-! ### Runs -/

/-- Nothing is in progress, nothing has happened, and no key has both a live row and a tombstone. -/
structure Sys.Resting (rt : Runtime) (s : Sys) : Prop where
  appends : s.appends = []
  tasks : s.tasks = []
  history : s.history = ⟨[], [], [], []⟩
  exclusive : s.db.RecordsExclusive rt

private theorem Sys.Resting.appendsSound {rt s} (h : s.Resting rt) : AppendsSound rt s where
  exclusive := h.exclusive
  answers := by simp [h.history]
  created := by simp [h.history]
  once := by simp [h.history]
  late := by simp [h.appends]

/-- In every state of a run in which no append inserts a row whose key has been purged since its lookups: a non-empty
key of a company has at most one live row or tombstone, every append with the key that returned gave the id of that
record, at most one row was ever inserted for the key, with one outbox event at most, and an append that began when the
key was recorded never comes to insert. -/
theorem append_recorded_once {rt : Runtime} {s t : Sys} (hsha : Injective rt.sha256) (hs : s.Resting rt)
    (hrun : Run (Steps (step rt)) (Unpurged rt) s t) :
    (∀ company key, key ≠ "" → (t.db.auditEvents.table.rows.filter (fun e => e.dedupe = some (company, key))).length +
        (t.db.auditTombstones.table.rows.filter (fun x =>
          x.dedupe = some (company, idempotencyDigest rt company key))).length ≤ 1 ∧
      (∀ e answer, (e, answer) ∈ t.history.answers → e.dedupe = some (company, key) →
        t.db.Recorded rt company key answer.auditEventId ∧
          ∀ e' answer', (e', answer') ∈ t.history.answers → e'.dedupe = some (company, key) →
            answer'.auditEventId = answer.auditEventId) ∧
      (t.history.created.filter (fun c => c.event.dedupe = some (company, key))).length ≤ 1) ∧
    ∀ p ∈ t.appends, p.late = true → p.stage ≠ .insert := by
  have hsn : AppendsSound rt t := hrun.invariant (I := AppendsSound rt) hs.appendsSound
    (fun _ _ _ hI hok hst => effect_appendsSound hsha hok hI (step_effect hst))
  refine ⟨fun company key hne => ⟨?_, ?_, hsn.once company key hne⟩, fun p hp hpl => (hsn.late p hp hpl).insert⟩
  · have hl : (t.db.auditEvents.table.rows.filter (fun e => e.dedupe = some (company, key))).length ≤ 1 :=
      length_filter_le_one.2 (fun a ha b hb hak hbk =>
        Indexed.eq_of_index_eq ha hb (of_decide_eq_true hak) (of_decide_eq_true hbk))
    have hr : (t.db.auditTombstones.table.rows.filter (fun x =>
        x.dedupe = some (company, idempotencyDigest rt company key))).length ≤ 1 :=
      length_filter_le_one.2 (fun a ha b hb hak hbk =>
        Indexed.eq_of_index_eq ha hb (of_decide_eq_true hak) (of_decide_eq_true hbk))
    by_cases han : ∃ id, t.db.Live company key id
    · obtain ⟨id, hid⟩ := han
      have hn : t.db.auditTombstones.table.rows.filter (fun x =>
          x.dedupe = some (company, idempotencyDigest rt company key)) = [] :=
        filter_eq_nil_iff.2 (fun x hx hxk =>
          hsn.exclusive company key id _ hne hid ⟨x, hx, of_decide_eq_true hxk, rfl⟩)
      rw [hn]
      exact hl
    · have hn : t.db.auditEvents.table.rows.filter (fun e => e.dedupe = some (company, key)) = [] :=
        filter_eq_nil_iff.2 (fun e he hek => han ⟨_, e, he, of_decide_eq_true hek, rfl⟩)
      rw [hn]
      simpa using hr
  · have hrc (e answer : AuditEvent) (hm : (e, answer) ∈ t.history.answers)
        (hk : e.dedupe = some (company, key)) : t.db.Recorded rt company key answer.auditEventId := by
      obtain ⟨rfl, heke⟩ := AuditEvent.dedupe_eq_some.1 hk
      exact hsn.answers (e, answer) hm key heke hne
    intro e answer hm hk
    refine ⟨hrc e answer hm hk, fun e' answer' hm' hk' => ?_⟩
    exact (hrc e' answer' hm' hk').unique hsn.exclusive hne (hrc e answer hm hk)

/-! ### Two appends of one key -/

def oneCompany : Sys := ⟨{ Db.empty with companies := ⟨["a"], by decide⟩ }, 0, [], [], ⟨[], [], [], []⟩⟩

private theorem oneCompany_resting (rt) : oneCompany.Resting rt :=
  ⟨rfl, rfl, rfl, fun _ _ _ _ _ ⟨e, he, _⟩ => absurd he (Indexed.not_mem_empty e)⟩

def lookups (auditEventId : String) (i : Nat) : List Act :=
  [.beginAppend none (keyedEvent auditEventId "a" "k" 0), .continueAppend i, .continueAppend i]

def purgeAll : List Act :=
  [.tick (ControlPlane.seconds (100 * 86400)), .markPublished "evt-2",
    .retention (ControlPlane.seconds (100 * 86400)) 90 (purgeOf "a" false (by decide)) (some "r") noLocks]

/-- While one append is about to insert, another one inserts its key and is purged; then the first one inserts a second
row, and the two have returned different ids. -/
theorem purge_before_insert :
    oneCompany.Resting plainDigests ∧ ∃ t, Run (Steps (step plainDigests)) Always oneCompany t ∧
      t.db.Live "a" "k" "audit-1" ∧ t.db.Retained plainDigests "a" "k" "audit-2" ∧ t.history.created.length = 2 ∧
      t.history.answers.map (fun q => q.2.auditEventId) = ["audit-2", "audit-1"] := by
  unfold Db.Live Db.Retained
  exact ⟨oneCompany_resting _, exists_run_exec (lookups "audit-1" 0 ++ lookups "audit-2" 1 ++
    [.insertAppend 1 "evt-2"] ++ purgeAll ++ [.insertAppend 0 "evt-1"]) (by decide +kernel)⟩

/-- A purged event is still recognised by its key. -/
theorem append_recorded_once_purged : ∃ t, Run (Steps (step plainDigests)) (Unpurged plainDigests) oneCompany t ∧
      (t.db.auditEvents.table.rows.filter (fun e => e.dedupe = some ("a", "k"))).length +
        (t.db.auditTombstones.table.rows.filter (fun x =>
          x.dedupe = some ("a", idempotencyDigest plainDigests "a" "k"))).length ≤ 1 ∧
      t.history.answers.map (fun q => q.2.auditEventId) = ["audit-2", "audit-2"] := by
  refine exists_run_with (lookups "audit-2" 0 ++ [.insertAppend 0 "evt-2"] ++ purgeAll ++
    [.beginAppend none (keyedEvent "audit-3" "a" "k" 0)])
    (fun t => t.history.answers.map (fun q => q.2.auditEventId) = ["audit-2", "audit-2"]) (by decide +kernel)
    (fun t hr ha => ⟨?_, ha⟩)
  have hs : Injective plainDigests.sha256 := fun _ _ h => h
  obtain ⟨hk, -⟩ := append_recorded_once hs (oneCompany_resting plainDigests) hr
  exact (hk "a" "k" (by decide)).1

end WisdoverseCell.Retention
