import WisdoverseCell.Evolution.Superseded

/-!
# The rollout states of proposals over runs of the system

Six kinds of step write proposals or approvals (`PlaneEffect`).  A rollout state moves along the transition table in
every step but one: the rejection of a linked approval.  A proposal comes to a state that needs approval only with an
approved one linked, if callers who say "approved" say the truth.
-/

namespace WisdoverseCell.Evolution

open Option Table
open ControlPlane (Time ApprovalRequest ApprovalStatus ExecutionDenied)

variable {command : SkillReleaseCommand} {prepared : Prepared} {rollout : RolloutState}
  {approvalId resolvedBy actorId proposalId : String} {approved : Bool} {state : Option ApprovalStatus}
  {p' p : EvolutionProposal} {ids : ReleaseIds} {a : WorldAct} {f : EvolutionProposal → EvolutionProposal}
  {u : ProposalUpdate}

/-! ### What a step does to proposals and approvals -/

def PlaneDb.Quiet (db db' : PlaneDb) : Prop :=
  db'.proposals = db.proposals ∧
    (db'.approvals = db.approvals ∨ ∃ a, a.status = .pending ∧ db.approvals.insert a = some db'.approvals)

inductive PlaneEffect (rt : ReleaseRuntime) (w : World) : WorldAct → PlaneDb → Prop
  | quiet {a db'} (h : w.plane.Quiet db') : PlaneEffect rt w a db'
  | create {r : ProposalCreate} {db' : _} (h : createEvolutionProposal w.plane r = .ok db') :
      PlaneEffect rt w (.create r) db'
  | record {proposalId companyId scope tier state link db'}
      (h : recordEvolutionProposal w.plane proposalId companyId tier scope state link = .ok db') :
      PlaneEffect rt w (.record proposalId companyId tier scope state link) db'
  | update {u : ProposalUpdate} {db' : _} (h : updateEvolutionProposalStatus w.plane u = .ok db') :
      PlaneEffect rt w (.update u) db'
  | resolve {approvalId resolvedBy approved db'}
      (h : resolveApproval w.clock w.plane approvalId approved resolvedBy = .ok db') :
      PlaneEffect rt w (.resolve approvalId approved resolvedBy) db'
  | acknowledge {i actorId ids c r db'} (htask : w.tasks[i]? = some (.acknowledge c r))
      (h : acknowledge rt w.plane c r = .ok db') :
      PlaneEffect rt w (.resume i actorId ids) db'

def Prepared.db : Prepared → PlaneDb
  | .ready _ db => db
  | .approvalRequested db => db

section

variable {rt : ReleaseRuntime} {now : Time} {w v : World} {db db' : PlaneDb}

private theorem PlaneDb.Quiet.refl : db.Quiet db := ⟨rfl, .inl rfl⟩

private theorem PlaneDb.Asks.quiet (h : db.Asks db') : db.Quiet db' := by
  rcases h with rfl | ⟨a, approvals, hp, hi, rfl⟩
  · exact .refl
  · exact ⟨rfl, .inr ⟨a, hp, hi⟩⟩

private theorem writeCommand_quiet {existing} (h : writeCommand db existing command = .ok db') : db.Quiet db' := by
  cases existing with
  | none =>
    simp only [writeCommand, eq_ok] at h
    obtain ⟨-, -, deployments, -, rfl⟩ := h
    exact .refl
  | some =>
    obtain rfl := pure_eq_ok.1 h
    exact .refl

private theorem prepare_quiet {request action override}
    (h : prepare rt now db request action actorId override ids = .ok prepared) : db.Quiet prepared.db := by
  rcases prepare_eq_ok h with ⟨c, -, rfl⟩ | ⟨proposal, report, existing, subject, h⟩
  · exact .refl
  · cases prepared with
    | ready => exact writeCommand_quiet (orderRelease_ready h).2
    | approvalRequested => exact (orderRelease_requested h).quiet

private theorem recoverExpiredPending_quiet {stored}
    (h : recoverExpiredPending rt now db command actorId ids = .ok (stored, prepared)) : db.Quiet prepared.db := by
  obtain ⟨-, -, -, row, reset, hr, hp⟩ := recoverExpiredPending_eq_ok h
  obtain ⟨hpr, ha⟩ := resetRow_frame hr
  obtain ⟨hp', ha'⟩ := prepare_quiet hp
  rw [hpr] at hp'
  rw [ha] at ha'
  exact ⟨hp', ha'⟩

private theorem World.afterPrepare_plane (w : World) (prepared) : (w.afterPrepare prepared).plane = prepared.db := by
  cases prepared <;> rfl

private theorem World.commit_eq_some {ε : Type} {result : Except ε PlaneDb} (hv : w.commit result = some v) :
    result = .ok v.plane := by
  unfold World.commit at hv
  split at hv
  · rw [← some.inj hv]
  · cases hv

private theorem stepTask_planeEffect {i : Nat} {t} (ht : w.tasks[i]? = some t)
    (hv : stepTask rt w actorId ids t = some v) : PlaneEffect rt w (.resume i actorId ids) v.plane := by
  cases t with
  | acknowledge => exact .acknowledge ht (World.commit_eq_some hv)
  | await =>
    obtain ⟨r, -, rfl⟩ := map_eq_some_iff.1 hv
    exact .quiet .refl
  | replace =>
    obtain ⟨-, hv⟩ := ite_none_right_eq_some.1 hv
    split at hv
    · rename_i stored prepared hr
      cases hv
      rw [World.afterPrepare_plane]
      exact .quiet (recoverExpiredPending_quiet hr)
    · cases hv
  | _ =>
    simp only [stepTask] at hv
    split at hv <;> cases hv <;> exact .quiet .refl

private theorem worldStep_planeEffect (hv : worldStep rt w a = some v) : PlaneEffect rt w a v.plane := by
  cases a with
  | create => exact .create (World.commit_eq_some hv)
  | record => exact .record (World.commit_eq_some hv)
  | update => exact .update (World.commit_eq_some hv)
  | resolve => exact .resolve (World.commit_eq_some hv)
  | requestApproval a =>
    obtain ⟨hp, hv⟩ := ite_none_right_eq_some.1 hv
    obtain ⟨approvals, hi, hpl⟩ := requestApproval_eq_ok (World.commit_eq_some hv)
    exact .quiet (PlaneDb.Asks.quiet (.inr ⟨a, approvals, hp, hi, hpl⟩))
  | report =>
    obtain ⟨reports, -, rfl⟩ := map_eq_some_iff.1 hv
    exact .quiet .refl
  | release =>
    obtain ⟨-, hv⟩ := ite_none_right_eq_some.1 hv
    split at hv
    · rename_i prepared hpr
      cases hv
      rw [World.afterPrepare_plane]
      exact .quiet (prepare_quiet hpr)
    · cases hv
  | reconcile | recover =>
    simp only [worldStep] at hv
    split at hv
    · cases hv
      exact .quiet .refl
    · cases hv
  | resume =>
    obtain ⟨t, ht, hv⟩ := bind_eq_some_iff.1 hv
    exact stepTask_planeEffect ht hv
  | deliver =>
    obtain ⟨m, -, rfl⟩ := map_eq_some_iff.1 hv
    exact .quiet .refl
  | tick | rollbackIfCurrent | addResults | conclude =>
    cases hv
    exact .quiet .refl

end

/-! ### Moving along the transition table -/

/-- Every rollout state that changed moved along an edge of the table. -/
def PlaneDb.Follows (db db' : PlaneDb) : Prop :=
  ∀ p ∈ db.proposals, ∀ p' ∈ db'.proposals, p'.proposalId = p.proposalId →
    p'.rolloutState ≠ p.rolloutState → rolloutMachine.canTransition p.rolloutState p'.rolloutState = true

def NotRolledOut (w : World) : WorldAct → Prop
  | .resolve approvalId false _ => ∀ p ∈ w.plane.proposals.rows, p.approvalId = some approvalId →
      p.rolloutState = .proposed ∨ p.rolloutState = .rejected
  | _ => True

section

variable {rt : ReleaseRuntime} {now : Time} {w v : World} {db db' : PlaneDb}

private theorem PlaneDb.follows_of_proposals (h : db'.proposals = db.proposals) : db.Follows db' := by
  intro p hp p' hp' hid hne
  rw [h] at hp'
  rw [eq_of_key_eq hp' hp hid] at hne
  exact absurd rfl hne

private theorem PlaneDb.follows_of_insert (h : db.proposals.insert p = some db'.proposals) : db.Follows db' := by
  intro q hq q' hq' hid hne
  rcases (mem_insert h).1 hq' with ho | rfl
  · rw [eq_of_key_eq ho hq hid] at hne
    exact absurd rfl hne
  · exact absurd hid.symm ((insert_eq_some h).2 q hq)

private theorem PlaneDb.follows_modify_iff (hf : ∀ p, (f p).proposalId = p.proposalId)
    (hp : db.proposals.get proposalId = some p) (h : db'.proposals = db.proposals.modify proposalId f hf) :
    db.Follows db' ↔ ((f p).rolloutState ≠ p.rolloutState →
      rolloutMachine.canTransition p.rolloutState (f p).rolloutState = true) := by
  have hg : db'.proposals.get proposalId = some (f p) := by
    rw [h, get_modify hf, if_pos rfl, hp, map_some]
  obtain ⟨hm, rfl⟩ := get_eq_some.1 hp
  constructor
  · intro hfl hne
    exact hfl p hm (f p) (get_eq_some.1 hg).1 (hf p) hne
  · intro hs q hq q' hq' hid hne
    rw [h] at hq'
    obtain ⟨q₀, hq₀, ⟨hk, rfl⟩ | ⟨-, rfl⟩⟩ := of_mem_modify hf hq'
    · obtain rfl := eq_of_key_eq hq₀ hm hk
      obtain rfl := eq_of_key_eq hq hq₀ (hid.symm.trans (hf q₀))
      exact hs hne
    · rw [eq_of_key_eq hq₀ hq hid] at hne
      exact absurd rfl hne

private theorem updateEvolutionProposalStatus_follows (h : updateEvolutionProposalStatus db u = .ok db') :
    db.Follows db' := by
  obtain ⟨p, state, rollout, hg, -, -, -, hr, rfl⟩ := updateEvolutionProposalStatus_eq_ok h
  obtain ⟨rfl, he⟩ := advanceTo_eq_ok hr
  refine (PlaneDb.follows_modify_iff (by intro; rfl) hg rfl).2 (fun hne => ?_)
  cases ht : u.rolloutState with
  | none => exact absurd (by rw [ht]; rfl) hne
  | some target => exact he target ht

private theorem rolloutAfter_eq_ok {expected} (h : rolloutAfter p expected = .ok rollout) :
    rollout = expected.rollout := by
  unfold rolloutAfter at h
  split at h
  · exact (Except.ok.inj h).symm
  · exact (advanceRollout_eq_ok.1 (mapError_eq_ok.1 h)).2

private theorem acknowledge_follows {response} (h : acknowledge rt db command response = .ok db') : db.Follows db' := by
  obtain ⟨p, rollout, deployments, hg, hr, -, rfl⟩ := acknowledge_eq_ok h
  refine (PlaneDb.follows_modify_iff (by intro; rfl) hg rfl).2 (fun hne => ?_)
  unfold rolloutAfter at hr
  split at hr
  · rename_i hs
    cases hr
    exact absurd hs.symm hne
  · obtain ⟨he, rfl⟩ := advanceRollout_eq_ok.1 (mapError_eq_ok.1 hr)
    exact he

private theorem resolveApproval_follows_iff (h : resolveApproval now db approvalId approved resolvedBy = .ok db') :
    db.Follows db' ↔ (approved = false → ∀ p ∈ db.proposals, p.approvalId = some approvalId →
      p.rolloutState = .proposed ∨ p.rolloutState = .rejected) := by
  obtain ⟨a, approvals, -, -, -, h⟩ := resolveApproval_eq_ok h
  rcases applyResolution_eq_ok h with ⟨hn, rfl⟩ | ⟨p, hp, hl, ho, rfl⟩
  · exact ⟨fun _ _ p hp hl => absurd hl (hn p hp), fun _ => PlaneDb.follows_of_proposals rfl⟩
  · refine (PlaneDb.follows_modify_iff (by intro; rfl) (get_of_mem hp) rfl).trans ?_
    have he : (RolloutState.rejected ≠ p.rolloutState → rolloutMachine.canTransition p.rolloutState .rejected = true) ↔
        (p.rolloutState = .proposed ∨ p.rolloutState = .rejected) := by
      cases p.rolloutState <;> decide
    cases approved with
    | true => exact ⟨fun _ => nofun, fun _ hne => absurd rfl hne⟩
    | false =>
      refine he.trans ⟨fun hs _ q hq hq' => ho q hq hq' ▸ hs, fun ha => ha rfl p hp hl⟩

private theorem worldStep_follows (hs : worldStep rt w a = some v) (hok : NotRolledOut w a) :
    w.plane.Follows v.plane := by
  cases worldStep_planeEffect hs with
  | quiet h => exact PlaneDb.follows_of_proposals h.1
  | create h =>
    obtain ⟨asked, p, proposals, ha, -, -, hi, hp⟩ := createEvolutionProposal_eq_ok h
    rw [ha.quiet.1] at hi
    exact PlaneDb.follows_of_insert (p := p) (by rw [hp]; exact hi)
  | record h =>
    obtain ⟨proposals, hi, hp⟩ := recordEvolutionProposal_eq_ok h
    exact PlaneDb.follows_of_insert (by rw [hp]; exact hi)
  | update h => exact updateEvolutionProposalStatus_follows h
  | resolve h =>
    refine (resolveApproval_follows_iff h).2 ?_
    rintro rfl
    exact hok
  | acknowledge _ h => exact acknowledge_follows h

end

/-- In every step every change of a rollout state is an edge of the table, unless the step rejects the approval of a
proposal that was rolled out. -/
theorem rollout_follows_machine_iff {rt : ReleaseRuntime} {w v : World} {a : WorldAct}
    (hstep : worldStep rt w a = some v) : w.plane.Follows v.plane ↔ NotRolledOut w a := by
  refine ⟨fun hf => ?_, worldStep_follows hstep⟩
  cases a with
  | resolve approvalId approved =>
    cases approved with
    | true => trivial
    | false => exact (resolveApproval_follows_iff (World.commit_eq_some hstep)).1 hf rfl
  | _ => trivial

/-- A proposal goes to shadow. -/
theorem rollout_follows_machine_iff_shadow :
    ∃ v, worldStep plainReleaseRuntime restingWorld (.update ⟨"c", "p", none, some .shadow, none⟩) = some v ∧
      restingWorld.plane.Follows v.plane := by
  have hs : (worldStep plainReleaseRuntime restingWorld
      (.update ⟨"c", "p", none, some .shadow, none⟩)).isSome = true := by decide +kernel
  obtain ⟨v, hv⟩ := isSome_iff_exists.1 hs
  exact ⟨v, hv, (rollout_follows_machine_iff hv).2 trivial⟩

section

variable {rt : ReleaseRuntime} {w v : World} {db db' : PlaneDb}

def PlaneDb.KeepsProposals (db db' : PlaneDb) : Prop :=
  ∀ id p, db.proposals.get id = some p → ∃ p', db'.proposals.get id = some p'

private theorem PlaneDb.keepsProposals_of_eq (h : db'.proposals = db.proposals) : db.KeepsProposals db' :=
  fun _ p hp => ⟨p, h ▸ hp⟩

private theorem PlaneDb.keepsProposals_of_insert (h : db.proposals.insert p = some db'.proposals) :
    db.KeepsProposals db' :=
  fun _ q hq => ⟨q, get_insert_of_some h hq⟩

private theorem PlaneDb.keepsProposals_setProposal (hf : ∀ p, (f p).proposalId = p.proposalId) :
    db.KeepsProposals (db.setProposal proposalId f hf) := by
  intro id q hq
  change ∃ p', (db.proposals.modify proposalId f hf).get id = some p'
  rw [get_modify hf, hq]
  split
  · exact ⟨f q, rfl⟩
  · exact ⟨q, rfl⟩

private theorem worldStep_keepsProposals (hs : worldStep rt w a = some v) : w.plane.KeepsProposals v.plane := by
  cases worldStep_planeEffect hs with
  | quiet h => exact PlaneDb.keepsProposals_of_eq h.1
  | create h =>
    obtain ⟨asked, p, proposals, ha, -, -, hi, hp⟩ := createEvolutionProposal_eq_ok h
    rw [ha.quiet.1] at hi
    exact PlaneDb.keepsProposals_of_insert (p := p) (by rw [hp]; exact hi)
  | record h =>
    obtain ⟨proposals, hi, hp⟩ := recordEvolutionProposal_eq_ok h
    exact PlaneDb.keepsProposals_of_insert (by rw [hp]; exact hi)
  | update h =>
    obtain ⟨p, state, rollout, -, -, -, -, -, hp⟩ := updateEvolutionProposalStatus_eq_ok h
    rw [hp]
    exact PlaneDb.keepsProposals_setProposal _
  | resolve h =>
    obtain ⟨_, approvals, -, -, -, h⟩ := resolveApproval_eq_ok h
    rcases applyResolution_eq_ok h with ⟨-, hp⟩ | ⟨p, -, -, -, hp⟩ <;> rw [hp]
    · exact PlaneDb.keepsProposals_of_eq rfl
    · exact fun id q hq => PlaneDb.keepsProposals_setProposal _ id q hq
  | acknowledge _ h =>
    obtain ⟨p, rollout, deployments, -, -, -, hp⟩ := acknowledge_eq_ok h
    rw [hp]
    exact fun id q hq => PlaneDb.keepsProposals_setProposal _ id q hq

/-- Over a run in which no approval of a proposal that was rolled out is rejected, every proposal is kept and its
rollout state goes along a path of the table. -/
theorem rollout_path (hrun : Run (Steps (worldStep rt)) NotRolledOut w v) {id p}
    (hp : w.plane.proposals.get id = some p) :
    ∃ p', v.plane.proposals.get id = some p' ∧
      Relation.ReflTransGen (fun r r' => rolloutMachine.canTransition r r' = true) p.rolloutState p'.rolloutState := by
  refine hrun.relates (Q := fun w v => ∀ p, w.plane.proposals.get id = some p →
    ∃ p', v.plane.proposals.get id = some p' ∧
    Relation.ReflTransGen (fun r r' => rolloutMachine.canTransition r r' = true) p.rolloutState p'.rolloutState)
    (fun _ p hp => ⟨p, hp, .refl⟩) ?_ ?_ p hp
  · intro w u v hwu huv p hp
    obtain ⟨q, hq, hpq⟩ := hwu p hp
    obtain ⟨p', hp', hqp'⟩ := huv q hq
    exact ⟨p', hp', hpq.trans hqp'⟩
  · intro w a v hok hs p hp
    obtain ⟨p', hp'⟩ := worldStep_keepsProposals hs id p hp
    refine ⟨p', hp', ?_⟩
    obtain ⟨hm, hid⟩ := get_eq_some.1 hp
    obtain ⟨hm', hid'⟩ := get_eq_some.1 hp'
    by_cases heq : p'.rolloutState = p.rolloutState
    · rw [heq]
    · exact .single (worldStep_follows hs hok p hm p' hm' (hid'.trans hid.symm) heq)

end

/-- A proposal with a pending review goes to shadow, and then the review is rejected. -/
theorem rejection_leaves_shadow : ∃ w v, Run (Steps (worldStep plainReleaseRuntime)) Always restingWorld w ∧
      worldStep plainReleaseRuntime w (.resolve "a" false "o") = some v ∧
      ∃ p ∈ w.plane.proposals, ∃ p' ∈ v.plane.proposals, p'.proposalId = p.proposalId ∧
        p.rolloutState = .shadow ∧ p'.rolloutState = .rejected ∧
        rolloutMachine.canTransition .shadow .rejected = false :=
  exists_run_step [.create ⟨"q", "c", .L1, "s", none, true, "x", "a"⟩, .update ⟨"c", "q", none, some .shadow, none⟩]
    (by decide +kernel)

/-! ### The approval behind a rollout -/

def PlaneDb.Linked (db : PlaneDb) : Prop := ∀ p ∈ db.proposals, p.Linked db

def ProposalUpdate.link (db : PlaneDb) (u : ProposalUpdate) : Option String :=
  u.approvalId.or ((db.proposals.get u.proposalId).bind (·.approvalId))

def Task.Sanctioned (db : PlaneDb) : Task → Prop
  | .acknowledge c _ => c.action.target.rollout.requiresApproval = true → ∀ p ∈ db.proposals.get c.proposalId,
      p.rolloutState = c.action.target.rollout ∨ p.approvalState = .approved
  | _ => True

instance (db : PlaneDb) (t : Task) : Decidable (t.Sanctioned db) := by
  unfold Task.Sanctioned
  split <;> infer_instance

def Truthful (w : World) : WorldAct → Prop
  | .record _ companyId _ _ approvalState approvalId =>
    (∀ id ∈ approvalId, (w.plane.approvals.get id).any (fun a => a.companyId = companyId) = true) ∧
      (approvalState = .approved → approvalId.any (fun id => w.plane.Approved companyId id) = true)
  | .update u => u.approvalState = some .approved →
      (u.link w.plane).any (fun id => w.plane.Approved u.companyId id) = true
  | .resume i _ _ => ∀ t ∈ w.tasks[i]?, t.Sanctioned w.plane
  | _ => True

instance (w : World) : (a : WorldAct) → Decidable (Truthful w a)
  | .record .. => inferInstanceAs (Decidable (_ ∧ _))
  | .update _ => inferInstanceAs (Decidable (_ → _))
  | .resume .. => inferInstanceAs (Decidable (∀ t ∈ _, _))
  | .tick _ | .create _ | .requestApproval _ | .resolve .. | .report _ | .release .. | .reconcile .. | .recover ..
  | .deliver _ | .rollbackIfCurrent .. | .addResults .. | .conclude .. => isTrue trivial

/-- Approvals are not lost, stay with their company and stay approved. -/
def PlaneDb.Keeps (db db' : PlaneDb) : Prop :=
  ∀ id a, db.approvals.get id = some a → ∃ a', db'.approvals.get id = some a' ∧ a'.companyId = a.companyId ∧
    (a.status = .approved → a'.status = .approved)

section

variable {rt : ReleaseRuntime} {now : Time} {w v : World} {db db' : PlaneDb}

private theorem PlaneDb.Quiet.keeps (h : db.Quiet db') : db.Keeps db' := by
  intro id a ha
  rcases h.2 with hap | ⟨b, -, hi⟩
  · rw [hap]
    exact ⟨a, ha, rfl, fun h => h⟩
  · exact ⟨a, get_insert_of_some hi ha, rfl, fun h => h⟩

private theorem EvolutionProposal.Linked.keeps (h : p.Linked db) (hk : db.Keeps db') : p.Linked db' := by
  refine ⟨fun id hid => ?_, h.approved⟩
  obtain ⟨a, ha, hc, hap⟩ := h.link id hid
  obtain ⟨a', ha', hc', hap'⟩ := hk id a ha
  exact ⟨a', ha', hc'.trans hc, fun hp => hap' (hap hp)⟩

private theorem EvolutionProposal.Linked.exists_approved (h : p.Linked db) (hap : p.approvalState = .approved) :
    ∃ id, p.approvalId = some id ∧ db.Approved p.companyId id := by
  obtain ⟨id, hid⟩ := h.approved hap
  obtain ⟨a, ha, hc, ha'⟩ := h.link id hid
  exact ⟨id, hid, a, ha, hc, ha' hap⟩

private theorem PlaneDb.keeps_of_approvals (h : db'.approvals = db.approvals) : db.Keeps db' := by
  intro id a ha
  exact ⟨a, by rw [h]; exact ha, rfl, fun h => h⟩

private theorem PlaneDb.Linked.keeps (h : db.Linked) (hpr : db'.proposals = db.proposals) (hk : db.Keeps db') :
    db'.Linked := by
  intro p hp
  rw [hpr] at hp
  exact (h p hp).keeps hk

private theorem PlaneDb.Linked.insert {proposals} (h : db.Linked) (hp : p.Linked db)
    (hi : db.proposals.insert p = some proposals) : { db with proposals := proposals }.Linked := by
  intro q hq
  rcases (mem_insert hi).1 hq with ho | rfl
  · exact (h q ho).keeps (PlaneDb.keeps_of_approvals rfl)
  · exact hp.keeps (PlaneDb.keeps_of_approvals rfl)

private theorem PlaneDb.Linked.setProposal (hf : ∀ p, (f p).proposalId = p.proposalId) (h : db.Linked)
    (hg : db.proposals.get proposalId = some p) (hp : (f p).Linked db) : (db.setProposal proposalId f hf).Linked := by
  intro q hq
  obtain ⟨q₀, hq₀, ⟨hk, rfl⟩ | ⟨-, rfl⟩⟩ := of_mem_modify hf hq
  · obtain ⟨hm, hid⟩ := get_eq_some.1 hg
    obtain rfl := eq_of_key_eq hq₀ hm (hk.trans hid.symm)
    exact hp.keeps (PlaneDb.keeps_of_approvals rfl)
  · exact (h q₀ hq₀).keeps (PlaneDb.keeps_of_approvals rfl)

private theorem suppliedState_eq_ok (h : suppliedState db u = .ok state) :
    (u.approvalId = none ∧ state = u.approvalState) ∨
      ∃ id a, u.approvalId = some id ∧ db.approvals.get id = some a ∧ a.companyId = u.companyId ∧
        state = some (u.approvalState.getD a.status) := by
  unfold suppliedState at h
  split at h
  · rename_i hn
    exact .inl ⟨hn, (Except.ok.inj h).symm⟩
  · rename_i id hid
    simp only [eq_ok, filter_eq_some_iff, decide_eq_true_eq] at h
    obtain ⟨a, ⟨ha, hc⟩, rfl⟩ := h
    exact .inr ⟨id, a, hid, ha, hc, rfl⟩

private theorem updated_linked (h : p.Linked db) (hg : db.proposals.get u.proposalId = some p)
    (hc : p.companyId = u.companyId) (hstat : suppliedState db u = .ok state)
    (ht : u.approvalState = some .approved → (u.link db).any (fun id => db.Approved u.companyId id) = true) :
    EvolutionProposal.Linked db { p with
      approvalState := state.getD p.approvalState
      rolloutState := rollout
      approvalId := u.approvalId.or p.approvalId } := by
  have hl : u.link db = u.approvalId.or p.approvalId := by rw [ProposalUpdate.link, hg]; rfl
  rw [hl] at ht
  by_cases hsd : u.approvalState = some .approved
  · -- the caller says "approved", and the link is
    obtain ⟨id, hid, happ⟩ := (any_eq_true _ _).1 (ht hsd)
    obtain ⟨a, ha, hac, hap⟩ := of_decide_eq_true happ
    refine ⟨fun id' hid' => ?_, fun _ => ⟨id, hid⟩⟩
    obtain rfl := some.inj (hid.symm.trans hid')
    exact ⟨a, ha, hac.trans hc.symm, fun _ => hap⟩
  · -- the caller does not make the state approved
    have hst (state) : u.approvalState.getD state = .approved → state = .approved := by
      cases hu : u.approvalState with
      | none => exact fun h => h
      | some s => exact fun (hs : s = .approved) => absurd (hu.trans (hs ▸ rfl)) hsd
    rcases suppliedState_eq_ok hstat with ⟨hn, rfl⟩ | ⟨id, a, hid, ha, hac, rfl⟩
    · -- the link stays
      rw [hn, none_or]
      refine ⟨fun id hid => ?_, fun happ => h.approved (hst _ happ)⟩
      obtain ⟨a, ha, hac, happ⟩ := h.link id hid
      exact ⟨a, ha, hac, fun hap => happ (hst _ hap)⟩
    · -- the state is that of the new link
      rw [hid]
      refine ⟨?_, fun _ => ⟨id, rfl⟩⟩
      rintro _ ⟨⟩
      exact ⟨a, ha, hac.trans hc.symm, hst _⟩

private theorem resolveApproval_linked (hl : db.Linked)
    (h : resolveApproval now db approvalId approved resolvedBy = .ok db') :
    db'.Linked := by
  obtain ⟨a, approvals, ha, hpn, hg, h⟩ := resolveApproval_eq_ok h
  -- only a pending approval is written
  have hk : db.Keeps { db with approvals := approvals } := by
    intro id b hb
    change ∃ b', approvals.get id = some b' ∧ _
    rw [hg id]
    split
    · rename_i hid
      obtain rfl := some.inj (ha.symm.trans (hid ▸ hb))
      exact ⟨_, rfl, rfl, fun hap => absurd (hap.symm.trans hpn) (by decide)⟩
    · exact ⟨b, hb, rfl, fun h => h⟩
  have hkp : PlaneDb.Linked { db with approvals := approvals } := hl.keeps rfl hk
  rcases applyResolution_eq_ok h with ⟨-, rfl⟩ | ⟨p, hp, hln, -, rfl⟩
  · exact hkp
  · refine hkp.setProposal (by intro; rfl) (get_of_mem hp) ⟨fun id hid => ?_, fun _ => ⟨approvalId, hln⟩⟩
    -- the link of the proposal is the approval just resolved
    obtain rfl : approvalId = id := some.inj (hln.symm.trans hid)
    obtain ⟨b, hb, hc, -⟩ := (hkp p hp).link approvalId hln
    refine ⟨b, hb, hc, fun hap => ?_⟩
    obtain rfl := some.inj (hb.symm.trans ((hg approvalId).trans (if_pos rfl)))
    exact hap

private theorem worldStep_linked (hl : w.plane.Linked) (ht : Truthful w a) (hs : worldStep rt w a = some v) :
    v.plane.Linked := by
  cases worldStep_planeEffect hs with
  | quiet h => exact hl.keeps h.1 h.keeps
  | create h =>
    obtain ⟨asked, p, proposals, has, -, hp, hi, hpl⟩ := createEvolutionProposal_eq_ok h
    rw [hpl]
    exact (hl.keeps has.quiet.1 has.quiet.keeps).insert hp hi
  | @record proposalId companyId scope tier state link db' h =>
    obtain ⟨proposals, hi, hpl⟩ := recordEvolutionProposal_eq_ok h
    obtain ⟨hc, hap⟩ := ht
    rw [hpl]
    refine hl.insert ⟨fun id hid => ?_, fun happ => ?_⟩ hi
    · obtain ⟨a, ha, hac⟩ := (any_eq_true _ _).1 (hc id hid)
      refine ⟨a, ha, of_decide_eq_true hac, fun happ => ?_⟩
      obtain ⟨id', hid', hap'⟩ := (any_eq_true _ _).1 (hap happ)
      obtain rfl := some.inj (hid.symm.trans hid')
      obtain ⟨a', ha', -, hap'⟩ := of_decide_eq_true hap'
      obtain rfl := some.inj (ha.symm.trans ha')
      exact hap'
    · obtain ⟨id, hid, -⟩ := (any_eq_true _ _).1 (hap happ)
      exact ⟨id, hid⟩
  | update h =>
    obtain ⟨p, state, rollout, hg, hc, hst, -, -, hpl⟩ := updateEvolutionProposalStatus_eq_ok h
    rw [hpl]
    have hp := hl p (get_eq_some.1 hg).1
    exact hl.setProposal (by intro; rfl) hg (updated_linked hp hg hc hst ht)
  | resolve h => exact resolveApproval_linked hl h
  | acknowledge _ h =>
    obtain ⟨p, rollout, deployments, hg, -, -, hpl⟩ := acknowledge_eq_ok h
    have hp := hl p (get_eq_some.1 hg).1
    rw [hpl]
    exact PlaneDb.Linked.setProposal (by intro; rfl) (hl.keeps rfl (PlaneDb.keeps_of_approvals rfl)) hg
      ⟨hp.link, hp.approved⟩

def PlaneDb.RollsOut (db : PlaneDb) (p' : EvolutionProposal) : Prop :=
  p'.rolloutState.requiresApproval = true ∧
    ∀ p ∈ db.proposals, p.proposalId = p'.proposalId → p.rolloutState ≠ p'.rolloutState

private theorem PlaneDb.not_rollsOut_of_mem (hp : p ∈ db.proposals) : ¬ db.RollsOut p := fun h => h.2 p hp rfl rfl

private theorem PlaneDb.rollsOut_modify (hf : ∀ p, (f p).proposalId = p.proposalId)
    (hg : db.proposals.get proposalId = some p) (hp' : p' ∈ db.proposals.modify proposalId f hf)
    (hr : db.RollsOut p') : p' = f p ∧ p.rolloutState ≠ (f p).rolloutState := by
  obtain ⟨hm, hid⟩ := get_eq_some.1 hg
  obtain ⟨q, hq, ⟨hk, rfl⟩ | ⟨-, rfl⟩⟩ := of_mem_modify hf hp'
  · obtain rfl := eq_of_key_eq hq hm (hk.trans hid.symm)
    exact ⟨rfl, hr.2 q hq (hf q).symm⟩
  · exact absurd hr (PlaneDb.not_rollsOut_of_mem hq)

private theorem worldStep_rollsOut (ht : Truthful w a) (hs : worldStep rt w a = some v) (hp' : p' ∈ v.plane.proposals)
    (hrl : w.plane.RollsOut p') : p'.approvalState = .approved := by
  cases worldStep_planeEffect hs with
  | quiet h =>
    rw [h.1] at hp'
    exact absurd hrl (PlaneDb.not_rollsOut_of_mem hp')
  | create h =>
    obtain ⟨asked, p, proposals, ha, hpr, -, hi, hpl⟩ := createEvolutionProposal_eq_ok h
    rw [hpl] at hp'
    rcases (mem_insert hi).1 hp' with ho | rfl
    · rw [ha.quiet.1] at ho
      exact absurd hrl (PlaneDb.not_rollsOut_of_mem ho)
    · exact absurd hrl.1 (by rw [hpr]; decide)
  | record h =>
    obtain ⟨proposals, hi, hpl⟩ := recordEvolutionProposal_eq_ok h
    rw [hpl] at hp'
    rcases (mem_insert hi).1 hp' with ho | rfl
    · exact absurd hrl (PlaneDb.not_rollsOut_of_mem ho)
    · exact absurd hrl.1 (by simp [RolloutState.requiresApproval])
  | @update u _ h =>
    obtain ⟨p, state, rollout, hgt, -, -, hg, hr, hpl⟩ := updateEvolutionProposalStatus_eq_ok h
    rw [hpl] at hp'
    obtain ⟨rfl, hne⟩ := PlaneDb.rollsOut_modify (by intro; rfl) hgt hp' hrl
    obtain ⟨rfl, -⟩ := advanceTo_eq_ok hr
    refine hg ?_
    have hrq : (u.rolloutState.getD p.rolloutState).requiresApproval = true := hrl.1
    cases htr : u.rolloutState with
    | none => exact absurd (by rw [htr]; rfl) hne
    | some =>
      rw [htr] at hrq
      exact hrq
  | @resolve _ _ approved _ h =>
    obtain ⟨a, approvals, -, -, -, h⟩ := resolveApproval_eq_ok h
    rcases applyResolution_eq_ok h with ⟨-, hpl⟩ | ⟨p, hp, -, -, hpl⟩
    · rw [hpl] at hp'
      exact absurd hrl (PlaneDb.not_rollsOut_of_mem hp')
    · rw [hpl] at hp'
      obtain ⟨rfl, hne⟩ := PlaneDb.rollsOut_modify (by intro; rfl) (get_of_mem hp) hp' hrl
      cases approved with
      | true => rfl
      | false => exact absurd hrl.1 (by simp [RolloutState.requiresApproval])
  | acknowledge hts h =>
    obtain ⟨p, rollout, deployments, hgt, hr, -, hpl⟩ := acknowledge_eq_ok h
    rw [hpl] at hp'
    obtain ⟨rfl, hne⟩ := PlaneDb.rollsOut_modify (by intro; rfl) hgt hp' hrl
    obtain rfl := rolloutAfter_eq_ok hr
    exact (ht _ hts hrl.1 p hgt).resolve_left hne

end

/-- As long as callers who say "approved" say the truth and releases are acknowledged for approved proposals, a proposal
that comes to canary or active links an approved approval of its company. -/
theorem rollout_has_approval {rt : ReleaseRuntime} {w v u : World} {a : WorldAct} (hstart : w.plane.Linked)
    (hrun : Run (Steps (worldStep rt)) Truthful w v) (htrue : Truthful v a) (hstep : worldStep rt v a = some u) :
    ∀ p' ∈ u.plane.proposals, v.plane.RollsOut p' →
      ∃ id, p'.approvalId = some id ∧ u.plane.Approved p'.companyId id := by
  intro p' hp' hr
  have hl : v.plane.Linked := hrun.invariant (I := fun w => w.plane.Linked) hstart
    (fun _ _ _ hI htrue hstep => worldStep_linked hI htrue hstep)
  have hp'linked := worldStep_linked hl htrue hstep p' hp'
  exact hp'linked.exists_approved (worldStep_rollsOut htrue hstep hp' hr)

/-- A proposal with an approved review goes to canary. -/
theorem rollout_has_approval_reviewed : ∃ v u, Run (Steps (worldStep plainReleaseRuntime)) Truthful restingWorld v ∧
      worldStep plainReleaseRuntime v (.update ⟨"c", "q", none, some .canary, none⟩) = some u ∧
      ∀ p' ∈ u.plane.proposals, v.plane.RollsOut p' →
        ∃ id, p'.approvalId = some id ∧ u.plane.Approved p'.companyId id := by
  have hs : restingWorld.plane.Linked := by
    intro p hp
    obtain rfl := List.mem_singleton.1 hp
    exact ⟨nofun, nofun⟩
  exact exists_run_step_with [.create ⟨"q", "c", .L1, "s", none, true, "x", "a"⟩, .resolve "a" true "o"]
    (fun _ _ => True) (by decide +kernel) (fun _ _ hr hu _ => rollout_has_approval hs hr (by rintro ⟨⟩) hu)

/-- A caller who says "approved" takes a proposal to canary that links no approval at all. -/
theorem canary_without_approval :
    ∃ v, worldStep plainReleaseRuntime restingWorld (.update ⟨"c", "p", some .approved, some .canary, none⟩) = some v ∧
      ∃ p ∈ restingWorld.plane.proposals, ∃ p' ∈ v.plane.proposals, p'.proposalId = p.proposalId ∧
        p.rolloutState = .proposed ∧ p'.rolloutState = .canary ∧ p'.approvalId = none := by
  decide +kernel

end WisdoverseCell.Evolution
