import WisdoverseCell.ControlPlane.Commits
import WisdoverseCell.ControlPlane.Recoverability

/-!
# Completion requires acceptance

A review writes the link from a work item to its acceptance, a rejecting review and a new claim erase it, and a status
update to completed follows it.  The update does not read the status of the run again: a run that has succeeded never
changes its status.
-/

namespace WisdoverseCell.ControlPlane

open Option Table

/-! ### Acceptances -/

def Db.AcceptancesSound (db : Db) : Prop :=
  ∀ a ∈ db.acceptances, a.acceptanceId ≠ "" ∧
    (a.verdict = .accepted → ∃ run, db.agentRuns.get a.runId = some run ∧ run.status = .succeeded)

def WorkItem.acceptanceLink (w : WorkItem) : Option Json := w.metadata.lookup "acceptance_id"

def Db.Accepted (db : Db) (w : WorkItem) : Prop :=
  ∃ acceptance artifact run, w.acceptanceLink = some (.str acceptance.acceptanceId) ∧
    acceptance ∈ db.acceptances ∧ acceptance.companyId = w.companyId ∧ acceptance.workItemId = w.workItemId ∧
    acceptance.verdict = .accepted ∧ db.latestWorkRun w.companyId w.workItemId = some run ∧
    run.runId = acceptance.runId ∧ run.status = .succeeded ∧ db.artifacts.get acceptance.artifactId = some artifact ∧
    acceptance.artifactHash = artifact.contentHash

section

variable {rt : Runtime} {clock : Time} {db db' : Db}

private theorem latestRun_mem {runs r} (h : latestRun runs = some r) : r ∈ runs := by
  have hs : ∀ b, latestRun runs = some b → b ∈ runs := by
    unfold latestRun
    refine List.foldlRecOn (motive := fun best => ∀ b, best = some b → b ∈ runs) runs _ (by simp) ?_
    intro best hbs x hx b hb
    split at hb
    · exact some.inj hb ▸ hx
    · split at hb
      · exact some.inj hb ▸ hx
      · exact hbs b hb
  exact hs r h

private theorem Db.mem_of_latestWorkRun {companyId workItemId run}
    (h : db.latestWorkRun companyId workItemId = some run) : run ∈ db.agentRuns :=
  (List.mem_filter.1 (latestRun_mem h)).1

private theorem accepted_of_requireAccepted {w} (hs : db.AcceptancesSound)
    (h : requireAccepted rt db w = .ok ()) : db.Accepted w := by
  simp only [requireAccepted, eq_ok] at h
  obtain ⟨acceptance, hln, artifact, ha, -, ⟨hv, hc, hw, hh, hlt⟩, -⟩ := h
  obtain ⟨run, hrn, hr⟩ := map_eq_some_iff.1 hlt
  -- the link is a text, and not the empty one that stands for a missing entry
  unfold Db.linkedAcceptance at hln
  split at hln
  · rename_i acceptanceId he
    obtain ⟨hm, rfl⟩ := get_eq_some.1 hln
    obtain ⟨hid, hsc⟩ := hs acceptance hm
    obtain ⟨run', hr', hst⟩ := hsc hv
    obtain rfl : run = run' := by
      obtain ⟨hm', hid'⟩ := get_eq_some.1 hr'
      exact eq_of_key_eq (Db.mem_of_latestWorkRun hrn) hm' (hr.trans hid'.symm)
    have hn : w.acceptanceLink = some (.str acceptance.acceptanceId) := by
      unfold WorkItem.acceptanceLink
      cases hl : w.metadata.lookup "acceptance_id" with
      | none =>
        rw [hl] at he
        exact absurd (Json.str.inj he).symm hid
      | some =>
        rw [hl] at he
        exact congrArg some he
    exact ⟨acceptance, artifact, run, hn, hm, hc, hw, hv, hrn, hr, hst, ha, hh⟩
  · cases hln

/-! ### What commits keep -/

def Db.KeepsSucceeded (db db' : Db) : Prop :=
  ∀ id run, db.agentRuns.get id = some run → run.status = .succeeded →
    ∃ run', db'.agentRuns.get id = some run' ∧ run'.status = .succeeded

def Db.CompletesNone (db db' : Db) : Prop :=
  ∀ w' ∈ db'.workItems, w'.status = .completed → ∃ w ∈ db.workItems, w.workItemId = w'.workItemId ∧
    w.status = .completed ∧ w'.acceptanceLink = w.acceptanceLink

structure Db.Steady (db db' : Db) : Prop where
  sound : db.AcceptancesSound → db'.AcceptancesSound
  completed : db.CompletesNone db'

private theorem Db.CompletesNone.of_eq (h : db'.workItems = db.workItems) : db.CompletesNone db' := by
  intro w' hw' hs
  rw [h] at hw'
  exact ⟨w', hw', rfl, hs, rfl⟩

private theorem Db.CompletesNone.trans {db''} (h : db.CompletesNone db') (h' : db'.CompletesNone db'') :
    db.CompletesNone db'' := by
  intro w'' hw'' hs
  obtain ⟨w', hw', hid', hs', hl'⟩ := h' w'' hw'' hs
  obtain ⟨w, hw, hid, hs, hl⟩ := h w' hw' hs'
  exact ⟨w, hw, hid.trans hid', hs, hl'.trans hl⟩

private theorem Db.CompletesNone.of_update {p f}
    (hf : ∀ w, (f w).workItemId = w.workItemId) (h : db'.workItems = db.workItems.update p f hf)
    (hn : ∀ w ∈ db.workItems, p w = true → (f w).status = .completed →
      w.status = .completed ∧ (f w).acceptanceLink = w.acceptanceLink) : db.CompletesNone db' := by
  intro w' hw' hs
  rw [h] at hw'
  obtain ⟨w, hw, rfl⟩ := of_mem_update hf hw'
  split at hs
  · rename_i hp
    obtain ⟨hb, hl⟩ := hn w hw hp hs
    rw [if_pos hp]
    exact ⟨w, hw, (hf w).symm, hb, hl⟩
  · rename_i hp
    rw [if_neg hp]
    exact ⟨w, hw, rfl, hs, rfl⟩

private theorem Db.CompletesNone.moved (work) {state} (hst : state ≠ .completed)
    (h : db'.workItems = movedWorkItems clock db.workItems work state) : db.CompletesNone db' := by
  cases work with
  | none => exact .of_eq h
  | some => exact .of_update (by intro; rfl) h (fun _ _ _ hs => absurd hs hst)

private theorem Db.AcceptancesSound.keeps (hs : db.AcceptancesSound) (hac : db'.acceptances = db.acceptances)
    (hr : db.KeepsSucceeded db') : db'.AcceptancesSound := by
  intro a ha
  rw [hac] at ha
  obtain ⟨hid, hsc⟩ := hs a ha
  refine ⟨hid, fun hv => ?_⟩
  obtain ⟨run, hrn, hst⟩ := hsc hv
  exact hr a.runId run hrn hst

private theorem Db.KeepsSucceeded.of_eq (h : db'.agentRuns = db.agentRuns) : db.KeepsSucceeded db' := by
  intro id run hr hs
  exact ⟨run, by rw [h]; exact hr, hs⟩

private theorem Db.KeepsSucceeded.of_update {runId f}
    (hf : ∀ r, (f r).runId = r.runId) (h : db'.agentRuns = db.agentRuns.update (fun r => r.runId = runId) f hf)
    (hk : ∀ r, db.agentRuns.get runId = some r → r.status = .succeeded → (f r).status = .succeeded) :
    db.KeepsSucceeded db' := by
  intro id run hr hs
  rw [h, get_update, hr]
  refine ⟨_, rfl, ?_⟩
  dsimp only
  split
  · rename_i hid
    obtain rfl : id = runId := (get_eq_some.1 hr).2.symm.trans (of_decide_eq_true hid)
    exact hk run hr hs
  · exact hs

private theorem close_keepsSucceeded {ctx inputEvent c ids}
    (h : closeAgentWakeupRun rt clock db ctx inputEvent c ids = .ok db') : db.KeepsSucceeded db' := by
  obtain ⟨hm, artifacts, -, audits, rfl, -⟩ := closeAgentWakeupRun_eq_ok.1 h
  refine .of_update (fun r => r.closed_runId clock c _) rfl (fun r hr hs => ?_)
  have hc := hm r hr
  rw [hs] at hc
  exact absurd hc (by simp [StateMachine.canTransition, agentRunMachine])

private theorem review_steady {r} (h : review rt clock db r = .ok db') : db.Steady db' := by
  simp only [review, eq_ok] at h
  obtain ⟨work, hwr, -, -, artifact, -, -, -, run, hr, _, hv, -, -, -, -, acceptances, hi, rfl⟩ := h
  simp only [validateOutcome, eq_ok] at hv
  obtain ⟨-, -, -, ⟨ho, -⟩, -, -, -, ⟨hs, -⟩, -⟩ := hv
  constructor
  · intro hsn a ha
    rcases (mem_insert hi).1 ha with hol | rfl
    · exact hsn a hol
    · refine ⟨fun he => ?_, fun _ => ⟨run, get_of_mem (Db.mem_of_latestWorkRun hr), hs⟩⟩
      have := congrArg String.toList he
      simp [ReviewRequest.acceptanceId] at this
  · refine .of_update (by intro; rfl) rfl (fun w hw hid hst => absurd hst ?_)
    obtain rfl : w = work := some.inj ((get_of_mem hw).symm.trans (of_decide_eq_true hid ▸ hwr))
    exact ho

private theorem Commit.steady (h : Commit rt clock db db') : db.Steady db' := by
  cases h with
  | ledger | ask | createArtifact => exact ⟨fun hs => hs.keeps rfl (.of_eq rfl), .of_eq rfl⟩
  | cost =>
    exact ⟨fun hs => hs.keeps rfl (.of_update (by intro; rfl) rfl (fun _ _ hst => hst)), .of_eq rfl⟩
  | close h =>
    have hk := close_keepsSucceeded h
    obtain ⟨-, artifacts, -, audits, rfl, -⟩ := closeAgentWakeupRun_eq_ok.1 h
    exact ⟨fun hs => hs.keeps rfl hk, .of_eq rfl⟩
  | move work hsta => exact ⟨fun hs => hs.keeps rfl (.of_eq rfl), .moved work hsta rfl⟩
  | update hst h =>
    obtain ⟨w, -, -, -, -, -, rfl⟩ := updateWorkItemStatusWithAudit_eq_ok.1 h
    exact ⟨fun hs => hs.keeps rfl (.of_eq rfl), .of_update (fun w => w.withStatus_workItemId _ _ _ _) rfl
      (fun _ _ _ hc => absurd hc hst)⟩
  | review h => exact review_steady h
  | resolve h =>
    unfold resolveApproval at h
    split at h
    · split at h
      · cases h
        exact ⟨fun hs => hs.keeps rfl (.of_eq rfl), .of_eq rfl⟩
      · cases h
    · cases h
  | createWorkItem h =>
    obtain ⟨ha, h⟩ := ite_none_right_eq_some.1 h
    obtain ⟨items, hi, rfl⟩ := map_eq_some_iff.1 h
    refine ⟨fun hs => hs.keeps rfl (.of_eq rfl), fun w' hw' hst => ?_⟩
    rcases (mem_insert hi).1 hw' with ho | rfl
    · exact ⟨w', ho, rfl, hst, rfl⟩
    · exact absurd hst (of_decide_eq_true ha.1).1

private theorem Commits.steady (h : Commits rt clock db db') : db.Steady db' :=
  h.relates (fun _ => ⟨fun hs => hs, .of_eq rfl⟩)
    (fun _ _ _ h h' => ⟨fun hs => h'.sound (h.sound hs), h.completed.trans h'.completed⟩) (fun _ _ => Commit.steady)

private theorem startWakeup_steady {now agent call ticket}
    (h : startWakeup rt now clock db agent call = .running ticket db') : db.Steady db' := by
  obtain ⟨db₁, hc, hst⟩ := startWakeup_eq_running h
  obtain ⟨intent, work, approved, policies, -, -, leases, reservations, audits, -, -, rfl⟩ := claim_eq_fresh hc
  obtain ⟨runs, hr, rfl⟩ := map_eq_some_iff.1 hst
  constructor
  · refine fun hs => hs.keeps rfl (fun id run hrn hsta => ⟨run, ?_, hsta⟩)
    exact get_insert_of_some hr hrn
  · cases work with
    | none => exact .of_eq rfl
    | some w =>
      have hm : db.CompletesNone { db with workItems := movedWorkItems clock db.workItems (some w) .running } :=
        .moved (some w) (by decide) rfl
      refine hm.trans (.of_update WorkItem.withoutAcceptance_workItemId rfl (fun v hv hid hsta => ?_))
      -- the row without its link is the one just set running
      obtain ⟨v₀, -, rfl⟩ := of_mem_update (by intro; rfl) hv
      split at hsta
      · cases hsta
      · rename_i hid₀
        rw [if_neg hid₀] at hid
        exact absurd hid hid₀

end

/-! ### Runs -/

def Db.Completed (db : Db) (workItemId : String) : Prop :=
  ∃ w, db.workItems.get workItemId = some w ∧ w.status = .completed

def Db.CompletedFrom (db db' : Db) (w' : WorkItem) : Prop :=
  (∃ w ∈ db.workItems, w.workItemId = w'.workItemId ∧ w.status = .completed ∧ w'.acceptanceLink = w.acceptanceLink) ∨
    ((∀ w ∈ db.workItems, w.workItemId = w'.workItemId → w.status ≠ .completed) ∧ db'.Accepted w')

private theorem updateStatus_completedFrom {rt now db db' u}
    (hs : db.AcceptancesSound) (h : updateWorkItemStatusWithAudit rt now db u = .ok db') :
    db'.AcceptancesSound ∧ ∀ w' ∈ db'.workItems, w'.status = .completed → db.CompletedFrom db' w' := by
  obtain ⟨w, hg, -, -, -, ha, rfl⟩ := updateWorkItemStatusWithAudit_eq_ok.1 h
  refine ⟨hs.keeps rfl (.of_eq rfl), fun w' hw' hst => ?_⟩
  obtain ⟨w₀, hw₀, rfl⟩ := of_mem_update (fun w => w.withStatus_workItemId _ _ _ _) hw'
  split at hst
  · rename_i hid
    obtain rfl : w₀ = w := some.inj ((get_of_mem hw₀).symm.trans (of_decide_eq_true hid ▸ hg))
    rw [if_pos hid]
    by_cases hb : w₀.status = .completed
    · exact .inl ⟨w₀, hw₀, rfl, hb, rfl⟩
    · refine .inr ⟨fun v hv hvd => ?_, accepted_of_requireAccepted hs (ha hst)⟩
      rw [eq_of_key_eq hv hw₀ hvd]
      exact hb
  · rename_i hid
    rw [if_neg hid]
    exact .inl ⟨w₀, hw₀, rfl, hst, rfl⟩

private theorem step_completedFrom {rt s t a} (hs : s.db.AcceptancesSound) (h : step rt s a = some t) :
    t.db.AcceptancesSound ∧ ∀ w' ∈ t.db.workItems, w'.status = .completed → s.db.CompletedFrom t.db w' := by
  rcases step_commits h with ⟨sampled, agent, call, attempt, ticket, -, hst⟩ | ⟨u, -, hu⟩ | hc
  · have hsd := startWakeup_steady hst
    exact ⟨hsd.sound hs, fun w' hw' hsta => .inl (hsd.completed w' hw' hsta)⟩
  · exact updateStatus_completedFrom hs hu
  · have hsd := hc.steady
    exact ⟨hsd.sound hs, fun w' hw' hsta => .inl (hsd.completed w' hw' hsta)⟩

private theorem link_of_completedFrom {db db' : Db} {w w'} (h : db.CompletedFrom db' w') (hw : w ∈ db.workItems)
    (hid : w.workItemId = w'.workItemId) (hs : w.status = .completed) : w'.acceptanceLink = w.acceptanceLink := by
  rcases h with ⟨v, hv, hvd, -, hl⟩ | ⟨hn, -⟩
  · rw [eq_of_key_eq hw hv (hid.trans hvd.symm)]
    exact hl
  · exact absurd hs (hn w hw hid)

/-- Over every run, a work item becomes completed only with an acceptance of its own, of its latest run, which
succeeded, and of the artifact as it was reviewed; and the link to the acceptance is the same in all states up to
which the item has stayed completed. -/
theorem completion_requires_acceptance {rt : Runtime} {s t u v : Sys} {a : Act} {workItemId : String}
    (hstart : s.db.AcceptancesSound) (hrun : Run (Steps (step rt)) Always s t) (hstep : step rt t a = some u)
    (hstays : Run (Steps (step rt)) (fun s _ => s.db.Completed workItemId) u v) :
    (∀ w' ∈ u.db.workItems, w'.status = .completed →
      (∀ w ∈ t.db.workItems, w.workItemId = w'.workItemId → w.status ≠ .completed) → u.db.Accepted w') ∧
    (∀ w w', u.db.workItems.get workItemId = some w → w.status = .completed →
      v.db.workItems.get workItemId = some w' → w'.status = .completed → w'.acceptanceLink = w.acceptanceLink) := by
  have hs : t.db.AcceptancesSound := hrun.invariant (I := fun s => s.db.AcceptancesSound) hstart
    (fun _ _ _ hI _ hstep => (step_completedFrom hI hstep).1)
  obtain ⟨hu, hf⟩ := step_completedFrom hs hstep
  refine ⟨fun w' hw' hst hn => ?_, fun w w' hw hst => ?_⟩
  · rcases hf w' hw' hst with ⟨w, hw, hid, hc, -⟩ | ⟨-, ha⟩
    · exact absurd hc (hn w hw hid)
    · exact ha
  · -- along the run the link of the item, completed before every step, is that of `w`
    have hl := hstays.invariant (I := fun s => s.db.AcceptancesSound ∧ ∀ x, s.db.workItems.get workItemId = some x →
      x.status = .completed → x.acceptanceLink = w.acceptanceLink) ⟨hu, fun x hx _ => by
        rw [some.inj (hx.symm.trans hw)]⟩ (fun s a t hI hok hstep => ?_)
    · exact fun hw' => hl.2 w' hw'
    · obtain ⟨ht, hf⟩ := step_completedFrom hI.1 hstep
      obtain ⟨y, hy, hyc⟩ := hok
      refine ⟨ht, fun x hx hxc => ?_⟩
      obtain ⟨hxm, hxd⟩ := get_eq_some.1 hx
      obtain ⟨hym, hyd⟩ := get_eq_some.1 hy
      rw [← hI.2 y hy hyc]
      exact link_of_completedFrom (hf x hxm hxc) hym (hyd.trans hxd.symm) hyc

def acceptedTask : List Act :=
  [.wake 0 httpAgent { keyedCall "k1" with workItemId := some "w" } none,
    .finish 0 (.output [("cost_usd", .int 1), ("summary", .str "done")]) (evidenceIds "first"),
    .createArtifact ⟨"artifact", "c", some "h", some "run-k1", some "w", none, none, []⟩,
    .review ⟨"c", "w", "artifact", "operator", .accepted, "good", "1"⟩]

/-- A task is completed after its outcome was accepted. -/
theorem completion_requires_acceptance_task : ∃ t u, Run (Steps (step plainRuntime)) Always oneTaskSys t ∧
      step plainRuntime t (.updateStatus ⟨"c", "w", .completed, none, none, "operator"⟩) = some u ∧
      ∃ w' ∈ u.db.workItems, w'.status = .completed ∧ u.db.Accepted w' := by
  refine exists_run_step_with acceptedTask (fun t u => (∀ w ∈ t.db.workItems.rows, w.status ≠ .completed) ∧
    ∃ w' ∈ u.db.workItems, w'.status = .completed) (by decide +kernel) (fun t u hr hst hu => ?_)
  obtain ⟨hb, w', hw', hs⟩ := hu
  have hsn : oneTaskSys.db.AcceptancesSound := fun a ha => absurd ha (not_mem_empty a)
  obtain ⟨hac, -⟩ := @completion_requires_acceptance plainRuntime oneTaskSys t u u _ "w" hsn hr hst .refl
  exact ⟨w', hw', hs, hac w' hw' hs (fun w hw _ => hb w hw)⟩

end WisdoverseCell.ControlPlane
