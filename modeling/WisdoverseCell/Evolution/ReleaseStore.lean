import WisdoverseCell.Evolution.SkillRelease

/-!
# The release store of the runtime

The tables of the runtime that owns the skills and the transactions on them.  A configuration is identified by its skill
and version.  Applying a command locks the two configurations first, so each transaction is one step at the time of its
expiry check.
-/

namespace WisdoverseCell.Evolution

open ControlPlane (Time)

variable {command : SkillReleaseCommand} {now : Time} {rt : ReleaseRuntime}

/-! ### Tables -/

inductive SkillStatus
  | candidate
  | shadow
  | active
  | retired
  deriving DecidableEq

structure SkillConfig where
  skillId : String
  version : String
  status : SkillStatus
  configHash : String
  promotedAt : Option Time

def SkillConfig.key (c : SkillConfig) : String × String := (c.skillId, c.version)

structure SkillRelease extends SkillReleaseSnapshot where
  companyId : String
  proposalId : String
  evaluationReportId : String
  evaluationHash : String

inductive ExperimentStatus
  | shadow
  | running
  | promoted
  | concluded
  | rolledBack
  deriving DecidableEq

structure Experiment where
  experimentId : String
  agentId : String
  skillId : String
  controlVersion : Nat
  candidateVersion : Nat
  trafficPct : Nat
  minSamples : Nat
  minImprovement : ℚ
  status : ExperimentStatus
  controlResults : List ℚ
  candidateResults : List ℚ

structure ReleaseResponse where
  deploymentId : String
  state : ReleaseState
  version : Nat
  experimentId : Option String

structure ReleaseReceipt where
  commandId : String
  deploymentId : String
  payloadHash : String
  response : ReleaseResponse

structure EvolutionDb where
  configs : Table SkillConfig.key
  releases : Table (fun r : SkillRelease => r.deploymentId)
  experiments : Table Experiment.experimentId
  commands : Table ReleaseReceipt.commandId

namespace EvolutionDb

def activeConfigs (db : EvolutionDb) (skillId : String) : List SkillConfig :=
  db.configs.rows.filter (fun c => c.skillId = skillId ∧ c.status = .active)

def releasesIn (db : EvolutionDb) (skillId : String) (state : ReleaseState) : List SkillRelease :=
  db.releases.rows.filter (fun r => r.skillId = skillId ∧ r.state = state)

def swap (db : EvolutionDb) (old new : SkillConfig) (promotedAt : Option Time) : EvolutionDb :=
  { db with
    configs := (db.configs.update (fun c => c.key = old.key ∧ decide (c.status = old.status) = true)
        (fun c => { c with status := .retired }) (fun _ => rfl)).update
      (fun c => c.key = new.key ∧ decide (c.status = new.status) = true)
        (fun c => { c with status := .active, promotedAt := promotedAt.or c.promotedAt }) (fun _ => rfl) }

def conclude (db : EvolutionDb) (experimentId : Option String) (p : ExperimentStatus → Bool)
    (status : ExperimentStatus) : EvolutionDb :=
  { db with
    experiments := db.experiments.update (fun e => experimentId = some e.experimentId ∧ p e.status)
      (fun e => { e with status := status }) (fun _ => rfl) }

def moveRelease (db : EvolutionDb) (current next : SkillReleaseSnapshot) : EvolutionDb :=
  { db with
    releases := db.releases.update
      (fun r => r.deploymentId = current.deploymentId ∧ decide (r.version = current.version) = true)
      (fun r => { r with state := next.state, version := next.version, experimentId := next.experimentId })
      (fun _ => rfl) }

end EvolutionDb

/-! ### Applying a command -/

section

variable (now : Time) (db : EvolutionDb) (command : SkillReleaseCommand)

def checkRelease (release : Option SkillRelease) (baseline candidate : SkillConfig) : Except ReleaseError Unit :=
  match release with
  | none =>
    if command.action = .shadow then do
      ensure (baseline.status = .active) (.skillRelease "release_baseline_not_active")
      ensure (candidate.status = .candidate ∨ candidate.status = .shadow ∨ candidate.status = .retired)
        (.skillRelease "release_candidate_unavailable")
    else return
  | some r => do
    ensure (r.companyId = command.companyId) (.ownership "release_company_not_owned")
    ensure ((r.proposalId, r.evaluationReportId, r.evaluationHash) =
        (command.proposalId, command.evaluationReportId, command.evaluationHash))
      (.skillRelease "release_evaluation_snapshot_changed")
    ensure (1 ≤ r.version) (.skillRelease "release_version_conflict")

def SkillReleaseCommand.experiment : Experiment where
  experimentId := command.deploymentId
  agentId := command.agentId
  skillId := command.skillId
  controlVersion := command.baselineVersion
  candidateVersion := command.candidateVersion
  trafficPct := min command.trafficPct 10
  minSamples := max command.minimumSampleCount 50
  minImprovement := 5 / 100
  status := .running
  controlResults := []
  candidateResults := []

def openExperiment (release : Option SkillRelease) (baseline : SkillConfig) : Except ReleaseError EvolutionDb := do
  ensure (command.approved = true) (.skillRelease "release_canary_approval_required")
  ensure (∀ r ∈ db.releases.rows, r.companyId = command.companyId → r.skillId = command.skillId →
      r.state = .canary → r.deploymentId = command.deploymentId)
    (.skillRelease "release_skill_canary_already_running")
  match db.experiments.get command.deploymentId with
  | none =>
    ensure (release.any (fun r => r.state = .shadow) = true ∧ baseline.status = .active)
      (.skillRelease "release_canary_requires_shadow")
    let experiments ← require (db.experiments.insert command.experiment) .integrity
    return { db with experiments := experiments }
  | some e =>
    ensure ((e.agentId, e.skillId, e.controlVersion, e.candidateVersion) =
        (command.agentId, command.skillId, command.baselineVersion, command.candidateVersion))
      (.skillRelease "release_experiment_snapshot_changed")
    ensure (e.status = .running) (.skillRelease "release_experiment_not_running")
    return { db with
      experiments := db.experiments.update (fun e => e.experimentId = command.deploymentId)
        (fun e => { e with
          trafficPct := min command.trafficPct 10
          minSamples := max command.minimumSampleCount 50 }) (fun _ => rfl) }

def openCanary (release : Option SkillRelease) (baseline : SkillConfig) : Except ReleaseError EvolutionDb :=
  if command.action = .canary then openExperiment db command release baseline else .ok db

def mean (scores : List ℚ) : ℚ := scores.sum / scores.length

def promoteSkill (current : Option SkillReleaseSnapshot) (baseline candidate : SkillConfig) :
    Except ReleaseError EvolutionDb := do
  let s ← require current (.skillRelease "release_promotion_requires_canary")
  ensure (s.state = .canary) (.skillRelease "release_promotion_requires_canary")
  let e ← require (s.experimentId.bind db.experiments.get) (.skillRelease "release_experiment_not_running")
  ensure (e.status = .running) (.skillRelease "release_experiment_not_running")
  let minSamples := max (max command.minimumSampleCount e.minSamples) 50
  ensure (minSamples ≤ e.controlResults.length ∧ minSamples ≤ e.candidateResults.length)
    (.skillRelease "release_canary_minimum_sample_count_not_met")
  ensure (e.controlResults ≠ [] ∧ e.candidateResults ≠ []) (.skillRelease "release_canary_quality_data_missing")
  ensure (mean e.controlResults + e.minImprovement ≤ mean e.candidateResults)
    (.skillRelease "release_canary_quality_gate_failed")
  ensure (baseline.status = .active ∧ (candidate.status = .candidate ∨ candidate.status = .shadow))
    (.skillRelease "release_skill_compare_and_swap_failed")
  return (db.swap baseline candidate (some now)).conclude s.experimentId (fun _ => true) .promoted

def rollbackSkill (current : Option SkillReleaseSnapshot) (baseline candidate : SkillConfig) :
    Except ReleaseError EvolutionDb :=
  match current with
  | none => .error (.skillRelease "release_not_found")
  | some s =>
    match s.state with
    | .shadow => return db
    | .canary => return db.conclude s.experimentId (· = .running) .rolledBack
    | .active => do
      ensure (candidate.status = .active ∧ baseline.status = .retired)
        (.skillRelease "release_skill_compare_and_swap_failed")
      return (db.swap candidate baseline none).conclude s.experimentId (· = .promoted) .rolledBack
    | .rolledBack => .error (.skillRelease "invalid_release_transition")

def moveSkill (current : Option SkillReleaseSnapshot) (baseline candidate : SkillConfig) :
    Except ReleaseError EvolutionDb :=
  match command.action with
  | .promote => promoteSkill now db command current baseline candidate
  | .rollback => rollbackSkill db current baseline candidate
  | .shadow | .canary => .ok db

def saveRelease (release : Option SkillRelease) (next : SkillReleaseSnapshot) : Except ReleaseError EvolutionDb :=
  match release with
  | none => do
    let releases ← require (db.releases.insert { next with
      companyId := command.companyId
      proposalId := command.proposalId
      evaluationReportId := command.evaluationReportId
      evaluationHash := command.evaluationHash }) .integrity
    return { db with releases := releases }
  | some r => return db.moveRelease r.toSkillReleaseSnapshot next

def SkillReleaseSnapshot.response (s : SkillReleaseSnapshot) : ReleaseResponse :=
  ⟨s.deploymentId, s.state, s.version, s.experimentId⟩

end

/-- `apply` for a command that was not seen before. -/
def applyNew (rt : ReleaseRuntime) (now : Time) (db : EvolutionDb) (command : SkillReleaseCommand) :
    Except ReleaseError (ReleaseResponse × EvolutionDb) := do
  ensure (command.action = .promote ∨ command.action = .rollback → command.approved = true)
    (.skillRelease "release_live_action_approval_required")
  let baseline ← require (db.configs.get (command.skillId, toString command.baselineVersion))
    (.skillRelease "release_skill_version_missing")
  let candidate ← require (db.configs.get (command.skillId, toString command.candidateVersion))
    (.skillRelease "release_skill_version_missing")
  ensure (baseline.key ≠ candidate.key) (.skillRelease "release_versions_must_differ")
  ensure (now < command.expiresAt) (.skillRelease "evolution_command_expired")
  let release := db.releases.get command.deploymentId
  ensure (baseline.configHash = command.baselineConfigHash ∧ candidate.configHash = command.candidateConfigHash)
    (.skillRelease "release_skill_config_hash_mismatch")
  checkRelease command release baseline candidate
  let current := release.map SkillRelease.toSkillReleaseSnapshot
  let opened ← openCanary db command release baseline
  let next ← transition current command.action command.identity (some ((current.map (·.version)).getD 0))
    (if command.action = .canary then some command.deploymentId else current.bind (·.experimentId))
  let moved ← moveSkill now opened command current baseline candidate
  let saved ← saveRelease moved command release next
  let commands ← require (saved.commands.insert
    ⟨command.commandId, command.deploymentId, rt.canonicalHash command, next.response⟩) .integrity
  return (next.response, { saved with commands := commands })

def apply (rt : ReleaseRuntime) (now : Time) (db : EvolutionDb) (command : SkillReleaseCommand) :
    Except ReleaseError (ReleaseResponse × EvolutionDb) := do
  ensure (command.companyId = rt.companyId) (.ownership "release_company_not_owned")
  match db.commands.get command.commandId with
  | some prior =>
    ensure (prior.payloadHash = rt.canonicalHash command) (.commandConflict "release_command_id_payload_conflict")
    return (prior.response, db)
  | none => applyNew rt now db command

def applySigned (rt : ReleaseRuntime) (now : Time) (db : EvolutionDb) (command : SkillReleaseCommand)
    (signature : String) : Except ReleaseError (ReleaseResponse × EvolutionDb) := do
  verifyCommand rt now command signature
  apply rt now db command

def getCommand (rt : ReleaseRuntime) (db : EvolutionDb) (commandId : String) : Option ReleaseReceipt := do
  let receipt ← db.commands.get commandId
  let release ← db.releases.get receipt.deploymentId
  if release.companyId = rt.companyId then some receipt else none

/-- What was read, checked and computed for a command accepted for the first time. -/
structure Accepted (now : Time) (db : EvolutionDb) (command : SkillReleaseCommand) (baseline candidate : SkillConfig)
    (opened : EvolutionDb) (next : SkillReleaseSnapshot) (moved saved : EvolutionDb) : Prop where
  baseline_get : db.configs.get (command.skillId, toString command.baselineVersion) = some baseline
  candidate_get : db.configs.get (command.skillId, toString command.candidateVersion) = some candidate
  unexpired : now < command.expiresAt
  checked : checkRelease command (db.releases.get command.deploymentId) baseline candidate = .ok ()
  opens : openCanary db command (db.releases.get command.deploymentId) baseline = .ok opened
  steps : transition ((db.releases.get command.deploymentId).map SkillRelease.toSkillReleaseSnapshot) command.action
    command.identity
    (some ((((db.releases.get command.deploymentId).map SkillRelease.toSkillReleaseSnapshot).map (·.version)).getD 0))
    (if command.action = .canary then some command.deploymentId
      else ((db.releases.get command.deploymentId).map SkillRelease.toSkillReleaseSnapshot).bind (·.experimentId)) =
      .ok next
  moves : moveSkill now opened command ((db.releases.get command.deploymentId).map SkillRelease.toSkillReleaseSnapshot)
    baseline candidate = .ok moved
  saves : saveRelease moved command (db.releases.get command.deploymentId) next = .ok saved

variable {db db' : EvolutionDb} {response : ReleaseResponse}

/-- A new command is checked, carried out and recorded. -/
theorem applyNew_eq_ok (h : applyNew rt now db command = .ok (response, db')) :
    ∃ baseline candidate opened next moved saved commands,
      Accepted now db command baseline candidate opened next moved saved ∧
      saved.commands.insert ⟨command.commandId, command.deploymentId, rt.canonicalHash command, next.response⟩ =
        some commands ∧ response = next.response ∧ db' = { saved with commands := commands } := by
  simp only [applyNew, eq_ok, Prod.mk.injEq] at h
  obtain ⟨-, -, baseline, hb, candidate, hc, -, -, -, he, -, -, ⟨⟩, hch, opened, ho, next, hn, moved, hm,
    saved, hs, commands, hi, rfl, rfl⟩ := h
  exact ⟨baseline, candidate, opened, next, moved, saved, commands, ⟨hb, hc, he, hch, ho, hn, hm, hs⟩, hi, rfl, rfl⟩

/-- A command is answered as before, or it is new. -/
theorem apply_eq_ok (h : apply rt now db command = .ok (response, db')) : command.companyId = rt.companyId ∧
      ((∃ prior, db.commands.get command.commandId = some prior ∧ response = prior.response ∧ db' = db) ∨
        (db.commands.get command.commandId = none ∧ applyNew rt now db command = .ok (response, db'))) := by
  simp only [apply, eq_ok] at h
  obtain ⟨-, hc, h⟩ := h
  refine ⟨hc, ?_⟩
  split at h
  · rename_i prior hp
    simp only [eq_ok, Prod.mk.injEq] at h
    obtain ⟨-, -, rfl, rfl⟩ := h
    exact .inl ⟨prior, hp, rfl, rfl⟩
  · rename_i hn
    exact .inr ⟨hn, h⟩

theorem applySigned_eq_ok {signature result} (h : applySigned rt now db command signature = .ok result) :
    now < command.expiresAt ∧ apply rt now db command = .ok result := by
  simp only [applySigned, verifyCommand, eq_ok] at h
  obtain ⟨-, ⟨-, he, -⟩, h⟩ := h
  exact ⟨he, h⟩

/-! ### The regression guard and the experiments -/

/-- `rollback_skill_if_current`: take the active version back to the retired baseline, with the release that
promoted it, if there is one. -/
def rollbackSkillIfCurrent (rt : ReleaseRuntime) (now : Time) (db : EvolutionDb)
    (skillId expectedActiveVersion baselineVersion agentId : String) : Except ReleaseError (Bool × EvolutionDb) :=
  match (db.configs.get (skillId, expectedActiveVersion)).filter (fun c => c.status = .active),
    (db.configs.get (skillId, baselineVersion)).filter (fun c => c.status = .retired) with
  | some live, some baseline =>
    match db.releasesIn skillId .active with
    | [] => return (true, db.swap live baseline (some now))
    | [r] => do
      if r.companyId ≠ rt.companyId ∨ r.agentId ≠ agentId then return (false, db)
      let baselineNumber ← require (rt.int baseline.version) (.value "invalid literal for int()")
      if (r.baselineVersion : Int) ≠ baselineNumber then return (false, db)
      let liveNumber ← require (rt.int live.version) (.value "invalid literal for int()")
      if (r.candidateVersion : Int) ≠ liveNumber ∨ baseline.configHash ≠ r.baselineConfigHash ∨
          live.configHash ≠ r.candidateConfigHash then return (false, db)
      return (true, ((db.swap live baseline (some now)).conclude r.experimentId (fun _ => true) .rolledBack).moveRelease
        r.toSkillReleaseSnapshot { r.toSkillReleaseSnapshot with state := .rolledBack, version := r.version + 1 })
    | _ => return (false, db)
  | _, _ => return (false, db)

def addExperimentResult (db : EvolutionDb) (experimentId : String) (isCandidate : Bool) (score : ℚ) : EvolutionDb :=
  { db with
    experiments := db.experiments.update (fun e => e.experimentId = experimentId) (fun e =>
      if isCandidate then { e with candidateResults := e.candidateResults ++ [score] }
      else { e with controlResults := e.controlResults ++ [score] }) (fun _ => by split <;> rfl) }

/-- `conclude_experiment`: a canary whose experiment is rolled back is withdrawn with it. -/
def concludeExperiment (db : EvolutionDb) (experimentId : String) (status : ExperimentStatus) : EvolutionDb :=
  let db' := db.conclude (some experimentId) (fun _ => true) status
  if status = .rolledBack then { db' with
    releases := db'.releases.update (fun r => r.experimentId = some experimentId ∧ r.state = .canary)
      (fun r => { r with state := .rolledBack }) (fun _ => rfl) }
  else db'

end WisdoverseCell.Evolution
