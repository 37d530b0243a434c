import WisdoverseCell.ControlPlane.Models
import WisdoverseCell.Library.Checked

/-!
# Skill release commands and the release lifecycle

A release moves one skill from a baseline version to a candidate version.  The control plane orders each move by a
signed command; the runtime that owns the skill keeps the release in one of four states and moves it by `transition`.
-/

namespace WisdoverseCell.Evolution

open ControlPlane (Time)

variable {e : Option String} {v : Option Nat}

inductive ReleaseState
  | shadow
  | canary
  | active
  | rolledBack
  deriving DecidableEq

inductive ReleaseAction
  | shadow
  | canary
  | promote
  | rollback
  deriving DecidableEq

/-- The exceptions of the receiver, each with its code, and a violated database constraint. -/
inductive ReleaseError
  | value (code : String)
  | skillRelease (code : String)
  | commandConflict (code : String)
  | ownership (code : String)
  | integrity

/-! ### Commands -/

/-- What a release is about: the frozen `snapshot` every command of the release repeats. -/
structure ReleaseSubject where
  companyId : String
  proposalId : String
  evaluationReportId : String
  evaluationHash : String
  skillId : String
  agentId : String
  baselineVersion : Nat
  candidateVersion : Nat
  baselineConfigHash : String
  candidateConfigHash : String
  one_le_baseline : 1 ≤ baselineVersion := by decide
  one_le_candidate : 1 ≤ candidateVersion := by decide
  deriving DecidableEq

structure SkillReleaseCommand extends ReleaseSubject where
  commandId : String
  deploymentId : String
  action : ReleaseAction
  trafficPct : Nat := 10
  minimumSampleCount : Nat := 50
  approvalId : Option String := none
  expiresAt : Time
  traffic_le : trafficPct ≤ 10 := by decide
  le_minimum : 50 ≤ minimumSampleCount := by decide
  deriving DecidableEq

def SkillReleaseCommand.approved (command : SkillReleaseCommand) : Bool := command.approvalId.any (· ≠ "")

/-- What the two sides share: the company, the signing key, the digests of a command and of a release decision, and
Python's reading of a decimal number. -/
structure ReleaseRuntime where
  companyId : String
  signingKey : String
  canonicalHash : SkillReleaseCommand → String
  decisionHash : ReleaseSubject → String → ReleaseAction → String
  hmac : String → SkillReleaseCommand → String
  int : String → Option Int

def signCommand (rt : ReleaseRuntime) (command : SkillReleaseCommand) : Except ReleaseError String := do
  ensure (32 ≤ rt.signingKey.length) (.value "evolution_deployment_signing_key_required")
  return rt.hmac rt.signingKey command

def verifyCommand (rt : ReleaseRuntime) (now : Time) (command : SkillReleaseCommand) (signature : String) :
    Except ReleaseError Unit := do
  ensure (now < command.expiresAt) (.value "evolution_command_expired")
  let expected ← signCommand rt command
  ensure (expected = signature) (.value "evolution_command_signature_invalid")

/-! ### Transitions -/

/-- The part of a release that no transition changes. -/
structure ReleaseIdentity where
  deploymentId : String
  skillId : String
  agentId : String
  baselineVersion : Nat
  candidateVersion : Nat
  baselineConfigHash : String
  candidateConfigHash : String
  deriving DecidableEq

structure SkillReleaseSnapshot extends ReleaseIdentity where
  state : ReleaseState
  version : Nat
  experimentId : Option String

def SkillReleaseCommand.identity (command : SkillReleaseCommand) : ReleaseIdentity where
  deploymentId := command.deploymentId
  skillId := command.skillId
  agentId := command.agentId
  baselineVersion := command.baselineVersion
  candidateVersion := command.candidateVersion
  baselineConfigHash := command.baselineConfigHash
  candidateConfigHash := command.candidateConfigHash

/-- The next snapshot of a release; `none` stands for a release that does not exist yet. -/
def transition (snapshot : Option SkillReleaseSnapshot) (action : ReleaseAction) (supplied : ReleaseIdentity)
    (expectedVersion : Option Nat) (experimentId : Option String) : Except ReleaseError SkillReleaseSnapshot :=
  match snapshot with
  | none => do
    ensure (action = .shadow ∧ (expectedVersion = none ∨ expectedVersion = some 0))
      (.skillRelease "release_must_start_in_shadow")
    return { supplied with state := .shadow, version := 1, experimentId := none }
  | some s => do
    ensure (expectedVersion = some s.version) (.skillRelease "release_version_conflict")
    ensure (s.toReleaseIdentity = supplied) (.skillRelease "release_snapshot_changed")
    match action, s.state with
    | .canary, .shadow => return { s with
        state := .canary
        version := s.version + 1
        experimentId := if experimentId.any (· ≠ "") then experimentId else s.experimentId }
    | .promote, .canary => return { s with state := .active, version := s.version + 1 }
    | .rollback, .shadow | .rollback, .canary | .rollback, .active =>
      return { s with state := .rolledBack, version := s.version + 1 }
    | .shadow, .shadow => return s
    | _, _ => .error (.skillRelease "invalid_release_transition")

inductive Moves : ReleaseState → ReleaseAction → ReleaseState → Prop
  | stay : Moves .shadow .shadow .shadow
  | canary : Moves .shadow .canary .canary
  | promote : Moves .canary .promote .active
  | rollback {s : _} (h : s ≠ .rolledBack) : Moves s .rollback .rolledBack

variable {action : ReleaseAction} {next : SkillReleaseSnapshot} {supplied : ReleaseIdentity}

theorem transition_none (h : transition none action supplied v e = .ok next) :
    action = .shadow ∧ next = { supplied with state := .shadow, version := 1, experimentId := none } := by
  simp only [transition, eq_ok] at h
  obtain ⟨-, ⟨ha, -⟩, rfl⟩ := h
  exact ⟨ha, rfl⟩

/-- A transition keeps the identity and moves along the machine. -/
theorem transition_some {s} (h : transition (some s) action supplied v e = .ok next) :
    s.toReleaseIdentity = supplied ∧ next.toReleaseIdentity = supplied ∧ Moves s.state action next.state := by
  simp only [transition, eq_ok] at h
  obtain ⟨-, -, -, hsm, h⟩ := h
  refine ⟨hsm, ?_⟩
  split at h
  case h_1 hs => rw [hs, ← pure_eq_ok.1 h]; exact ⟨hsm, .canary⟩
  case h_2 hs => rw [hs, ← pure_eq_ok.1 h]; exact ⟨hsm, .promote⟩
  case h_3 hs => rw [hs, ← pure_eq_ok.1 h]; exact ⟨hsm, .rollback (by decide)⟩
  case h_4 hs => rw [hs, ← pure_eq_ok.1 h]; exact ⟨hsm, .rollback (by decide)⟩
  case h_5 hs => rw [hs, ← pure_eq_ok.1 h]; exact ⟨hsm, .rollback (by decide)⟩
  case h_6 hs => rw [← pure_eq_ok.1 h, hs]; exact ⟨hsm, .stay⟩
  case h_7 => cases h

end WisdoverseCell.Evolution
