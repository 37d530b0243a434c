import Mathlib.Data.List.MinMax
import WisdoverseCell.Evolution.Runtime

/-!
# The regression guard

`EvolutionGuard.check` compares the success rate of the last traces of a skill with the rate that its active version was
promoted with, and takes the skill back to the retired version that was promoted last.  `rolledBack` and `replaced` are
histories.
-/

namespace WisdoverseCell.Evolution

open ControlPlane (Time)

structure Trace where
  agentId : String
  skillUsed : Option String
  skillVersion : Option String
  success : Bool

/-- The parameters of the guard, and the success rates that the versions of the skill are stored with. -/
structure GuardPolicy where
  rollbackThreshold : ℚ
  minSamples : Nat
  maxRollbacksPerDay : Nat
  successRate : String → ℚ

structure GuardState where
  clock : Time
  db : EvolutionDb
  traces : List Trace
  counters : String → Nat
  paused : List String
  rolledBack : List String
  replaced : Option String

/-! ### Reads -/

/-- `get_active_skill`; the rows are in the order of their creation. -/
def getActiveSkill (db : EvolutionDb) (skillId : String) : Option SkillConfig :=
  db.configs.rows.reverse.find? (fun c => c.skillId = skillId ∧ c.status = .active)

/-- When a version was promoted, for sorting: versions that were never promoted come last. -/
def SkillConfig.stamp (c : SkillConfig) : Nat :=
  match c.promotedAt with
  | none => 0
  | some t => t + 1

def getPreviousActive (db : EvolutionDb) (skillId : String) : Option SkillConfig :=
  (db.configs.rows.filter (fun c => c.skillId = skillId ∧ c.status = .retired)).argmax SkillConfig.stamp

def getRecentTraces (traces : List Trace) (agentId skillId : String) (limit : Nat) : List Trace :=
  (traces.filter (fun t => t.agentId = agentId ∧ t.skillUsed = some skillId)).reverse.take limit

def successRate (traces : List Trace) : ℚ :=
  if traces = [] then 0 else traces.countP (fun t => t.success) / traces.length

/-! ### Writes -/

theorem SkillConfig.key_retired (c : SkillConfig) : SkillConfig.key { c with status := .retired } = c.key := rfl

def promoteSkillVersion (now : Time) (db : EvolutionDb) (skillId version : String) : EvolutionDb :=
  { db with
    configs := (db.configs.update (fun c => c.skillId = skillId ∧ c.status = .active)
        (fun c => { c with status := .retired }) SkillConfig.key_retired).modify (skillId, version)
      (fun c => { c with status := .active, promotedAt := some now }) (fun _ => rfl) }

/-- The active version, if the last traces of the skill are worse than it was by more than the threshold. -/
def degraded (policy : GuardPolicy) (s : GuardState) (skillId agentId : String) : Option SkillConfig := do
  let active ← getActiveSkill s.db skillId
  let traces := getRecentTraces s.traces agentId skillId policy.minSamples
  if active.promotedAt = none ∨ traces.length < policy.minSamples ∨
      policy.successRate active.version - successRate traces ≤ policy.rollbackThreshold then none
  else some active

/-- One check of the guard, up to its rollback. -/
def guardCheck (policy : GuardPolicy) (rt : ReleaseRuntime) (s : GuardState) (skillId agentId : String) : GuardState :=
  match degraded policy s skillId agentId with
  | none => s
  | some active =>
    let count := s.counters agentId + 1
    let s := { s with counters := Function.update s.counters agentId count }
    if policy.maxRollbacksPerDay < count then { s with paused := agentId :: s.paused }
    else
      match getPreviousActive s.db skillId with
      | none => s
      | some previous =>
        match rollbackSkillIfCurrent rt s.clock s.db skillId active.version previous.version agentId with
        | .ok (true, db) =>
          { s with
            clock := s.clock + 1
            db := db
            rolledBack := active.version :: s.rolledBack
            replaced := none }
        | .ok (false, _) | .error _ => s

/-! ### Steps -/

inductive GuardAct
  | tick (d : Nat)
  | saveTrace (trace : Trace)
  | saveSkillConfig (version configHash : String)
  | promote (version : String)
  | release (command : SkillReleaseCommand) (signature : String)
  | check (agentId : String)
  | expireCounter (agentId : String)

def GuardState.promoted (s : GuardState) (skillId version : String) (db : EvolutionDb) : GuardState :=
  { s with
    clock := s.clock + 1
    db := db
    rolledBack := s.rolledBack.filter (fun v => v ≠ version)
    replaced :=
      match getActiveSkill s.db skillId with
      | none => none
      | some active => if active.version = version then s.replaced else some active.version }

/-- No two promotions or rollbacks fall into one microsecond. -/
def guardStep (policy : GuardPolicy) (rt : ReleaseRuntime) (skillId : String) (s : GuardState) :
    GuardAct → Option GuardState
  | .tick d => some { s with clock := s.clock + d }
  | .saveTrace trace => some { s with traces := s.traces ++ [trace] }
  | .saveSkillConfig version configHash =>
    (s.db.configs.insert ⟨skillId, version, .candidate, configHash, none⟩).map (fun configs =>
      { s with db := { s.db with configs := configs } })
  | .promote version => some (s.promoted skillId version (promoteSkillVersion s.clock s.db skillId version))
  | .release command signature =>
    if command.skillId = skillId ∧ command.action ≠ .rollback then
      match applySigned rt s.clock s.db command signature with
      | .error _ => none
      | .ok (_, db) =>
        if command.action = .promote ∧ s.db.commands.get command.commandId = none then
          some (s.promoted skillId (toString command.candidateVersion) db)
        else some { s with db := db }
    else none
  | .check agentId => some (guardCheck policy rt s skillId agentId)
  | .expireCounter agentId => some { s with counters := Function.update s.counters agentId 0 }

end WisdoverseCell.Evolution
