import WisdoverseCell.Evolution.DeploymentStore
import WisdoverseCell.Evolution.Runtime

/-!
# The release protocol

The control plane and the runtime as one system: the two databases, one clock, the requests under way and the commands
on the wire.  A request goes on at any later time from the point it has reached (`Task`); a command may arrive at any
time, more than once, or never.  `superseded` and `issued` are histories.
-/

namespace WisdoverseCell.Evolution

open ControlPlane (Time seconds ApprovalRequest ApprovalStatus ExecutionDenied)

/-- `lookup`; `none` is the receiver's 404. -/
def lookupReceipt (rt : ReleaseRuntime) (runtime : EvolutionDb) (command : SkillReleaseCommand) :
    Except ExecutionDenied (Option ReleaseResponse) :=
  match getCommand rt runtime command.commandId with
  | none => .ok none
  | some r => do
    ensure (r.commandId = command.commandId ∧ r.deploymentId = command.deploymentId ∧
      r.payloadHash = rt.canonicalHash command) pendingReconciliation
    return some r.response

def applyAnswer (rt : ReleaseRuntime) (runtime : EvolutionDb) (command : SkillReleaseCommand) :
    Option ReleaseResponse :=
  ((runtime.commands.get command.commandId).filter (fun r => r.payloadHash = rt.canonicalHash command ∧
    r.response.deploymentId = command.deploymentId)).map (·.response)

/-! ### The system -/

/-- The point a request to the control plane has reached. -/
inductive Task
  | lookup (command : SkillReleaseCommand)
  | send (command : SkillReleaseCommand)
  | await (command : SkillReleaseCommand)
  | acknowledge (command : SkillReleaseCommand) (response : ReleaseResponse)
  | reconcile (command : SkillReleaseCommand)
  | recover (command : SkillReleaseCommand)
  | replace (command : SkillReleaseCommand) (answeredAt : Time)

def Task.command : Task → SkillReleaseCommand
  | .lookup c | .send c | .await c | .acknowledge c _ | .reconcile c | .recover c | .replace c _ => c

structure World where
  clock : Time
  plane : PlaneDb
  runtime : EvolutionDb
  tasks : List Task
  wire : List (SkillReleaseCommand × String)
  issued : List SkillReleaseCommand
  superseded : List SkillReleaseCommand

inductive WorldAct
  | tick (d : Nat)
  | create (r : ProposalCreate)
  | record (proposalId companyId : String) (tier : EvolutionTier) (scope : String) (approvalState : ApprovalStatus)
      (approvalId : Option String)
  | update (u : ProposalUpdate)
  | requestApproval (a : ApprovalRequest)
  | resolve (approvalId : String) (approved : Bool) (resolvedBy : String)
  | report (r : EvaluationReport)
  | release (request : ReleaseSubject) (action : ReleaseAction) (actorId : String) (ids : ReleaseIds)
  | reconcile (companyId proposalId : String)
  | recover (companyId proposalId : String)
  | resume (i : Nat) (actorId : String) (ids : ReleaseIds)
  | deliver (j : Nat)
  | rollbackIfCurrent (skillId expectedActiveVersion baselineVersion agentId : String)
  | addResults (experimentId : String) (isCandidate : Bool) (scores : List ℚ)
  | conclude (experimentId : String) (status : ExperimentStatus)

namespace World

def push (w : World) (t : Task) : World := { w with tasks := w.tasks ++ [t] }

def issue (w : World) (c : SkillReleaseCommand) : World :=
  { w with issued := if c ∈ w.issued then w.issued else w.issued ++ [c] }

def Fresh (w : World) (ids : ReleaseIds) : Prop := ∀ c ∈ w.issued, c.commandId ≠ "cmd_" ++ ids.commandId

instance (w : World) (ids : ReleaseIds) : Decidable (w.Fresh ids) := by unfold Fresh; infer_instance

def commit {ε : Type} (w : World) (result : Except ε PlaneDb) : Option World :=
  match result with
  | .ok plane => some { w with plane := plane }
  | .error _ => none

/-- After `prepare`: the request goes on with the command, or ends with the approval asked for. -/
def afterPrepare (w : World) : Prepared → World
  | .ready command plane => ({ w with plane := plane }.issue command).push (.lookup command)
  | .approvalRequested plane => { w with plane := plane }

end World

def stepTask (rt : ReleaseRuntime) (w : World) (actorId : String) (ids : ReleaseIds) : Task → Option World
  | .lookup c =>
    match lookupReceipt rt w.runtime c with
    | .ok none => some (w.push (.send c))
    | .ok (some r) => some (w.push (.acknowledge c r))
    | .error _ => none
  | .send c =>
    match signCommand rt c with
    | .ok signature => some ({ w with wire := w.wire ++ [(c, signature)] }.push (.await c))
    | .error _ => none
  | .await c => (applyAnswer rt w.runtime c).map (fun r => w.push (.acknowledge c r))
  | .acknowledge c r => w.commit (acknowledge rt w.plane c r)
  | .reconcile c =>
    match lookupReceipt rt w.runtime c with
    | .ok (some r) => some (w.push (.acknowledge c r))
    | _ => none
  | .recover c =>
    match lookupReceipt rt w.runtime c with
    | .ok none => some (w.push (.replace c w.clock))
    | .ok (some r) => some (w.push (.acknowledge c r))
    | .error _ => none
  | .replace c _ =>
    if w.Fresh ids then
      match recoverExpiredPending rt w.clock w.plane c actorId ids with
      | .ok (stored, prepared) => some ({ w with superseded := w.superseded ++ [stored] }.afterPrepare prepared)
      | .error _ => none
    else none

/-- A request, a delivery or an answer of the release protocol, or the passing of time. -/
def worldStep (rt : ReleaseRuntime) (w : World) : WorldAct → Option World
  | .tick d => some { w with clock := w.clock + d }
  | .create r => w.commit (createEvolutionProposal w.plane r)
  | .record proposalId companyId tier scope approvalState approvalId =>
    w.commit (recordEvolutionProposal w.plane proposalId companyId tier scope approvalState approvalId)
  | .update u => w.commit (updateEvolutionProposalStatus w.plane u)
  | .requestApproval a => if a.status = .pending then w.commit (requestApproval w.plane a) else none
  | .resolve approvalId approved resolvedBy => w.commit (resolveApproval w.clock w.plane approvalId approved resolvedBy)
  | .report r => (w.plane.reports.insert r).map (fun reports => { w with plane := { w.plane with reports := reports } })
  | .release request action actorId ids =>
    if w.Fresh ids then
      match prepare rt w.clock w.plane request action actorId none ids with
      | .ok prepared => some (w.afterPrepare prepared)
      | .error _ => none
    else none
  | .reconcile companyId proposalId =>
    match pendingCommand w.plane companyId proposalId with
    | .ok c => some (w.push (.reconcile c))
    | .error _ => none
  | .recover companyId proposalId =>
    match pendingCommand w.plane companyId proposalId with
    | .ok c => some (w.push (.recover c))
    | .error _ => none
  | .resume i actorId ids => w.tasks[i]?.bind (stepTask rt w actorId ids)
  | .deliver j => w.wire[j]?.map (fun m => { w with runtime := runtimeStep rt w.clock w.runtime (.apply m.1 m.2) })
  | .rollbackIfCurrent skillId expectedActiveVersion baselineVersion agentId => some { w with
      runtime := runtimeStep rt w.clock w.runtime
        (.rollbackIfCurrent skillId expectedActiveVersion baselineVersion agentId) }
  | .addResults experimentId isCandidate scores => some { w with
      runtime := runtimeStep rt w.clock w.runtime (.addResults experimentId isCandidate scores) }
  | .conclude experimentId status => some { w with
      runtime := runtimeStep rt w.clock w.runtime (.conclude experimentId status) }

end WisdoverseCell.Evolution
