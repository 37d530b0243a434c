import WisdoverseCell.Library.JsonText
import WisdoverseCell.Library.Text
import WisdoverseCell.RequirementManager.Requirements

/-!
# Delivery handoff

What a reviewer hands over to delivery: a command, the snapshot of the requirement that it is checked against, the
receipt and the event.  The two digests are taken of canonical JSON texts, in which no floats occur; the digest of the
command tells commands apart (`DeliveryHandoffCommand.digest_inj`).
-/

namespace WisdoverseCell.RequirementManager

open Option Json

structure DeliveryHandoffCommand where
  companyId : String
  projectId : Nat
  wpId : Nat
  goalId : String
  workItemId : String
  requirementHash : String
  reason : String
  projectName : String
  deriving DecidableEq

structure ConfirmedRequirementSnapshot where
  requirementId : String
  title : String
  description : String
  status : RequirementStatus
  confirmedBy : Option String
  deriving DecidableEq

def Requirement.snapshot (r : Requirement) : ConfirmedRequirementSnapshot :=
  ⟨r.id, r.title, r.description, r.status, r.confirmedBy⟩

structure DeliveryHandoffReceipt where
  requirementId : String
  companyId : String
  eventId : String
  commandHash : String
  requirementHash : String
  projectId : Nat
  wpId : Nat
  goalId : String
  workItemId : String
  reviewedBy : String
  reviewReason : String
  deriving DecidableEq

structure HandoffRuntime where
  companyId : String
  sha256 : String → String

/-! ### Digests -/

/-- `json.dumps(value, sort_keys=True, separators=(",", ":"))`. -/
def canonicalText (ascii : Bool) (value : Json) : String :=
  String.ofList (text ⟨[','], [':'], ascii, true⟩ fractionText value.sortKeys)

def contentHash (rt : HandoffRuntime) (requirementId title description : String) : String :=
  rt.sha256 (canonicalText false (.obj [("requirement_id", .str requirementId), ("title", .str title),
    ("description", .str description)]))

namespace DeliveryHandoffCommand

def modelDump (c : DeliveryHandoffCommand) : Json :=
  .obj [("schema_version", .str "1.0"), ("company_id", .str c.companyId), ("project_id", .int c.projectId),
    ("wp_id", .int c.wpId), ("goal_id", .str c.goalId), ("work_item_id", .str c.workItemId),
    ("requirement_hash", .str c.requirementHash), ("reason", .str c.reason), ("project_name", .str c.projectName)]

def digest (rt : HandoffRuntime) (c : DeliveryHandoffCommand) : String := rt.sha256 (canonicalText true c.modelDump)

private theorem isFinite_modelDump (c : DeliveryHandoffCommand) : c.modelDump.isFinite = true := rfl

theorem digest_inj {rt : HandoffRuntime} (hsh : Function.Injective rt.sha256) {c c' : DeliveryHandoffCommand}
    (h : c.digest rt = c'.digest rt) : c = c' := by
  have ht := String.ofList_injective (hsh h)
  have hf (c : DeliveryHandoffCommand) : c.modelDump.sortKeys.isFinite = true := by
    rw [isFinite_sortKeys, isFinite_modelDump]
  have hp : Style.Plain ⟨[','], [':'], true, true⟩ := ⟨[], rfl⟩
  obtain ⟨hs, -⟩ := text_inj hp floatText_fractionText _ _ (hf c) (hf c') stops_nil stops_nil (congrArg (· ++ []) ht)
  have hm := lookup_of_sortKeys_eq hs
  have hc := hm "company_id"
  have hpr := hm "project_id"
  have hwp := hm "wp_id"
  have hg := hm "goal_id"
  have hi := hm "work_item_id"
  have hh := hm "requirement_hash"
  have hr := hm "reason"
  have hn := hm "project_name"
  simp only [List.lookup_cons, sortKeys, String.reduceBEq, beq_self_eq_true, map_some, some.injEq,
    str.injEq, int.injEq, Int.ofNat_inj] at hc hpr hwp hg hi hh hr hn
  cases c
  cases c'
  exact mk.injEq .. ▸ ⟨hc, hpr, hwp, hg, hi, hh, hr, hn⟩

end DeliveryHandoffCommand

/-! ### Checks -/

structure HandoffRequest where
  requirementId : String
  command : DeliveryHandoffCommand
  reviewedBy : String
  idempotencyKey : String
  traceId : Option String
  deriving DecidableEq

def HandoffRequest.check (rt : HandoffRuntime) (q : HandoffRequest) : Except RequirementError Unit := do
  ensure (q.command.companyId = rt.companyId) (.value "handoff_company_mismatch")
  ensure (q.reviewedBy ≠ "" ∧ q.idempotencyKey = "requirement-delivery:" ++ q.requirementId)
    (.value "handoff_idempotency_or_actor_invalid")

def ConfirmedRequirementSnapshot.assertReviewed (rt : HandoffRuntime) (r : ConfirmedRequirementSnapshot)
    (command : DeliveryHandoffCommand) : Except RequirementError Unit := do
  ensure (r.status = .confirmed ∧ r.confirmedBy.any (· ≠ "")) (.value "requirement_confirmation_required")
  ensure (contentHash rt r.requirementId r.title r.description = command.requirementHash)
    (.value "requirement_review_snapshot_changed")
  ensure (Text.strip command.reason ≠ "") (.value "handoff_review_reason_required")

/-! ### The receipt and the event -/

namespace HandoffRequest

variable (rt : HandoffRuntime) (q : HandoffRequest)

def eventId : String :=
  "evt_" ++ String.ofList ((rt.sha256 (q.requirementId ++ q.command.digest rt)).toList.take 26)

def event (r : ConfirmedRequirementSnapshot) : Event where
  eventId := q.eventId rt
  payload := .taskNeedsDecompose {
    wpId := q.command.wpId
    projectId := q.command.projectId
    subject := r.title
    description := r.description
    wpType := "Feature"
    projectName := q.command.projectName
    companyId := q.command.companyId
    requirementId := q.requirementId
    requirementHash := q.command.requirementHash
    goalId := q.command.goalId
    workItemId := q.command.workItemId }
  traceId := q.traceId
  correlationId := some q.requirementId

def receipt : DeliveryHandoffReceipt where
  requirementId := q.requirementId
  companyId := q.command.companyId
  eventId := q.eventId rt
  commandHash := q.command.digest rt
  requirementHash := q.command.requirementHash
  projectId := q.command.projectId
  wpId := q.command.wpId
  goalId := q.command.goalId
  workItemId := q.command.workItemId
  reviewedBy := q.reviewedBy
  reviewReason := Text.strip q.command.reason

end HandoffRequest

end WisdoverseCell.RequirementManager
