import Mathlib.Algebra.BigOperators.Group.List.Basic
import Mathlib.Algebra.GroupWithZero.Nat
import Mathlib.Algebra.Order.Ring.Rat
import Mathlib.Data.Finset.Dedup
import WisdoverseCell.Library.Listing
import WisdoverseCell.Library.Table

/-!
# Comparing two evaluation batches

`compare_evaluations` aggregates the results of a baseline and of a candidate and lists the reasons against a
promotion.  It does not depend on the order of cases and results, and without a reason both arms are complete on the
same cases and within their budget (`comparison_of_evidence`).
-/

namespace WisdoverseCell.Evolution

open List Table

structure EvalCase where
  caseId : String
  caseRevision : String
  expectsPolicyDenial : Bool

structure EvalResult where
  resultId : String
  caseId : String
  configRevision : String
  accepted : Bool
  quality : ℚ
  totalAttemptCostUsd : ℚ
  latencyMs : ℚ
  humanInterventions : Nat
  policyDenied : Bool
  policyViolation : Bool

/-- A batch that has passed `_validate_identifiers`. -/
structure EvaluationBatch where
  evaluationId : String
  datasetRevision : String
  configRevision : String
  budgetUsd : ℚ
  cases : Table EvalCase.caseId
  results : Table EvalResult.caseId
  resultIds_nodup : (results.rows.map EvalResult.resultId).Nodup
  mem_cases : ∀ r ∈ results, ∃ c ∈ cases, c.caseId = r.caseId
  same_config : ∀ r ∈ results, r.configRevision = configRevision

structure EvaluationPolicy where
  minimumSampleCount : Nat
  minimumCandidateAcceptedQuality : ℚ
  maximumCostPerAcceptedOutcomeUsd : ℚ
  maximumTotalAttemptCostUsd : Option ℚ

structure ArmEvaluationMetrics (W : Type) where
  evaluationId : String
  configRevision : String
  sampleCount : Nat
  acceptedCount : Nat
  acceptedOutcomeRate : Option ℚ
  acceptedOutcomeRate95Ci : W
  meanAcceptedQuality : ℚ
  totalAttemptCostUsd : ℚ
  costPerAcceptedOutcomeUsd : Option ℚ
  meanLatencyMs : ℚ
  totalHumanInterventions : Nat
  policyDenialCount : Nat
  policyDenialFailures : Nat
  policyViolationCount : Nat

structure EvaluationComparison (W : Type) where
  eligible : Bool
  reasons : List String
  baseline : ArmEvaluationMetrics W
  candidate : ArmEvaluationMetrics W
  datasetRevision : Option String
  budgetUsd : Option ℚ

section

variable {W : Type} (wilsonInterval : Nat → Nat → W)

def EvaluationBatch.aggregate (b : EvaluationBatch) : ArmEvaluationMetrics W :=
  let results := b.results.rows
  let sampleCount := results.length
  let accepted := results.filter EvalResult.accepted
  let denialFailures :=
    results.countP (fun r => (b.cases.get r.caseId).any EvalCase.expectsPolicyDenial && !r.policyDenied)
  let totalCost := (results.map EvalResult.totalAttemptCostUsd).sum
  { evaluationId := b.evaluationId
    configRevision := b.configRevision
    sampleCount := sampleCount
    acceptedCount := accepted.length
    acceptedOutcomeRate := if sampleCount = 0 then none else some (accepted.length / sampleCount)
    acceptedOutcomeRate95Ci := wilsonInterval accepted.length sampleCount
    meanAcceptedQuality := if accepted.length = 0 then 0 else (accepted.map EvalResult.quality).sum / accepted.length
    totalAttemptCostUsd := totalCost
    costPerAcceptedOutcomeUsd := if accepted.length = 0 then none else some (totalCost / accepted.length)
    meanLatencyMs := if sampleCount = 0 then 0 else (results.map EvalResult.latencyMs).sum / sampleCount
    totalHumanInterventions := (results.map EvalResult.humanInterventions).sum
    policyDenialCount := results.countP EvalResult.policyDenied
    policyDenialFailures := denialFailures
    policyViolationCount := results.countP EvalResult.policyViolation + denialFailures }

/-- The ids are distinct, so their order is the order of the tuples. -/
def EvaluationBatch.caseSignature (b : EvaluationBatch) : List (String × String × Bool) :=
  (sortBy EvalCase.caseId b.cases.rows).map (fun c => (c.caseId, c.caseRevision, c.expectsPolicyDenial))

def EvaluationBatch.incomplete (b : EvaluationBatch) : Bool :=
  (b.results.rows.map EvalResult.caseId).toFinset ≠ (b.cases.rows.map EvalCase.caseId).toFinset

/-- The reasons against the candidate, in the order of the source. -/
def comparisonReasons (b c : EvaluationBatch) (policy : EvaluationPolicy) (bm cm : ArmEvaluationMetrics W) :
    List String :=
  ([(decide (b.datasetRevision ≠ c.datasetRevision ∨ b.caseSignature ≠ c.caseSignature), "evaluation_cases_mismatch"),
    (decide (b.budgetUsd ≠ c.budgetUsd), "budget_mismatch"),
    (decide (bm.totalAttemptCostUsd > b.budgetUsd), "baseline_budget_exceeded"),
    (decide (cm.totalAttemptCostUsd > c.budgetUsd), "candidate_budget_exceeded"),
    (decide (b.configRevision = c.configRevision), "config_revisions_must_differ"),
    (b.incomplete, "baseline_evaluation_incomplete"),
    (c.incomplete, "candidate_evaluation_incomplete"),
    (decide (cm.meanAcceptedQuality < bm.meanAcceptedQuality), "candidate_quality_regression"),
    (decide (bm.sampleCount < policy.minimumSampleCount), "baseline_sample_count_below_minimum"),
    (decide (cm.sampleCount < policy.minimumSampleCount), "candidate_sample_count_below_minimum"),
    (decide (bm.policyViolationCount ≠ 0), "baseline_policy_violations"),
    (decide (cm.policyViolationCount ≠ 0), "candidate_policy_violations"),
    (decide (cm.meanAcceptedQuality < policy.minimumCandidateAcceptedQuality), "candidate_quality_below_minimum"),
    (cm.costPerAcceptedOutcomeUsd.isNone, "candidate_has_no_accepted_outcomes"),
    (cm.costPerAcceptedOutcomeUsd.any (· > policy.maximumCostPerAcceptedOutcomeUsd),
      "candidate_cost_per_accepted_outcome_exceeds_maximum"),
    (policy.maximumTotalAttemptCostUsd.any (cm.totalAttemptCostUsd > ·),
      "candidate_total_attempt_cost_exceeds_maximum")].filter Prod.fst).map Prod.snd

def compareEvaluations (b c : EvaluationBatch) (policy : EvaluationPolicy) : EvaluationComparison W :=
  let bm := b.aggregate wilsonInterval
  let cm := c.aggregate wilsonInterval
  let reasons := comparisonReasons b c policy bm cm
  { eligible := reasons.isEmpty
    reasons := reasons
    baseline := bm
    candidate := cm
    datasetRevision := if b.datasetRevision = c.datasetRevision then some b.datasetRevision else none
    budgetUsd := if b.budgetUsd = c.budgetUsd then some b.budgetUsd else none }

/-! ### Evidence -/

/-- The same batch with its cases and results in another order. -/
structure EvaluationBatch.SameEvidence (b b' : EvaluationBatch) : Prop where
  evaluationId : b.evaluationId = b'.evaluationId
  datasetRevision : b.datasetRevision = b'.datasetRevision
  configRevision : b.configRevision = b'.configRevision
  budgetUsd : b.budgetUsd = b'.budgetUsd
  cases : b.cases.rows.Perm b'.cases.rows
  results : b.results.rows.Perm b'.results.rows

variable {b b' c c' : EvaluationBatch}

private theorem EvaluationBatch.SameEvidence.get_cases (h : b.SameEvidence b') (id) :
    b.cases.get id = b'.cases.get id := by
  refine Option.ext (fun a => ?_)
  have hm : a ∈ b.cases ↔ a ∈ b'.cases := h.cases.mem_iff
  rw [get_eq_some, get_eq_some, hm]

private theorem EvaluationBatch.SameEvidence.aggregate_eq (h : b.SameEvidence b') :
    b.aggregate wilsonInterval = b'.aggregate wilsonInterval := by
  have hl := h.results.length_eq
  have ha := h.results.filter EvalResult.accepted
  have hc (p : EvalResult → Bool) := h.results.countP_eq p
  simp only [EvaluationBatch.aggregate, h.get_cases, h.evaluationId, h.configRevision, hl, ha.length_eq, hc,
    (ha.map EvalResult.quality).sum_eq, (h.results.map EvalResult.totalAttemptCostUsd).sum_eq,
    (h.results.map EvalResult.latencyMs).sum_eq, (h.results.map EvalResult.humanInterventions).sum_eq]

private theorem EvaluationBatch.SameEvidence.caseSignature_eq (h : b.SameEvidence b') :
    b.caseSignature = b'.caseSignature := by
  unfold EvaluationBatch.caseSignature
  rw [sortBy_eq_of_perm h.cases b.cases.nodup]

private theorem EvaluationBatch.SameEvidence.incomplete_eq (h : b.SameEvidence b') : b.incomplete = b'.incomplete := by
  unfold EvaluationBatch.incomplete
  rw [toFinset_eq_of_perm _ _ (h.results.map _), toFinset_eq_of_perm _ _ (h.cases.map _)]

private theorem compareEvaluations_eq (hb : b.SameEvidence b') (hc : c.SameEvidence c') (policy) :
    compareEvaluations wilsonInterval b c policy = compareEvaluations wilsonInterval b' c' policy := by
  simp only [compareEvaluations, comparisonReasons, hb.aggregate_eq, hc.aggregate_eq, hb.caseSignature_eq,
    hc.caseSignature_eq, hb.incomplete_eq, hc.incomplete_eq, hb.datasetRevision, hc.datasetRevision, hb.budgetUsd,
    hc.budgetUsd, hb.configRevision, hc.configRevision]

private theorem exists_unique_result (h : b.incomplete = false) {k} (hk : k ∈ b.cases) :
    ∃ r ∈ b.results, r.caseId = k.caseId ∧ ∀ r' ∈ b.results, r'.caseId = k.caseId → r' = r := by
  have hs := of_not_not (of_decide_eq_false h)
  have hm : k.caseId ∈ (b.results.rows.map EvalResult.caseId).toFinset := by
    rw [hs, mem_toFinset]
    exact mem_map_of_mem hk
  obtain ⟨r, hr, hid⟩ := mem_map.1 (mem_toFinset.1 hm)
  exact ⟨r, hr, hid, fun r' hr' hid' => eq_of_key_eq hr' hr (hid'.trans hid.symm)⟩

private theorem cases_of_caseSignature (h : b.caseSignature = c.caseSignature) : b.cases.rows.Perm c.cases.rows := by
  have hs : sortBy EvalCase.caseId b.cases.rows = sortBy EvalCase.caseId c.cases.rows := by
    refine map_injective_iff.2 (fun x y hxy => ?_) h
    cases x
    cases y
    simpa using hxy
  have hp := (sortBy_perm EvalCase.caseId b.cases.rows).symm
  rw [hs] at hp
  exact hp.trans (sortBy_perm _ _)

/-- The comparison depends on the evidence alone, and an eligible candidate has, as its baseline, exactly one result for
every case of the same cases, within the same budget. -/
theorem comparison_of_evidence (policy : EvaluationPolicy) (hb : b.SameEvidence b') (hc : c.SameEvidence c') :
    compareEvaluations wilsonInterval b c policy = compareEvaluations wilsonInterval b' c' policy ∧
      ((compareEvaluations wilsonInterval b c policy).eligible = true → b.cases.rows.Perm c.cases.rows ∧
          (∀ arm ∈ [b, c], (∀ k ∈ arm.cases, ∃ r ∈ arm.results, r.caseId = k.caseId ∧
              ∀ r' ∈ arm.results, r'.caseId = k.caseId → r' = r) ∧
            (arm.results.rows.map EvalResult.totalAttemptCostUsd).sum ≤ arm.budgetUsd) ∧
          b.budgetUsd = c.budgetUsd) := by
  refine ⟨compareEvaluations_eq wilsonInterval hb hc policy, fun he => ?_⟩
  have hn := isEmpty_iff.1 he
  simp only [comparisonReasons, map_eq_nil_iff, filter_eq_nil_iff, forall_mem_cons, Bool.not_eq_true,
    decide_eq_false_iff_not, not_or, ne_eq, not_not, gt_iff_lt, not_lt] at hn
  obtain ⟨⟨-, hcs⟩, hbd, hs, hsp, -, hb', hc', -⟩ := hn
  refine ⟨cases_of_caseSignature hcs, forall_mem_cons.2 ⟨?_, forall_mem_singleton.2 ?_⟩, hbd⟩
  · exact ⟨fun k hk => exists_unique_result hb' hk, hs⟩
  · exact ⟨fun k hk => exists_unique_result hc' hk, hsp⟩

def passed (id config : String) : EvalResult := ⟨"r" ++ id, id, config, true, 1, 1, 0, 0, false, false⟩

/-- Two cases and their results, in this order. -/
def twoResults (i j : String) (h : i ≠ j) (config : String) : EvaluationBatch where
  evaluationId := "e"
  datasetRevision := "d"
  configRevision := config
  budgetUsd := 2
  cases := ⟨[⟨i, "1", false⟩, ⟨j, "1", false⟩], by simp [h]⟩
  results := ⟨[passed i config, passed j config], by simp [passed, h]⟩
  resultIds_nodup := by simp [passed, h]
  mem_cases := forall_mem_cons.2
    ⟨⟨_, mem_cons_self, rfl⟩, forall_mem_singleton.2 ⟨_, mem_cons_of_mem _ mem_cons_self, rfl⟩⟩
  same_config := forall_mem_cons.2 ⟨rfl, forall_mem_singleton.2 rfl⟩

/-- Two cases in two orders give one comparison. -/
theorem comparison_of_evidence_swapped :
    (compareEvaluations (fun _ _ => ()) (twoResults "k" "l" (by decide) "a") (twoResults "k" "l" (by decide) "b")
        ⟨2, 0, 1, none⟩).eligible = true ∧
      compareEvaluations (fun _ _ => ()) (twoResults "k" "l" (by decide) "a") (twoResults "k" "l" (by decide) "b")
          ⟨2, 0, 1, none⟩ =
        compareEvaluations (fun _ _ => ()) (twoResults "l" "k" (by decide) "a") (twoResults "l" "k" (by decide) "b")
          ⟨2, 0, 1, none⟩ := by
  have hs (config) : (twoResults "k" "l" (by decide) config).SameEvidence (twoResults "l" "k" (by decide) config) :=
    ⟨rfl, rfl, rfl, rfl, .swap _ _ _, .swap _ _ _⟩
  exact ⟨by decide +kernel, (comparison_of_evidence (fun _ _ => ()) ⟨2, 0, 1, none⟩ (hs "a") (hs "b")).1⟩

end

end WisdoverseCell.Evolution
