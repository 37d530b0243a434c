import WisdoverseCell.QaAgent.Persistence

/-!
# Replayed acceptance runs

A trigger that comes again is answered from its stored run.  The verdict and the counts are stored as they were
returned, but severities and blocking flags are read from the raw report, in which the runner does not write them.
-/

namespace WisdoverseCell.QaAgent

variable {rt : QaRuntime} {report : Report} {markdown : Option String} {result : ExecutionResult} {finding : JsonObj}
  {decoded : Finding}

/-- The columns of a stored run that `result_from_run` reads; `results` are those of the raw report. -/
structure RunRecord where
  verdict : Verdict
  totalChecks : Nat
  runnerExitCode : Int
  results : List JsonObj

def saveExecutionResult (report : Report) (result : ExecutionResult) : RunRecord :=
  ⟨result.verdict, result.totalChecks, result.exitCode, report.results⟩

/-- What a caller gets of a result. -/
structure Answered where
  success : Bool
  exitCode : Int
  verdict : Verdict
  totalChecks : Nat
  findings : List Finding

def ExecutionResult.answered (result : ExecutionResult) : Answered :=
  ⟨!result.verdict.isBlocking, result.exitCode, result.verdict, result.totalChecks, result.findings⟩

def severities : List String := ["critical", "high", "medium", "low", "info"]

/-- A finding as it is read back; apart from the severity and the flag this is what the first execution reads. -/
def Finding.replay (finding : JsonObj) : Except QaError Finding := do
  let decoded ← Finding.ofReport finding
  let severity ← strictText finding "severity" "info"
  ensure (severity ∈ severities) .raised
  return { decoded with severity := severity, isBlocking := (finding.lookup "is_blocking").any Json.truthy }

/-- A finding that cannot be read is left out. -/
def resultFromRun (run : RunRecord) : Answered :=
  ⟨!run.verdict.isBlocking, run.runnerExitCode, run.verdict, run.totalChecks,
    run.results.filterMap (fun finding => (Finding.replay finding).toOption)⟩

/-- `derive_severity` on a raw finding. -/
def rawSeverity (finding : JsonObj) : String :=
  deriveSeverity ((strictText finding "level" "").toOption.bind FindingLevel.ofText)
    ((strictText finding "status" "").toOption.bind FindingStatus.ofText)

/-- The raw finding says itself what is derived from its level and its status. -/
def Carries (finding : JsonObj) : Prop :=
  strictText finding "severity" "info" = .ok (rawSeverity finding) ∧
    ((finding.lookup "is_blocking").any Json.truthy = true ↔
      strictText finding "level" "L0" = .ok "L0" ∧ strictText finding "status" "SKIP" = .ok "FAIL")

private theorem raw_of_strictText {α : Type} {ofText : String → Option α} {name default text a}
    (h : strictText finding name default = .ok text) (ha : ofText text = some a) (hn : ofText "" = none) :
    (finding.lookup name).map (fun _ => a) = (strictText finding name "").toOption.bind ofText := by
  unfold strictText at h ⊢
  split at h <;> rename_i hl <;> rw [hl]
  · exact hn.symm
  · rw [Except.ok.inj h]
    exact ha.symm
  · cases h

private theorem ofText_l0 {text} (h : FindingLevel.ofText text = some .l0) : text = "L0" := by
  unfold FindingLevel.ofText at h
  split at h <;> first | rfl | cases h

private theorem ofText_fail {text} (h : FindingStatus.ofText text = some .fail) : text = "FAIL" := by
  unfold FindingStatus.ofText at h
  split at h <;> first | rfl | cases h

/-- What the first execution derives, from the raw finding. -/
private theorem ofReport_derived (h : Finding.ofReport finding = .ok decoded) :
    decoded.severity = rawSeverity finding ∧ (decoded.isBlocking = true ↔
      strictText finding "level" "L0" = .ok "L0" ∧ strictText finding "status" "SKIP" = .ok "FAIL") := by
  simp only [Finding.ofReport, eq_ok] at h
  obtain ⟨levelText, hl, level, hlevel, _, -, _, -, statusText, hs, status, hstatus, _, -, _, -, _, -, rfl⟩ := h
  constructor
  · dsimp only [rawSeverity]
    congr 1
    · exact raw_of_strictText hl hlevel rfl
    · exact raw_of_strictText hs hstatus rfl
  · rw [hl, hs]
    simp only [isBlockingFinding, Bool.and_eq_true, decide_eq_true_eq, Except.ok.injEq]
    constructor
    · rintro ⟨rfl, rfl⟩
      exact ⟨ofText_l0 hlevel, ofText_fail hstatus⟩
    · rintro ⟨rfl, rfl⟩
      exact ⟨(Option.some.inj hlevel).symm, (Option.some.inj hstatus).symm⟩

private theorem severity_mem (h : Finding.ofReport finding = .ok decoded) : decoded.severity ∈ severities := by
  simp only [Finding.ofReport, eq_ok] at h
  obtain ⟨_, -, _, -, _, -, _, -, _, -, _, -, _, -, _, -, _, -, rfl⟩ := h
  dsimp only [deriveSeverity]
  split <;> decide

private theorem replay_eq_iff (h : Finding.ofReport finding = .ok decoded) :
    (Finding.replay finding).toOption = some decoded ↔ Carries finding := by
  obtain ⟨hs, hb⟩ := ofReport_derived h
  simp only [toOption_eq_some, Finding.replay, eq_ok, h, Except.ok.injEq, Carries]
  rw [← hs, ← hb]
  constructor
  · rintro ⟨_, rfl, severity, hr, -, -, he⟩
    rw [← congrArg Finding.severity he, ← congrArg Finding.isBlocking he]
    exact ⟨hr, Iff.rfl⟩
  · rintro ⟨hr, hf⟩
    exact ⟨decoded, rfl, decoded.severity, hr, (), severity_mem h, by rw [Bool.eq_iff_iff.2 hf]⟩

/-- The replay leaves out what it cannot read, so it gives the findings exactly if it gives each of them. -/
private theorem filterMap_replay_iff {results findings}
    (h : List.Forall₂ (fun finding decoded => Finding.ofReport finding = .ok decoded) results findings) :
    results.filterMap (fun finding => (Finding.replay finding).toOption) = findings ↔
      ∀ finding ∈ results, Carries finding := by
  induction h with
  | nil => simp
  | @cons finding decoded results findings hd hr ih =>
    rw [List.forall_mem_cons, ← replay_eq_iff hd, ← ih, List.filterMap_cons]
    cases hf : (Finding.replay finding).toOption with
    | none =>
      refine iff_of_false (fun he => ?_) (fun h => nomatch h.1)
      have hl := List.length_filterMap_le (fun finding => (Finding.replay finding).toOption) results
      have he : results.filterMap (fun finding => (Finding.replay finding).toOption) = decoded :: findings := he
      rw [he, hr.length_eq, List.length_cons] at hl
      omega
    | some => simp

/-- A replay answers as the first execution did exactly if every raw finding says itself what is derived from it. -/
theorem resultFromRun_eq_iff (h : runChecks rt report markdown = .ok result) :
    resultFromRun (saveExecutionResult report result) = result.answered ↔
      ∀ finding ∈ report.results, Carries finding := by
  simp only [runChecks, bind_eq_ok] at h
  obtain ⟨_, -, _, -, _, hm, h⟩ := h
  split at h
  · cases h
    rw [← filterMap_replay_iff (mapM_eq_ok.1 hm)]
    simp [resultFromRun, saveExecutionResult, ExecutionResult.answered]
  · cases h

def failedReport (finding : JsonObj) : Report :=
  ⟨[("l0_gate", .str "FAIL"), ("l1_check", .str "PASS")], [finding], 1, 0⟩

def failedFinding : JsonObj := [("level", .str "L0"), ("status", .str "FAIL")]

def markedFinding : JsonObj := failedFinding ++ [("severity", .str "critical"), ("is_blocking", .bool true)]

/-- A finding that is marked as blocking is replayed as it was. -/
theorem resultFromRun_eq_iff_marked : ∃ result, runChecks plainRuntime (failedReport markedFinding) none = .ok result ∧
      resultFromRun (saveExecutionResult (failedReport markedFinding) result) = result.answered := by
  have hr : runChecks plainRuntime (failedReport markedFinding) none = .ok _ := rfl
  refine ⟨_, hr, (resultFromRun_eq_iff hr).2 (fun finding hf => ?_)⟩
  obtain rfl := List.mem_singleton.1 hf
  exact ⟨rfl, iff_of_true rfl ⟨rfl, rfl⟩⟩

/-- The blocking finding of the first answer is replayed as an informational one. -/
theorem replayed_finding_weakened : ∃ result, runChecks plainRuntime (failedReport failedFinding) none = .ok result ∧
      (result.findings.map (fun f => (f.severity, f.isBlocking)),
          (resultFromRun (saveExecutionResult (failedReport failedFinding) result)).findings.map
            (fun f => (f.severity, f.isBlocking))) = ([("critical", true)], [("info", false)]) :=
  ⟨_, rfl, rfl⟩

end WisdoverseCell.QaAgent
