import FederationObservatory.Analysis.Placement

/-!
# The two explanations of a placement

`explain_placement` has a finding for every candidate that the source turned down, and
`build_rejection_explanation` has a summary of what became of one candidate. They tell the same
story exactly when the statuses of the candidates fit how much of the set the source exposed.
-/

namespace FederationObservatory

open Sorting

/-! ## Texts -/

/-- Texts that differ at the front are different. -/
theorem Text.append_ne_of_take {a b : Text} (n : Nat) (ha : n ≤ a.length) (hb : n ≤ b.length)
    (hne : a.take n ≠ b.take n) (x y : Text) : a ++ x ≠ b ++ y := by
  intro h
  have htake := congrArg (List.take n) h
  rw [List.take_append_of_le_length ha, List.take_append_of_le_length hb] at htake
  exact hne htake

/-- A verdict with its reasons. -/
def turnedDownText (status : CandidateStatus) (reasons : List RejectionReason) : Text :=
  .ofString "was " ++ status.verdict ++ .ofString ": " ++ reasonsText reasons

/-- The summary says that the candidate was rejected, or that it was not considered. -/
def RejectionExplanation.TurnedDown (explanation : RejectionExplanation) : Prop :=
  ∃ (status : CandidateStatus) (reasons : List RejectionReason),
    explanation.summary = .ofString "cluster " ++ explanation.candidate.value ++
      .ofString " " ++ turnedDownText status reasons

/-- A finding that says so of a cluster. -/
def AttributionFinding.Rejects (finding : AttributionFinding) (cluster : ClusterId) : Prop :=
  finding.aspect = .rejection ∧ finding.subject = cluster.value

/-- A statement that begins with a text, and goes on after a blank if it goes on. -/
def Text.BeginsWith (statement text : Text) : Prop :=
  ∃ rest : Text, statement = text ++ rest ∧ (rest = [] ∨ rest.head? = some 32)

/-- The two explanations turn down the same candidate for the same reasons. -/
structure RejectionExplanation.Agrees (rejection : RejectionExplanation)
    (explanation : PlacementExplanation) : Prop where
  turnedDown_iff : rejection.TurnedDown ↔
    ∃ finding ∈ explanation.findings, finding.Rejects rejection.candidate
  same_reasons : ∀ finding ∈ explanation.findings, finding.Rejects rejection.candidate →
    ∃ status : CandidateStatus,
      rejection.summary = .ofString "cluster " ++ rejection.candidate.value ++ .ofString " " ++
        turnedDownText status rejection.reasons ∧
      Text.BeginsWith finding.statement (turnedDownText status rejection.reasons)

/-- Without attribution, nothing is said against a cluster that was not selected. -/
def RejectionExplanation.Silent (rejection : RejectionExplanation) (placement : PlacementRecord) :
    Prop :=
  rejection.attributionAvailable = false → rejection.candidate ≠ placement.selected →
    rejection.reasons = [] ∧ ¬rejection.TurnedDown

/-- The statuses of the candidates fit how much of the set was exposed: where rejections can be
    attributed every candidate has an outcome, and where they cannot none is turned down and no
    other cluster than the selected one carries a reason. -/
def PlacementRecord.WellAttributed (placement : PlacementRecord) : Prop :=
  ∀ row ∈ placement.candidates,
    if placement.candidateCompleteness.allowsRejectionAttribution then row.status ≠ .unattributed
    else row.status.isTurnedDown = false ∧
      (row.cluster ≠ placement.selected → row.reasonList = [])

/-! ## Candidates -/

section Candidates

variable {placement : PlacementRecord}

theorem PlacementRecord.nodup_candidates (hvalid : placement.validate = .ok ()) :
    (placement.candidates.map (·.cluster)).Nodup := by
  simp only [PlacementRecord.validate, bind_eq_ok, failIf_eq_ok, exists_and_left,
    exists_const] at hvalid
  obtain ⟨-, -, -, -, -, -, -, -, -, -, hduplicates, -⟩ := hvalid
  exact hasDuplicates_eq_false.mp hduplicates

theorem PlacementRecord.mem_of_findCandidate {cluster : ClusterId} {row : CandidateObservation}
    (h : placement.findCandidate cluster = some row) :
    row ∈ placement.candidates ∧ row.cluster = cluster := by
  have hcluster := List.find?_some h
  exact ⟨List.mem_of_find?_eq_some h, of_decide_eq_true hcluster⟩

/-- A cluster has one row. -/
theorem PlacementRecord.findCandidate_of_mem (hvalid : placement.validate = .ok ())
    {row : CandidateObservation} (hrow : row ∈ placement.candidates) :
    placement.findCandidate row.cluster = some row := by
  have hfound : (placement.findCandidate row.cluster).isSome := by
    rw [PlacementRecord.findCandidate, List.find?_isSome]
    exact ⟨row, hrow, decide_eq_true rfl⟩
  obtain ⟨other, hother⟩ := Option.isSome_iff_exists.mp hfound
  obtain ⟨hmem, hcluster⟩ := mem_of_findCandidate hother
  rw [hother, List.inj_on_of_nodup_map (PlacementRecord.nodup_candidates hvalid) hmem hrow hcluster]

theorem CandidateStatus.isTurnedDown_iff (status : CandidateStatus) :
    status.isTurnedDown = true ↔ status ≠ .selected ∧ status ≠ .unattributed := by
  cases status <;> decide

end Candidates

/-! ## Findings -/

section Findings

variable (placement : PlacementRecord)

@[simp] theorem aspect_placementFinding (aspect : AttributionAspect) (subject statement : Text)
    (basis : ReasonBasis) (precision : Precision) :
    (placementFinding placement aspect subject statement basis precision).aspect = aspect := rfl

theorem aspect_coverageFinding : (coverageFinding placement).aspect = .candidateCoverage := by
  unfold coverageFinding
  cases placement.candidateCompleteness <;> rfl

theorem aspect_constraintFinding (aspect : AttributionAspect) (value : Tri) (label : Text) :
    (constraintFinding placement aspect value label).aspect = aspect := by
  cases value <;> rfl

theorem aspect_capacityFinding : (capacityFinding placement).aspect = .capacity := by
  unfold capacityFinding
  split <;> rfl

theorem aspect_currentnessFinding : (currentnessFinding placement).aspect = .currentness := by
  unfold currentnessFinding
  cases placement.currentness <;> rfl

theorem aspect_of_mem_fallbackFindings {finding : AttributionFinding}
    (h : finding ∈ fallbackFindings placement) : finding.aspect = .fallback := by
  unfold fallbackFindings at h
  split at h
  · cases h
  · split at h
    all_goals
      obtain rfl := List.mem_singleton.mp h
      rfl

theorem aspect_of_mem_constraintFindings {finding : AttributionFinding}
    (h : finding ∈ constraintFindings placement) : finding.aspect ≠ .rejection := by
  simp only [constraintFindings, List.mem_cons, List.not_mem_nil, or_false] at h
  rcases h with rfl | rfl | rfl | rfl | rfl
  all_goals
    rw [aspect_constraintFinding]
    decide

theorem aspect_of_mem_assessmentFindings {assessment : CompatibilityAssessment}
    {finding : AttributionFinding} (h : finding ∈ assessmentFindings placement assessment) :
    finding.aspect ≠ .rejection := by
  simp only [assessmentFindings, List.cons_append, List.mem_cons, List.mem_append,
    List.mem_map] at h
  rcases h with rfl | ⟨check, -, rfl⟩ | h
  · nofun
  · nofun
  · split at h
    · obtain rfl := List.mem_singleton.mp h
      nofun
    · cases h

/-- The findings about rejections are those of the candidates that were turned down. -/
theorem mem_findings_iff (inputs : PlacementExplanationInputs) {finding : AttributionFinding} :
    finding ∈ inputs.findings placement ∧ finding.aspect = .rejection ↔
      finding ∈ rejectionFindings placement := by
  constructor
  · rintro ⟨hmem, haspect⟩
    simp only [PlacementExplanationInputs.findings, List.cons_append, List.mem_cons,
      List.mem_append, List.not_mem_nil, or_false, or_assoc] at hmem
    rcases hmem with rfl | rfl | hmem | rfl | hmem | hmem | hmem | rfl
    · rw [aspect_coverageFinding] at haspect
      cases haspect
    · cases haspect
    · exact absurd haspect (aspect_of_mem_constraintFindings placement hmem)
    · rw [aspect_capacityFinding] at haspect
      cases haspect
    · rw [aspect_of_mem_fallbackFindings placement hmem] at haspect
      cases haspect
    · cases hassessment : inputs.find placement.selected with
      | none =>
        rw [hassessment] at hmem
        cases hmem
      | some assessment =>
        rw [hassessment] at hmem
        exact absurd haspect (aspect_of_mem_assessmentFindings placement hmem)
    · exact hmem
    · rw [aspect_currentnessFinding] at haspect
      cases haspect
  · intro h
    refine ⟨?_, ?_⟩
    · simp only [PlacementExplanationInputs.findings, List.cons_append, List.mem_cons,
        List.mem_append, h, true_or, or_true]
    · obtain ⟨candidate, -, rfl⟩ := List.mem_map.mp h
      rfl

/-- The findings that turn down a cluster are those of its rows. -/
theorem mem_explainPlacement_iff (assessments : List CompatibilityAssessment)
    (generation : SnapshotGeneration) {finding : AttributionFinding} {cluster : ClusterId} :
    finding ∈ (explainPlacement ⟨some placement, assessments, generation⟩).findings ∧
        finding.Rejects cluster ↔
      ∃ row ∈ placement.candidates, row.cluster = cluster ∧ row.status.isTurnedDown = true ∧
        rejectionFinding placement row = finding := by
  have hmem : finding ∈ (explainPlacement ⟨some placement, assessments, generation⟩).findings ↔
      finding ∈ PlacementExplanationInputs.findings ⟨some placement, assessments, generation⟩
        placement := (perm_stableSort _ _).mem_iff
  rw [hmem, AttributionFinding.Rejects, ← and_assoc, mem_findings_iff, rejectionFindings,
    List.mem_map]
  constructor
  · rintro ⟨⟨row, hrow, rfl⟩, hsubject⟩
    obtain ⟨hrow, hstatus⟩ := List.mem_filter.mp hrow
    exact ⟨row, hrow, StrongId.ext hsubject, hstatus, rfl⟩
  · rintro ⟨row, hrow, rfl, hstatus, rfl⟩
    exact ⟨⟨row, List.mem_filter.mpr ⟨hrow, hstatus⟩, rfl⟩, rfl⟩

theorem statement_rejectionFinding (row : CandidateObservation) :
    Text.BeginsWith (rejectionFinding placement row).statement
      (turnedDownText row.status row.reasonList) := by
  refine ⟨(if row.detail.isEmpty then [] else Text.ofString " - " ++ row.detail) ++
    (if placement.candidateCompleteness.allowsRejectionAttribution then []
      else Text.ofString
        " (candidate set not fully exposed; this row is what the source published)"), ?_, ?_⟩
  · simp only [rejectionFinding, turnedDownText, List.append_assoc]
  · have hdetail : ∀ x : Text, (Text.ofString " - " ++ x).head? = some 32 := by
      intro x
      rw [List.head?_append]
      have h : (Text.ofString " - ").head? = some 32 := by decide
      rw [h, Option.some_or]
    split
    · split
      · exact .inl rfl
      · exact .inr (by decide)
    · rw [List.append_assoc]
      exact .inr (hdetail _)

end Findings

/-! ## The summary -/

section Summary

variable (placement : PlacementRecord) (cluster : ClusterId)

@[simp] theorem candidate_buildRejectionExplanation :
    (buildRejectionExplanation placement cluster).candidate = cluster := by
  unfold buildRejectionExplanation
  dsimp only
  split
  · rfl
  · split_ifs <;> rfl

theorem attributionAvailable_buildRejectionExplanation :
    (buildRejectionExplanation placement cluster).attributionAvailable =
      placement.candidateCompleteness.allowsRejectionAttribution := by
  unfold buildRejectionExplanation
  dsimp only
  split
  · rfl
  · split_ifs <;> rfl

theorem reasons_buildRejectionExplanation :
    (buildRejectionExplanation placement cluster).reasons =
      ((placement.findCandidate cluster).map CandidateObservation.reasonList).getD [] := by
  unfold buildRejectionExplanation
  dsimp only
  split
  · next h => rw [h]; rfl
  · next h =>
    rw [h]
    split_ifs <;> rfl

/-- The verdict on a row that rejections can be attributed to. -/
theorem summary_of_attributed {row : CandidateObservation}
    (hrow : placement.findCandidate cluster = some row) (hstatus : row.status ≠ .selected)
    (hallows : placement.candidateCompleteness.allowsRejectionAttribution = true) :
    (buildRejectionExplanation placement cluster).summary =
      .ofString "cluster " ++ cluster.value ++ .ofString " " ++
        turnedDownText row.status row.reasonList := by
  have hwas : Text.ofString " was " = .ofString " " ++ .ofString "was " := by decide
  simp only [buildRejectionExplanation, hrow, hstatus, if_false, hallows, Bool.not_true,
    Bool.false_eq_true, turnedDownText, hwas, List.append_assoc]

theorem not_verdict_of_take {a x : Text} (hlength : 5 ≤ a.length)
    (hne : a.take 5 ≠ (Text.ofString " was ").take 5) (status : CandidateStatus)
    (reasons : List RejectionReason) :
    a ++ x ≠ .ofString " " ++ turnedDownText status reasons := by
  have hwas : Text.ofString " " ++ Text.ofString "was " = .ofString " was " := by decide
  rw [turnedDownText, List.append_assoc, List.append_assoc, ← List.append_assoc, hwas]
  exact Text.append_ne_of_take 5 hlength (by decide) hne _ _

/-- The summary turns the candidate down exactly when it has a row that is not the selected one
    and rejections can be attributed. -/
theorem turnedDown_buildRejectionExplanation :
    (buildRejectionExplanation placement cluster).TurnedDown ↔
      ∃ row, placement.findCandidate cluster = some row ∧ row.status ≠ .selected ∧
        placement.candidateCompleteness.allowsRejectionAttribution = true := by
  constructor
  · rintro ⟨status, reasons, h⟩
    rw [candidate_buildRejectionExplanation, List.append_assoc, List.append_assoc] at h
    rcases Option.eq_none_or_eq_some (placement.findCandidate cluster) with hrow | ⟨row, hrow⟩
    · simp only [buildRejectionExplanation, hrow, List.append_assoc] at h
      refine absurd (List.append_cancel_left (List.append_cancel_left h)) ?_
      rw [← List.append_nil (Text.ofString _)]
      exact not_verdict_of_take (by decide) (by decide) status reasons
    · refine ⟨row, hrow, ?_⟩
      by_cases hstatus : row.status = .selected
      · simp only [buildRejectionExplanation, hrow, hstatus, if_true, List.append_assoc] at h
        refine absurd (List.append_cancel_left (List.append_cancel_left h)) ?_
        rw [← List.append_nil (Text.ofString _)]
        exact not_verdict_of_take (by decide) (by decide) status reasons
      · refine ⟨hstatus, ?_⟩
        by_contra hallows
        rw [Bool.not_eq_true] at hallows
        simp only [buildRejectionExplanation, hrow, hstatus, if_false, hallows, Bool.not_false,
          if_true, List.append_assoc] at h
        exact Text.append_ne_of_take 1 (by decide) (by decide) (by decide) _ _ h
  · rintro ⟨row, hrow, hstatus, hallows⟩
    refine ⟨row.status, row.reasonList, ?_⟩
    rw [candidate_buildRejectionExplanation]
    exact summary_of_attributed placement cluster hrow hstatus hallows

end Summary

/-! ## Agreement -/

/-- The two explanations of a valid placement agree about every cluster, and without attribution
    nothing is said against another cluster than the selected one, exactly when the placement is
    well attributed. -/
theorem explanations_agree_iff (placement : PlacementRecord)
    (assessments : List CompatibilityAssessment) (generation : SnapshotGeneration)
    (hvalid : placement.validate = .ok ()) :
    (∀ cluster : ClusterId,
      (buildRejectionExplanation placement cluster).Agrees
        (explainPlacement ⟨some placement, assessments, generation⟩) ∧
      (buildRejectionExplanation placement cluster).Silent placement) ↔
      placement.WellAttributed := by
  constructor
  · intro h row hrow
    obtain ⟨hagrees, hsilent⟩ := h row.cluster
    have hfound := PlacementRecord.findCandidate_of_mem hvalid hrow
    have hiff := hagrees.turnedDown_iff
    rw [turnedDown_buildRejectionExplanation] at hiff
    simp only [candidate_buildRejectionExplanation, mem_explainPlacement_iff] at hiff
    split
    · next hallows =>
      intro hstatus
      obtain ⟨finding, other, hother, hcluster, hturned, -⟩ :=
        hiff.mp ⟨row, hfound, by rw [hstatus]; decide, hallows⟩
      have heq := List.inj_on_of_nodup_map (PlacementRecord.nodup_candidates hvalid) hother hrow
        hcluster
      rw [heq, hstatus] at hturned
      cases hturned
    · next hallows =>
      refine ⟨?_, ?_⟩
      · rw [← Bool.not_eq_true]
        intro hturned
        obtain ⟨_, -, -, hallows'⟩ := hiff.mpr ⟨_, row, hrow, rfl, hturned, rfl⟩
        exact hallows hallows'
      · intro hselected
        have hreasons := (hsilent (by
          rw [attributionAvailable_buildRejectionExplanation]
          exact Bool.eq_false_iff.mpr hallows) (by
          rwa [candidate_buildRejectionExplanation])).1
        rwa [reasons_buildRejectionExplanation, hfound] at hreasons
  · intro h cluster
    have hrejects : ∀ {row : CandidateObservation}, row ∈ placement.candidates →
        row.status.isTurnedDown = true → row.cluster = cluster →
        placement.findCandidate cluster = some row ∧ row.status ≠ .selected ∧
          placement.candidateCompleteness.allowsRejectionAttribution = true := by
      intro row hrow hturned hcluster
      have hwell := h row hrow
      refine ⟨hcluster ▸ PlacementRecord.findCandidate_of_mem hvalid hrow,
        (row.status.isTurnedDown_iff.mp hturned).1, ?_⟩
      by_contra hallows
      rw [if_neg hallows, hturned] at hwell
      cases hwell.1
    refine ⟨⟨?_, ?_⟩, ?_⟩
    · rw [turnedDown_buildRejectionExplanation]
      simp only [candidate_buildRejectionExplanation, mem_explainPlacement_iff]
      constructor
      · rintro ⟨row, hrow, hstatus, hallows⟩
        obtain ⟨hmem, hcluster⟩ := PlacementRecord.mem_of_findCandidate hrow
        have hwell := h row hmem
        rw [if_pos hallows] at hwell
        exact ⟨_, row, hmem, hcluster, row.status.isTurnedDown_iff.mpr ⟨hstatus, hwell⟩, rfl⟩
      · rintro ⟨finding, row, hrow, hcluster, hturned, -⟩
        exact ⟨row, hrejects hrow hturned hcluster⟩
    · intro finding hfinding hfindingRejects
      rw [candidate_buildRejectionExplanation] at hfindingRejects
      obtain ⟨row, hrow, hcluster, hturned, rfl⟩ :=
        (mem_explainPlacement_iff placement assessments generation).mp ⟨hfinding, hfindingRejects⟩
      obtain ⟨hfound, hstatus, hallows⟩ := hrejects hrow hturned hcluster
      refine ⟨row.status, ?_⟩
      have hreasons : (buildRejectionExplanation placement cluster).reasons = row.reasonList := by
        rw [reasons_buildRejectionExplanation, hfound]
        rfl
      rw [hreasons, candidate_buildRejectionExplanation]
      exact ⟨summary_of_attributed placement cluster hfound hstatus hallows,
        statement_rejectionFinding placement row⟩
    · intro havailable hselected
      rw [attributionAvailable_buildRejectionExplanation] at havailable
      rw [candidate_buildRejectionExplanation] at hselected
      refine ⟨?_, ?_⟩
      · rw [reasons_buildRejectionExplanation]
        rcases Option.eq_none_or_eq_some (placement.findCandidate cluster) with hrow | ⟨row, hrow⟩
        · rw [hrow]
          rfl
        · obtain ⟨hmem, rfl⟩ := PlacementRecord.mem_of_findCandidate hrow
          have hwell := h row hmem
          rw [havailable] at hwell
          rw [hrow]
          exact hwell.2 hselected
      · rw [turnedDown_buildRejectionExplanation]
        rintro ⟨row, -, -, hallows⟩
        rw [havailable] at hallows
        cases hallows

/-- A placement on one cluster, with another one that the source partly tells of. -/
def Deployment.exposedPlacement (status : CandidateStatus) : PlacementRecord where
  id := ⟨.ofString "placement"⟩
  generation := ⟨1⟩
  workload := ⟨.ofString "workload"⟩
  workloadGeneration := ⟨1⟩
  federation := ⟨.ofString "federation"⟩
  selected := ⟨.ofString "first"⟩
  candidates :=
    [{ cluster := ⟨.ofString "first"⟩, status := .selected },
     { cluster := ⟨.ofString "second"⟩, status, reasons := RejectionReason.policyRejected.bit }]
  candidateCompleteness := .partialSet

theorem explanations_agree_exposed :
    (Deployment.exposedPlacement .rejected).WellAttributed ∧ ∀ cluster : ClusterId,
      (buildRejectionExplanation (Deployment.exposedPlacement .rejected) cluster).Agrees
        (explainPlacement ⟨some (Deployment.exposedPlacement .rejected), [], {}⟩) ∧
      (buildRejectionExplanation (Deployment.exposedPlacement .rejected) cluster).Silent
        (Deployment.exposedPlacement .rejected) := by
  have hwell : (Deployment.exposedPlacement .rejected).WellAttributed := ?_
  refine ⟨hwell, (explanations_agree_iff _ [] {} (by decide +kernel)).mpr hwell⟩
  intro row hrow
  rw [if_pos (by decide)]
  simp only [Deployment.exposedPlacement, List.mem_cons, List.not_mem_nil, or_false] at hrow
  rcases hrow with rfl | rfl <;> nofun

/-- A candidate without an outcome is called rejected by the one and not mentioned by the other. -/
theorem explanations_disagree_unattributed :
    (Deployment.exposedPlacement .unattributed).validate = .ok () ∧
      ¬(buildRejectionExplanation (Deployment.exposedPlacement .unattributed)
          ⟨.ofString "second"⟩).Agrees
        (explainPlacement ⟨some (Deployment.exposedPlacement .unattributed), [], {}⟩) := by
  refine ⟨by decide +kernel, ?_⟩
  intro h
  have hiff := h.turnedDown_iff
  rw [turnedDown_buildRejectionExplanation] at hiff
  simp only [candidate_buildRejectionExplanation, mem_explainPlacement_iff] at hiff
  obtain ⟨-, row, hrow, hcluster, hturned, -⟩ := hiff.mp
    ⟨{ cluster := ⟨.ofString "second"⟩, reasons := RejectionReason.policyRejected.bit },
      by decide +kernel, by decide, by decide⟩
  simp only [Deployment.exposedPlacement, List.mem_cons, List.not_mem_nil, or_false] at hrow
  rcases hrow with rfl | rfl
  · exact absurd hcluster (by decide)
  · cases hturned

end FederationObservatory
