import FederationObservatory.Analysis.Inputs

/-!
# Placement attribution

`placement.cpp`: the reasons a candidate was turned down for, the explanation of a placement as a
list of findings, and the explanation of what became of one candidate.
-/

namespace FederationObservatory

open Sorting

/-! ## Rejection reasons -/

/-- `RejectionReason`. -/
inductive RejectionReason where
  | unknown | insufficientAccelerators | insufficientMemory | capabilityMissing
  | artifactIncompatible | runtimeIncompatible | driverIncompatible | topologyIncompatible
  | isolationIncompatible | abiIncompatible | policyRejected | clusterDraining | clusterNotReady
  | staleClusterEvidence | capacityReserved | portabilityNotProven | siteRestriction
  | localityConstraint | failureDomainConstraint
  deriving DecidableEq, Repr

instance : WireEnum RejectionReason where
  enumerators :=
    [.unknown, .insufficientAccelerators, .insufficientMemory, .capabilityMissing,
     .artifactIncompatible, .runtimeIncompatible, .driverIncompatible, .topologyIncompatible,
     .isolationIncompatible, .abiIncompatible, .policyRejected, .clusterDraining,
     .clusterNotReady, .staleClusterEvidence, .capacityReserved, .portabilityNotProven,
     .siteRestriction, .localityConstraint, .failureDomainConstraint]
  code e := UInt8.ofNat e.ctorIdx
  getElem?_code e := by cases e <;> rfl

namespace RejectionReason

/-- `rejection_name`. -/
def toText : RejectionReason → Text
  | unknown => .ofString "UNKNOWN"
  | insufficientAccelerators => .ofString "INSUFFICIENT_ACCELERATORS"
  | insufficientMemory => .ofString "INSUFFICIENT_MEMORY"
  | capabilityMissing => .ofString "CAPABILITY_MISSING"
  | artifactIncompatible => .ofString "ARTIFACT_INCOMPATIBLE"
  | runtimeIncompatible => .ofString "RUNTIME_INCOMPATIBLE"
  | driverIncompatible => .ofString "DRIVER_INCOMPATIBLE"
  | topologyIncompatible => .ofString "TOPOLOGY_INCOMPATIBLE"
  | isolationIncompatible => .ofString "ISOLATION_INCOMPATIBLE"
  | abiIncompatible => .ofString "ABI_INCOMPATIBLE"
  | policyRejected => .ofString "POLICY_REJECTED"
  | clusterDraining => .ofString "CLUSTER_DRAINING"
  | clusterNotReady => .ofString "CLUSTER_NOT_READY"
  | staleClusterEvidence => .ofString "STALE_CLUSTER_EVIDENCE"
  | capacityReserved => .ofString "CAPACITY_RESERVED"
  | portabilityNotProven => .ofString "PORTABILITY_NOT_PROVEN"
  | siteRestriction => .ofString "SITE_RESTRICTION"
  | localityConstraint => .ofString "LOCALITY_CONSTRAINT"
  | failureDomainConstraint => .ofString "FAILURE_DOMAIN_CONSTRAINT"

/-- `rejection_reason_precedence`. -/
def precedence : RejectionReason → Nat
  | unknown => 0
  | staleClusterEvidence => 1
  | clusterDraining => 2
  | clusterNotReady => 3
  | capacityReserved => 4
  | insufficientAccelerators => 5
  | insufficientMemory => 6
  | capabilityMissing => 7
  | artifactIncompatible => 8
  | abiIncompatible => 9
  | runtimeIncompatible => 10
  | driverIncompatible => 11
  | topologyIncompatible => 12
  | isolationIncompatible => 13
  | localityConstraint => 14
  | failureDomainConstraint => 15
  | portabilityNotProven => 16
  | siteRestriction => 17
  | policyRejected => 18

/-- `rejection_bit`. -/
def bit (reason : RejectionReason) : UInt32 := 1 <<< (WireEnum.code reason).toUInt32

end RejectionReason

/-- `allows_rejection_attribution`. -/
def CandidateSetCompleteness.allowsRejectionAttribution (completeness : CandidateSetCompleteness) :
    Bool :=
  completeness == .partialSet || completeness == .complete

namespace CandidateObservation

/-- `has_reason`. -/
def hasReason (candidate : CandidateObservation) (reason : RejectionReason) : Bool :=
  candidate.reasons &&& reason.bit != 0

/-- `reason_list`: the reasons of the mask, in the order of their precedence. -/
def reasonList (candidate : CandidateObservation) : List RejectionReason :=
  stableSort (fun a b => decide (a.precedence < b.precedence))
    ((WireEnum.enumerators : List RejectionReason).filter candidate.hasReason)

end CandidateObservation

/-- `PlacementRecord::find_candidate`. -/
def PlacementRecord.findCandidate (placement : PlacementRecord) (cluster : ClusterId) :
    Option CandidateObservation :=
  placement.candidates.find? fun candidate => candidate.cluster = cluster

/-- The names of the reasons, or that there are none. -/
def reasonsText (reasons : List RejectionReason) : Text :=
  if reasons.isEmpty then .ofString "no reason stated"
  else joinStrings (reasons.map RejectionReason.toText) (.ofString ",")

/-! ## Findings -/

/-- `AttributionAspect`. -/
inductive AttributionAspect where
  | selection | eligibility | capability | compatibility | capacity | topology | policy | affinity
  | fallback | rejection | candidateCoverage | currentness
  deriving DecidableEq, Repr

instance : WireEnum AttributionAspect where
  enumerators :=
    [.selection, .eligibility, .capability, .compatibility, .capacity, .topology, .policy,
     .affinity, .fallback, .rejection, .candidateCoverage, .currentness]
  code e := UInt8.ofNat e.ctorIdx
  getElem?_code e := by cases e <;> rfl

/-- `AttributionFinding`. -/
structure AttributionFinding where
  aspect : AttributionAspect := .selection
  subject : Text := []
  statement : Text := []
  basis : ReasonBasis := .derived
  precision : Precision := .unknown
  evidenceClass : EvidenceClass := .unknown
  evidence : EvidenceList := {}
  deriving DecidableEq, Repr

/-- `operator<` on findings. -/
def AttributionFinding.lt (a b : AttributionFinding) : Bool :=
  if a.aspect ≠ b.aspect then WireEnum.codeLt a.aspect b.aspect
  else if a.subject ≠ b.subject then less a.subject b.subject
  else less a.statement b.statement

def AttributionFinding.strength (finding : AttributionFinding) : Strength :=
  ⟨finding.precision, finding.evidenceClass⟩

/-- `PlacementExplanationInputs`. -/
structure PlacementExplanationInputs where
  placement : Option PlacementRecord := none
  assessments : List CompatibilityAssessment := []
  snapshotGeneration : SnapshotGeneration := {}

/-- `PlacementExplanationInputs::find`. -/
def PlacementExplanationInputs.find (inputs : PlacementExplanationInputs) (cluster : ClusterId) :
    Option CompatibilityAssessment :=
  inputs.assessments.find? fun assessment => assessment.targetCluster = cluster

/-! ## `explain_placement` -/

section Explanation

variable (placement : PlacementRecord)

/-- A finding about the selected cluster, or about none, of the strength of the placement. -/
def placementFinding (aspect : AttributionAspect) (subject statement : Text)
    (basis : ReasonBasis := .observed) (precision : Precision := placement.stamp.precision) :
    AttributionFinding :=
  { aspect, subject, statement, basis, precision
    evidenceClass := placement.stamp.evidenceClass }

/-- What the source exposed of the candidates. -/
def coverageFinding : AttributionFinding :=
  let candidates : Text := .ofNat placement.candidates.length
  let finding := match placement.candidateCompleteness with
    | .complete =>
      placementFinding placement .candidateCoverage []
        (Text.ofString "the source exposed the complete evaluated candidate set (" ++ candidates ++
          Text.ofString " candidates)")
    | .partialSet =>
      placementFinding placement .candidateCoverage []
        (Text.ofString "the source exposed a partial candidate set (" ++ candidates ++
          Text.ofString " candidates); unlisted candidates are unknown, not eligible")
    | .selectedOnly =>
      placementFinding placement .candidateCoverage []
        (.ofString ("only the selected cluster was exposed; rejection attribution for " ++
          "alternatives is unavailable"))
        .observed (placement.stamp.precision.weakest .ambiguous)
    | .unknown =>
      placementFinding placement .candidateCoverage []
        (.ofString "the completeness of the exposed candidate set is unknown") .unattributed
        .unknown
  { finding with
    evidence := finding.evidence.addIgnoringStatus .scheduler placement.stamp.evidenceClass
      placement.stamp.publisher.value placement.stamp.precision
      (.ofString "candidate set published by the upstream scheduler") }

/-- The observed fact. -/
def selectionFinding : AttributionFinding :=
  let finding := placementFinding placement .selection placement.selected.value
    (.ofString "workload " ++ placement.workload.value ++ .ofString " generation " ++
      placement.workloadGeneration.toText ++ .ofString " was placed on cluster " ++
      placement.selected.value ++ .ofString " generation " ++
      (if placement.selectedGeneration.isSet then placement.selectedGeneration.toText
        else .ofString "UNSET") ++
      .ofString " under federation generation " ++
      (if placement.federationGeneration.isSet then placement.federationGeneration.toText
        else .ofString "UNSET"))
  { finding with evidence := finding.evidence.addEach placement.evidence.items }

/-- What the source says of one constraint. -/
def constraintFinding (aspect : AttributionAspect) (value : Tri) (label : Text) :
    AttributionFinding :=
  match value with
  | .yes => placementFinding placement aspect placement.selected.value label
  | .no => placementFinding placement aspect placement.selected.value (label ++ .ofString ": no")
  | .unknown =>
    placementFinding placement aspect placement.selected.value
      (label ++ .ofString ": not exposed by the source") .unattributed .unknown

def constraintFindings : List AttributionFinding :=
  [constraintFinding placement .compatibility placement.compatibilityConstrained
     (.ofString "compatibility constrained the placement"),
   constraintFinding placement .topology placement.topologyConstrained
     (.ofString "topology or locality constrained the placement"),
   constraintFinding placement .policy placement.policyConstrained
     (.ofString "policy constrained the placement"),
   constraintFinding placement .capability placement.capabilityConstrained
     (.ofString "capability mismatch constrained the placement"),
   constraintFinding placement .affinity placement.affinityConstrained
     (.ofString "affinity or anti-affinity constrained the placement")]

def capacityFinding : AttributionFinding :=
  if placement.capacityAvailable then
    placementFinding placement .capacity placement.selected.value
      (.ofString "the source reported capacity available on the selected cluster")
  else
    placementFinding placement .capacity placement.selected.value
      (.ofString ("the source did not report capacity availability on the selected cluster; " ++
        "capacity is not asserted")) .unattributed .unknown

def fallbackFindings : List AttributionFinding :=
  if !placement.fallbackRequired then []
  else if placement.fallbackDetail.isEmpty then
    [placementFinding placement .fallback placement.selected.value
      (.ofString "the placement required a fallback; the source did not state which one")
      .unattributed .unknown]
  else
    [placementFinding placement .fallback placement.selected.value
      (.ofString "the placement required a fallback: " ++ placement.fallbackDetail)]

/-- What the assessment of the selected cluster says. -/
def assessmentFindings (assessment : CompatibilityAssessment) : List AttributionFinding :=
  let subject := placement.selected.value
  let finding : AttributionFinding :=
    { aspect := .compatibility
      subject
      statement := .ofString "compatibility with the selected cluster is " ++
        assessment.overall.toText
      precision := assessment.precision
      evidenceClass := assessment.evidenceClass }
  { finding with evidence := finding.evidence.addEach assessment.evidence.items } ::
    (assessment.checks.map fun check =>
      { aspect := .eligibility
        subject
        statement := check.outcome.toText ++ .ofString " for " ++ check.subject.toText ++
          .ofString ": " ++ check.detail
        precision := .derived
        evidenceClass := assessment.checkClass }) ++
    (if assessment.policyAdmissible = .no then
      [{ aspect := .policy
         subject
         statement := .ofString "policy admissibility: " ++ assessment.policyDetail
         precision := assessment.precision
         evidenceClass := assessment.evidenceClass }]
    else [])

/-- How a candidate that was turned down is spoken of. -/
def CandidateStatus.verdict (status : CandidateStatus) : Text :=
  if status = .notConsidered then .ofString "not considered" else .ofString "rejected"

/-- What the source says of a candidate that was turned down. -/
def rejectionFinding (candidate : CandidateObservation) : AttributionFinding where
  aspect := .rejection
  subject := candidate.cluster.value
  statement := .ofString "was " ++ candidate.status.verdict ++ .ofString ": " ++
    reasonsText candidate.reasonList ++
    (if candidate.detail.isEmpty then [] else Text.ofString " - " ++ candidate.detail) ++
    (if placement.candidateCompleteness.allowsRejectionAttribution then []
      else Text.ofString
        " (candidate set not fully exposed; this row is what the source published)")
  basis := candidate.basis
  precision := candidate.precision
  evidenceClass := candidate.evidenceClass
  evidence := ({} : EvidenceList).addEach candidate.evidence.items

def CandidateStatus.isTurnedDown (status : CandidateStatus) : Bool :=
  status == .rejected || status == .notConsidered

def rejectionFindings : List AttributionFinding :=
  (placement.candidates.filter fun candidate => candidate.status.isTurnedDown).map
    (rejectionFinding placement)

/-- How current the evidence behind the explanation is. -/
def currentnessFinding : AttributionFinding :=
  match placement.currentness with
  | .current =>
    placementFinding placement .currentness [] (.ofString "the placement evidence is current")
  | .stale =>
    placementFinding placement .currentness []
      (.ofString "the placement evidence is stale; this explanation is historical") .observed
      .unknown
  | .revalidationRequired =>
    placementFinding placement .currentness []
      (.ofString "the placement evidence requires revalidation") .observed .unknown
  | .retired =>
    placementFinding placement .currentness []
      (.ofString "the placement evidence belongs to a retired cluster") .observed .unknown
  | .unknown =>
    placementFinding placement .currentness []
      (.ofString "the currentness of the placement evidence is unknown") .unattributed .unknown

end Explanation

/-- `PlacementExplanation`. -/
structure PlacementExplanation where
  placement : PlacementId := {}
  placementGeneration : PlacementGeneration := {}
  workload : WorkloadId := {}
  workloadGeneration : WorkloadGeneration := {}
  selected : ClusterId := {}
  candidateCompleteness : CandidateSetCompleteness := .unknown
  findings : List AttributionFinding := []
  precision : Precision := .unknown
  evidenceClass : EvidenceClass := .unknown
  currentness : Currentness := .unknown
  snapshotGeneration : SnapshotGeneration := {}
  deriving DecidableEq, Repr

/-- The findings, before they are sorted. -/
def PlacementExplanationInputs.findings (inputs : PlacementExplanationInputs)
    (placement : PlacementRecord) : List AttributionFinding :=
  coverageFinding placement :: selectionFinding placement :: constraintFindings placement ++
    capacityFinding placement :: fallbackFindings placement ++
    (inputs.find placement.selected).elim [] (assessmentFindings placement) ++
    rejectionFindings placement ++ [currentnessFinding placement]

/-- What a list of findings is worth. -/
def combinedStrength : List AttributionFinding → Strength
  | [] => {}
  | finding :: findings =>
    (findings.map AttributionFinding.strength).foldl Strength.weaken finding.strength

/-- `explain_placement`. -/
def explainPlacement (inputs : PlacementExplanationInputs) : PlacementExplanation :=
  match inputs.placement with
  | none =>
    { findings := [{
        aspect := .candidateCoverage
        statement := .ofString "no placement record was supplied"
        basis := .unattributed }]
      snapshotGeneration := inputs.snapshotGeneration }
  | some placement =>
    let findings := stableSort AttributionFinding.lt (inputs.findings placement)
    { placement := placement.id
      placementGeneration := placement.generation
      workload := placement.workload
      workloadGeneration := placement.workloadGeneration
      selected := placement.selected
      candidateCompleteness := placement.candidateCompleteness
      findings
      precision := (combinedStrength findings).precision
      evidenceClass := (combinedStrength findings).evidenceClass
      currentness := placement.currentness
      snapshotGeneration := inputs.snapshotGeneration }

/-! ## `build_rejection_explanation` -/

/-- `RejectionExplanation`. -/
structure RejectionExplanation where
  placement : PlacementId := {}
  placementGeneration : PlacementGeneration := {}
  candidate : ClusterId := {}
  candidateGeneration : ClusterGeneration := {}
  status : CandidateStatus := .unattributed
  reasons : List RejectionReason := []
  basis : ReasonBasis := .unattributed
  precision : Precision := .unknown
  evidenceClass : EvidenceClass := .unknown
  attributionAvailable : Bool := false
  summary : Text := []
  evidence : EvidenceList := {}
  deriving DecidableEq, Repr

/-- `build_rejection_explanation`. -/
def buildRejectionExplanation (placement : PlacementRecord) (candidate : ClusterId) :
    RejectionExplanation :=
  let explanation : RejectionExplanation :=
    { placement := placement.id
      placementGeneration := placement.generation
      candidate
      attributionAvailable := placement.candidateCompleteness.allowsRejectionAttribution }
  let cluster : Text := .ofString "cluster " ++ candidate.value
  match placement.findCandidate candidate with
  | none =>
    { explanation with
      evidenceClass := placement.stamp.evidenceClass
      summary := cluster ++
        .ofString (" does not appear in the exposed candidate set; its outcome is unknown " ++
          "rather than rejected")
      evidence := explanation.evidence.addIgnoringStatus .scheduler placement.stamp.evidenceClass
        placement.stamp.publisher.value .unknown
        (.ofString "candidate absent from the exposed set") }
  | some row =>
    let explanation : RejectionExplanation :=
      { explanation with
        status := row.status
        candidateGeneration := row.clusterGeneration
        reasons := row.reasonList
        basis := row.basis
        precision := row.precision
        evidenceClass := row.evidenceClass
        evidence := explanation.evidence.addEach row.evidence.items }
    if row.status = .selected then
      { explanation with summary := cluster ++ .ofString " received the placement" }
    else if !explanation.attributionAvailable then
      { explanation with
        summary := .ofString ("the upstream scheduler exposed only the selected cluster; " ++
          "rejection attribution for ") ++ candidate.value ++ .ofString " is unavailable"
        basis := .unattributed
        precision := .unknown }
    else
      { explanation with
        summary := cluster ++ .ofString " was " ++ row.status.verdict ++ .ofString ": " ++
          reasonsText explanation.reasons }

/-! ## Queries -/

section Queries

variable (formatDouble : Double → Text) (s : Impl)

/-- `FederationObservatory::explain_placement`. The selected cluster is assessed, and so is a
    candidate that is said to be selected and is not that cluster. -/
def explainPlacementOf (id : PlacementId) : Result PlacementExplanation :=
  let snapshot := buildSnapshot s {}
  match snapshot.find .placement id with
  | none => .error ⟨.notFound, .ofString "placement is not registered", id.value⟩
  | some record =>
    let others := (record.candidates.filter fun candidate =>
      candidate.status = .selected ∧ candidate.cluster ≠ record.selected).map (·.cluster)
    let assessed := (record.selected :: others).filter fun cluster =>
      (snapshot.find .cluster cluster).isSome
    .ok (explainPlacement
      { placement := some record
        assessments := assessed.map fun cluster =>
          assessCompatibility formatDouble
            (collectAssessmentInputs snapshot cluster record.workload)
        snapshotGeneration := snapshot.snapshotGeneration })

/-- `FederationObservatory::explain_rejection`. -/
def explainRejection (id : PlacementId) (candidate : ClusterId) : Result RejectionExplanation :=
  match (buildSnapshot s {}).find .placement id with
  | none => .error ⟨.notFound, .ofString "placement is not registered", id.value⟩
  | some record => .ok (buildRejectionExplanation record candidate)

end Queries

end FederationObservatory
