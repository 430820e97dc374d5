import FederationObservatory.Analysis.Placement
import FederationObservatory.Protocol.Messages

/-!
# Drift

`analyze_drift` (`analysis.cpp`): what is different from an intended state, and what is different
between the placements of two windows.
-/

namespace FederationObservatory

open Sorting

/-! ## Vocabulary -/

/-- `DriftKind`. -/
inductive DriftKind where
  | clusterMissing | unexpectedCluster | siteMissing | unexpectedSite | capabilityMismatch
  | runtimeVersionDivergence | staleCluster | policyGenerationMismatch
  | artifactCompatibilityDrift | capacityReportDivergence | placementTargetChanged
  | placementRejectionIntroduced | placementRejectionCleared | placementFallbackIntroduced
  | placementCompatibilityChanged
  deriving DecidableEq, Repr

instance : WireEnum DriftKind where
  enumerators :=
    [.clusterMissing, .unexpectedCluster, .siteMissing, .unexpectedSite, .capabilityMismatch,
     .runtimeVersionDivergence, .staleCluster, .policyGenerationMismatch,
     .artifactCompatibilityDrift, .capacityReportDivergence, .placementTargetChanged,
     .placementRejectionIntroduced, .placementRejectionCleared, .placementFallbackIntroduced,
     .placementCompatibilityChanged]
  code e := UInt8.ofNat e.ctorIdx
  getElem?_code e := by cases e <;> rfl

/-- `is_behavioral_drift`. -/
def DriftKind.isBehavioral : DriftKind → Bool
  | .placementTargetChanged | .placementRejectionIntroduced | .placementRejectionCleared
  | .placementFallbackIntroduced | .placementCompatibilityChanged => true
  | _ => false

def Tri.toText : Tri → Text
  | .no => .ofString "NO"
  | .unknown => .ofString "UNKNOWN"
  | .yes => .ofString "YES"

def ResourceKind.toText : ResourceKind → Text
  | .accelerator => .ofString "ACCELERATOR"
  | .memoryBytes => .ofString "MEMORY_BYTES"
  | .custom => .ofString "CUSTOM"

/-- `DriftFinding`. -/
structure DriftFinding where
  kind : DriftKind := .clusterMissing
  subject : Text := []
  intended : Text := []
  observed : Text := []
  basis : ReasonBasis := .derived
  precision : Precision := .unknown
  evidenceClass : EvidenceClass := .unknown
  evidence : EvidenceList := {}
  deriving DecidableEq, Repr

/-- `operator<` on findings. -/
def DriftFinding.lt (a b : DriftFinding) : Bool :=
  if a.kind ≠ b.kind then WireEnum.codeLt a.kind b.kind
  else if a.subject ≠ b.subject then less a.subject b.subject
  else less a.observed b.observed

def DriftFinding.strength (finding : DriftFinding) : Strength :=
  ⟨finding.precision, finding.evidenceClass⟩

/-- `DriftRequest`. -/
structure DriftRequest where
  federation : FederationId := {}
  intended : Option IntendedFederationState := none
  behaviorWindowSupplied : Bool := false
  beforeWindow : TimeWindow := {}
  afterWindow : TimeWindow := {}

/-- `DriftReport`. -/
structure DriftReport where
  federation : FederationId := {}
  federationGeneration : FederationGeneration := {}
  snapshotGeneration : SnapshotGeneration := {}
  intendedStateSupplied : Bool := false
  behaviorWindowSupplied : Bool := false
  beforeWindow : TimeWindow := {}
  afterWindow : TimeWindow := {}
  findings : List DriftFinding := []
  precision : Precision := .unknown
  evidenceClass : EvidenceClass := .unknown
  evidence : EvidenceList := {}
  deriving DecidableEq, Repr

/-- One round of `ClusterRecord::total_ledger`. -/
def ClusterRecord.addLedger (cluster : ClusterRecord) (kind : ResourceKind)
    (total : CapacityLedger) (pool : CapacityPool) : Result CapacityLedger :=
  let sums := do
    let nominal ← checkedAdd total.nominal pool.ledger.nominal
    let offline ← checkedAdd total.offline pool.ledger.offline
    let allocated ← checkedAdd total.allocated pool.ledger.allocated
    let reserved ← checkedAdd total.reserved pool.ledger.reserved
    let draining ← checkedAdd total.draining pool.ledger.draining
    let unusable ← checkedAdd total.unusable pool.ledger.unusable
    pure (CapacityLedger.fromComponents nominal offline allocated reserved draining unusable)
  match sums with
  | none =>
    fail .capacityInconsistent "capacity total overflowed"
      (cluster.id.value ++ .ofString " " ++ kind.toText)
  | some rebuilt => rebuilt

/-- `ClusterRecord::total_ledger`. -/
def ClusterRecord.totalLedger (cluster : ClusterRecord) (kind : ResourceKind) :
    Result CapacityLedger :=
  (cluster.capacityPools.filter fun pool => pool.kind = kind).foldlM (cluster.addLedger kind) {}

/-! ## Drift from an intended state -/

section Intended

variable (formatDouble : Double → Text) (intended : IntendedFederationState)
  (snapshot : FederationSnapshot)

/-- A finding against the intended state. Its evidence is what the intended state says. -/
def inventoryFinding (kind : DriftKind) (subject intendedText observed : Text)
    (evidenceClass : EvidenceClass) (detail : String) : DriftFinding :=
  { kind, subject
    intended := intendedText
    observed, evidenceClass
    precision := intended.precision
    evidence := ({} : EvidenceList).addIgnoringStatus .externalInventory intended.evidenceClass
      (.ofString "intended-state") intended.precision (.ofString detail) }

/-- An expected cluster that is absent, or not current. -/
def expectedClusterFinding (expected : ClusterId) : Option DriftFinding :=
  match snapshot.find .cluster expected with
  | none =>
    some (inventoryFinding intended .clusterMissing expected.value
      (.ofString "member of the intended federation")
      (.ofString "not present in the observed federation") intended.evidenceClass
      "intended state lists this cluster")
  | some cluster =>
    if cluster.currentness = .current then none
    else
      some
        { kind := .staleCluster
          subject := expected.value
          intended := .ofString "current evidence"
          observed := cluster.currentness.toText
          basis := .observed
          precision := .exact
          evidenceClass := cluster.stamp.evidenceClass
          evidence := ({} : EvidenceList).addIgnoringStatus .clusterController
            cluster.stamp.evidenceClass cluster.stamp.publisher.value cluster.stamp.precision
            (.ofString "cluster currentness observed") }

/-- The policy generation is that of the federation, not of a cluster. -/
def policyGenerationFindings (federation : FederationId) : List DriftFinding :=
  if intended.expectedPolicyGeneration.isSet then
    let record := snapshot.find .federation federation
    let observed := (record.map FederationRecord.policyGeneration).getD {}
    if observed = intended.expectedPolicyGeneration then []
    else
      [inventoryFinding intended .policyGenerationMismatch federation.value
        (.ofString "policy generation " ++ intended.expectedPolicyGeneration.toText)
        (if observed.isSet then .ofString "policy generation " ++ observed.toText
          else .ofString "no policy generation published")
        ((record.map fun r => r.stamp.evidenceClass).getD intended.evidenceClass)
        "intended policy generation differs from the observed policy generation"]
  else []

/-- An expected site that is absent. -/
def expectedSiteFinding (expected : SiteId) : Option DriftFinding :=
  if (snapshot.find .site expected).isSome then none
  else
    some (inventoryFinding intended .siteMissing expected.value
      (.ofString "member site of the intended federation")
      (.ofString "not present in the observed federation") intended.evidenceClass
      "intended state lists this site")

/-- An observed cluster that the intended state does not list, if it lists any. -/
def observedClusterFinding (cluster : ClusterRecord) : Option DriftFinding :=
  if cluster.id ∉ intended.expectedClusters ∧ intended.expectedClusters ≠ [] then
    some (inventoryFinding intended .unexpectedCluster cluster.id.value
      (.ofString "not listed in the intended federation")
      (.ofString "present in the observed federation") cluster.stamp.evidenceClass
      "intended state does not list this cluster")
  else none

/-- An expected capability that a registered cluster does not have. -/
def expectedCapabilityFinding (expected : ExpectedCapability) : Option DriftFinding :=
  (snapshot.find .cluster expected.cluster).bind fun cluster =>
    let requirement : CapabilityRequirement :=
      { key := expected.key, comparator := expected.comparator, value := expected.value }
    let check := evaluateRequirement formatDouble requirement cluster.capabilities
    if check.satisfied = .yes then none
    else
      some
        { kind := .capabilityMismatch
          subject := expected.cluster.value ++ .ofString "/" ++ expected.key.toText
          intended := requirement.toText formatDouble
          observed :=
            if check.observed.known then check.observed.toText formatDouble
            else .ofString "UNKNOWN"
          precision := if check.satisfied = .unknown then .unknown else .derived
          evidenceClass := cluster.stamp.evidenceClass
          evidence := ({} : EvidenceList).addIgnoringStatus .derivedAnalysis
            cluster.stamp.evidenceClass (.ofString "drift-analysis") .derived check.detail }

/-- An expected runtime version that a registered cluster does not run. -/
def expectedRuntimeFinding (expected : ClusterId × Text) : Option DriftFinding :=
  (snapshot.find .cluster expected.1).bind fun cluster =>
    match primaryRuntime snapshot cluster with
    | none =>
      some
        { kind := .runtimeVersionDivergence
          subject := expected.1.value
          intended := expected.2
          observed := .ofString "no runtime published"
          basis := .observed
          evidenceClass := cluster.stamp.evidenceClass }
    | some runtime =>
      if runtime.version = expected.2 then none
      else
        some
          { kind := .runtimeVersionDivergence
            subject := expected.1.value ++ .ofString "/" ++ runtime.id.value
            intended := expected.2
            observed := runtime.version
            precision := runtime.stamp.precision
            evidenceClass := runtime.stamp.evidenceClass
            evidence := ({} : EvidenceList).addIgnoringStatus .runtimeRegistry
              runtime.stamp.evidenceClass runtime.stamp.publisher.value runtime.stamp.precision
              (.ofString "runtime version observed") }

/-- The capacity of a ledger, as a finding states it. -/
def ledgerText (ledger : CapacityLedger) : Text :=
  .ofString "nominal=" ++ Text.ofNat ledger.nominal.toNat ++ .ofString " idle=" ++
    Text.ofNat ledger.idle.toNat

/-- An expected ledger that is not what a registered cluster adds up to. -/
def expectedCapacityFinding (expected : ClusterId × CapacityLedger) : Option DriftFinding :=
  (snapshot.find .cluster expected.1).bind fun cluster =>
    match cluster.totalLedger .accelerator with
    | .error _ => none
    | .ok observed =>
      if observed = expected.2 then none
      else
        some
          { kind := .capacityReportDivergence
            subject := expected.1.value
            intended := ledgerText expected.2
            observed := ledgerText observed
            precision := .derived
            evidenceClass := cluster.stamp.evidenceClass }

/-- The findings against the intended state, in the order of the loops. -/
def intendedFindings (federation : FederationId) : List DriftFinding :=
  intended.expectedClusters.filterMap (expectedClusterFinding intended snapshot) ++
    policyGenerationFindings intended snapshot federation ++
    intended.expectedSites.filterMap (expectedSiteFinding intended snapshot) ++
    (snapshot.records .cluster).filterMap (observedClusterFinding intended) ++
    intended.expectedCapabilities.filterMap (expectedCapabilityFinding formatDouble snapshot) ++
    intended.expectedRuntimeVersions.filterMap (expectedRuntimeFinding snapshot) ++
    intended.expectedCapacity.filterMap (expectedCapacityFinding snapshot)

end Intended

/-! ## Drift between two windows -/

/-- `before` or `after`: for each workload, the placement that is kept so far. -/
abbrev WindowPlacements := Std.TreeMap WorkloadId PlacementRecord

/-- One round of the loop over the placements, for one of the windows. -/
def WindowPlacements.add (window : TimeWindow) (kept : WindowPlacements)
    (placement : PlacementRecord) : WindowPlacements :=
  if window.contains placement.stamp.observedAt then
    match kept[placement.workload]? with
    | none => kept.insert placement.workload placement
    | some latest =>
      if latest.stamp.observedAt < placement.stamp.observedAt then
        kept.insert placement.workload placement
      else kept
  else kept

/-- The latest placement of each workload in a window. -/
def latestPlacements (federation : FederationId) (window : TimeWindow)
    (placements : List PlacementRecord) : WindowPlacements :=
  (placements.filter fun placement =>
    federation.empty || placement.federation == federation).foldl (WindowPlacements.add window) {}

/-- The names of the reasons of all candidates, sorted. -/
def PlacementRecord.sortedReasons (placement : PlacementRecord) : List Text :=
  stableSort less ((placement.candidates.flatMap CandidateObservation.reasonList).map
    RejectionReason.toText)

section Behavior

variable (workload : WorkloadId) (old new : PlacementRecord)

/-- What a finding about the two placements is worth. -/
def behaviorStrength : Strength := old.stamp.strength.weaken new.stamp.strength

/-- What the finding says when the target changed. -/
def DriftFinding.withTarget (finding : DriftFinding) : DriftFinding :=
  if old.selected = new.selected then finding
  else
    { finding with
      kind := .placementTargetChanged
      intended := .ofString "selected " ++ old.selected.value
      observed := .ofString "selected " ++ new.selected.value
      evidence := finding.evidence.addIgnoringStatus .scheduler new.stamp.evidenceClass
        (.ofString "placement-history") .derived
        (.ofString ("placement target changed between the two observation windows; a change is " ++
          "not by itself a regression")) }

/-- What the finding says when the compatibility changed. -/
def DriftFinding.withCompatibility (finding : DriftFinding) : DriftFinding :=
  if old.compatibilityConstrained = new.compatibilityConstrained then finding
  else
    { finding with
      kind := .placementCompatibilityChanged
      intended := .ofString "compatibility_constrained=" ++ old.compatibilityConstrained.toText
      observed := .ofString "compatibility_constrained=" ++ new.compatibilityConstrained.toText }

/-- What the finding says when a fallback was introduced. -/
def DriftFinding.withFallback (finding : DriftFinding) : DriftFinding :=
  if !old.fallbackRequired && new.fallbackRequired then
    { finding with
      kind := .placementFallbackIntroduced
      intended := .ofString "no fallback"
      observed :=
        if new.fallbackDetail.isEmpty then .ofString "fallback required" else new.fallbackDetail }
  else finding

/-- Is there anything to report of the placement itself? -/
def placementChanged : Bool :=
  old.selected != new.selected ||
    old.compatibilityConstrained != new.compatibilityConstrained ||
    (!old.fallbackRequired && new.fallbackRequired)

/-- The one finding about the placement itself. Each change writes over the one before it. -/
def placementFindings : List DriftFinding :=
  let finding : DriftFinding :=
    { subject := workload.value
      precision := (behaviorStrength old new).precision
      evidenceClass := (behaviorStrength old new).evidenceClass }
  if placementChanged old new then
    [((finding.withTarget old new).withCompatibility old new).withFallback old new]
  else []

/-- A finding about rejection reasons that only one of the placements has. -/
def rejectionDriftFinding (kind : DriftKind) (intended observed : Text) : DriftFinding :=
  { kind
    subject := workload.value
    intended, observed
    precision := .derived
    evidenceClass := (behaviorStrength old new).evidenceClass }

/-- The findings about rejection reasons. -/
def rejectionDriftFindings : List DriftFinding :=
  let introduced := setDifference less new.sortedReasons old.sortedReasons
  let cleared := setDifference less old.sortedReasons new.sortedReasons
  if old.sortedReasons = new.sortedReasons then []
  else
    (if introduced.isEmpty then []
      else
        [rejectionDriftFinding workload old new .placementRejectionIntroduced
          (.ofString "no new rejection reasons") (joinStrings introduced (.ofString ","))]) ++
    (if cleared.isEmpty then []
      else
        [rejectionDriftFinding workload old new .placementRejectionCleared
          (.ofString "previous rejection reasons")
          (.ofString "cleared: " ++ joinStrings cleared (.ofString ","))])

/-- The findings about a workload that was placed in both windows. -/
def behaviorFindings : List DriftFinding :=
  rejectionDriftFindings workload old new ++ placementFindings workload old new

end Behavior

/-- The findings about the workloads that were placed in both windows. -/
def windowFindings (before after : WindowPlacements) : List DriftFinding :=
  after.toList.flatMap fun entry =>
    match before[entry.1]? with
    | none => []
    | some old => behaviorFindings entry.1 old entry.2

/-! ## `analyze_drift` -/

section Analysis

variable (formatDouble : Double → Text) (snapshot : FederationSnapshot) (request : DriftRequest)

/-- The federation the report is about. -/
def DriftRequest.scope : FederationId :=
  if request.federation.empty then snapshot.federation else request.federation

/-- The findings, before they are sorted. -/
def driftFindings : List DriftFinding :=
  let federation := request.scope snapshot
  request.intended.elim [] (intendedFindings formatDouble · snapshot federation) ++
    (if request.behaviorWindowSupplied then
      windowFindings
        (latestPlacements federation request.beforeWindow (snapshot.records .placement))
        (latestPlacements federation request.afterWindow (snapshot.records .placement))
    else [])

/-- What the findings together are worth. A report without findings has no precision. -/
def driftStrength : List DriftFinding → Strength
  | [] => ⟨.unknown, snapshot.evidenceClass⟩
  | finding :: findings =>
    (findings.map DriftFinding.strength).foldl Strength.weaken finding.strength

/-- The report on an intended state that is valid. -/
def driftReport : DriftReport :=
  let findings := stableSort DriftFinding.lt (driftFindings formatDouble snapshot request)
  let strength := driftStrength snapshot findings
  let yesNo : Bool → Text := fun b => .ofString (if b then "yes" else "no")
  { federation := request.scope snapshot
    federationGeneration := snapshot.generation
    snapshotGeneration := snapshot.snapshotGeneration
    intendedStateSupplied := request.intended.isSome
    behaviorWindowSupplied := request.behaviorWindowSupplied
    beforeWindow := request.beforeWindow
    afterWindow := request.afterWindow
    findings
    precision := strength.precision
    evidenceClass := strength.evidenceClass
    evidence := ({} : EvidenceList).addIgnoringStatus .derivedAnalysis strength.evidenceClass
      (.ofString "drift-analysis") .derived
      (.ofString "intended_state_supplied=" ++ yesNo request.intended.isSome ++
        .ofString " behavior_windows_supplied=" ++ yesNo request.behaviorWindowSupplied ++
        .ofString " findings=" ++ Text.ofNat findings.length) }

/-- `analyze_drift`. -/
def analyzeDrift : Result DriftReport := do
  match request.intended with
  | none => pure ()
  | some intended => intended.validate
  pure (driftReport formatDouble snapshot request)

end Analysis

end FederationObservatory
