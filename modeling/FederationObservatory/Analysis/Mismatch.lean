import FederationObservatory.Analysis.Placement
import FederationObservatory.Analysis.Stranded
import FederationObservatory.Protocol.Messages

/-!
# Capability mismatch

`analyze_mismatch` (`analysis.cpp`): families of rows that count what is missing. A loop counts one
observation after the other in the row of its subject; the observations of a family are listed here
in the order of the loop.
-/

namespace FederationObservatory

open Sorting

/-! ## Rows -/

/-- `MismatchRow`. -/
structure MismatchRow where
  subject : Text := []
  population : UInt64 := 0
  satisfied : UInt64 := 0
  missing : UInt64 := 0
  unknown : UInt64 := 0
  precision : Precision := .unknown
  deriving DecidableEq, Repr

/-- The row with one member more. -/
def MismatchRow.count (row : MismatchRow) (satisfied : Tri) (precision : Precision) :
    MismatchRow :=
  { row with
    population := row.population + 1
    satisfied := if satisfied = .yes then row.satisfied + 1 else row.satisfied
    missing := if satisfied = .no then row.missing + 1 else row.missing
    unknown := if satisfied = .unknown then row.unknown + 1 else row.unknown
    precision := row.precision.weakest precision }

/-- `bump`, with the `find_or_add` in it. -/
def bump (subject : Text) (satisfied : Tri) (precision : Precision) :
    List MismatchRow → List MismatchRow
  | [] => [({ subject } : MismatchRow).count satisfied precision]
  | row :: rows =>
    if row.subject = subject then row.count satisfied precision :: rows
    else row :: bump subject satisfied precision rows

/-- What one call of `bump` counts. -/
structure MismatchObservation where
  subject : Text
  satisfied : Tri
  precision : Precision := .derived
  deriving DecidableEq, Repr

/-- The rows of a family of observations. -/
def countObservations (observations : List MismatchObservation) : List MismatchRow :=
  observations.foldl (fun rows o => bump o.subject o.satisfied o.precision rows) []

/-- `MismatchAnalysisRequest`. -/
structure MismatchAnalysisRequest where
  federation : FederationId := {}
  capabilityKey : CapabilityRef := {}
  window : TimeWindow := {}
  kind : ResourceKind := .accelerator
  includeStale : Bool := false
  deriving DecidableEq, Repr

/-- The clusters whose evidence participates. -/
def MismatchAnalysisRequest.population (request : MismatchAnalysisRequest)
    (snapshot : FederationSnapshot) : List ClusterRecord :=
  (snapshot.records .cluster).filter fun (cluster : ClusterRecord) =>
    (request.federation.empty || cluster.federation == request.federation) &&
      cluster.currentness != .retired &&
      (cluster.currentness == .current || request.includeStale)

/-! ## Rows about workloads -/

section Workloads

variable (formatDouble : Double → Text) (snapshot : FederationSnapshot)

/-- Whether a cluster meets the requirements. The loop stops at the first one it does not. -/
def meetsRequirements (effective : CapabilitySet) : List CapabilityRequirement → Tri
  | [] => .yes
  | requirement :: requirements =>
    match (evaluateRequirement formatDouble requirement effective).satisfied with
    | .no => .no
    | .yes => meetsRequirements effective requirements
    | .unknown =>
      if meetsRequirements effective requirements = .no then .no else .unknown

/-- The capabilities a cluster is judged on. -/
def mismatchCapabilities (cluster : ClusterRecord) : CapabilitySet :=
  mergeCapabilities cluster (firstAcceleratorClass snapshot cluster)
    (primaryRuntime snapshot cluster)

/-- What the clusters of the population make of a workload; nothing where there is none. -/
def workloadOutcome (clusters : List ClusterRecord) (workload : WorkloadRecord) : Option Tri :=
  let verdicts := clusters.map fun cluster =>
    meetsRequirements formatDouble (mismatchCapabilities snapshot cluster) workload.requirements
  if clusters.isEmpty then none
  else if verdicts.count .yes = clusters.length then some .yes
  else if verdicts.count .yes + verdicts.count .unknown = clusters.length ∧
      0 < verdicts.count .unknown then some .unknown
  else some .no

/-- The rows about workloads. -/
structure WorkloadRows where
  byWorkloadClass : List MismatchRow := []
  byArtifact : List MismatchRow := []
  deriving DecidableEq, Repr

/-- The body of the loop over the workloads. -/
def WorkloadRows.add (clusters : List ClusterRecord) (rows : WorkloadRows)
    (workload : WorkloadRecord) : WorkloadRows :=
  match workloadOutcome formatDouble snapshot clusters workload with
  | none => rows
  | some outcome =>
    { byWorkloadClass := bump workload.workloadClass.value outcome .derived rows.byWorkloadClass
      byArtifact :=
        if workload.artifact.empty then rows.byArtifact
        else bump workload.artifact.value outcome .derived rows.byArtifact }

/-- The loop over the workloads of `analyze_mismatch`. -/
def workloadRows (request : MismatchAnalysisRequest) : WorkloadRows :=
  (snapshot.records .workload).foldl
    (WorkloadRows.add formatDouble snapshot (request.population snapshot)) {}

end Workloads

/-! ## Rows about clusters -/

/-- `collect`: the keys of a set that are not listed yet. -/
def collectKeys (keys : List CapabilityRef) (set : CapabilitySet) : List CapabilityRef :=
  set.entries.foldl (fun keys entry => if entry.key ∈ keys then keys else keys ++ [entry.key]) keys

/-- The keys observed anywhere, in order. -/
def observedKeys (snapshot : FederationSnapshot) (clusters : List ClusterRecord) :
    List CapabilityRef :=
  let keys := (clusters.map ClusterRecord.capabilities).foldl collectKeys []
  let keys := ((snapshot.records .acceleratorClass).map
    AcceleratorClassRecord.capabilities).foldl collectKeys keys
  stableSort CapabilityRef.lt
    (((snapshot.records .runtime).map RuntimeRecord.capabilities).foldl collectKeys keys)

section Clusters

variable (formatDouble : Double → Text) (snapshot : FederationSnapshot)
  (request : MismatchAnalysisRequest) (keys : List CapabilityRef)

/-- Whether a cluster declares the keys that the request asks about. -/
def capabilityObservations (cluster : ClusterRecord) : List MismatchObservation :=
  (keys.filter fun key => !request.capabilityKey.valid || request.capabilityKey == key).map fun key =>
    { subject := key.toText
      satisfied := (evaluateRequirement formatDouble { key, comparator := .present }
        (mismatchCapabilities snapshot cluster)).satisfied }

/-- Whether a cluster declares all keys. -/
def coverage (cluster : ClusterRecord) : Tri :=
  let effective := mismatchCapabilities snapshot cluster
  let declared := keys.countP fun key => (effective.find key).isSome
  if keys.isEmpty then .unknown
  else if declared = keys.length then .yes else .no

/-- The coverage of a cluster, counted under a subject. -/
def coverageObservation (subject : ClusterRecord → Text) (cluster : ClusterRecord) :
    MismatchObservation :=
  { subject := subject cluster, satisfied := coverage snapshot keys cluster }

def siteSubject (cluster : ClusterRecord) : Text :=
  match snapshot.find .site cluster.site with
  | none => .ofString "<no-site>"
  | some site => site.id.value

def runtimeSubject (cluster : ClusterRecord) : Text :=
  match primaryRuntime snapshot cluster with
  | none => .ofString "<no-runtime>"
  | some runtime => runtime.id.value

def acceleratorSubject (cluster : ClusterRecord) : Text :=
  match firstAcceleratorClass snapshot cluster with
  | none => .ofString "<no-class>"
  | some acceleratorClass => acceleratorClass.id.value

end Clusters

/-! ## Rows about placements, migrations and portability -/

/-- The request is about records of this federation that were observed at this time. -/
def MismatchAnalysisRequest.selects (request : MismatchAnalysisRequest) (federation : FederationId)
    (observedAt : TimestampNanos) : Bool :=
  (request.federation.empty || federation == request.federation) &&
    request.window.contains observedAt

/-- An observation that only counts. -/
def MismatchObservation.event (subject : Text) : MismatchObservation :=
  { subject, satisfied := .yes }

/-- The reasons of the candidates that were turned down, and the fallback. -/
def PlacementRecord.rejectionObservations (placement : PlacementRecord) :
    List MismatchObservation :=
  ((placement.candidates.filter fun candidate =>
      candidate.status == .rejected || candidate.status == .notConsidered).flatMap
    fun candidate => candidate.reasonList.map fun reason => .event reason.toText) ++
  if placement.fallbackRequired then [.event (.ofString "FALLBACK_REQUIRED")] else []

/-- What a migration has to adapt, and how it went wrong. -/
def MigrationRecord.adaptationObservations (migration : MigrationRecord) :
    List MismatchObservation :=
  ([(migration.requiresRebuild, "REQUIRES_REBUILD"),
    (migration.requiresRecompile, "REQUIRES_RECOMPILE"),
    (migration.requiresConversion, "REQUIRES_CONVERSION"),
    (migration.requiresStateTranslation, "REQUIRES_STATE_TRANSLATION"),
    (migration.revalidationPending, "REVALIDATION_PENDING"),
    (migration.outcome == .failed, "MIGRATION_FAILED"),
    (migration.outcome == .rolledBack, "MIGRATION_ROLLED_BACK")].filter Prod.fst).map fun entry =>
      .event (.ofString entry.2)

/-- The outcome of an assessment. A policy failure is neither technical nor undecided. -/
def PortabilityAssessment.outcomeObservation (assessment : PortabilityAssessment) :
    MismatchObservation :=
  { subject := assessment.overall.toText
    satisfied :=
      if assessment.overall.isTechnicalFailure then .no
      else if assessment.overall.isUndecided then .unknown
      else .yes
    precision := assessment.precision }

/-! ## Stranded capacity -/

/-- The row of a reason with the capacity of one finding more. -/
def MismatchRow.strand (row : MismatchRow) (nominal stranded : UInt64) : MismatchRow :=
  { row with
    population := saturatingAdd row.population nominal
    missing := saturatingAdd row.missing stranded
    precision := .derived }

/-- The `find_or_add` of the loop over the reasons of a finding. -/
def strand (subject : Text) (nominal stranded : UInt64) : List MismatchRow → List MismatchRow
  | [] => [({ subject } : MismatchRow).strand nominal stranded]
  | row :: rows =>
    if row.subject = subject then row.strand nominal stranded :: rows
    else row :: strand subject nominal stranded rows

section Stranded

variable (formatDouble : Double → Text) (snapshot : FederationSnapshot)
  (request : MismatchAnalysisRequest)

/-- The findings about a workload class; none where the analysis fails. -/
def strandedFindings (workloadClass : WorkloadClassRecord) : List StrandedCapacityFinding :=
  match analyzeStrandedCapacity formatDouble snapshot
    { federation := request.federation
      workloadClass := workloadClass.id
      kind := request.kind
      includeStale := request.includeStale } with
  | .ok report => report.findings
  | .error _ => []

/-- All findings that are counted. -/
def countedFindings : List StrandedCapacityFinding :=
  ((snapshot.records .workloadClass).filter fun workloadClass =>
    workloadClass.currentness != .retired).flatMap (strandedFindings formatDouble snapshot request)

/-- The body of the loop over the findings. -/
def addStranded (rows : List MismatchRow) (finding : StrandedCapacityFinding) : List MismatchRow :=
  finding.breakdown.strandedByPrimaryReason.nonZero.foldl
    (fun rows entry => strand entry.1.toText finding.ledger.nominal entry.2 rows) rows

end Stranded

/-! ## `analyze_mismatch` -/

/-- `MismatchAnalysis`. -/
structure MismatchAnalysis where
  federation : FederationId
  federationGeneration : FederationGeneration
  snapshotGeneration : SnapshotGeneration
  window : TimeWindow
  byCapabilityKey : List MismatchRow
  byAcceleratorClass : List MismatchRow
  byCluster : List MismatchRow
  bySite : List MismatchRow
  byRuntime : List MismatchRow
  byWorkloadClass : List MismatchRow
  byArtifact : List MismatchRow
  placementRejections : List MismatchRow
  capacityStrandedByReason : List MismatchRow
  migrationAdaptations : List MismatchRow
  portabilityOutcomes : List MismatchRow
  placementsObserved : UInt64
  migrationsObserved : UInt64
  portabilityRecordsObserved : UInt64
  precision : Precision
  evidenceClass : EvidenceClass
  evidence : EvidenceList

/-- `sort_rows`. -/
def sortRows (rows : List MismatchRow) : List MismatchRow :=
  stableSort (fun a b => less a.subject b.subject)
    (rows.map fun row =>
      if row.precision = .exact ∧ row.population ≠ 0 then { row with precision := .derived }
      else row)

section Analysis

variable (formatDouble : Double → Text) (snapshot : FederationSnapshot)
  (request : MismatchAnalysisRequest)

/-- The placements that are counted. -/
def MismatchAnalysisRequest.placements : List PlacementRecord :=
  (snapshot.records .placement).filter fun placement =>
    request.selects placement.federation placement.stamp.observedAt

/-- The migrations that are counted. -/
def MismatchAnalysisRequest.migrations : List MigrationRecord :=
  (snapshot.records .migration).filter fun migration =>
    request.selects migration.federation migration.stamp.observedAt

/-- The assessments that are counted. -/
def MismatchAnalysisRequest.assessments : List PortabilityAssessment :=
  (snapshot.records .portability).filter fun assessment =>
    request.selects assessment.federation assessment.stamp.observedAt

/-- The class of the first cluster, or of the snapshot if there is none. -/
def mismatchEvidenceClass : List ClusterRecord → EvidenceClass
  | [] => snapshot.evidenceClass
  | cluster :: _ => cluster.stamp.evidenceClass

/-- `analyze_mismatch`. It does not fail. -/
def analyzeMismatch : MismatchAnalysis :=
  let clusters := request.population snapshot
  let keys := observedKeys snapshot clusters
  let covered subject :=
    sortRows (countObservations (clusters.map (coverageObservation snapshot keys subject)))
  let workloads := workloadRows formatDouble snapshot request
  let evidenceClass := mismatchEvidenceClass snapshot clusters
  { federation := request.federation
    federationGeneration := snapshot.generation
    snapshotGeneration := snapshot.snapshotGeneration
    window := request.window
    byCapabilityKey := sortRows (countObservations
      (clusters.flatMap (capabilityObservations formatDouble snapshot request keys)))
    byAcceleratorClass := covered (acceleratorSubject snapshot)
    byCluster := covered fun cluster => cluster.id.value
    bySite := covered (siteSubject snapshot)
    byRuntime := covered (runtimeSubject snapshot)
    byWorkloadClass := sortRows workloads.byWorkloadClass
    byArtifact := sortRows workloads.byArtifact
    placementRejections := sortRows (countObservations
      ((request.placements snapshot).flatMap PlacementRecord.rejectionObservations))
    capacityStrandedByReason := sortRows
      ((countedFindings formatDouble snapshot request).foldl addStranded [])
    migrationAdaptations := sortRows (countObservations
      ((request.migrations snapshot).flatMap MigrationRecord.adaptationObservations))
    portabilityOutcomes := sortRows (countObservations
      ((request.assessments snapshot).map PortabilityAssessment.outcomeObservation))
    placementsObserved := UInt64.ofNat (request.placements snapshot).length
    migrationsObserved := UInt64.ofNat (request.migrations snapshot).length
    portabilityRecordsObserved := UInt64.ofNat (request.assessments snapshot).length
    precision := .derived
    evidenceClass
    evidence := ({} : EvidenceList).addIgnoringStatus .derivedAnalysis evidenceClass
      (.ofString "mismatch-analysis") .derived
      (.ofString "aggregated mismatch over " ++ .ofNat clusters.length ++
        .ofString " clusters with current evidence") }

end Analysis

end FederationObservatory
