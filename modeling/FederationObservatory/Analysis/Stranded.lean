import FederationObservatory.Analysis.Pools

/-!
# Stranded capacity

`analyze_stranded_capacity` (`analysis.cpp`): for every pool that a request selects, how much of its
idle capacity a workload of a class can use, cannot use, or may be able to use. A report carries one
finding for each pool and the sums over all of them.
-/

namespace FederationObservatory

open Sorting

/-- `saturating_add`. -/
def saturatingAdd (a b : UInt64) : UInt64 := (checkedAdd a b).getD 0xFFFFFFFFFFFFFFFF

/-! ## Reports -/

/-- `EligibilityBreakdown`. -/
structure EligibilityBreakdown where
  idle : UInt64 := 0
  usable : UInt64 := 0
  unknown : UInt64 := 0
  strandedByPrimaryReason : ReasonTally := {}
  reasonOccurrences : ReasonTally := {}

/-- `EligibilityBreakdown::stranded`. -/
def EligibilityBreakdown.stranded (breakdown : EligibilityBreakdown) : UInt64 :=
  ((checkedSub breakdown.idle breakdown.usable).bind (checkedSub · breakdown.unknown)).getD 0

/-- `EligibilityBreakdown::closes`. -/
def EligibilityBreakdown.closes (breakdown : EligibilityBreakdown) : Bool :=
  ((checkedAdd breakdown.usable breakdown.unknown).bind
    (checkedAdd · breakdown.strandedByPrimaryReason.total)).any fun expected =>
      expected == breakdown.idle

/-- What `merge` makes of an amount: a sum that does not fit is skipped. -/
def addOrKeep (a b : UInt64) : UInt64 := (checkedAdd a b).getD a

/-- What `merge` makes of the amount of a reason. -/
def ReasonTally.addOrKeep (tally other : ReasonTally) (reason : StrandingReason) : ReasonTally :=
  ((checkedAdd (tally.get reason) (other.get reason)).bind fun value =>
    (tally.add reason (value - tally.get reason)).toOption).getD tally

/-- The body of the loop of `merge` over the reasons. -/
def EligibilityBreakdown.mergeReason (other breakdown : EligibilityBreakdown)
    (reason : StrandingReason) : EligibilityBreakdown :=
  { breakdown with
    strandedByPrimaryReason :=
      breakdown.strandedByPrimaryReason.addOrKeep other.strandedByPrimaryReason reason
    reasonOccurrences := breakdown.reasonOccurrences.addOrKeep other.reasonOccurrences reason }

/-- `EligibilityBreakdown::merge`. -/
def EligibilityBreakdown.merge (breakdown other : EligibilityBreakdown) : EligibilityBreakdown :=
  StrandingReason.enumerators.foldl other.mergeReason
    { breakdown with
      idle := FederationObservatory.addOrKeep breakdown.idle other.idle
      usable := FederationObservatory.addOrKeep breakdown.usable other.usable
      unknown := FederationObservatory.addOrKeep breakdown.unknown other.unknown }

/-- `StrandedCapacityFinding`. -/
structure StrandedCapacityFinding where
  federation : FederationId := {}
  federationGeneration : FederationGeneration := {}
  workloadClass : WorkloadClassId := {}
  cluster : ClusterId := {}
  clusterGeneration : ClusterGeneration := {}
  clusterEpoch : ClusterEpoch := {}
  site : SiteId := {}
  acceleratorClass : AcceleratorClassId := {}
  pool : ResourcePoolId := {}
  kind : ResourceKind := .accelerator
  capacityGeneration : CapacityGeneration := {}
  capabilityGeneration : AcceleratorCapabilityGeneration := {}
  topologyGeneration : TopologyGeneration := {}
  compatibilityGeneration : CompatibilityGeneration := {}
  ledger : CapacityLedger := {}
  breakdown : EligibilityBreakdown := {}
  currentness : Currentness := .unknown
  precision : Precision := .unknown
  evidenceClass : EvidenceClass := .unknown
  evidence : EvidenceList := {}

/-- `operator<` on findings. -/
def StrandedCapacityFinding.lt (a b : StrandedCapacityFinding) : Bool :=
  if a.cluster ≠ b.cluster then less a.cluster b.cluster
  else if a.pool ≠ b.pool then less a.pool b.pool
  else WireEnum.codeLt a.kind b.kind

/-- `StrandedCapacityRequest`. -/
structure StrandedCapacityRequest where
  federation : FederationId := {}
  workloadClass : WorkloadClassId := {}
  kind : ResourceKind := .accelerator
  cluster : ClusterId := {}
  acceleratorClass : AcceleratorClassId := {}
  includeStale : Bool := false
  deriving DecidableEq, Repr

/-- `CapacitySummary`. -/
structure CapacitySummary where
  nominal : UInt64 := 0
  offline : UInt64 := 0
  allocated : UInt64 := 0
  reserved : UInt64 := 0
  draining : UInt64 := 0
  unusable : UInt64 := 0
  idle : UInt64 := 0
  usable : UInt64 := 0
  stranded : UInt64 := 0
  unknown : UInt64 := 0
  deriving DecidableEq, Repr

/-- `StrandedCapacityReport`. -/
structure StrandedCapacityReport where
  federation : FederationId := {}
  federationGeneration : FederationGeneration := {}
  coordinatorEpoch : CoordinatorEpoch := {}
  snapshotGeneration : SnapshotGeneration := {}
  workloadClass : WorkloadClassId := {}
  kind : ResourceKind := .accelerator
  summary : CapacitySummary := {}
  findings : List StrandedCapacityFinding := []
  excludedStaleClusters : List ClusterId := []
  excludedUnknownClusters : List ClusterId := []
  precision : Precision := .unknown
  evidenceClass : EvidenceClass := .unknown
  evidence : EvidenceList := {}

/-- `StrandedCapacityReport::closes`. -/
def StrandedCapacityReport.closes (report : StrandedCapacityReport) : Bool :=
  ((checkedAdd report.summary.usable report.summary.stranded).bind
    (checkedAdd · report.summary.unknown)).any fun expected => expected == report.summary.idle

/-! ## The analysis -/

/-- `select_workload`: of the workloads of a class, the one of least identifier. -/
def selectWorkload (snapshot : FederationSnapshot) (workloadClass : WorkloadClassId) :
    Option WorkloadRecord :=
  (snapshot.records .workload).foldl
    (fun (selected : Option WorkloadRecord) (workload : WorkloadRecord) =>
      if workload.workloadClass ≠ workloadClass then selected
      else
        match selected with
        | none => some workload
        | some record => if less workload.id record.id then some workload else selected)
    none

/-- The records the analysis looks up once. -/
structure StrandedSubject where
  workload : Option WorkloadRecord
  artifact : Option ArtifactRecord
  policy : Option PolicyRecord

def strandedSubject (snapshot : FederationSnapshot) (workload : Option WorkloadRecord) :
    StrandedSubject where
  workload := workload
  artifact := workload.bind fun record => snapshot.find .artifact record.artifact
  policy := workload.bind fun record =>
    if record.policy.empty then none else snapshot.find .policy record.policy

/-- What `evaluate_pool` is given for a pool. -/
def poolInputs (snapshot : FederationSnapshot) (subject : StrandedSubject)
    (cluster : ClusterRecord) (pool : CapacityPool) : PoolInputs where
  workload := subject.workload
  artifact := subject.artifact
  cluster := cluster
  site := snapshot.find .site cluster.site
  acceleratorClass :=
    if pool.acceleratorClass.empty then none
    else snapshot.find .acceleratorClass pool.acceleratorClass
  runtime := primaryRuntime snapshot cluster
  policy := subject.policy
  kind := pool.kind

/-- The breakdown of the idle capacity of a pool. -/
def eligibilityBreakdown (idle : UInt64) (eligibility : PoolEligibility) :
    Result EligibilityBreakdown :=
  if eligibility.decided && eligibility.eligible then .ok { idle, usable := idle }
  else if !eligibility.decided then .ok { idle, unknown := idle }
  else do
    let strandedByPrimaryReason ← ({} : ReasonTally).add eligibility.primary idle
    let reasonOccurrences ← (eligibility.occurrences.nonZero.map Prod.fst).foldlM
      (fun (tally : ReasonTally) reason => tally.add reason idle) {}
    pure { idle, strandedByPrimaryReason, reasonOccurrences }

/-- The loop over the clusters keeps these. -/
structure StrandedState where
  summary : CapacitySummary := {}
  findings : List StrandedCapacityFinding := []
  excludedStaleClusters : List ClusterId := []
  excludedUnknownClusters : List ClusterId := []
  precision : Precision := .exact
  evidenceClass : EvidenceClass := .real
  first : Bool := true

section Analysis

variable (formatDouble : Double → Text) (snapshot : FederationSnapshot)
  (request : StrandedCapacityRequest) (subject : StrandedSubject)

/-- The finding about a pool. -/
def strandedFinding (cluster : ClusterRecord) (pool : CapacityPool) :
    Result StrandedCapacityFinding := do
  let eligibility := evaluatePool formatDouble (poolInputs snapshot subject cluster pool)
  let breakdown ← eligibilityBreakdown pool.ledger.idle eligibility
  let evidenceClass := pool.evidenceClass.weaker cluster.stamp.evidenceClass
  pure
    { federation := cluster.federation
      federationGeneration := snapshot.generation
      workloadClass := request.workloadClass
      cluster := cluster.id
      clusterGeneration := cluster.generation
      clusterEpoch := cluster.epoch
      site := cluster.site
      acceleratorClass := pool.acceleratorClass
      pool := pool.poolId
      kind := pool.kind
      capacityGeneration := pool.generation
      capabilityGeneration := cluster.capabilityGeneration
      topologyGeneration := cluster.topologyGeneration
      compatibilityGeneration := cluster.compatibilityGeneration
      ledger := pool.ledger
      breakdown
      currentness := cluster.currentness
      precision := pool.precision.weakest cluster.stamp.precision
      evidenceClass
      evidence := eligibility.notes.foldl
        (fun (evidence : EvidenceList) note =>
          evidence.addIgnoringStatus .derivedAnalysis evidenceClass
            (.ofString "stranding-analysis") .derived note) {} }

/-- The summary with one finding more. Only the nominal capacity is added with a check. -/
def CapacitySummary.count (summary : CapacitySummary) (finding : StrandedCapacityFinding) :
    Result CapacitySummary := do
  let nominal ← orFail (checkedAdd summary.nominal finding.ledger.nominal) .capacityInconsistent
    "stranded report nominal overflowed"
  pure
    { nominal
      offline := saturatingAdd summary.offline finding.ledger.offline
      allocated := saturatingAdd summary.allocated finding.ledger.allocated
      reserved := saturatingAdd summary.reserved finding.ledger.reserved
      draining := saturatingAdd summary.draining finding.ledger.draining
      unusable := saturatingAdd summary.unusable finding.ledger.unusable
      idle := saturatingAdd summary.idle finding.ledger.idle
      usable := saturatingAdd summary.usable finding.breakdown.usable
      stranded := saturatingAdd summary.stranded finding.breakdown.stranded
      unknown := saturatingAdd summary.unknown finding.breakdown.unknown }

/-- The state with one finding more. -/
def StrandedState.withFinding (state : StrandedState) (finding : StrandedCapacityFinding)
    (summary : CapacitySummary) : StrandedState :=
  { state with
    summary
    precision := if state.first then finding.precision
      else state.precision.weakest finding.precision
    evidenceClass := if state.first then finding.evidenceClass
      else state.evidenceClass.weaker finding.evidenceClass
    first := false
    findings := state.findings ++ [finding] }

/-- The body of the loop over the pools of a cluster, for a pool that is selected. -/
def StrandedState.addPool (cluster : ClusterRecord) (state : StrandedState) (pool : CapacityPool) :
    Result StrandedState := do
  let finding ← strandedFinding formatDouble snapshot request subject cluster pool
  let summary ← state.summary.count finding
  pure (state.withFinding finding summary)

/-- The pools of a cluster that the request selects. -/
def StrandedCapacityRequest.pools (cluster : ClusterRecord) : List CapacityPool :=
  cluster.capacityPools.filter fun pool =>
    pool.kind == request.kind &&
      (request.acceleratorClass.empty || pool.acceleratorClass == request.acceleratorClass)

/-- The clusters that the request is about, current or not. -/
def StrandedCapacityRequest.concerns (cluster : ClusterRecord) : Bool :=
  (request.federation.empty || cluster.federation == request.federation) &&
    (request.cluster.empty || cluster.id == request.cluster) &&
    cluster.currentness != .retired

/-- A cluster whose evidence is stale is left out. -/
def StrandedCapacityRequest.excludes (cluster : ClusterRecord) : Bool :=
  cluster.currentness != .current && !request.includeStale

/-- The body of the loop over the clusters. -/
def StrandedState.addCluster (state : StrandedState) (cluster : ClusterRecord) :
    Result StrandedState :=
  if !request.concerns cluster then .ok state
  else if request.excludes cluster then
    .ok { state with excludedStaleClusters := state.excludedStaleClusters ++ [cluster.id] }
  else do
    let state ← (request.pools cluster).foldlM
      (StrandedState.addPool formatDouble snapshot request subject cluster) state
    pure
      { state with
        excludedUnknownClusters :=
          if (request.pools cluster).isEmpty then state.excludedUnknownClusters ++ [cluster.id]
          else state.excludedUnknownClusters }

/-- The report at the end of the loop. -/
def StrandedState.report (state : StrandedState) : StrandedCapacityReport :=
  let evidenceClass := if state.first then snapshot.evidenceClass else state.evidenceClass
  { federation := request.federation
    federationGeneration := snapshot.generation
    coordinatorEpoch := snapshot.coordinatorEpoch
    snapshotGeneration := snapshot.snapshotGeneration
    workloadClass := request.workloadClass
    kind := request.kind
    summary := state.summary
    findings := stableSort StrandedCapacityFinding.lt state.findings
    excludedStaleClusters := state.excludedStaleClusters
    excludedUnknownClusters := state.excludedUnknownClusters
    precision := if state.first then .unknown else state.precision
    evidenceClass
    evidence := ({} : EvidenceList).addIgnoringStatus .derivedAnalysis evidenceClass
      (.ofString "stranded-capacity-analysis") .derived
      (.ofString "partition of idle capacity for workload class " ++
        renderId request.workloadClass ++ .ofString " over " ++ .ofNat state.findings.length ++
        .ofString " capacity pools") }

/-- `analyze_stranded_capacity`. -/
def analyzeStrandedCapacity : Result StrandedCapacityReport := do
  let workload := selectWorkload snapshot request.workloadClass
  failIf (workload.isNone && !request.workloadClass.empty) .notFound
    "no workload generation is registered for this workload class" request.workloadClass.value
  let state ← (snapshot.records .cluster).foldlM
    (StrandedState.addCluster formatDouble snapshot request (strandedSubject snapshot workload)) {}
  let report := state.report snapshot request
  failIf (!report.closes) .capacityInconsistent "stranded capacity report does not close"
    (.ofString "nominal=" ++ .ofNat report.summary.nominal.toNat ++
      .ofString " idle=" ++ .ofNat report.summary.idle.toNat ++
      .ofString " usable=" ++ .ofNat report.summary.usable.toNat ++
      .ofString " stranded=" ++ .ofNat report.summary.stranded.toNat ++
      .ofString " unknown=" ++ .ofNat report.summary.unknown.toNat)
  pure report

end Analysis

end FederationObservatory
