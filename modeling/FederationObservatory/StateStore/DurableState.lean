import FederationObservatory.RecordsCodec.Kinds

/-!
# Durable state

`DurableState` (`state_store.hpp`, `state_store.cpp`): what the runtime remembers across a
restart, the normalisation it is written through and the validation it is loaded through.
-/

namespace FederationObservatory

open Sorting

/-- `kStateFormatVersion`. -/
def stateFormatVersion : UInt32 := 1

/-- `PublisherWatermark`: the replay-prevention watermark of one publisher boot identity. -/
@[ext] structure PublisherWatermark where
  publisher : PublisherId := {}
  boot : BootGeneration := {}
  watermark : Sequence := {}
  fenced : Bool := false
  fencedReason : Text := []
  lastSeen : TimestampNanos := 0
  deriving DecidableEq, Repr

/-- `operator<` on watermarks: publisher, then boot. -/
def PublisherWatermark.lt (a b : PublisherWatermark) : Bool :=
  if a.publisher ≠ b.publisher then less a.publisher b.publisher else less a.boot b.boot

/-- `AggregateFindingRecord`. -/
structure AggregateFindingRecord where
  kind : Text := []
  subject : Text := []
  digest : Text := []
  generatedAt : TimestampNanos := 0
  snapshotGeneration : SnapshotGeneration := {}
  precision : Precision := .unknown
  evidenceClass : EvidenceClass := .unknown
  deriving DecidableEq, Repr

/-- `operator<` on findings: kind, subject, digest. -/
def AggregateFindingRecord.lt (a b : AggregateFindingRecord) : Bool :=
  if a.kind ≠ b.kind then less a.kind b.kind
  else if a.subject ≠ b.subject then less a.subject b.subject
  else less a.digest b.digest

/-- `DurableState`. -/
structure DurableState where
  formatVersion : UInt32 := stateFormatVersion
  writtenByEpoch : CoordinatorEpoch := {}
  saveSequence : UInt64 := 0
  savedAt : TimestampNanos := 0
  federations : List FederationRecord := []
  sites : List SiteRecord := []
  clusters : List ClusterRecord := []
  acceleratorClasses : List AcceleratorClassRecord := []
  runtimes : List RuntimeRecord := []
  backends : List BackendRecord := []
  domains : List DomainRecord := []
  policies : List PolicyRecord := []
  artifacts : List ArtifactRecord := []
  workloadClasses : List WorkloadClassRecord := []
  workloads : List WorkloadRecord := []
  placements : List PlacementRecord := []
  migrations : List MigrationRecord := []
  portability : List PortabilityAssessment := []
  publisherWatermarks : List PublisherWatermark := []
  aggregateFindings : List AggregateFindingRecord := []
  deriving DecidableEq

namespace DurableState

/-- The collection of one kind. -/
def collection (d : DurableState) : (k : RecordKind) → List k.Record
  | .federation => d.federations
  | .site => d.sites
  | .cluster => d.clusters
  | .acceleratorClass => d.acceleratorClasses
  | .runtime => d.runtimes
  | .backend => d.backends
  | .domain => d.domains
  | .policy => d.policies
  | .artifact => d.artifacts
  | .workloadClass => d.workloadClasses
  | .workload => d.workloads
  | .placement => d.placements
  | .migration => d.migrations
  | .portability => d.portability

/-! ## Normalisation -/

/-- `normalize_cluster_for_persistence`: a cluster read back from disk is structurally known and
    dynamically unknown. -/
def normalizeCluster (cluster : ClusterRecord) : ClusterRecord :=
  { cluster with
    capacityPools := []
    readiness := .unknown
    currentness := if cluster.currentness = .retired then .retired else .revalidationRequired }

/-- A record that is no longer current: `Current` becomes `Stale`. -/
def demote {κ ρ : Type} [StoredRecord κ ρ] (record : ρ) : ρ :=
  if StoredRecord.currentness record = .current then
    StoredRecord.withCurrentness .stale record
  else record

section Demote

variable {κ ρ : Type} [StoredRecord κ ρ]

theorem currentness_demote (record : ρ) :
    StoredRecord.currentness (demote record) ≠ .current := by
  unfold demote
  split
  · rw [StoredRecord.currentness_withCurrentness]
    decide
  · assumption

theorem key_demote (record : ρ) : StoredRecord.key (demote record) = StoredRecord.key record := by
  unfold demote
  split
  · exact StoredRecord.key_withCurrentness _ _
  · rfl

theorem stamp_demote (record : ρ) :
    StoredRecord.stamp (demote record) = StoredRecord.stamp record := by
  unfold demote
  split
  · exact StoredRecord.stamp_withCurrentness _ _
  · rfl

theorem demote_demote (record : ρ) : demote (demote record) = demote record := by
  rw [demote, if_neg (currentness_demote record)]

end Demote

theorem normalizeCluster_normalizeCluster (cluster : ClusterRecord) :
    normalizeCluster (normalizeCluster cluster) = normalizeCluster cluster := by
  by_cases h : cluster.currentness = .retired
  · simp [normalizeCluster, h]
  · simp [normalizeCluster, h]

/-- `normalize_for_persistence`. Only these six collections are touched. -/
def normalizeForPersistence (d : DurableState) : DurableState :=
  { d with
    formatVersion := stateFormatVersion
    clusters := d.clusters.map normalizeCluster
    federations := d.federations.map demote
    sites := d.sites.map demote
    placements := d.placements.map demote
    migrations := d.migrations.map demote
    portability := d.portability.map demote }

theorem normalizeForPersistence_idem (d : DurableState) :
    d.normalizeForPersistence.normalizeForPersistence = d.normalizeForPersistence := by
  simp only [normalizeForPersistence, List.map_map, Function.comp_def, demote_demote,
    normalizeCluster_normalizeCluster]

/-! ## Validation -/

/-- The counts `DurableState::validate` compares with the bounds, in order. -/
def counts (d : DurableState) (bounds : Bounds) : List (Nat × Nat × String) :=
  [(d.federations.length, bounds.maxFederations, "federations"),
   (d.sites.length, bounds.maxSites, "sites"),
   (d.clusters.length, bounds.maxClusters, "clusters"),
   (d.acceleratorClasses.length, bounds.maxAcceleratorClasses, "accelerator_classes"),
   (d.runtimes.length, bounds.maxRuntimes, "runtimes"),
   (d.backends.length, bounds.maxBackends, "backends"),
   (d.domains.length, bounds.maxDomains, "domains"),
   (d.policies.length, bounds.maxPolicies, "policies"),
   (d.artifacts.length, bounds.maxArtifacts, "artifacts"),
   (d.workloadClasses.length, bounds.maxWorkloadClasses, "workload_classes"),
   (d.workloads.length, bounds.maxWorkloads, "workloads"),
   (d.placements.length, bounds.maxPlacementHistory, "placements"),
   (d.migrations.length, bounds.maxMigrationHistory, "migrations"),
   (d.portability.length, bounds.maxPortabilityRecords, "portability"),
   (d.publisherWatermarks.length, bounds.maxPublishers, "publisher_watermarks"),
   (d.aggregateFindings.length, bounds.maxAggregateFindings, "aggregate_findings")]

def validateCounts (d : DurableState) (bounds : Bounds) : Status :=
  (d.counts bounds).forM fun (value, limit, name) =>
    failIf (decide (limit < value)) .boundExceeded "durable state exceeds a configured bound"
      (.ofString name)

/-- The `unique_ids` lambda. -/
def uniqueIds {tag : IdTag} (ids : List (StrongId tag)) (what : String) : Status :=
  failIf (hasDuplicates (ids.map (·.value))) .corruptState ("duplicate identifier in " ++ what)

/-- Are two neighbours of the sorted watermarks of one boot identity? The publisher of the second
    one names the error. -/
def repeatedWatermark : List PublisherWatermark → Option PublisherId
  | a :: b :: rest =>
    if a.publisher = b.publisher ∧ a.boot = b.boot then some b.publisher
    else repeatedWatermark (b :: rest)
  | _ => none

def validateUnique (d : DurableState) : Status := do
  uniqueIds (d.federations.map (·.id)) "federations"
  uniqueIds (d.sites.map (·.id)) "sites"
  uniqueIds (d.clusters.map (·.id)) "clusters"
  uniqueIds (d.acceleratorClasses.map (·.id)) "accelerator_classes"
  uniqueIds (d.runtimes.map (·.id)) "runtimes"
  uniqueIds (d.backends.map (·.id)) "backends"
  uniqueIds (d.domains.map (·.id)) "domains"
  uniqueIds (d.policies.map (·.id)) "policies"
  uniqueIds (d.artifacts.map (·.id)) "artifacts"
  uniqueIds (d.workloadClasses.map (·.id)) "workload_classes"
  uniqueIds (d.workloads.map (·.id)) "workloads"
  uniqueIds (d.placements.map (·.id)) "placements"
  uniqueIds (d.migrations.map (·.id)) "migrations"
  match repeatedWatermark (stableSort PublisherWatermark.lt d.publisherWatermarks) with
  | some publisher => fail .corruptState "duplicate publisher watermark" publisher.value
  | none => pure ()

/-- A record that fails its own check makes the state corrupt. -/
def checkRecord (status : Status) (message : String) : Status :=
  status.mapError fun e => ⟨.corruptState, .ofString message, e.toText⟩

/-- A reference that must resolve among the ids of a collection. -/
def checkReference {tag : IdTag} (ids : List (StrongId tag)) (id : StrongId tag)
    (message : String) (detail : Text) : Status :=
  failIf (!ids.contains id) .corruptState message detail

def validateSite (d : DurableState) (site : SiteRecord) : Status := do
  checkRecord site.validate "invalid site record"
  checkReference (d.federations.map (·.id)) site.federation
    "site references an unknown federation" site.id.value

def validateCluster (d : DurableState) (cluster : ClusterRecord) : Status := do
  checkRecord cluster.validate "invalid cluster record"
  checkReference (d.federations.map (·.id)) cluster.federation
    "cluster references an unknown federation" cluster.id.value
  checkReference (d.sites.map (·.id)) cluster.site "cluster references an unknown site"
    cluster.id.value

def validateClusterReferences (d : DurableState) (cluster : ClusterRecord) : Status := do
  cluster.acceleratorClasses.forM fun id =>
    checkReference (d.acceleratorClasses.map (·.id)) id
      "cluster references an unknown accelerator class"
      (cluster.id.value ++ .ofString " " ++ id.value)
  cluster.runtimes.forM fun id =>
    checkReference (d.runtimes.map (·.id)) id "cluster references an unknown runtime"
      (cluster.id.value ++ .ofString " " ++ id.value)

def validateWorkload (d : DurableState) (workload : WorkloadRecord) : Status := do
  checkRecord workload.validate "invalid workload record"
  checkReference (d.workloadClasses.map (·.id)) workload.workloadClass
    "workload references an unknown workload class" workload.id.value
  failIf (!workload.artifact.empty && !(d.artifacts.map (·.id)).contains workload.artifact)
    .corruptState "workload references an unknown artifact" workload.id.value
  failIf (!workload.policy.empty && !(d.policies.map (·.id)).contains workload.policy)
    .corruptState "workload references an unknown policy" workload.id.value

def validatePlacement (d : DurableState) (placement : PlacementRecord) : Status := do
  checkRecord placement.validate "invalid placement record"
  checkReference (d.workloads.map (·.id)) placement.workload
    "placement references an unknown workload" placement.id.value
  checkReference (d.clusters.map (·.id)) placement.selected
    "placement references an unknown selected cluster" placement.id.value
  placement.candidates.forM fun candidate =>
    checkReference (d.clusters.map (·.id)) candidate.cluster
      "placement candidate references an unknown cluster"
      (placement.id.value ++ .ofString " " ++ candidate.cluster.value)

def validateMigration (d : DurableState) (migration : MigrationRecord) : Status := do
  checkRecord migration.validate "invalid migration record"
  checkReference (d.workloads.map (·.id)) migration.workload
    "migration references an unknown workload" migration.id.value
  failIf (!(d.clusters.map (·.id)).contains migration.source ||
      !(d.clusters.map (·.id)).contains migration.destination)
    .corruptState "migration references an unknown cluster" migration.id.value

def validatePortability (d : DurableState) (assessment : PortabilityAssessment) : Status := do
  checkRecord assessment.validate "invalid portability assessment"
  checkReference (d.workloads.map (·.id)) assessment.workload
    "portability record references an unknown workload" assessment.workload.value

/-- What the loader says about dynamic evidence in a durable file. -/
def carriesDynamicEvidence (why : Text) : Status :=
  .error ⟨.corruptState,
    .ofString "durable state carries dynamic evidence that must not be restored as current", why⟩

/-- The checks of `durable_state_is_normalized` on one cluster. -/
def clusterIsNormalized (cluster : ClusterRecord) : Status :=
  let named (text : String) : Text :=
    .ofString "cluster " ++ cluster.id.value ++ .ofString text
  if !cluster.capacityPools.isEmpty then
    carriesDynamicEvidence (named " carries dynamic capacity pools")
  else if cluster.readiness ≠ .unknown ∧ cluster.currentness ≠ .retired then
    carriesDynamicEvidence (named " carries a live readiness value")
  else if cluster.currentness = .current ∨ cluster.currentness = .stale then
    carriesDynamicEvidence (named " carries non-structural currentness")
  else .ok ()

/-- The check of `durable_state_is_normalized` on one record of another collection. -/
def recordIsNormalized {κ ρ : Type} [StoredRecord κ ρ] (what : String) (id : ρ → Text)
    (record : ρ) : Status :=
  if StoredRecord.currentness record = .current then
    carriesDynamicEvidence
      (.ofString what ++ .ofString " " ++ id record ++
        .ofString " is marked current in a durable file")
  else .ok ()

/-- `durable_state_is_normalized`, as a status. -/
def isNormalized (d : DurableState) : Status := do
  d.clusters.forM clusterIsNormalized
  d.federations.forM (recordIsNormalized "federation" (·.id.value))
  d.sites.forM (recordIsNormalized "site" (·.id.value))
  d.placements.forM (recordIsNormalized "placement" (·.id.value))
  d.migrations.forM (recordIsNormalized "migration" (·.id.value))
  d.portability.forM (recordIsNormalized "portability record for workload" (·.workload.value))

/-- `DurableState::validate`. -/
def validate (d : DurableState) (bounds : Bounds) : Status := do
  failIf (d.formatVersion != stateFormatVersion) .unsupportedVersion
    "unsupported durable state format version" (.ofNat d.formatVersion.toNat)
  d.validateCounts bounds
  d.validateUnique
  d.federations.forM fun federation =>
    checkRecord federation.validate "invalid federation record"
  d.sites.forM d.validateSite
  d.clusters.forM d.validateCluster
  d.clusters.forM d.validateClusterReferences
  d.workloads.forM d.validateWorkload
  d.placements.forM d.validatePlacement
  d.migrations.forM d.validateMigration
  d.portability.forM d.validatePortability
  d.isNormalized

end DurableState

end FederationObservatory
