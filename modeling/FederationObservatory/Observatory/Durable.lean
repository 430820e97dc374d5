import FederationObservatory.Misc.Tables
import FederationObservatory.Observatory.Publication

/-!
# Durable state of the observatory

`capture_durable_state`, `apply_durable_state`, `save_state`, `load_state`, `restore` and
`invalidate_dynamic_evidence` (`observatory.cpp`). A restore builds the whole replacement first
and swaps it in only when the durable state validates.
-/

namespace FederationObservatory

open StoredRecord (key withCurrentness)

/-! ## Capture -/

/-- The watermark that is kept of an authority. -/
def PublisherAuthority.toWatermark (authority : PublisherAuthority) : PublisherWatermark :=
  { publisher := authority.publisher
    boot := authority.boot
    watermark := authority.watermark
    fenced := authority.fenced
    fencedReason := authority.fencedReason
    lastSeen := authority.lastPublicationAt }

/-- `Impl::capture_durable_state`. Only the clusters are normalised here. -/
def captureDurableState (s : Impl) (now : TimestampNanos) : DurableState :=
  { formatVersion := stateFormatVersion
    writtenByEpoch := s.coordinatorEpoch
    saveSequence := s.saveSequence + 1
    savedAt := now
    federations := s.federations.values
    sites := s.sites.values
    clusters := s.clusters.values.map DurableState.normalizeCluster
    acceleratorClasses := s.acceleratorClasses.values
    runtimes := s.runtimes.values
    backends := s.backends.values
    domains := s.domains.values
    policies := s.policies.values
    artifacts := s.artifacts.values
    workloadClasses := s.workloadClasses.values
    workloads := s.workloads.values
    placements := s.placements.values
    migrations := s.migrations.values
    portability := s.portability.values
    publisherWatermarks := s.publishers.values.map PublisherAuthority.toWatermark
    aggregateFindings := s.aggregateFindings }

/-- `FederationObservatory::save_state`: the outcome, with the bytes that replace the file. -/
def saveState (s : Impl) (now : TimestampNanos) : Result ByteCodec.Bytes × Impl :=
  let saved := saveDurableState (captureDurableState s now) s.bounds
  (saved,
    { s with
      saveSequence := s.saveSequence + 1
      stats := { s.stats with
        stateSaves := s.stats.stateSaves + match saved with
          | .ok _ => 1
          | .error _ => 0 } })

/-! ## Restore -/

/-- The record a restore keeps of a durable record. -/
def restoredRecord : (k : RecordKind) → k.Record → k.Record
  | .cluster, record => DurableState.normalizeCluster record
  | .placement, record => withCurrentness .stale record
  | .migration, record => withCurrentness .stale record
  | .portability, record => withCurrentness .stale record
  | .federation, record => DurableState.demote record
  | .site, record => DurableState.demote record
  | .acceleratorClass, record => DurableState.demote record
  | .runtime, record => DurableState.demote record
  | .backend, record => DurableState.demote record
  | .domain, record => DurableState.demote record
  | .policy, record => DurableState.demote record
  | .artifact, record => DurableState.demote record
  | .workloadClass, record => DurableState.demote record
  | .workload, record => DurableState.demote record

/-- The loop that fills one collection: the first record of a key is kept. -/
def restoredTable (k : RecordKind) (records : List k.Record) : k.Table :=
  Tables.emplaceAll key (restoredRecord k) ∅ records

/-- One round of the placement loop: a placement that is not older becomes the latest one. -/
def restorePlacement (index : Std.TreeMap WorkloadId PlacementId × RecordKind.Table .placement)
    (record : PlacementRecord) :
    Std.TreeMap WorkloadId PlacementId × RecordKind.Table .placement :=
  let (latest, placements) := index
  let replaces :=
    match latest[record.workload]? with
    | none => true
    | some id =>
      decide ((placements.getD id {}).stamp.observedAt ≤ record.stamp.observedAt)
  (if replaces then latest.insert record.workload record.id else latest,
    placements.insertIfNew record.id (restoredRecord .placement record))

/-- One round of the migration loop: the first migration of a workload is the latest one. -/
def restoreMigration (index : Indices) (record : MigrationRecord) : Indices :=
  { index with
    supersededMigrations :=
      if record.supersedes.empty then index.supersededMigrations
      else index.supersededMigrations.insert record.workload record.supersedes
    latestMigration := index.latestMigration.insertIfNew record.workload record.id }

/-- The authority a restore makes of a watermark. It is not live. -/
def PublisherWatermark.toAuthority (watermark : PublisherWatermark) (epoch : CoordinatorEpoch) :
    PublisherAuthority :=
  { publisher := watermark.publisher
    boot := watermark.boot
    epoch
    watermark := watermark.watermark
    fenced := watermark.fenced
    fencedReason := watermark.fencedReason
    lastPublicationAt := watermark.lastSeen
    live := false }

def PublisherWatermark.key (watermark : PublisherWatermark) : PublisherKey :=
  ⟨watermark.publisher, watermark.boot⟩

/-- The publisher table of a restore. -/
def restoredPublishers (d : DurableState) : Std.TreeMap PublisherKey PublisherAuthority :=
  Tables.emplaceAll PublisherWatermark.key (·.toAuthority d.writtenByEpoch) ∅ d.publisherWatermarks

/-- The collections of a restore. -/
def restoredCollections (d : DurableState) : Collections :=
  { federations := restoredTable .federation d.federations
    sites := restoredTable .site d.sites
    clusters := restoredTable .cluster d.clusters
    acceleratorClasses := restoredTable .acceleratorClass d.acceleratorClasses
    runtimes := restoredTable .runtime d.runtimes
    backends := restoredTable .backend d.backends
    domains := restoredTable .domain d.domains
    policies := restoredTable .policy d.policies
    artifacts := restoredTable .artifact d.artifacts
    workloadClasses := restoredTable .workloadClass d.workloadClasses
    workloads := restoredTable .workload d.workloads
    placements := (d.placements.foldl restorePlacement (∅, ∅)).2
    migrations := restoredTable .migration d.migrations
    portability := restoredTable .portability d.portability }

/-- The indices of a restore. -/
def restoredIndices (d : DurableState) : Indices :=
  { d.migrations.foldl restoreMigration {} with
    latestPlacement := (d.placements.foldl restorePlacement (∅, ∅)).1 }

/-- The coordinator epoch after a restore. -/
def DurableState.nextEpoch (d : DurableState) : CoordinatorEpoch :=
  if d.writtenByEpoch.isSet then d.writtenByEpoch.next else ⟨1⟩

/-- The state a successful restore leaves. -/
def restoredState (s : Impl) (d : DurableState) : Impl :=
  { s with
    toCollections := restoredCollections d
    toIndices := restoredIndices d
    publishers := restoredPublishers d
    aggregateFindings := d.aggregateFindings
    saveSequence := d.saveSequence
    coordinatorEpoch := d.nextEpoch
    snapshotGeneration := s.snapshotGeneration.next
    stats := { s.stats with stateLoads := s.stats.stateLoads + 1 } }

/-- `Impl::apply_durable_state`, which is `FederationObservatory::restore`. -/
def restore (s : Impl) (d : DurableState) : Status × Impl :=
  match d.validate s.bounds with
  | .error e => (.error e, s)
  | .ok () => (.ok (), restoredState s d)

/-- `FederationObservatory::load_state`. -/
def loadState (s : Impl) (file : Option ByteCodec.Bytes) : Status × Impl :=
  match loadDurableState file s.bounds with
  | .error e => (.error e, s)
  | .ok d => restore s d

/-! ## Invalidation -/

/-- What `invalidate_dynamic_evidence` does to a cluster. -/
def ClusterRecord.invalidated (record : ClusterRecord) (reason : Text) : ClusterRecord :=
  { record with
    capacityPools := []
    readiness := .unknown
    currentness := if record.currentness = .retired then .retired else .revalidationRequired
    evidence := record.evidence.addIgnoringStatus .derivedAnalysis .unknown
      (.ofString "observatory") .derived
      (.ofString "dynamic evidence invalidated: " ++ reason) }

/-- What `invalidate_dynamic_evidence` does to an authority. -/
def PublisherAuthority.invalidated (authority : PublisherAuthority) : PublisherAuthority :=
  if authority.fenced then authority else { authority with live := false }

/-- `Impl::invalidate_dynamic_evidence`. -/
def invalidateDynamicEvidence (s : Impl) (reason : Text) : Impl :=
  { s with
    clusters := s.clusters.map fun _ record => record.invalidated reason
    publishers := s.publishers.map fun _ authority => authority.invalidated
    snapshotGeneration := s.snapshotGeneration.next }

end FederationObservatory
