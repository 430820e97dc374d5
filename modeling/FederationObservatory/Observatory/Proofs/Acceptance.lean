import FederationObservatory.Observatory.Proofs.Authority

/-!
# When a publication is accepted

For every operation: the condition under which it writes, stated on the state before it, and the
state it writes. An operation that passed the gate writes exactly when its condition holds, and is
declined otherwise.
-/

namespace FederationObservatory

open StoredRecord (key publishedDigest)

/-! ## Conditions -/

/-- `register_structural` writes: the record checks, the sequence is new, and the stored record,
    if there is one, is another one that is not newer. -/
def AcceptsStructural (k : RecordKind) {tag : GenerationTag} (s : Impl) (record : k.Record)
    (extra : Status) (limit : Nat) (generationOf : k.Record → Generation tag)
    (duplicateSequence : Bool) : Prop :=
  StoredRecord.validate record = .ok () ∧ extra = .ok () ∧ duplicateSequence = false ∧
    match (s.table k)[key record]? with
    | none => (s.table k).size < limit
    | some old =>
      publishedDigest old ≠ publishedDigest record ∧ generationOf old ≤ generationOf record

/-- `retire_cluster` writes: a cluster that is not retired and not of a newer generation. -/
def AcceptsRetirement (s : Impl) (cluster : ClusterId) (generation : ClusterGeneration) : Prop :=
  ∃ record, s.clusters[cluster]? = some record ∧
    (generation.isSet = true → record.generation ≤ generation) ∧ record.currentness ≠ .retired

/-- `publish_capability` writes: the federation checks, and the cluster is neither retired nor of
    a newer generation, nor are its capabilities, nor are there any under the same generation. -/
def AcceptsCapability (s : Impl) (ctx : PublicationContext) (cluster : ClusterId)
    (clusterGeneration : ClusterGeneration)
    (capabilityGeneration : AcceleratorCapabilityGeneration) : Prop :=
  checkFederation s ctx = .ok () ∧
    ∃ record, s.clusters[cluster]? = some record ∧ record.currentness ≠ .retired ∧
      capabilityGeneration.isSet = true ∧
      (clusterGeneration.isSet = true → record.generation ≤ clusterGeneration) ∧
      record.capabilityGeneration ≤ capabilityGeneration ∧
      ¬(capabilityGeneration = record.capabilityGeneration ∧ record.capabilities.entries ≠ [])

/-- `publish_capacity` writes: as for capabilities, and the pools check one by one and in total. -/
def AcceptsCapacity (s : Impl) (ctx : PublicationContext) (cluster : ClusterId)
    (clusterGeneration : ClusterGeneration) (capacityGeneration : CapacityGeneration)
    (pools : List CapacityPool) : Prop :=
  checkFederation s ctx = .ok () ∧
    ∃ record, s.clusters[cluster]? = some record ∧ record.currentness ≠ .retired ∧
      capacityGeneration.isSet = true ∧ pools.length ≤ maxPoolsPerCluster ∧
      (clusterGeneration.isSet = true → record.generation ≤ clusterGeneration) ∧
      record.capacityGeneration ≤ capacityGeneration ∧
      pools.forM (checkPool s) = .ok () ∧
      Sorting.hasDuplicates (pools.map (·.poolId)) = false ∧ totalNominal pools ≠ none ∧
      ¬(capacityGeneration = record.capacityGeneration ∧ record.capacityPools ≠ [])

/-- `publish_placement` writes: a new placement, or a newer generation of a stored one. -/
def AcceptsPlacement (s : Impl) (ctx : PublicationContext) (record : PlacementRecord)
    (duplicateSequence : Bool) : Prop :=
  checkFederation s ctx = .ok () ∧ record.validate = .ok () ∧
    checkPlacement s ctx record = .ok () ∧ duplicateSequence = false ∧
    (∀ old, s.placements[record.id]? = some old →
      publishedDigest old ≠ publishedDigest record ∧ old.generation < record.generation) ∧
    s.placements.size < s.bounds.maxPlacementHistory

/-- `publish_migration` writes: a new migration, or a newer generation of a stored one. -/
def AcceptsMigration (s : Impl) (ctx : PublicationContext) (record : MigrationRecord)
    (duplicateSequence : Bool) : Prop :=
  checkFederation s ctx = .ok () ∧ record.validate = .ok () ∧
    checkMigration s ctx record = .ok () ∧ duplicateSequence = false ∧
    (∀ old, s.migrations[record.id]? = some old →
      publishedDigest old ≠ publishedDigest record ∧ old.generation < record.generation) ∧
    s.migrations.size < s.bounds.maxMigrationHistory

/-- `publish_migration_stage` writes: the migration is open, of this generation, its last event
    came with a smaller sequence, and the stage may follow. -/
def AcceptsStage (s : Impl) (ctx : PublicationContext) (migration : MigrationId)
    (generation : MigrationGeneration) (stage : MigrationStage) : Prop :=
  ∃ record, s.migrations[migration]? = some record ∧ generation.isSet = true ∧
    record.generation = generation ∧ record.currentness ≠ .retired ∧
    s.supersededMigrations[record.workload]? ≠ some migration ∧
    record.sequenceRegresses ctx.sequence = false ∧
    MigrationStage.isAcceptableEvent record.stage stage = true ∧
    record.stage.isTerminal = false ∧ record.stageEvents.length < maxStageEventsPerMigration

/-- `publish_portability` writes: another assessment than the stored one, which is not newer. -/
def AcceptsPortability (s : Impl) (ctx : PublicationContext) (record : PortabilityAssessment) :
    Prop :=
  record.validate = .ok () ∧ s.workloads.contains record.workload = true ∧
    s.clusters.contains record.destination = true ∧
    match s.portability[(⟨record.workload, record.destination⟩ : PortabilityKey)]? with
    | none => s.portability.size < s.bounds.maxPortabilityRecords
    | some old => old.digest ≠ record.digest ∧ old.newerThan record ctx = false

namespace Publication

/-- The condition under which a publication that passed the gate writes. -/
def Accepts (s : Impl) (ctx : PublicationContext) (duplicateSequence : Bool) : Publication → Prop
  | .registerFederation record =>
    AcceptsStructural .federation s record (.ok ()) s.bounds.maxFederations (·.generation)
      duplicateSequence
  | .registerSite record =>
    AcceptsStructural .site s record (checkSite s record) s.bounds.maxSites (·.generation)
      duplicateSequence
  | .registerCluster record =>
    AcceptsStructural .cluster s record (checkCluster s record) s.bounds.maxClusters
      (·.generation) duplicateSequence
  | .registerAcceleratorClass record =>
    AcceptsStructural .acceleratorClass s record (.ok ()) s.bounds.maxAcceleratorClasses
      (·.capabilityGeneration) duplicateSequence
  | .registerRuntime record =>
    AcceptsStructural .runtime s record (.ok ()) s.bounds.maxRuntimes (·.generation)
      duplicateSequence
  | .registerBackend record =>
    AcceptsStructural .backend s record (checkBackend s record) s.bounds.maxBackends
      (·.generation) duplicateSequence
  | .registerDomain record =>
    AcceptsStructural .domain s record (checkDomain s record) s.bounds.maxDomains
      (·.topologyGeneration) duplicateSequence
  | .registerPolicy record =>
    AcceptsStructural .policy s record (.ok ()) s.bounds.maxPolicies (·.generation)
      duplicateSequence
  | .registerArtifact record =>
    AcceptsStructural .artifact s record (.ok ()) s.bounds.maxArtifacts (·.generation)
      duplicateSequence
  | .registerWorkloadClass record =>
    AcceptsStructural .workloadClass s record (.ok ()) s.bounds.maxWorkloadClasses
      (fun _ => ({} : FederationGeneration)) duplicateSequence
  | .registerWorkload record =>
    AcceptsStructural .workload s record (checkWorkload s record) s.bounds.maxWorkloads
      (·.generation) duplicateSequence
  | .retireCluster cluster generation _ => AcceptsRetirement s cluster generation
  | .publishCapability cluster clusterGeneration capabilityGeneration _ =>
    AcceptsCapability s ctx cluster clusterGeneration capabilityGeneration
  | .publishCapacity cluster clusterGeneration capacityGeneration pools =>
    AcceptsCapacity s ctx cluster clusterGeneration capacityGeneration pools
  | .publishPlacement record => AcceptsPlacement s ctx record duplicateSequence
  | .publishMigration record => AcceptsMigration s ctx record duplicateSequence
  | .publishMigrationStage migration generation stage _ =>
    AcceptsStage s ctx migration generation stage
  | .publishPortability record => AcceptsPortability s ctx record

end Publication

/-! ## Writes -/

/-- The state in which one record was accepted. -/
def Impl.register (s : Impl) (clock : Clock) (ctx : PublicationContext) (k : RecordKind)
    (record : k.Record) : Impl :=
  (s.store k (key record) (accepted clock ctx record)).advanceSnapshot

/-- Does registering a cluster advance its generation? -/
def Impl.advancesCluster (s : Impl) (record : ClusterRecord) : Bool :=
  (s.clusterGeneration record.id).isSet &&
    record.generation.newerThan (s.clusterGeneration record.id)

/-- The state in which a cluster was accepted. -/
def Impl.registerCluster (s : Impl) (clock : Clock) (ctx : PublicationContext)
    (record : ClusterRecord) : Impl :=
  let t := s.register clock ctx .cluster record
  if s.advancesCluster record then
    (t.store .cluster record.id
      (ClusterRecord.advanced (accepted (k := .cluster) clock ctx record)
        (s.clusterGeneration record.id) record.generation)).advanceSnapshot
  else t

namespace Publication

/-- The state a publication writes when it is accepted, before the authority is settled. -/
def written (s : Impl) (clock : Clock) (ctx : PublicationContext) : Publication → Impl
  | .registerFederation record => s.register clock ctx .federation record
  | .registerSite record => s.register clock ctx .site record
  | .registerCluster record => s.registerCluster clock ctx record
  | .registerAcceleratorClass record => s.register clock ctx .acceleratorClass record
  | .registerRuntime record => s.register clock ctx .runtime record
  | .registerBackend record => s.register clock ctx .backend record
  | .registerDomain record => s.register clock ctx .domain record
  | .registerPolicy record => s.register clock ctx .policy record
  | .registerArtifact record => s.register clock ctx .artifact record
  | .registerWorkloadClass record => s.register clock ctx .workloadClass record
  | .registerWorkload record => s.register clock ctx .workload record
  | .retireCluster cluster generation reason =>
    match s.clusters[cluster]? with
    | some record =>
      let t :=
        (s.store .cluster cluster (record.retire clock ctx generation reason)).advanceSnapshot
      { t with stats := { t.stats with clusterRetirements := t.stats.clusterRetirements + 1 } }
    | none => s
  | .publishCapability cluster clusterGeneration capabilityGeneration capabilities =>
    match s.clusters[cluster]? with
    | some record =>
      ((s.storeAdvanced cluster record clusterGeneration).store .cluster cluster
        ((record.advanceTo clusterGeneration).withCapabilities clock ctx capabilityGeneration
          capabilities)).advanceSnapshot
    | none => s
  | .publishCapacity cluster clusterGeneration capacityGeneration pools =>
    match s.clusters[cluster]? with
    | some record =>
      (s.store .cluster cluster ((record.advanceTo clusterGeneration).withCapacity clock ctx
        capacityGeneration
        (Sorting.stableSort CapacityPool.lt
          (pools.map fun pool => pool.accept s.bounds ctx capacityGeneration)))).advanceSnapshot
    | none => s
  | .publishPlacement record => s.recordPlacement clock ctx record
  | .publishMigration record => s.recordMigration clock ctx record
  | .publishMigrationStage migration generation stage detail =>
    match s.migrations[migration]? with
    | some record =>
      (s.store .migration migration (record.append clock ctx
        (.ofPublication clock ctx generation stage detail))).advanceSnapshot
    | none => s
  | .publishPortability record =>
    (s.store .portability ⟨record.workload, record.destination⟩
      (record.accept clock ctx)).advanceSnapshot

/-- The disposition of an accepted publication. A placement that is older than the workload's
    latest one is stored as history. -/
def disposition (s : Impl) : Publication → IngestDisposition
  | .publishPlacement record =>
    if s.latestPlacementIsNewer record then .superseded else .applied
  | _ => .applied

end Publication

end FederationObservatory
