import FederationObservatory.Observatory.Registration

/-!
# Dynamic publications

`publish_capability`, `publish_capacity`, `publish_placement`, `publish_migration`,
`publish_migration_stage` and `publish_portability` (`observatory.cpp`). Each has its own rule for
recognising a repetition.
-/

namespace FederationObservatory

open Sorting
open StoredRecord (publishedDigest)

/-- The refusal of a publication whose federation does not check. -/
def refuseFederation (s : Impl) (ctx : PublicationContext) (e : Error) : Error × Impl :=
  refuse s e.code e.message (some ctx.key)

/-! ## Capabilities -/

/-- The record a capability publication leaves, next to the generation. -/
def ClusterRecord.withCapabilities (record : ClusterRecord) (clock : Clock)
    (ctx : PublicationContext) (generation : AcceleratorCapabilityGeneration)
    (capabilities : CapabilitySet) : ClusterRecord :=
  { record with
    capabilities
    capabilityGeneration := generation
    evidenceGeneration := ctx.evidenceGeneration
    currentness := .current
    stamp := stampFor clock ctx }

/-- A publication may name a newer incarnation of the cluster. -/
def ClusterRecord.advanceTo (record : ClusterRecord) (generation : ClusterGeneration) :
    ClusterRecord :=
  if generation.isSet && generation.newerThan record.generation then { record with generation }
  else record

/-- `record.generation = cluster_generation`, which `publish_capability` writes in place before it
    checks the keys. -/
def Impl.storeAdvanced (s : Impl) (cluster : ClusterId) (record : ClusterRecord)
    (generation : ClusterGeneration) : Impl :=
  if generation.isSet && generation.newerThan record.generation then
    s.store .cluster cluster (record.advanceTo generation)
  else s

/-- `Impl::publish_capability`. -/
def publishCapability (s : Impl) (clock : Clock) (ctx : PublicationContext) (cluster : ClusterId)
    (clusterGeneration : ClusterGeneration)
    (capabilityGeneration : AcceleratorCapabilityGeneration) (capabilities : CapabilitySet) :
    Outcome := do
  let check ← checkAuthority s ctx
  match checkFederation s ctx with
  | .error e => .error (refuseFederation s ctx e)
  | .ok () =>
  match s.clusters[cluster]? with
  | none => .error (refuse s .notFound (.ofString "cluster is not registered") (some ctx.key))
  | some record =>
    if record.currentness = .retired then
      .error (refuse s .conflict (.ofString "cluster is retired and cannot receive evidence")
        (some ctx.key))
    else if !capabilityGeneration.isSet then
      .error (refuse s .invalidArgument
        (.ofString "capability publication requires a capability generation") (some ctx.key))
    else if clusterGeneration.isSet && clusterGeneration.olderThan record.generation then
      .error (refuse s .staleGeneration
        (.ofString "capability publication targets cluster generation " ++
          clusterGeneration.toText ++ .ofString " but the current generation is " ++
          record.generation.toText)
        (some ctx.key))
    else if capabilityGeneration.olderThan record.capabilityGeneration then
      .error (refuse s .staleGeneration
        (.ofString "capability generation " ++ capabilityGeneration.toText ++
          .ofString " is older than the published capability generation " ++
          record.capabilityGeneration.toText)
        (some ctx.key))
    else if capabilityGeneration = record.capabilityGeneration ∧
        record.capabilities.entries ≠ [] then
      if record.capabilities.identical capabilities then
        .ok (finish s clock ctx check.authority .duplicate
          (.ofString "identical capability publication for the same generation"))
      else
        .error (refuse s .conflict
          (.ofString ("capability content changed without advancing the capability generation; a " ++
            "capability change must be published under a new generation so that dependent " ++
            "conclusions can be invalidated"))
          (some ctx.key))
    else
      let t := s.storeAdvanced cluster record clusterGeneration
      if capabilities.entries.any fun entry => !entry.key.valid then
        .error (refuse t .invalidArgument (.ofString "capability key is not valid") (some ctx.key))
      else
        .ok (finish
          (t.store .cluster cluster
            ((record.advanceTo clusterGeneration).withCapabilities clock ctx capabilityGeneration
              capabilities)).advanceSnapshot
          clock ctx check.authority .applied)

/-! ## Capacity -/

/-- The checks of `publish_capacity` on one pool. -/
def checkPool (s : Impl) (pool : CapacityPool) : Status := do
  failIf pool.poolId.empty .invalidArgument "capacity pool has no identifier"
  pool.ledger.validate.mapError fun e =>
    ⟨.capacityInconsistent,
      .ofString "capacity pool " ++ pool.poolId.value ++
        .ofString " does not satisfy the accounting identity: " ++ e.message, []⟩
  if pool.kind = .accelerator ∧ pool.acceleratorClass.empty then
    .error ⟨.invalidArgument,
      .ofString "accelerator pool " ++ pool.poolId.value ++
        .ofString " names no accelerator class", []⟩
  else
    failIf (!pool.acceleratorClass.empty && !s.acceleratorClasses.contains pool.acceleratorClass)
      .notFound "capacity pool references an unregistered accelerator class"

/-- The nominal capacity of some pools, unless it overflows. -/
def totalNominal (pools : List CapacityPool) : Option UInt64 :=
  checkedSumFrom 0 (pools.map (·.ledger.nominal))

/-- Are the incoming pools the stored ones? Compared by total, number and, sorted, one by one. -/
def identicalPools (stored incoming : List CapacityPool) : Bool :=
  match totalNominal stored, totalNominal incoming with
  | some storedTotal, some incomingTotal =>
    storedTotal == incomingTotal && stored.length == incoming.length &&
      ((stableSort CapacityPool.lt incoming).zip (stableSort CapacityPool.lt stored)).all
        fun (a, b) => a.eq b
  | _, _ => false

/-- What `publish_capacity` writes to a pool it accepts. -/
def CapacityPool.accept (pool : CapacityPool) (bounds : Bounds) (ctx : PublicationContext)
    (generation : CapacityGeneration) : CapacityPool :=
  { pool with
    precision := ctx.precision
    evidenceClass := ctx.evidenceClass
    generation := if pool.generation.isSet then pool.generation else generation
    evidence := (pool.evidence.setLimit bounds.maxEvidencePerFinding).addIgnoringStatus
      ctx.provenance ctx.evidenceClass ctx.publisher.value ctx.precision
      (.ofString "capacity published under generation " ++ generation.toText) }

/-- The record a capacity publication leaves, next to the generation. -/
def ClusterRecord.withCapacity (record : ClusterRecord) (clock : Clock) (ctx : PublicationContext)
    (generation : CapacityGeneration) (pools : List CapacityPool) : ClusterRecord :=
  { record with
    capacityPools := pools
    capacityGeneration := generation
    evidenceGeneration := ctx.evidenceGeneration
    currentness := .current
    stamp := stampFor clock ctx }

/-- `Impl::publish_capacity`. -/
def publishCapacity (s : Impl) (clock : Clock) (ctx : PublicationContext) (cluster : ClusterId)
    (clusterGeneration : ClusterGeneration) (capacityGeneration : CapacityGeneration)
    (pools : List CapacityPool) : Outcome := do
  let check ← checkAuthority s ctx
  match checkFederation s ctx with
  | .error e => .error (refuseFederation s ctx e)
  | .ok () =>
  match s.clusters[cluster]? with
  | none => .error (refuse s .notFound (.ofString "cluster is not registered") (some ctx.key))
  | some record =>
    if record.currentness = .retired then
      .error (refuse s .conflict (.ofString "cluster is retired and cannot receive evidence")
        (some ctx.key))
    else if !capacityGeneration.isSet then
      .error (refuse s .invalidArgument
        (.ofString "capacity publication requires a capacity generation") (some ctx.key))
    else if maxPoolsPerCluster < pools.length then
      .error (refuse s.countBoundsRejection .boundExceeded
        (.ofString "capacity publication carries too many pools") (some ctx.key))
    else if clusterGeneration.isSet && clusterGeneration.olderThan record.generation then
      .error (refuse s .staleGeneration
        (.ofString "capacity publication targets cluster generation " ++
          clusterGeneration.toText ++ .ofString " but the current generation is " ++
          record.generation.toText)
        (some ctx.key))
    else if capacityGeneration.olderThan record.capacityGeneration then
      .error (refuse s .staleGeneration
        (.ofString "capacity generation " ++ capacityGeneration.toText ++
          .ofString " is older than the published capacity generation " ++
          record.capacityGeneration.toText)
        (some ctx.key))
    else
    match pools.forM (checkPool s) with
    | .error e => .error (refuse s e.code e.message (some ctx.key))
    | .ok () =>
    if hasDuplicates (pools.map (·.poolId)) then
      .error (refuse s .invalidArgument
        (.ofString "capacity publication repeats a pool identifier") (some ctx.key))
    else if totalNominal pools = none then
      .error (refuse s .capacityInconsistent (.ofString "capacity total overflowed")
        (some ctx.key))
    else if capacityGeneration = record.capacityGeneration ∧ record.capacityPools ≠ [] then
      if identicalPools record.capacityPools pools then
        .ok (finish s clock ctx check.authority .duplicate
          (.ofString "identical capacity publication for the same generation"))
      else
        .error (refuse s .conflict
          (.ofString ("capacity content changed without advancing the capacity generation; a " ++
            "capacity change must be published under a new generation so that " ++
            "stranded-capacity conclusions can be recomputed rather than quietly invalidated"))
          (some ctx.key))
    else
      let accepted := stableSort CapacityPool.lt
        (pools.map fun pool => pool.accept s.bounds ctx capacityGeneration)
      .ok (finish
        (s.store .cluster cluster ((record.advanceTo clusterGeneration).withCapacity clock ctx
          capacityGeneration accepted)).advanceSnapshot
        clock ctx check.authority .applied)

/-! ## Placements -/

/-- Is the workload's latest placement newer than the published one? The published one is
    compared by the stamp it came with. -/
def Impl.latestPlacementIsNewer (s : Impl) (record : PlacementRecord) : Bool :=
  match s.latestPlacement[record.workload]? with
  | none => false
  | some latest =>
    match s.placements[latest]? with
    | none => false
    | some stored =>
      decide (record.stamp.observedAt < stored.stamp.observedAt) ||
        (stored.stamp.observedAt == record.stamp.observedAt &&
          stored.generation.newerThan record.generation)

/-- The placement as it is stored. -/
def PlacementRecord.accept (record : PlacementRecord) (clock : Clock) (ctx : PublicationContext)
    (supersedesLatest : Bool) : PlacementRecord :=
  { record with
    stamp := stampFor clock ctx
    currentness := if supersedesLatest then .stale else .current
    evidence := record.evidence.addIgnoringStatus ctx.provenance ctx.evidenceClass
      ctx.publisher.value ctx.precision
      (if supersedesLatest then
        .ofString ("placement retained as history; a newer placement already exists for this " ++
          "workload")
      else
        .ofString "placement accepted as the current placement for this workload generation") }

/-- The state after a placement was recorded. -/
def Impl.recordPlacement (s : Impl) (clock : Clock) (ctx : PublicationContext)
    (record : PlacementRecord) : Impl :=
  let supersedesLatest := s.latestPlacementIsNewer record
  let t := (s.store .placement record.id (record.accept clock ctx supersedesLatest)).advanceSnapshot
  { t with
    latestPlacement :=
      if supersedesLatest then s.latestPlacement.insertIfNew record.workload record.id
      else s.latestPlacement.insert record.workload record.id
    stats := { t.stats with placementsRecorded := t.stats.placementsRecorded + 1 } }

/-- The references of a placement that must be registered, in order. -/
def checkPlacement (s : Impl) (ctx : PublicationContext) (record : PlacementRecord) : Status := do
  if record.federation ≠ ctx.federation then
    .error ⟨.invalidArgument,
      .ofString "placement names federation " ++ record.federation.value ++
        .ofString " but was published under " ++ ctx.federation.value, []⟩
  else
    failIf (!s.workloads.contains record.workload) .notFound
      "placement references an unregistered workload"
    failIf (!s.clusters.contains record.selected) .notFound
      "placement references an unregistered cluster"
    record.candidates.forM fun candidate =>
      failIf (!s.clusters.contains candidate.cluster) .notFound
        "placement candidate references an unregistered cluster"

/-- `Impl::publish_placement`. -/
def publishPlacement (s : Impl) (clock : Clock) (ctx : PublicationContext)
    (record : PlacementRecord) : Outcome := do
  let check ← checkAuthority s ctx
  match checkFederation s ctx with
  | .error e => .error (refuseFederation s ctx e)
  | .ok () =>
  match record.validate with
  | .error e => .error (refuseStatus s ctx e)
  | .ok () =>
  match checkPlacement s ctx record with
  | .error e => .error (refuse s e.code e.message (some ctx.key))
  | .ok () =>
  let existing := s.placements[record.id]?
  if existing.any fun old => publishedDigest old = publishedDigest record then
    .ok (finish s clock ctx check.authority .duplicate
      (.ofString "identical placement re-publication was suppressed"))
  else if check.duplicateSequence then
    .error (refuse s .conflict
      (.ofString "sequence " ++ ctx.sequence.toText ++
        .ofString " was already accepted with different placement content")
      (some ctx.key))
  else if existing.any fun old => old.generation.newerThan record.generation then
    .ok (finish s clock ctx check.authority .superseded
      (.ofString "stored placement generation " ++
        (existing.map (·.generation.toText)).getD [] ++
        .ofString " is newer than the published generation " ++ record.generation.toText ++
        .ofString "; the newer record was not overwritten"))
  else if existing.any fun old => old.generation = record.generation then
    .error (refuse s .conflict
      (.ofString "placement content changed without advancing the placement generation")
      (some ctx.key))
  else if s.bounds.maxPlacementHistory ≤ s.placements.size then
    .error (refuse s.countBoundsRejection .boundExceeded
      (.ofString "placement history bound is exhausted") (some ctx.key))
  else if s.latestPlacementIsNewer record then
    .ok (finish (s.recordPlacement clock ctx record) clock ctx check.authority .superseded
      (.ofString "placement stored as history; the newer placement remains current"))
  else
    .ok (finish (s.recordPlacement clock ctx record) clock ctx check.authority .applied)

/-! ## Migrations -/

/-- The references of a migration that must be registered, in order. -/
def checkMigration (s : Impl) (ctx : PublicationContext) (record : MigrationRecord) : Status := do
  failIf (record.federation != ctx.federation) .invalidArgument
    "migration names a different federation than the publication context"
  failIf (!s.workloads.contains record.workload) .notFound
    "migration references an unregistered workload"
  failIf (!s.clusters.contains record.source || !s.clusters.contains record.destination) .notFound
    "migration references an unregistered cluster"

/-- The migration that was superseded is no longer current. -/
def MigrationRecord.superseded (record : MigrationRecord) : MigrationRecord :=
  if record.currentness = .current then { record with currentness := .stale } else record

/-- The migration as it is stored. -/
def MigrationRecord.accept (record : MigrationRecord) (clock : Clock) (ctx : PublicationContext) :
    MigrationRecord :=
  { record with stamp := stampFor clock ctx, currentness := .current }

/-- The state after a migration was recorded. -/
def Impl.recordMigration (s : Impl) (clock : Clock) (ctx : PublicationContext)
    (record : MigrationRecord) : Impl :=
  let t := s.store .migration record.id (record.accept clock ctx)
  let t :=
    if record.supersedes.empty then t
    else
      { t with
        migrations := t.migrations.modify record.supersedes MigrationRecord.superseded
        supersededMigrations := t.supersededMigrations.insert record.workload record.supersedes }
  { t with
    latestMigration := t.latestMigration.insert record.workload record.id
    snapshotGeneration := t.snapshotGeneration.next
    stats := { t.stats with migrationsRecorded := t.stats.migrationsRecorded + 1 } }

/-- `Impl::publish_migration`. -/
def publishMigration (s : Impl) (clock : Clock) (ctx : PublicationContext)
    (record : MigrationRecord) : Outcome := do
  let check ← checkAuthority s ctx
  match checkFederation s ctx with
  | .error e => .error (refuseFederation s ctx e)
  | .ok () =>
  match record.validate with
  | .error e => .error (refuseStatus s ctx e)
  | .ok () =>
  match checkMigration s ctx record with
  | .error e => .error (refuse s e.code e.message (some ctx.key))
  | .ok () =>
  let existing := s.migrations[record.id]?
  if existing.any fun old => publishedDigest old = publishedDigest record then
    .ok (finish s clock ctx check.authority .duplicate
      (.ofString "identical migration re-publication was suppressed"))
  else if check.duplicateSequence then
    .error (refuse s .conflict
      (.ofString "sequence " ++ ctx.sequence.toText ++
        .ofString " was already accepted with different migration content")
      (some ctx.key))
  else if existing.any fun old => old.generation.newerThan record.generation then
    .ok (finish s clock ctx check.authority .superseded
      (.ofString "stored migration generation " ++
        (existing.map (·.generation.toText)).getD [] ++
        .ofString " is newer than the published generation " ++ record.generation.toText))
  else if existing.any fun old => old.generation = record.generation then
    .error (refuse s .conflict
      (.ofString "migration content changed without advancing the migration generation")
      (some ctx.key))
  else if s.bounds.maxMigrationHistory ≤ s.migrations.size then
    .error (refuse s.countBoundsRejection .boundExceeded
      (.ofString "migration history bound is exhausted") (some ctx.key))
  else
    .ok (finish (s.recordMigration clock ctx record) clock ctx check.authority .applied)

/-! ## Migration stages -/

/-- The event a stage publication appends. -/
def MigrationStageEvent.ofPublication (clock : Clock) (ctx : PublicationContext)
    (generation : MigrationGeneration) (stage : MigrationStage) (detail : Text) :
    MigrationStageEvent :=
  { generation
    stage
    sequence := ctx.sequence
    observedAt := ctx.observedOr clock.event
    precision := ctx.precision
    evidenceClass := ctx.evidenceClass
    detail }

/-- The switch at the end of `publish_migration_stage`: `RevalidationRequired` sets the flag and
    leaves the outcome. -/
def MigrationRecord.enter (record : MigrationRecord) : MigrationStage → MigrationRecord
  | .committed => { record with stage := .committed, outcome := .committed }
  | .rolledBack => { record with stage := .rolledBack, outcome := .rolledBack }
  | .failed => { record with stage := .failed, outcome := .failed }
  | .outcomeUnknown => { record with stage := .outcomeUnknown, outcome := .unknown }
  | .revalidationRequired =>
    { record with stage := .revalidationRequired, revalidationPending := true }
  | stage => { record with stage, outcome := .inProgress }

/-- What an accepted stage event writes to the migration. -/
def MigrationRecord.append (record : MigrationRecord) (clock : Clock) (ctx : PublicationContext)
    (event : MigrationStageEvent) : MigrationRecord :=
  { ({ record with stageEvents := record.stageEvents ++ [event] } : MigrationRecord).enter
      event.stage with
    stamp := stampFor clock ctx
    currentness := .current }

/-- Does the publication's sequence fail to follow the last recorded event? -/
def MigrationRecord.sequenceRegresses (record : MigrationRecord) (sequence : Sequence) : Bool :=
  match record.lastEvent with
  | some last => decide (sequence ≤ last.sequence)
  | none => false

/-- `Impl::publish_migration_stage`. -/
def publishMigrationStage (s : Impl) (clock : Clock) (ctx : PublicationContext)
    (migration : MigrationId) (generation : MigrationGeneration) (stage : MigrationStage)
    (detail : Text) : Outcome := do
  let check ← checkAuthority s ctx
  match s.migrations[migration]? with
  | none => .error (refuse s .notFound (.ofString "migration is not registered") (some ctx.key))
  | some record =>
    if !generation.isSet then
      .error (refuse s .invalidArgument
        (.ofString "migration stage event requires a generation") (some ctx.key))
    else if generation.olderThan record.generation then
      .error (refuse s .staleGeneration
        (.ofString "stage event carries migration generation " ++ generation.toText ++
          .ofString " which is older than the current migration generation " ++
          record.generation.toText ++
          .ofString "; late events from a superseded generation are refused")
        (some ctx.key))
    else if generation.newerThan record.generation then
      .error (refuse s .invalidArgument
        (.ofString "stage event carries migration generation " ++ generation.toText ++
          .ofString " which has not been registered for this migration")
        (some ctx.key))
    else if record.currentness = .retired then
      .error (refuse s .conflict (.ofString "migration is retired") (some ctx.key))
    else if s.supersededMigrations[record.workload]? = some migration then
      .error (refuse s .staleGeneration
        (.ofString "this migration was superseded and no longer accepts stage events")
        (some ctx.key))
    else if record.sequenceRegresses ctx.sequence then
      .error (refuse s.countSequenceRegression .sequenceRegression
        (.ofString "stage event sequence " ++ ctx.sequence.toText ++
          .ofString " does not follow the last recorded sequence " ++
          (record.lastEvent.map (·.sequence.toText)).getD [])
        (some ctx.key))
    else if !MigrationStage.isAcceptableEvent record.stage stage then
      .error (refuse s .invalidTransition
        (.ofString "illegal migration stage transition " ++ record.stage.toText ++
          .ofString " -> " ++ stage.toText)
        (some ctx.key))
    else if record.stage.isTerminal then
      if record.stage = stage then
        .ok (finish s clock ctx check.authority .duplicate
          (.ofString "terminal migration stage re-published; the commit is recorded once"))
      else
        .error (refuse s .invalidTransition
          (.ofString "migration is already terminal at stage " ++ record.stage.toText)
          (some ctx.key))
    else if maxStageEventsPerMigration ≤ record.stageEvents.length then
      .error (refuse s.countBoundsRejection .boundExceeded
        (.ofString "migration stage history bound is exhausted") (some ctx.key))
    else
      let event := MigrationStageEvent.ofPublication clock ctx generation stage detail
      .ok (finish (s.store .migration migration (record.append clock ctx event)).advanceSnapshot
        clock ctx check.authority .applied)

/-! ## Portability -/

/-- A stored assessment that is newer than the published one. The published one is compared by
    the stamp it came with. -/
def PortabilityAssessment.newerThan (stored record : PortabilityAssessment)
    (ctx : PublicationContext) : Bool :=
  decide (record.stamp.observedAt < stored.stamp.observedAt) ||
    (stored.stamp.observedAt == record.stamp.observedAt &&
      decide (ctx.sequence < stored.stamp.sequence))

/-- The assessment as it is stored. -/
def PortabilityAssessment.accept (record : PortabilityAssessment) (clock : Clock)
    (ctx : PublicationContext) : PortabilityAssessment :=
  { record with
    stamp := stampFor clock ctx
    currentness := .current
    federation := if record.federation.empty then ctx.federation else record.federation }

/-- `Impl::publish_portability`. -/
def publishPortability (s : Impl) (clock : Clock) (ctx : PublicationContext)
    (record : PortabilityAssessment) : Outcome := do
  let check ← checkAuthority s ctx
  match record.validate with
  | .error e => .error (refuseStatus s ctx e)
  | .ok () =>
  if !s.workloads.contains record.workload then
    .error (refuse s .notFound
      (.ofString "portability record references an unregistered workload") (some ctx.key))
  else if !s.clusters.contains record.destination then
    .error (refuse s .notFound
      (.ofString "portability record references an unregistered destination cluster")
      (some ctx.key))
  else
    let key : PortabilityKey := ⟨record.workload, record.destination⟩
    let existing := s.portability[key]?
    if existing.any fun old => old.digest = record.digest then
      .ok (finish s clock ctx check.authority .duplicate
        (.ofString "identical portability assessment was suppressed"))
    else if existing.any fun old => old.newerThan record ctx then
      .ok (finish s clock ctx check.authority .superseded
        (.ofString "a newer portability assessment is already stored for this pair"))
    else if s.bounds.maxPortabilityRecords ≤ s.portability.size ∧ existing = none then
      .error (refuse s.countBoundsRejection .boundExceeded
        (.ofString "portability record bound is exhausted") (some ctx.key))
    else
      .ok (finish (s.store .portability key (record.accept clock ctx)).advanceSnapshot clock ctx
        check.authority .applied)

end FederationObservatory
