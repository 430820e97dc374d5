import FederationObservatory.Observatory.Durable

/-!
# Snapshots and queries

A snapshot (`build_snapshot`, `observatory.cpp`; the accessors are in `snapshot.cpp`) and the
queries that read one: `explain_latest_placement` and the supersession `migration_analysis` reports.
A snapshot accounts a fixed number of bytes for a record and takes no further records once the
budget is spent, so a query may not see everything that is stored.
-/

namespace FederationObservatory

open Sorting
open StoredRecord (key)

/-! ## Snapshots -/

/-- The bytes `account` adds for one record. -/
def snapshotRecordBytes : Nat := 192

/-- What `build_snapshot` keeps count of while it appends. -/
structure SnapshotAccount where
  estimate : Nat := 0
  compatible : Bool := true
  truncated : Bool := false
  deriving DecidableEq, Repr

/-- `account(1)`, after a record was pushed. -/
def SnapshotAccount.add (account : SnapshotAccount) (budget : Nat) : SnapshotAccount :=
  if account.estimate + snapshotRecordBytes ≤ budget then
    { account with estimate := account.estimate + snapshotRecordBytes }
  else
    { estimate := account.estimate + snapshotRecordBytes, compatible := false, truncated := true }

/-- The lambda `append`: the records that are included, and the account after them. -/
def appendRecords {ρ : Type} (budget : Nat) (belongs : ρ → Bool) :
    List ρ → SnapshotAccount → List ρ × SnapshotAccount
  | [], account => ([], account)
  | record :: records, account =>
    if belongs record && account.compatible then
      let rest := appendRecords budget belongs records (account.add budget)
      (record :: rest.1, rest.2)
    else appendRecords budget belongs records account

/-- Does a record belong to a snapshot that is restricted to a federation? The empty federation
    restricts nothing, and records without a federation always belong. -/
def RecordKind.belongs (restrictTo : FederationId) : (k : RecordKind) → k.Record → Bool
  | .federation, r => restrictTo.empty || r.id == restrictTo
  | .site, r => restrictTo.empty || r.federation == restrictTo
  | .cluster, r => restrictTo.empty || r.federation == restrictTo
  | .domain, r => restrictTo.empty || r.federation == restrictTo
  | .placement, r => restrictTo.empty || r.federation == restrictTo
  | .migration, r => restrictTo.empty || r.federation == restrictTo
  | .portability, r => restrictTo.empty || r.federation.empty || r.federation == restrictTo
  | _, _ => true

/-- The order in which the collections are appended. -/
def snapshotOrder : List RecordKind :=
  [.federation, .site, .cluster, .acceleratorClass, .runtime, .backend, .domain, .policy, .artifact,
   .workloadClass, .workload, .placement, .migration, .portability]

/-- Append one collection. -/
def Impl.appendTable (s : Impl) (restrictTo : FederationId) (k : RecordKind)
    (account : SnapshotAccount) : List k.Record × SnapshotAccount :=
  appendRecords s.bounds.maxSnapshotBytes (k.belongs restrictTo) (s.table k).values account

/-- The account after some collections were appended. -/
def Impl.snapshotAccount (s : Impl) (restrictTo : FederationId) (kinds : List RecordKind) :
    SnapshotAccount :=
  kinds.foldl (fun account k => (s.appendTable restrictTo k account).2) {}

/-- What one collection of the snapshot holds, in the order of its identifiers. The assessments are
    in the order of their pairs already. -/
def Impl.includedRecords (s : Impl) (restrictTo : FederationId) (k : RecordKind) : List k.Record :=
  stableSort (fun a b => less (key a) (key b))
    (s.appendTable restrictTo k
      (s.snapshotAccount restrictTo (snapshotOrder.takeWhile (· ≠ k)))).1

/-- `PublisherStatus`. -/
structure PublisherStatus where
  id : PublisherId := {}
  boot : BootGeneration := {}
  coordinatorEpoch : CoordinatorEpoch := {}
  federation : FederationId := {}
  watermark : Sequence := {}
  registeredAt : TimestampNanos := 0
  lastPublicationAt : TimestampNanos := 0
  publicationsAccepted : Nat := 0
  publicationsRejected : Nat := 0
  duplicatesSuppressed : Nat := 0
  sequenceGaps : Nat := 0
  live : Bool := false
  fenced : Bool := false
  fencedReason : Text := []
  evidenceClass : EvidenceClass := .unknown
  deriving DecidableEq, Repr

/-- The status a snapshot shows of an authority. -/
def PublisherAuthority.status (authority : PublisherAuthority) : PublisherStatus :=
  { id := authority.publisher
    boot := authority.boot
    coordinatorEpoch := authority.epoch
    federation := authority.federation
    watermark := authority.watermark
    registeredAt := authority.registeredAt
    lastPublicationAt := authority.lastPublicationAt
    publicationsAccepted := authority.accepted
    publicationsRejected := authority.rejected
    duplicatesSuppressed := authority.duplicates
    sequenceGaps := authority.gaps
    live := authority.live
    fenced := authority.fenced
    fencedReason := authority.fencedReason
    evidenceClass := authority.evidenceClass }

/-- `SnapshotHealth`. -/
structure SnapshotHealth where
  clustersTotal : Nat
  clustersCurrent : Nat
  clustersStale : Nat
  clustersRevalidationRequired : Nat
  clustersRetired : Nat
  clustersUnknown : Nat
  sitesTotal : Nat
  sitesCurrent : Nat
  publishersTotal : Nat
  publishersLive : Nat
  publishersFenced : Nat
  revalidationPending : Bool
  degraded : Bool
  deriving DecidableEq, Repr

/-- The census at the end of `build_snapshot`. -/
def SnapshotHealth.census (clusters : List ClusterRecord) (sites : List SiteRecord)
    (publishers : List PublisherStatus) : SnapshotHealth :=
  let counted := fun c => clusters.countP fun cluster => cluster.currentness = c
  { clustersTotal := clusters.length
    clustersCurrent := counted .current
    clustersStale := counted .stale
    clustersRevalidationRequired := counted .revalidationRequired
    clustersRetired := counted .retired
    clustersUnknown := counted .unknown
    sitesTotal := sites.length
    sitesCurrent := sites.countP fun site => site.currentness = .current
    publishersTotal := publishers.length
    publishersLive := publishers.countP (·.live)
    publishersFenced := publishers.countP (·.fenced)
    revalidationPending := decide (0 < counted .revalidationRequired)
    degraded := decide (counted .current ≠ clusters.length ∨ 0 < counted .revalidationRequired) }

/-- What a snapshot says it is about, and how strong its evidence is. -/
structure SnapshotSubject where
  federation : FederationId := {}
  generation : FederationGeneration := {}
  precision : Precision := .unknown
  evidenceClass : EvidenceClass := .unknown
  deriving DecidableEq, Repr

/-- A snapshot about one federation takes its stamp. -/
def FederationRecord.subject (record : FederationRecord) (id : FederationId) : SnapshotSubject :=
  { federation := id
    generation := record.generation
    precision := record.stamp.precision
    evidenceClass := record.stamp.evidenceClass }

/-- The subject before the clusters are looked at: the only federation, the one the snapshot is
    restricted to, or several. -/
def Impl.snapshotSubject (s : Impl) (restrictTo : FederationId) : SnapshotSubject :=
  if restrictTo.empty then
    match s.federations.toList with
    | [(id, record)] => record.subject id
    | _ => { precision := .derived, evidenceClass := .unknown }
  else
    match s.federations[restrictTo]? with
    | some record => record.subject restrictTo
    | none => {}

/-- The clusters weaken an unrestricted snapshot. -/
def SnapshotSubject.weaken (subject : SnapshotSubject) (restrictTo : FederationId) :
    List ClusterRecord → SnapshotSubject
  | [] => subject
  | first :: rest =>
    let weakestClass := (first :: rest).foldl
      (fun (cls : EvidenceClass) cluster => cls.weaker cluster.stamp.evidenceClass)
      first.stamp.evidenceClass
    let weakestPrecision := (first :: rest).foldl
      (fun (precision : Precision) cluster => precision.weakest cluster.stamp.precision)
      first.stamp.precision
    if restrictTo.empty then
      { subject with
        precision := subject.precision.weakest weakestPrecision
        evidenceClass := subject.evidenceClass.weaker weakestClass }
    else subject

/-- `FederationSnapshot`, but for the time it was taken. -/
structure FederationSnapshot extends SnapshotSubject where
  coordinatorEpoch : CoordinatorEpoch
  snapshotGeneration : SnapshotGeneration
  records : (k : RecordKind) → List k.Record
  publishers : List PublisherStatus
  health : SnapshotHealth
  evidence : EvidenceList
  truncated : Bool
  recordsTotal : Nat
  recordsIncluded : Nat

/-- `Impl::build_snapshot`. -/
def buildSnapshot (s : Impl) (restrictTo : FederationId) : FederationSnapshot :=
  let subject := (s.snapshotSubject restrictTo).weaken restrictTo
    (s.includedRecords restrictTo .cluster)
  let truncated := (s.snapshotAccount restrictTo snapshotOrder).truncated
  let publishers := s.publishers.values.map PublisherAuthority.status
  { subject with
    coordinatorEpoch := s.coordinatorEpoch
    snapshotGeneration := s.snapshotGeneration
    records := s.includedRecords restrictTo
    publishers
    health := .census (s.includedRecords restrictTo .cluster) (s.includedRecords restrictTo .site)
      publishers
    evidence :=
      if truncated then
        ({} : EvidenceList).addIgnoringStatus .derivedAnalysis subject.evidenceClass
          (.ofString "snapshot") .derived
          (.ofString ("snapshot truncated at the configured snapshot byte bound; the federation " ++
            "is NOT fully represented"))
      else {}
    truncated
    recordsTotal := (snapshotOrder.map fun k => (s.table k).size).sum + s.publishers.size
    recordsIncluded := (snapshotOrder.map fun k => (s.includedRecords restrictTo k).length).sum }

/-- `find_by_id`: the first record that is not below the identifier, if it has the identifier. -/
def FederationSnapshot.find (snapshot : FederationSnapshot) (k : RecordKind) [DecidableEq k.Key]
    (id : k.Key) : Option k.Record :=
  ((snapshot.records k).find? fun record => !less (key record) id).filter fun record =>
    key record = id

/-! ## Placements -/

/-- One round of the loop of `explain_latest_placement`. -/
def laterCurrentPlacement (workload : WorkloadId) (latest : Option PlacementRecord)
    (record : PlacementRecord) : Option PlacementRecord :=
  if record.workload ≠ workload then latest
  else if record.currentness ≠ .current then latest
  else
    match latest with
    | none => some record
    | some l => if l.stamp.observedAt ≤ record.stamp.observedAt then some record else some l

/-- The loop of `explain_latest_placement`: of the current placements of a workload, the last one
    with the latest observation. -/
def latestCurrentPlacement (workload : WorkloadId) (placements : List PlacementRecord) :
    Option PlacementRecord :=
  placements.foldl (laterCurrentPlacement workload) none

/-- `FederationObservatory::explain_latest_placement`, over what `explain_placement` makes of the
    placement it is given. -/
def explainLatestPlacement {ε : Type} (explainPlacement : PlacementId → Result ε) (s : Impl)
    (workload : WorkloadId) : Result ε :=
  match latestCurrentPlacement workload ((buildSnapshot s {}).records .placement) with
  | none =>
    .error ⟨.notFound, .ofString "no current placement is registered for this workload",
      workload.value⟩
  | some latest => explainPlacement latest.id

/-! ## Migrations -/

/-- `superseded_by` in `migration_analysis`: the first migration of the workload that names the
    record. -/
def FederationSnapshot.supersededBy (snapshot : FederationSnapshot) (record : MigrationRecord) :
    MigrationId :=
  match (snapshot.records .migration).find? fun candidate : MigrationRecord =>
    decide (candidate.workload = record.workload ∧ candidate.supersedes = record.id) with
  | some candidate => candidate.id
  | none => {}

/-- `MigrationAnalysis::superseded` of `FederationObservatory::migration_analysis`. -/
def migrationAnalysisSuperseded (s : Impl) (migration : MigrationId) : Result Bool :=
  match (buildSnapshot s {}).find .migration migration with
  | none => .error ⟨.notFound, .ofString "migration is not registered", migration.value⟩
  | some record => .ok (!((buildSnapshot s {}).supersededBy record).empty)

end FederationObservatory
