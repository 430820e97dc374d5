import FederationObservatory.StateStore.Image

/-!
# The observatory's state

The declarations of `observatory.hpp` and the data members of `FederationObservatory::Impl`
(`observatory.cpp`): publisher authorities, the fourteen collections, the derived indices, the
coordinator epoch and the snapshot generation. One mutex protects all of it, so an operation is a
function of this state.
-/

namespace FederationObservatory

/-! ## Publications -/

/-- `PublicationContext`: the authority context attached to every publication. -/
structure PublicationContext where
  publisher : PublisherId := {}
  boot : BootGeneration := {}
  coordinatorEpoch : CoordinatorEpoch := {}
  federation : FederationId := {}
  federationGeneration : FederationGeneration := {}
  sequence : Sequence := {}
  observedAt : TimestampNanos := 0
  precision : Precision := .exact
  evidenceClass : EvidenceClass := .unknown
  provenance : Provenance := .unknown
  evidenceGeneration : EvidenceGeneration := {}
  deriving DecidableEq, Repr

/-- `PublicationContext::validate`. -/
def PublicationContext.validate (ctx : PublicationContext) : Status := do
  failIf ctx.publisher.empty .invalidArgument "publication context has no publisher"
  failIf (!ctx.boot.isSet) .invalidArgument "publication context has no publisher boot identity"
  failIf (!ctx.coordinatorEpoch.isSet) .invalidArgument
    "publication context has no coordinator epoch"
  failIf ctx.federation.empty .invalidArgument "publication context has no federation"
  failIf ctx.sequence.isZero .invalidArgument
    "publication sequence must be at least 1; sequence 0 is reserved"
  failIf (!isValidIdentifier ctx.publisher.value || !isValidIdentifier ctx.federation.value)
    .invalidArgument "publication context carries a malformed identifier"

/-- `IngestDisposition`: what the runtime did with an accepted publication. -/
inductive IngestDisposition where
  | applied | duplicate | superseded | deferred
  deriving DecidableEq, Repr

/-- `IngestResult`. -/
structure IngestResult where
  disposition : IngestDisposition := .applied
  code : ErrorCode := .ok
  detail : Text := []
  watermark : Sequence := {}
  sequenceGap : UInt64 := 0
  deriving DecidableEq, Repr

/-- The readings of `now_unix_nanos` an operation may take: for a stamp, when it finishes, and
    for a stage event. -/
structure Clock where
  stamp : TimestampNanos := 0
  finish : TimestampNanos := 0
  event : TimestampNanos := 0
  deriving DecidableEq, Repr

/-- `ctx.observed_at != 0 ? ctx.observed_at : now_unix_nanos()`. -/
def PublicationContext.observedOr (ctx : PublicationContext) (now : TimestampNanos) :
    TimestampNanos :=
  if ctx.observedAt ≠ 0 then ctx.observedAt else now

/-- The `ObservatoryStats` counters the modelled operations write. -/
structure ObservatoryStats where
  publicationsApplied : Nat := 0
  publicationsDuplicate : Nat := 0
  publicationsSuperseded : Nat := 0
  publicationsRejected : Nat := 0
  publicationsFenced : Nat := 0
  sequenceGapsObserved : Nat := 0
  sequenceRegressionsRejected : Nat := 0
  stateSaves : Nat := 0
  stateLoads : Nat := 0
  boundsRejections : Nat := 0
  placementsRecorded : Nat := 0
  migrationsRecorded : Nat := 0
  clusterRetirements : Nat := 0
  publisherRegistrations : Nat := 0
  publisherFences : Nat := 0
  deriving DecidableEq, Repr

/-! ## Publishers -/

/-- `PublisherKey`: a publisher and one of its boot identities. -/
@[ext] structure PublisherKey where
  publisher : PublisherId := {}
  boot : BootGeneration := {}
  deriving DecidableEq, Repr

namespace PublisherKey

/-- `std::pair` is compared lexicographically. -/
instance : Ord PublisherKey where
  compare a b := (compare a.publisher b.publisher).then (compare a.boot b.boot)

theorem compare_eq_lex : (compare : PublisherKey → PublisherKey → Ordering) =
    compareLex (compareOn publisher) (compareOn boot) := rfl

instance : Std.TransOrd PublisherKey := by
  unfold Std.TransOrd
  rw [compare_eq_lex]
  infer_instance

instance : Std.LawfulEqOrd PublisherKey where
  eq_of_compare {a b} h := by
    obtain ⟨hp, hb⟩ := Ordering.then_eq_eq.mp h
    exact PublisherKey.ext (Std.LawfulEqOrd.eq_of_compare hp) (Std.LawfulEqOrd.eq_of_compare hb)

end PublisherKey

/-- The boot identity a context names. -/
def PublicationContext.key (ctx : PublicationContext) : PublisherKey := ⟨ctx.publisher, ctx.boot⟩

/-- `PublisherAuthority`. -/
structure PublisherAuthority where
  publisher : PublisherId := {}
  boot : BootGeneration := {}
  epoch : CoordinatorEpoch := {}
  federation : FederationId := {}
  watermark : Sequence := {}
  registeredAt : TimestampNanos := 0
  lastPublicationAt : TimestampNanos := 0
  accepted : Nat := 0
  rejected : Nat := 0
  duplicates : Nat := 0
  gaps : Nat := 0
  live : Bool := false
  fenced : Bool := false
  fencedReason : Text := []
  evidenceClass : EvidenceClass := .unknown
  deriving DecidableEq, Repr

/-! ## State -/

/-- The fourteen collections. -/
structure Collections where
  federations : Std.TreeMap FederationId FederationRecord := ∅
  sites : Std.TreeMap SiteId SiteRecord := ∅
  clusters : Std.TreeMap ClusterId ClusterRecord := ∅
  acceleratorClasses : Std.TreeMap AcceleratorClassId AcceleratorClassRecord := ∅
  runtimes : Std.TreeMap RuntimeId RuntimeRecord := ∅
  backends : Std.TreeMap BackendId BackendRecord := ∅
  domains : Std.TreeMap DomainId DomainRecord := ∅
  policies : Std.TreeMap PolicyId PolicyRecord := ∅
  artifacts : Std.TreeMap ArtifactId ArtifactRecord := ∅
  workloadClasses : Std.TreeMap WorkloadClassId WorkloadClassRecord := ∅
  workloads : Std.TreeMap WorkloadId WorkloadRecord := ∅
  placements : Std.TreeMap PlacementId PlacementRecord := ∅
  migrations : Std.TreeMap MigrationId MigrationRecord := ∅
  portability : Std.TreeMap PortabilityKey PortabilityAssessment := ∅

/-- The indices derived from the placements and migrations. -/
structure Indices where
  latestPlacement : Std.TreeMap WorkloadId PlacementId := ∅
  latestMigration : Std.TreeMap WorkloadId MigrationId := ∅
  supersededMigrations : Std.TreeMap WorkloadId MigrationId := ∅

/-- `FederationObservatory::Impl`. -/
structure Impl extends Collections, Indices where
  bounds : Bounds := .default
  publishers : Std.TreeMap PublisherKey PublisherAuthority := ∅
  saveSequence : UInt64 := 0
  coordinatorEpoch : CoordinatorEpoch := ⟨1⟩
  snapshotGeneration : SnapshotGeneration := ⟨1⟩
  aggregateFindings : List AggregateFindingRecord := []
  stats : ObservatoryStats := {}

/-- `Impl::Impl`: bounds that do not validate are replaced by the defaults. -/
def Impl.new (bounds : Bounds) : Impl :=
  { bounds := match bounds.validate with
      | .ok () => bounds
      | .error _ => .default }

theorem Impl.validate_bounds_new (bounds : Bounds) : (Impl.new bounds).bounds.validate = .ok () := by
  cases h : bounds.validate with
  | ok u => simp [Impl.new, h]
  | error e => simp [Impl.new, h, Bounds.validate_default]

/-! ## Collections by kind -/

namespace Collections

def table (c : Collections) : (k : RecordKind) → k.Table
  | .federation => c.federations
  | .site => c.sites
  | .cluster => c.clusters
  | .acceleratorClass => c.acceleratorClasses
  | .runtime => c.runtimes
  | .backend => c.backends
  | .domain => c.domains
  | .policy => c.policies
  | .artifact => c.artifacts
  | .workloadClass => c.workloadClasses
  | .workload => c.workloads
  | .placement => c.placements
  | .migration => c.migrations
  | .portability => c.portability

def setTable (c : Collections) : (k : RecordKind) → k.Table → Collections
  | .federation, t => { c with federations := t }
  | .site, t => { c with sites := t }
  | .cluster, t => { c with clusters := t }
  | .acceleratorClass, t => { c with acceleratorClasses := t }
  | .runtime, t => { c with runtimes := t }
  | .backend, t => { c with backends := t }
  | .domain, t => { c with domains := t }
  | .policy, t => { c with policies := t }
  | .artifact, t => { c with artifacts := t }
  | .workloadClass, t => { c with workloadClasses := t }
  | .workload, t => { c with workloads := t }
  | .placement, t => { c with placements := t }
  | .migration, t => { c with migrations := t }
  | .portability, t => { c with portability := t }

@[simp] theorem table_setTable_self (c : Collections) (k : RecordKind) (t : k.Table) :
    (c.setTable k t).table k = t := by
  cases k <;> rfl

theorem table_setTable_of_ne (c : Collections) {k k' : RecordKind} (t : k.Table) (h : k' ≠ k) :
    (c.setTable k t).table k' = c.table k' := by
  cases k <;> cases k' <;> first | rfl | exact absurd rfl h

/-- Two collections with equal tables are equal. -/
theorem ext_table {c d : Collections} (h : ∀ k, c.table k = d.table k) : c = d := by
  cases c
  cases d
  congr
  · exact h .federation
  · exact h .site
  · exact h .cluster
  · exact h .acceleratorClass
  · exact h .runtime
  · exact h .backend
  · exact h .domain
  · exact h .policy
  · exact h .artifact
  · exact h .workloadClass
  · exact h .workload
  · exact h .placement
  · exact h .migration
  · exact h .portability

end Collections

end FederationObservatory
