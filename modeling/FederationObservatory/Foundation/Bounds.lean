import FederationObservatory.Foundation.Ids

/-!
# Bounds

`bounds.hpp` and `Bounds::validate` (`foundation.cpp`). Every field is a `std::size_t`; nothing
computes with one beyond comparing it, so it is a natural number here.
-/

namespace FederationObservatory

/-! ## Compile-time limits -/

def minEvidencePerFinding : Nat := 1
def maxEvidencePerFinding : Nat := 64
def defaultEvidencePerFinding : Nat := 16
def maxCapabilityEntriesPerPublication : Nat := 512
def maxValueSetEntries : Nat := 32
def maxMetadataBytes : Nat := 64 * 1024
def maxStringFieldBytes : Nat := 4096
def maxFrameBytes : Nat := 1024 * 1024
def minFrameBytes : Nat := 64
def maxQueryResponseBytes : Nat := 8 * 1024 * 1024
def maxSnapshotBytes : Nat := 64 * 1024 * 1024
def maxPersistenceBytes : Nat := 256 * 1024 * 1024
def maxCandidatesPerPlacement : Nat := 4096
def maxStageEventsPerMigration : Nat := 256
def maxClusterPerSite : Nat := 4096
/-- `bounds::kMaxPoolsPerCluster`. -/
def maxPoolsPerCluster : Nat := 1024

/-- `Bounds`, with the source's defaults. -/
structure Bounds where
  maxFederations : Nat := 64
  maxSites : Nat := 4096
  maxClusters : Nat := 16384
  maxAcceleratorClasses : Nat := 4096
  maxRuntimes : Nat := 4096
  maxBackends : Nat := 4096
  maxArtifacts : Nat := 1048576
  maxWorkloads : Nat := 1048576
  maxWorkloadClasses : Nat := 4096
  maxCapabilityEntries : Nat := 1048576
  maxCapacityRecords : Nat := 131072
  maxPlacementHistory : Nat := 1048576
  maxMigrationHistory : Nat := 262144
  maxPortabilityRecords : Nat := 131072
  maxPublishers : Nat := 1024
  maxPublishersPerFederation : Nat := 256
  maxDomains : Nat := 8192
  maxPolicies : Nat := 4096
  maxAggregateFindings : Nat := 262144
  maxMetadataBytes : Nat := FederationObservatory.maxMetadataBytes
  maxFrameBytes : Nat := FederationObservatory.maxFrameBytes
  maxQueryResponseBytes : Nat := FederationObservatory.maxQueryResponseBytes
  maxSnapshotBytes : Nat := FederationObservatory.maxSnapshotBytes
  maxPersistenceBytes : Nat := FederationObservatory.maxPersistenceBytes
  maxEvidencePerFinding : Nat := defaultEvidencePerFinding
  maxThreads : Nat := 64
  maxConnections : Nat := 256
  maxIngestQueueDepth : Nat := 65536
  maxConnectionsPerPublisher : Nat := 4
  maxOutstandingRequestsPerConnection : Nat := 64
  maxHistoryPerFederation : Nat := 1048576
  maxPoolsPerCluster : Nat := 1024
  deriving DecidableEq, Repr

/-- `check_bound_range`. -/
def checkBoundRange (value low high : Nat) (name : String) : Status :=
  failIf (decide (value < low ∨ high < value)) .invalidArgument "bound out of range"
    (.ofString name)

/-- `check_bound_nonzero`. -/
def checkBoundNonzero (value : Nat) (name : String) : Status :=
  failIf (value == 0) .invalidArgument "bound must be non-zero" (.ofString name)

namespace Bounds

/-- The range checks of `Bounds::validate`, in order. -/
def ranges (b : Bounds) : List (Nat × Nat × Nat × String) :=
  [(b.maxFrameBytes, minFrameBytes, FederationObservatory.maxFrameBytes, "max_frame_bytes"),
   (b.maxMetadataBytes, 256, FederationObservatory.maxMetadataBytes, "max_metadata_bytes"),
   (b.maxQueryResponseBytes, 1024, FederationObservatory.maxQueryResponseBytes,
     "max_query_response_bytes"),
   (b.maxSnapshotBytes, 1024, FederationObservatory.maxSnapshotBytes, "max_snapshot_bytes"),
   (b.maxPersistenceBytes, 1024, FederationObservatory.maxPersistenceBytes,
     "max_persistence_bytes"),
   (b.maxEvidencePerFinding, minEvidencePerFinding, FederationObservatory.maxEvidencePerFinding,
     "max_evidence_per_finding"),
   (b.maxThreads, 1, 1024, "max_threads"),
   (b.maxConnections, 1, 65536, "max_connections"),
   (b.maxIngestQueueDepth, 1, 16777216, "max_ingest_queue_depth"),
   (b.maxPublishers, 1, 1048576, "max_publishers"),
   (b.maxConnectionsPerPublisher, 1, 1024, "max_connections_per_publisher"),
   (b.maxOutstandingRequestsPerConnection, 1, 65536,
     "max_outstanding_requests_per_connection")]

/-- The non-zero checks of `Bounds::validate`, in order. -/
def nonZero (b : Bounds) : List (Nat × String) :=
  [(b.maxFederations, "max_federations"),
   (b.maxSites, "max_sites"),
   (b.maxClusters, "max_clusters"),
   (b.maxAcceleratorClasses, "max_accelerator_classes"),
   (b.maxRuntimes, "max_runtimes"),
   (b.maxBackends, "max_backends"),
   (b.maxArtifacts, "max_artifacts"),
   (b.maxWorkloads, "max_workloads"),
   (b.maxWorkloadClasses, "max_workload_classes"),
   (b.maxCapabilityEntries, "max_capability_entries"),
   (b.maxCapacityRecords, "max_capacity_records"),
   (b.maxPlacementHistory, "max_placement_history"),
   (b.maxMigrationHistory, "max_migration_history"),
   (b.maxPortabilityRecords, "max_portability_records"),
   (b.maxPublishersPerFederation, "max_publishers_per_federation"),
   (b.maxDomains, "max_domains"),
   (b.maxPolicies, "max_policies"),
   (b.maxAggregateFindings, "max_aggregate_findings"),
   (b.maxHistoryPerFederation, "max_history_per_federation")]

/-- `Bounds::validate`. -/
def validate (b : Bounds) : Status := do
  b.ranges.forM fun (value, low, high, name) => checkBoundRange value low high name
  b.nonZero.forM fun (value, name) => checkBoundNonzero value name

/-- `default_bounds`. -/
def default : Bounds := {}

/-- The defaults pass their own check. -/
theorem validate_default : default.validate = .ok () := by decide

/-- What a range check of `Bounds::validate` gives. -/
theorem within_of_validate {b : Bounds} (h : b.validate = .ok ()) {value low high : Nat}
    {name : String} (hmem : (value, low, high, name) ∈ b.ranges) : low ≤ value ∧ value ≤ high := by
  obtain ⟨_, hranges, -⟩ := bind_eq_ok.mp h
  have hcheck := forM_eq_ok.mp hranges (value, low, high, name) hmem
  simp only [checkBoundRange, failIf_eq_ok, decide_eq_false_iff_not] at hcheck
  omega

/-- Validated bounds keep the persistence file within the compile-time limit. -/
theorem maxPersistenceBytes_le {b : Bounds} (h : b.validate = .ok ()) :
    b.maxPersistenceBytes ≤ FederationObservatory.maxPersistenceBytes := by
  have hmem : (b.maxPersistenceBytes, 1024, FederationObservatory.maxPersistenceBytes,
      "max_persistence_bytes") ∈ b.ranges := by
    simp [ranges]
  exact (within_of_validate h hmem).2

/-- Validated bounds keep the largest frame between the compile-time limits. -/
theorem maxFrameBytes_within {b : Bounds} (h : b.validate = .ok ()) :
    minFrameBytes ≤ b.maxFrameBytes ∧
      b.maxFrameBytes ≤ FederationObservatory.maxFrameBytes := by
  have hmem : (b.maxFrameBytes, minFrameBytes, FederationObservatory.maxFrameBytes,
      "max_frame_bytes") ∈ b.ranges := by
    simp [ranges]
  exact within_of_validate h hmem

end Bounds

end FederationObservatory
