import FederationObservatory.RecordsCodec.Fields
import FederationObservatory.Model.Observations

/-!
# Record encoders and digests

The `encode_*` functions of `records_codec.cpp`, field by field in the order the source writes
them, and `digest_record`: the FNV-1a fingerprint of the encoding.
-/

namespace FederationObservatory

open ByteCodec Encoder

/-! ## Parts of records -/

def encodeEvidence (value : EvidenceRef) : Writer :=
  Put.seq
    [encEnum value.source,
     encEnum value.evidenceClass,
     str value.sourceId,
     encGen value.generation,
     encEnum value.precision,
     str value.detail]

def encodeEvidenceList (value : EvidenceList) : Writer := encCounted encodeEvidence value.items

def encodeCapabilityRef (value : CapabilityRef) : Writer :=
  Put.seq
    [u16 value.key.code,
     encId value.custom]

/-- Signed and unsigned integers share a tag; an unsigned one is clamped to the signed range. -/
def encodeCapabilityValue (value : CapabilityValue) : Writer :=
  match value with
  | .boolean v => Put.seq [u8 1, boolean v]
  | .integer _ | .unsignedInteger _ => Put.seq [u8 2, i64 (value.asInteger 0)]
  | .number v => Put.seq [u8 3, f64 v]
  | .text v => Put.seq [u8 4, str v]
  | .textSet v => Put.seq [u8 5, encTextVector v]
  | .unknown => Put.seq [u8 0]

def encodeCapabilityEntry (value : CapabilityEntry) : Writer :=
  Put.seq
    [encodeCapabilityRef value.key,
     encodeCapabilityValue value.value,
     encEnum value.precision,
     encEnum value.evidenceClass,
     encGen value.generation,
     str value.note]

def encodeCapabilitySet (value : CapabilitySet) : Writer :=
  encCounted encodeCapabilityEntry value.entries

def encodeCapabilityRequirement (value : CapabilityRequirement) : Writer :=
  Put.seq
    [encodeCapabilityRef value.key,
     encEnum value.comparator,
     encodeCapabilityValue value.value,
     boolean value.optional,
     str value.rationale]

def encodeStamp (value : ObservationStamp) : Writer :=
  Put.seq
    [encId value.publisher,
     encGen value.publisherBoot,
     encGen value.coordinatorEpoch,
     encGen value.evidenceGeneration,
     encSequence value.sequence,
     i64 value.observedAt,
     encEnum value.precision,
     encEnum value.evidenceClass,
     encEnum value.provenance]

def encodeLedger (value : CapacityLedger) : Writer :=
  Put.seq
    [u64 value.nominal,
     u64 value.offline,
     u64 value.allocated,
     u64 value.reserved,
     u64 value.draining,
     u64 value.unusable,
     u64 value.idle]

def encodeCapacityPool (value : CapacityPool) : Writer :=
  Put.seq
    [encId value.poolId,
     encEnum value.kind,
     encId value.acceleratorClass,
     str value.customName,
     encodeLedger value.ledger,
     encGen value.generation,
     encEnum value.precision,
     encEnum value.evidenceClass,
     encodeEvidenceList value.evidence]

/-! ## Records -/

def encodeFederation (value : FederationRecord) : Writer :=
  Put.seq
    [encId value.id,
     encGen value.generation,
     str value.displayName,
     encGen value.coordinatorEpoch,
     encIds value.sites,
     encIds value.clusters,
     encIds value.acceleratorClasses,
     encIds value.runtimes,
     encIds value.workloadClasses,
     encId value.policy,
     encGen value.policyGeneration,
     encGen value.compatibilityGeneration,
     encGen value.capacityGeneration,
     encGen value.topologyGeneration,
     encGen value.evidenceGeneration,
     encEnum value.currentness,
     encodeStamp value.stamp,
     encodeEvidenceList value.evidence]

def encodeSite (value : SiteRecord) : Writer :=
  Put.seq
    [encId value.id,
     encGen value.generation,
     encId value.federation,
     str value.region,
     str value.zone,
     str value.failureDomain,
     encIds value.clusters,
     encIds value.policies,
     encEnum value.currentness,
     encodeStamp value.stamp,
     encodeEvidenceList value.evidence]

def encodeAcceleratorClass (value : AcceleratorClassRecord) : Writer :=
  Put.seq
    [encId value.id,
     encGen value.capabilityGeneration,
     str value.vendor,
     str value.family,
     str value.model,
     str value.architecture,
     str value.computeCapability,
     u64 value.memoryBytesPerDevice,
     u32 value.memoryBandwidthGbps,
     encodeCapabilitySet value.capabilities,
     encEnum value.currentness,
     encodeStamp value.stamp,
     encodeEvidenceList value.evidence]

def encodeRuntime (value : RuntimeRecord) : Writer :=
  Put.seq
    [encId value.id,
     encGen value.generation,
     encId value.backend,
     encGen value.backendGeneration,
     encEnum value.kind,
     str value.version,
     str value.abi,
     str value.driverVersion,
     str value.driverAbi,
     str value.compilerVersion,
     encodeCapabilitySet value.capabilities,
     encEnum value.currentness,
     encodeStamp value.stamp,
     encodeEvidenceList value.evidence]

def encodeBackend (value : BackendRecord) : Writer :=
  Put.seq
    [encId value.id,
     encGen value.generation,
     encId value.runtime,
     str value.name,
     str value.version,
     encodeCapabilitySet value.capabilities,
     encEnum value.currentness,
     encodeStamp value.stamp,
     encodeEvidenceList value.evidence]

def encodeDomain (value : DomainRecord) : Writer :=
  Put.seq
    [encId value.id,
     encEnum value.kind,
     encId value.federation,
     encId value.site,
     encIds value.clusters,
     encGen value.topologyGeneration,
     encEnum value.currentness,
     encodeStamp value.stamp,
     encodeEvidenceList value.evidence]

def encodeCluster (value : ClusterRecord) : Writer :=
  Put.seq
    [encId value.id,
     encGen value.generation,
     encGen value.epoch,
     encId value.federation,
     encId value.site,
     encId value.domain,
     str value.failureDomain,
     str value.zone,
     encIds value.acceleratorClasses,
     encIds value.runtimes,
     encIds value.backends,
     encVector CapacityPool.lt encodeCapacityPool value.capacityPools,
     encGen value.topologyGeneration,
     encGen value.capabilityGeneration,
     encGen value.capacityGeneration,
     encGen value.runtimeGeneration,
     encGen value.compatibilityGeneration,
     encGen value.evidenceGeneration,
     encEnum value.readiness,
     encodeCapabilitySet value.capabilities,
     encEnum value.currentness,
     encodeStamp value.stamp,
     encodeEvidenceList value.evidence]

def encodePolicy (value : PolicyRecord) : Writer :=
  Put.seq
    [encId value.id,
     encGen value.generation,
     str value.name,
     encIds value.allowedSites,
     encIds value.deniedSites,
     encIds value.allowedClusters,
     encIds value.deniedClusters,
     encEnum value.allowCrossSite,
     str value.dataResidency,
     str value.isolationRequirement,
     encodeCapabilitySet value.capabilities,
     encEnum value.currentness,
     encodeStamp value.stamp,
     encodeEvidenceList value.evidence]

def encodeArtifact (value : ArtifactRecord) : Writer :=
  Put.seq
    [encId value.id,
     encGen value.generation,
     encEnum value.kind,
     str value.format,
     str value.kernelFormat,
     encTextVector value.targetArchitectures,
     str value.minimumComputeCapability,
     str value.runtimeAbi,
     str value.driverAbi,
     str value.compilerTarget,
     str value.stateFormat,
     u64 value.sizeBytes,
     u64 value.requiredMemoryBytes,
     encodeCapabilitySet value.capabilities,
     encEnum value.currentness,
     encodeStamp value.stamp,
     encodeEvidenceList value.evidence]

def encodeWorkloadClass (value : WorkloadClassRecord) : Writer :=
  Put.seq
    [encId value.id,
     str value.displayName,
     boolean value.prefersAccelerators,
     encEnum value.currentness,
     encodeStamp value.stamp,
     encodeEvidenceList value.evidence]

def encodeWorkload (value : WorkloadRecord) : Writer :=
  Put.seq
    [encId value.id,
     encGen value.generation,
     encId value.workloadClass,
     encId value.artifact,
     encGen value.artifactGeneration,
     u32 value.requiredAccelerators,
     u64 value.requiredMemoryBytesPerAccelerator,
     encIds value.acceptableAcceleratorClasses,
     encCounted encodeCapabilityRequirement value.requirements,
     encId value.policy,
     encGen value.policyGeneration,
     encId value.requiredDomain,
     encEnum value.requiredDomainKind,
     boolean value.requireSingleFailureDomain,
     str value.isolationRequirement,
     str value.portabilityClass,
     encEnum value.currentness,
     encodeStamp value.stamp,
     encodeEvidenceList value.evidence]

def encodeCandidate (value : CandidateObservation) : Writer :=
  Put.seq
    [encId value.cluster,
     encGen value.clusterGeneration,
     encGen value.clusterEpoch,
     encId value.acceleratorClass,
     encEnum value.status,
     u32 value.reasons,
     encEnum value.basis,
     encEnum value.precision,
     encEnum value.evidenceClass,
     str value.detail,
     encodeEvidenceList value.evidence]

def encodePlacement (value : PlacementRecord) : Writer :=
  Put.seq
    [encId value.id,
     encGen value.generation,
     encId value.workload,
     encGen value.workloadGeneration,
     encId value.federation,
     encGen value.federationGeneration,
     encId value.workloadClass,
     encId value.selected,
     encGen value.selectedGeneration,
     encGen value.selectedEpoch,
     encId value.selectedAcceleratorClass,
     u32 value.selectedAcceleratorCount,
     u64 value.selectedMemoryBytes,
     encVector CandidateObservation.lt encodeCandidate value.candidates,
     encEnum value.candidateCompleteness,
     encGen value.policyGeneration,
     encGen value.capacityGeneration,
     encGen value.topologyGeneration,
     encGen value.compatibilityGeneration,
     encGen value.runtimeGeneration,
     boolean value.capacityAvailable,
     encEnum value.compatibilityConstrained,
     encEnum value.topologyConstrained,
     encEnum value.policyConstrained,
     encEnum value.capabilityConstrained,
     encEnum value.affinityConstrained,
     boolean value.fallbackRequired,
     str value.fallbackDetail,
     boolean value.costKnown,
     f64 value.costEstimate,
     str value.sloClass,
     encEnum value.currentness,
     encodeStamp value.stamp,
     encodeEvidenceList value.evidence]

/-- One stage event, as `encode_migration` writes it. -/
def encodeStageEvent (event : MigrationStageEvent) : Writer :=
  Put.seq
    [encGen event.generation,
     encEnum event.stage,
     encSequence event.sequence,
     i64 event.observedAt,
     encEnum event.precision,
     encEnum event.evidenceClass,
     str event.detail]

def encodeMigration (value : MigrationRecord) : Writer :=
  Put.seq
    [encId value.id,
     encGen value.generation,
     encId value.workload,
     encGen value.workloadGeneration,
     encId value.federation,
     encGen value.federationGeneration,
     encId value.workloadClass,
     encId value.supersedes,
     encGen value.supersedesGeneration,
     encId value.source,
     encGen value.sourceGeneration,
     encGen value.sourceEpoch,
     encId value.destination,
     encGen value.destinationGeneration,
     encGen value.destinationEpoch,
     encId value.artifact,
     encGen value.artifactGeneration,
     encId value.sourceRuntime,
     encGen value.sourceRuntimeGeneration,
     encId value.destinationRuntime,
     encGen value.destinationRuntimeGeneration,
     encGen value.compatibilityGeneration,
     encGen value.policyGeneration,
     encGen value.capacityGeneration,
     encGen value.topologyGeneration,
     encEnum value.stage,
     encEnum value.outcome,
     encCounted encodeStageEvent value.stageEvents,
     str value.reason,
     boolean value.reasonObserved,
     boolean value.stateTransferKnown,
     u64 value.stateTransferBytes,
     boolean value.downtimeKnown,
     u64 value.downtimeMicros,
     boolean value.requiresRebuild,
     boolean value.requiresRecompile,
     boolean value.requiresConversion,
     boolean value.requiresStateTranslation,
     boolean value.revalidationPending,
     boolean value.destinationGenerationChanged,
     boolean value.changedEffectiveCapability,
     boolean value.changedSlo,
     str value.fallbackDetail,
     encEnum value.currentness,
     encodeStamp value.stamp,
     encodeEvidenceList value.evidence]

/-- One dimension, as `encode_portability` writes it. -/
def encodeDimension (result : PortabilityDimensionResult) : Writer :=
  Put.seq
    [encEnum result.dimension,
     encEnum result.outcome,
     str result.detail,
     encEnum result.basis,
     encEnum result.precision,
     encEnum result.evidenceClass,
     boolean result.constrainsOverall,
     encodeEvidenceList result.evidence]

def encodePortability (value : PortabilityAssessment) : Writer :=
  Put.seq
    [encId value.workload,
     encGen value.workloadGeneration,
     encId value.artifact,
     encGen value.artifactGeneration,
     encId value.workloadClass,
     encId value.source,
     encGen value.sourceGeneration,
     encGen value.sourceEpoch,
     encId value.destination,
     encGen value.destinationGeneration,
     encGen value.destinationEpoch,
     encId value.sourceRuntime,
     encGen value.sourceRuntimeGeneration,
     encId value.destinationRuntime,
     encGen value.destinationRuntimeGeneration,
     encId value.federation,
     encGen value.federationGeneration,
     encGen value.compatibilityGeneration,
     encGen value.policyGeneration,
     encCounted encodeDimension value.dimensions,
     encEnum value.overall,
     boolean value.requiresRebuild,
     boolean value.requiresRecompile,
     boolean value.requiresConversion,
     boolean value.requiresStateTranslation,
     boolean value.requiresFallback,
     boolean value.technicallyBlocked,
     boolean value.policyBlocked,
     encEnum value.currentness,
     encEnum value.precision,
     encEnum value.evidenceClass,
     encodeStamp value.stamp,
     encodeEvidenceList value.evidence]

/-! ## Digests -/

/-- `digest_of`: the fingerprint of an encoding, or a fixed text when the encoder failed. -/
def digestOf (p : Writer) : Text :=
  match p.image with
  | .ok bytes => Text.digest bytes
  | .error _ => .ofString "encode-failed"

end FederationObservatory
