import FederationObservatory.RecordsCodec.Encode

/-!
# Record decoders

The `decode_*` functions of `records_codec.cpp`, field by field in the order the source reads
them. A decoded record is checked with its own `validate`; a failed check is a protocol violation
that carries the check's message. Every decoder frames its encoder.
-/

namespace FederationObservatory

open ByteCodec

/-! ## Parts of records -/

def decodeEvidence : Reader EvidenceRef := do
  let source ← decEnum Provenance "provenance"
  let evidenceClass ← decEnum EvidenceClass "evidence class"
  let sourceId ← Decoder.str
  let generation ← decGen .evidence
  let precision ← decEnum Precision "precision"
  let detail ← Decoder.str
  pure { source, evidenceClass, sourceId, generation, precision, detail }

/-- Read a value and hand it to a fallible operation. -/
def decThen {α β : Type} (dec : Reader α) (f : α → Result β) : Reader β := do
  let value ← dec
  Get.ofExcept (f value)

def decodeEvidenceList (limit : Nat) : Reader EvidenceList :=
  decCounted maxEvidencePerFinding "encoded evidence list exceeds the permitted size"
    (fun list => decThen decodeEvidence list.add) { limit }

def decodeCapabilityRef : Reader CapabilityRef := do
  let raw ← Decoder.u16
  match CapabilityKey.ofCode raw with
  | none =>
    Get.fail ⟨.protocolViolation, .ofString "encoded capability key is not recognised", []⟩
  | some key =>
    let custom ← decId .capabilityKey
    let value : CapabilityRef := { key, custom }
    Get.failIf (!value.valid)
      ⟨.protocolViolation, .ofString "encoded capability key is inconsistent", []⟩
    pure value

/-- The switch of `decode_capability_value` over the kind of value. -/
def decodeCapabilityPayload : Nat → Reader CapabilityValue
  | 0 => pure .unknown
  | 1 => CapabilityValue.boolean <$> Decoder.boolean
  | 2 => CapabilityValue.integer <$> Decoder.i64
  | 3 => CapabilityValue.number <$> Decoder.f64
  | 4 => CapabilityValue.ofText <$> Decoder.str
  | 5 => decThen (decTextVector maxValueSetEntries) CapabilityValue.ofTextSet
  | _ =>
    Get.fail ⟨.protocolViolation, .ofString "encoded capability value kind is out of range", []⟩

def decodeCapabilityValue : Reader CapabilityValue := do
  let kind ← Decoder.u8
  decodeCapabilityPayload kind.toNat

def decodeCapabilityEntry : Reader CapabilityEntry := do
  let key ← decodeCapabilityRef
  let value ← decodeCapabilityValue
  let precision ← decEnum Precision "precision"
  let evidenceClass ← decEnum EvidenceClass "evidence class"
  let generation ← decGen .evidence
  let note ← Decoder.str
  pure { key, value, precision, evidenceClass, generation, note }

def decodeCapabilitySet (limit : Nat) : Reader CapabilitySet :=
  decCounted maxCapabilityEntriesPerPublication
    "encoded capability set exceeds the permitted size"
    (fun set => decThen decodeCapabilityEntry set.put) { limit }

def decodeCapabilityRequirement : Reader CapabilityRequirement := do
  let key ← decodeCapabilityRef
  let comparator ← decEnum CapabilityComparator "capability comparator"
  let value ← decodeCapabilityValue
  let optional ← Decoder.boolean
  let rationale ← Decoder.str
  pure { key, comparator, value, optional, rationale }

def decodeStamp : Reader ObservationStamp := do
  let publisher ← decId .publisher
  let publisherBoot ← decGen .boot
  let coordinatorEpoch ← decGen .coordinatorEpoch
  let evidenceGeneration ← decGen .evidence
  let sequence ← decSequence
  let observedAt ← Decoder.i64
  let precision ← decEnum Precision "precision"
  let evidenceClass ← decEnum EvidenceClass "evidence class"
  let provenance ← decEnum Provenance "provenance"
  pure
    { publisher, publisherBoot, coordinatorEpoch, evidenceGeneration, sequence, observedAt,
      precision, evidenceClass, provenance }

def decodeLedger : Reader CapacityLedger := do
  let nominal ← Decoder.u64
  let offline ← Decoder.u64
  let allocated ← Decoder.u64
  let reserved ← Decoder.u64
  let draining ← Decoder.u64
  let unusable ← Decoder.u64
  let idle ← Decoder.u64
  let value : CapacityLedger := { nominal, offline, allocated, reserved, draining, unusable, idle }
  decChecked "encoded capacity ledger does not close" value.validate
  pure value

def decodeCapacityPool : Reader CapacityPool := do
  let poolId ← decId .resourcePool
  let kind ← decEnum ResourceKind "resource kind"
  let acceleratorClass ← decId .acceleratorClass
  let customName ← Decoder.str
  let ledger ← decodeLedger
  let generation ← decGen .capacity
  let precision ← decEnum Precision "precision"
  let evidenceClass ← decEnum EvidenceClass "evidence class"
  let evidence ← decodeEvidenceList defaultEvidencePerFinding
  pure
    { poolId, kind, acceleratorClass, customName, ledger, generation, precision, evidenceClass,
      evidence }

/-! ## Records -/

def decodeFederation : Reader FederationRecord := do
  let id ← decId .federation
  let generation ← decGen .federation
  let displayName ← Decoder.str
  let coordinatorEpoch ← decGen .coordinatorEpoch
  let sites ← decIds .site
  let clusters ← decIds .cluster
  let acceleratorClasses ← decIds .acceleratorClass
  let runtimes ← decIds .runtime
  let workloadClasses ← decIds .workloadClass
  let policy ← decId .policy
  let policyGeneration ← decGen .policy
  let compatibilityGeneration ← decGen .compatibility
  let capacityGeneration ← decGen .capacity
  let topologyGeneration ← decGen .topology
  let evidenceGeneration ← decGen .evidence
  let currentness ← decEnum Currentness "currentness"
  let stamp ← decodeStamp
  let evidence ← decodeEvidenceList defaultEvidencePerFinding
  let value : FederationRecord :=
    { id, generation, displayName, coordinatorEpoch, sites, clusters, acceleratorClasses, runtimes,
      workloadClasses, policy, policyGeneration, compatibilityGeneration, capacityGeneration,
      topologyGeneration, evidenceGeneration, currentness, stamp, evidence }
  decChecked "encoded federation is not valid" value.validate
  pure value

def decodeSite : Reader SiteRecord := do
  let id ← decId .site
  let generation ← decGen .site
  let federation ← decId .federation
  let region ← Decoder.str
  let zone ← Decoder.str
  let failureDomain ← Decoder.str
  let clusters ← decIds .cluster
  let policies ← decIds .policy
  let currentness ← decEnum Currentness "currentness"
  let stamp ← decodeStamp
  let evidence ← decodeEvidenceList defaultEvidencePerFinding
  let value : SiteRecord :=
    { id, generation, federation, region, zone, failureDomain, clusters, policies, currentness,
      stamp, evidence }
  decChecked "encoded site is not valid" value.validate
  pure value

def decodeAcceleratorClass : Reader AcceleratorClassRecord := do
  let id ← decId .acceleratorClass
  let capabilityGeneration ← decGen .acceleratorCapability
  let vendor ← Decoder.str
  let family ← Decoder.str
  let model ← Decoder.str
  let architecture ← Decoder.str
  let computeCapability ← Decoder.str
  let memoryBytesPerDevice ← Decoder.u64
  let memoryBandwidthGbps ← Decoder.u32
  let capabilities ← decodeCapabilitySet maxCapabilityEntriesPerPublication
  let currentness ← decEnum Currentness "currentness"
  let stamp ← decodeStamp
  let evidence ← decodeEvidenceList defaultEvidencePerFinding
  let value : AcceleratorClassRecord :=
    { id, capabilityGeneration, vendor, family, model, architecture, computeCapability,
      memoryBytesPerDevice, memoryBandwidthGbps, capabilities, currentness, stamp, evidence }
  decChecked "encoded accelerator class is not valid" value.validate
  pure value

def decodeRuntime : Reader RuntimeRecord := do
  let id ← decId .runtime
  let generation ← decGen .runtime
  let backend ← decId .backend
  let backendGeneration ← decGen .backend
  let kind ← decEnum RuntimeKind "runtime kind"
  let version ← Decoder.str
  let abi ← Decoder.str
  let driverVersion ← Decoder.str
  let driverAbi ← Decoder.str
  let compilerVersion ← Decoder.str
  let capabilities ← decodeCapabilitySet maxCapabilityEntriesPerPublication
  let currentness ← decEnum Currentness "currentness"
  let stamp ← decodeStamp
  let evidence ← decodeEvidenceList defaultEvidencePerFinding
  let value : RuntimeRecord :=
    { id, generation, backend, backendGeneration, kind, version, abi, driverVersion, driverAbi,
      compilerVersion, capabilities, currentness, stamp, evidence }
  decChecked "encoded runtime is not valid" value.validate
  pure value

def decodeBackend : Reader BackendRecord := do
  let id ← decId .backend
  let generation ← decGen .backend
  let runtime ← decId .runtime
  let name ← Decoder.str
  let version ← Decoder.str
  let capabilities ← decodeCapabilitySet maxCapabilityEntriesPerPublication
  let currentness ← decEnum Currentness "currentness"
  let stamp ← decodeStamp
  let evidence ← decodeEvidenceList defaultEvidencePerFinding
  let value : BackendRecord :=
    { id, generation, runtime, name, version, capabilities, currentness, stamp, evidence }
  decChecked "encoded backend is not valid" value.validate
  pure value

def decodeDomain : Reader DomainRecord := do
  let id ← decId .domain
  let kind ← decEnum DomainKind "domain kind"
  let federation ← decId .federation
  let site ← decId .site
  let clusters ← decIds .cluster
  let topologyGeneration ← decGen .topology
  let currentness ← decEnum Currentness "currentness"
  let stamp ← decodeStamp
  let evidence ← decodeEvidenceList defaultEvidencePerFinding
  let value : DomainRecord :=
    { id, kind, federation, site, clusters, topologyGeneration, currentness, stamp, evidence }
  decChecked "encoded domain is not valid" value.validate
  pure value

def decodeCluster : Reader ClusterRecord := do
  let id ← decId .cluster
  let generation ← decGen .cluster
  let epoch ← decGen .clusterEpoch
  let federation ← decId .federation
  let site ← decId .site
  let domain ← decId .domain
  let failureDomain ← Decoder.str
  let zone ← Decoder.str
  let acceleratorClasses ← decIds .acceleratorClass
  let runtimes ← decIds .runtime
  let backends ← decIds .backend
  let capacityPools ← decVector maxPoolsPerCluster decodeCapacityPool
  let topologyGeneration ← decGen .topology
  let capabilityGeneration ← decGen .acceleratorCapability
  let capacityGeneration ← decGen .capacity
  let runtimeGeneration ← decGen .runtime
  let compatibilityGeneration ← decGen .compatibility
  let evidenceGeneration ← decGen .evidence
  let readiness ← decEnum Readiness "readiness"
  let capabilities ← decodeCapabilitySet maxCapabilityEntriesPerPublication
  let currentness ← decEnum Currentness "currentness"
  let stamp ← decodeStamp
  let evidence ← decodeEvidenceList defaultEvidencePerFinding
  let value : ClusterRecord :=
    { id, generation, epoch, federation, site, domain, failureDomain, zone, acceleratorClasses,
      runtimes, backends, capacityPools, topologyGeneration, capabilityGeneration,
      capacityGeneration, runtimeGeneration, compatibilityGeneration, evidenceGeneration,
      readiness, capabilities, currentness, stamp, evidence }
  decChecked "encoded cluster is not valid" value.validate
  pure value

def decodePolicy : Reader PolicyRecord := do
  let id ← decId .policy
  let generation ← decGen .policy
  let name ← Decoder.str
  let allowedSites ← decIds .site
  let deniedSites ← decIds .site
  let allowedClusters ← decIds .cluster
  let deniedClusters ← decIds .cluster
  let allowCrossSite ← decEnum Tri "tri-state"
  let dataResidency ← Decoder.str
  let isolationRequirement ← Decoder.str
  let capabilities ← decodeCapabilitySet maxCapabilityEntriesPerPublication
  let currentness ← decEnum Currentness "currentness"
  let stamp ← decodeStamp
  let evidence ← decodeEvidenceList defaultEvidencePerFinding
  let value : PolicyRecord :=
    { id, generation, name, allowedSites, deniedSites, allowedClusters, deniedClusters,
      allowCrossSite, dataResidency, isolationRequirement, capabilities, currentness, stamp,
      evidence }
  decChecked "encoded policy is not valid" value.validate
  pure value

def decodeArtifact : Reader ArtifactRecord := do
  let id ← decId .artifact
  let generation ← decGen .artifact
  let kind ← decEnum ArtifactKind "artifact kind"
  let format ← Decoder.str
  let kernelFormat ← Decoder.str
  let targetArchitectures ← decTextVector 64
  let minimumComputeCapability ← Decoder.str
  let runtimeAbi ← Decoder.str
  let driverAbi ← Decoder.str
  let compilerTarget ← Decoder.str
  let stateFormat ← Decoder.str
  let sizeBytes ← Decoder.u64
  let requiredMemoryBytes ← Decoder.u64
  let capabilities ← decodeCapabilitySet maxCapabilityEntriesPerPublication
  let currentness ← decEnum Currentness "currentness"
  let stamp ← decodeStamp
  let evidence ← decodeEvidenceList defaultEvidencePerFinding
  let value : ArtifactRecord :=
    { id, generation, kind, format, kernelFormat, targetArchitectures, minimumComputeCapability,
      runtimeAbi, driverAbi, compilerTarget, stateFormat, sizeBytes, requiredMemoryBytes,
      capabilities, currentness, stamp, evidence }
  decChecked "encoded artifact is not valid" value.validate
  pure value

def decodeWorkloadClass : Reader WorkloadClassRecord := do
  let id ← decId .workloadClass
  let displayName ← Decoder.str
  let prefersAccelerators ← Decoder.boolean
  let currentness ← decEnum Currentness "currentness"
  let stamp ← decodeStamp
  let evidence ← decodeEvidenceList defaultEvidencePerFinding
  let value : WorkloadClassRecord :=
    { id, displayName, prefersAccelerators, currentness, stamp, evidence }
  decChecked "encoded workload class is not valid" value.validate
  pure value

def decodeWorkload : Reader WorkloadRecord := do
  let id ← decId .workload
  let generation ← decGen .workload
  let workloadClass ← decId .workloadClass
  let artifact ← decId .artifact
  let artifactGeneration ← decGen .artifact
  let requiredAccelerators ← Decoder.u32
  let requiredMemoryBytesPerAccelerator ← Decoder.u64
  let acceptableAcceleratorClasses ← decIds .acceleratorClass
  let requirements ← decCounted maxCapabilityEntriesPerPublication
    "encoded requirement list exceeds the permitted size"
    (pushBack decodeCapabilityRequirement) []
  let policy ← decId .policy
  let policyGeneration ← decGen .policy
  let requiredDomain ← decId .domain
  let requiredDomainKind ← decEnum DomainKind "domain kind"
  let requireSingleFailureDomain ← Decoder.boolean
  let isolationRequirement ← Decoder.str
  let portabilityClass ← Decoder.str
  let currentness ← decEnum Currentness "currentness"
  let stamp ← decodeStamp
  let evidence ← decodeEvidenceList defaultEvidencePerFinding
  let value : WorkloadRecord :=
    { id, generation, workloadClass, artifact, artifactGeneration, requiredAccelerators,
      requiredMemoryBytesPerAccelerator, acceptableAcceleratorClasses, requirements, policy,
      policyGeneration, requiredDomain, requiredDomainKind, requireSingleFailureDomain,
      isolationRequirement, portabilityClass, currentness, stamp, evidence }
  decChecked "encoded workload is not valid" value.validate
  pure value

/-- The bits of a rejection mask that name a reason. -/
def validRejectionMask : UInt32 := UInt32.ofNat (2 ^ rejectionReasonCount - 1)

def decodeCandidate : Reader CandidateObservation := do
  let cluster ← decId .cluster
  let clusterGeneration ← decGen .cluster
  let clusterEpoch ← decGen .clusterEpoch
  let acceleratorClass ← decId .acceleratorClass
  let status ← decEnum CandidateStatus "candidate status"
  let reasons ← Decoder.u32
  Get.failIf (reasons &&& ~~~validRejectionMask != 0)
    ⟨.protocolViolation, .ofString "encoded rejection mask has unknown bits set", []⟩
  let basis ← decEnum ReasonBasis "reason basis"
  let precision ← decEnum Precision "precision"
  let evidenceClass ← decEnum EvidenceClass "evidence class"
  let detail ← Decoder.str
  let evidence ← decodeEvidenceList defaultEvidencePerFinding
  pure
    { cluster, clusterGeneration, clusterEpoch, acceleratorClass, status, reasons, basis,
      precision, evidenceClass, detail, evidence }

def decodePlacement : Reader PlacementRecord := do
  let id ← decId .placement
  let generation ← decGen .placement
  let workload ← decId .workload
  let workloadGeneration ← decGen .workload
  let federation ← decId .federation
  let federationGeneration ← decGen .federation
  let workloadClass ← decId .workloadClass
  let selected ← decId .cluster
  let selectedGeneration ← decGen .cluster
  let selectedEpoch ← decGen .clusterEpoch
  let selectedAcceleratorClass ← decId .acceleratorClass
  let selectedAcceleratorCount ← Decoder.u32
  let selectedMemoryBytes ← Decoder.u64
  let candidates ← decVector maxCandidatesPerPlacement decodeCandidate
  let candidateCompleteness ← decEnum CandidateSetCompleteness "candidate set completeness"
  let policyGeneration ← decGen .policy
  let capacityGeneration ← decGen .capacity
  let topologyGeneration ← decGen .topology
  let compatibilityGeneration ← decGen .compatibility
  let runtimeGeneration ← decGen .runtime
  let capacityAvailable ← Decoder.boolean
  let compatibilityConstrained ← decEnum Tri "tri-state"
  let topologyConstrained ← decEnum Tri "tri-state"
  let policyConstrained ← decEnum Tri "tri-state"
  let capabilityConstrained ← decEnum Tri "tri-state"
  let affinityConstrained ← decEnum Tri "tri-state"
  let fallbackRequired ← Decoder.boolean
  let fallbackDetail ← Decoder.str
  let costKnown ← Decoder.boolean
  let costEstimate ← Decoder.f64
  let sloClass ← Decoder.str
  let currentness ← decEnum Currentness "currentness"
  let stamp ← decodeStamp
  let evidence ← decodeEvidenceList defaultEvidencePerFinding
  let value : PlacementRecord :=
    { id, generation, workload, workloadGeneration, federation, federationGeneration,
      workloadClass, selected, selectedGeneration, selectedEpoch, selectedAcceleratorClass,
      selectedAcceleratorCount, selectedMemoryBytes, candidates, candidateCompleteness,
      policyGeneration, capacityGeneration, topologyGeneration, compatibilityGeneration,
      runtimeGeneration, capacityAvailable, compatibilityConstrained, topologyConstrained,
      policyConstrained, capabilityConstrained, affinityConstrained, fallbackRequired,
      fallbackDetail, costKnown, costEstimate, sloClass, currentness, stamp, evidence }
  decChecked "encoded placement is not valid" value.validate
  pure value

/-- One stage event, as `decode_migration` reads it. -/
def decodeStageEvent : Reader MigrationStageEvent := do
  let generation ← decGen .migration
  let stage ← decEnum MigrationStage "migration stage"
  let sequence ← decSequence
  let observedAt ← Decoder.i64
  let precision ← decEnum Precision "precision"
  let evidenceClass ← decEnum EvidenceClass "evidence class"
  let detail ← Decoder.str
  pure { generation, stage, sequence, observedAt, precision, evidenceClass, detail }

def decodeMigration : Reader MigrationRecord := do
  let id ← decId .migration
  let generation ← decGen .migration
  let workload ← decId .workload
  let workloadGeneration ← decGen .workload
  let federation ← decId .federation
  let federationGeneration ← decGen .federation
  let workloadClass ← decId .workloadClass
  let supersedes ← decId .migration
  let supersedesGeneration ← decGen .migration
  let source ← decId .cluster
  let sourceGeneration ← decGen .cluster
  let sourceEpoch ← decGen .clusterEpoch
  let destination ← decId .cluster
  let destinationGeneration ← decGen .cluster
  let destinationEpoch ← decGen .clusterEpoch
  let artifact ← decId .artifact
  let artifactGeneration ← decGen .artifact
  let sourceRuntime ← decId .runtime
  let sourceRuntimeGeneration ← decGen .runtime
  let destinationRuntime ← decId .runtime
  let destinationRuntimeGeneration ← decGen .runtime
  let compatibilityGeneration ← decGen .compatibility
  let policyGeneration ← decGen .policy
  let capacityGeneration ← decGen .capacity
  let topologyGeneration ← decGen .topology
  let stage ← decEnum MigrationStage "migration stage"
  let outcome ← decEnum MigrationOutcome "migration outcome"
  let stageEvents ← decCounted maxStageEventsPerMigration
    "encoded migration has too many stage events" (pushBack decodeStageEvent) []
  let reason ← Decoder.str
  let reasonObserved ← Decoder.boolean
  let stateTransferKnown ← Decoder.boolean
  let stateTransferBytes ← Decoder.u64
  let downtimeKnown ← Decoder.boolean
  let downtimeMicros ← Decoder.u64
  let requiresRebuild ← Decoder.boolean
  let requiresRecompile ← Decoder.boolean
  let requiresConversion ← Decoder.boolean
  let requiresStateTranslation ← Decoder.boolean
  let revalidationPending ← Decoder.boolean
  let destinationGenerationChanged ← Decoder.boolean
  let changedEffectiveCapability ← Decoder.boolean
  let changedSlo ← Decoder.boolean
  let fallbackDetail ← Decoder.str
  let currentness ← decEnum Currentness "currentness"
  let stamp ← decodeStamp
  let evidence ← decodeEvidenceList defaultEvidencePerFinding
  let value : MigrationRecord :=
    { id, generation, workload, workloadGeneration, federation, federationGeneration,
      workloadClass, supersedes, supersedesGeneration, source, sourceGeneration, sourceEpoch,
      destination, destinationGeneration, destinationEpoch, artifact, artifactGeneration,
      sourceRuntime, sourceRuntimeGeneration, destinationRuntime, destinationRuntimeGeneration,
      compatibilityGeneration, policyGeneration, capacityGeneration, topologyGeneration, stage,
      outcome, stageEvents, reason, reasonObserved, stateTransferKnown, stateTransferBytes,
      downtimeKnown, downtimeMicros, requiresRebuild, requiresRecompile, requiresConversion,
      requiresStateTranslation, revalidationPending, destinationGenerationChanged,
      changedEffectiveCapability, changedSlo, fallbackDetail, currentness, stamp, evidence }
  decChecked "encoded migration is not valid" value.validate
  pure value

/-- One dimension, as `decode_portability` reads it. -/
def decodeDimension : Reader PortabilityDimensionResult := do
  let dimension ← decEnum PortabilityDimension "portability dimension"
  let outcome ← decEnum PortabilityOutcome "portability outcome"
  let detail ← Decoder.str
  let basis ← decEnum ReasonBasis "reason basis"
  let precision ← decEnum Precision "precision"
  let evidenceClass ← decEnum EvidenceClass "evidence class"
  let constrainsOverall ← Decoder.boolean
  let evidence ← decodeEvidenceList defaultEvidencePerFinding
  pure { dimension, outcome, detail, basis, precision, evidenceClass, constrainsOverall, evidence }

def decodePortability : Reader PortabilityAssessment := do
  let workload ← decId .workload
  let workloadGeneration ← decGen .workload
  let artifact ← decId .artifact
  let artifactGeneration ← decGen .artifact
  let workloadClass ← decId .workloadClass
  let source ← decId .cluster
  let sourceGeneration ← decGen .cluster
  let sourceEpoch ← decGen .clusterEpoch
  let destination ← decId .cluster
  let destinationGeneration ← decGen .cluster
  let destinationEpoch ← decGen .clusterEpoch
  let sourceRuntime ← decId .runtime
  let sourceRuntimeGeneration ← decGen .runtime
  let destinationRuntime ← decId .runtime
  let destinationRuntimeGeneration ← decGen .runtime
  let federation ← decId .federation
  let federationGeneration ← decGen .federation
  let compatibilityGeneration ← decGen .compatibility
  let policyGeneration ← decGen .policy
  let dimensions ← decCounted portabilityDimensionCount
    "encoded portability has too many dimensions" (pushBack decodeDimension) []
  let overall ← decEnum PortabilityOutcome "portability outcome"
  let requiresRebuild ← Decoder.boolean
  let requiresRecompile ← Decoder.boolean
  let requiresConversion ← Decoder.boolean
  let requiresStateTranslation ← Decoder.boolean
  let requiresFallback ← Decoder.boolean
  let technicallyBlocked ← Decoder.boolean
  let policyBlocked ← Decoder.boolean
  let currentness ← decEnum Currentness "currentness"
  let precision ← decEnum Precision "precision"
  let evidenceClass ← decEnum EvidenceClass "evidence class"
  let stamp ← decodeStamp
  let evidence ← decodeEvidenceList defaultEvidencePerFinding
  let value : PortabilityAssessment :=
    { workload, workloadGeneration, artifact, artifactGeneration, workloadClass, source,
      sourceGeneration, sourceEpoch, destination, destinationGeneration, destinationEpoch,
      sourceRuntime, sourceRuntimeGeneration, destinationRuntime, destinationRuntimeGeneration,
      federation, federationGeneration, compatibilityGeneration, policyGeneration, dimensions,
      overall, requiresRebuild, requiresRecompile, requiresConversion, requiresStateTranslation,
      requiresFallback, technicallyBlocked, policyBlocked, currentness, precision, evidenceClass,
      stamp, evidence }
  decChecked "encoded portability assessment is not valid" value.validate
  pure value

/-! ## Framing -/

instance (value : EvidenceRef) : Framed (encodeEvidence value) decodeEvidence := by
  refine ⟨?_⟩
  unfold encodeEvidence decodeEvidence
  repeat refine Frames.field Framed.frames fun _ _ => ?_
  exact Frames.pure trivial

instance (value : EvidenceRef) : NonemptyImage (encodeEvidence value) :=
  inferInstanceAs (NonemptyImage (Put.seq (encEnum value.source :: _)))

instance {α β : Type} (p : Writer) (dec : Reader α) (f : α → Result β) [h : Framed p dec] :
    Framed p (decThen dec f) := by
  refine ⟨?_⟩
  rw [← List.append_nil p]
  refine h.frames.bind fun a _ => ?_
  intro bs hbs hlen rest flag b c hrun
  have hframes : Frames [] (Get.ofExcept (f a) >>= pure) fun _ : β => True :=
    Frames.ofExcept fun _ _ => Frames.pure trivial
  exact hframes bs hbs hlen rest flag b c (by simpa using hrun)

instance (value : EvidenceList) (limit : Nat) :
    Framed (encodeEvidenceList value) (decodeEvidenceList limit) :=
  inferInstanceAs (Framed (encCounted encodeEvidence value.items) (decCounted _ _ _ _))

instance (value : CapabilityRef) : NonemptyImage (encodeCapabilityRef value) :=
  inferInstanceAs (NonemptyImage (Put.seq (Encoder.u16 value.key.code :: _)))

instance (value : CapabilityRef) : Framed (encodeCapabilityRef value) decodeCapabilityRef := by
  refine ⟨?_⟩
  unfold encodeCapabilityRef decodeCapabilityRef
  refine Frames.field (Decoder.frames_u16 _) ?_
  rintro raw rfl
  cases CapabilityKey.ofCode value.key.code with
  | none =>
    intro bs _ _ rest flag a c hrun
    exact absurd hrun (by simp [Get.fail])
  | some key =>
    refine Frames.field Framed.frames fun _ _ => ?_
    exact Frames.failIf fun _ => Frames.pure trivial

instance {α β : Type} (p : Writer) (dec : Reader α) (f : α → β) [h : Framed p dec] :
    Framed p (f <$> dec) := ⟨Decoder.frames_map f h.frames fun _ _ => trivial⟩

/-- A tag and the value it announces. -/
theorem framed_capabilityValue (kind : UInt8) (p : Writer)
    (h : Framed p (decodeCapabilityPayload kind.toNat)) :
    Framed (Put.seq [Encoder.u8 kind, p]) decodeCapabilityValue := by
  refine ⟨Frames.field (Decoder.frames_u8 kind) ?_⟩
  rintro r rfl
  rw [Put.seq_cons, Put.seq_nil, List.append_nil]
  exact h.frames

instance (value : CapabilityValue) :
    Framed (encodeCapabilityValue value) decodeCapabilityValue := by
  cases value with
  | unknown =>
    refine ⟨Frames.field (Decoder.frames_u8 0) ?_⟩
    rintro r rfl
    exact Frames.pure trivial
  | boolean v => exact framed_capabilityValue 1 _ (inferInstanceAs (Framed _ (_ <$> _)))
  | integer v => exact framed_capabilityValue 2 _ (inferInstanceAs (Framed _ (_ <$> _)))
  | unsignedInteger v => exact framed_capabilityValue 2 _ (inferInstanceAs (Framed _ (_ <$> _)))
  | number v => exact framed_capabilityValue 3 _ (inferInstanceAs (Framed _ (_ <$> _)))
  | text v => exact framed_capabilityValue 4 _ (inferInstanceAs (Framed _ (_ <$> _)))
  | textSet v => exact framed_capabilityValue 5 _ (inferInstanceAs (Framed _ (decThen _ _)))

instance (value : CapabilityEntry) : Framed (encodeCapabilityEntry value) decodeCapabilityEntry := by
  refine ⟨?_⟩
  unfold encodeCapabilityEntry decodeCapabilityEntry
  repeat refine Frames.field Framed.frames fun _ _ => ?_
  exact Frames.pure trivial

instance (value : CapabilityEntry) : NonemptyImage (encodeCapabilityEntry value) :=
  inferInstanceAs (NonemptyImage (Put.seq (encodeCapabilityRef value.key :: _)))

instance (value : CapabilitySet) (limit : Nat) :
    Framed (encodeCapabilitySet value) (decodeCapabilitySet limit) :=
  inferInstanceAs (Framed (encCounted encodeCapabilityEntry value.entries) (decCounted _ _ _ _))

instance (value : CapabilityRequirement) : Framed (encodeCapabilityRequirement value) decodeCapabilityRequirement := by
  refine ⟨?_⟩
  unfold encodeCapabilityRequirement decodeCapabilityRequirement
  repeat refine Frames.field Framed.frames fun _ _ => ?_
  exact Frames.pure trivial

instance (value : CapabilityRequirement) : NonemptyImage (encodeCapabilityRequirement value) :=
  inferInstanceAs (NonemptyImage (Put.seq (encodeCapabilityRef value.key :: _)))

instance (value : ObservationStamp) : Framed (encodeStamp value) decodeStamp := by
  refine ⟨?_⟩
  unfold encodeStamp decodeStamp
  repeat refine Frames.field Framed.frames fun _ _ => ?_
  exact Frames.pure trivial

instance (value : CapacityLedger) : Framed (encodeLedger value) decodeLedger := by
  refine ⟨?_⟩
  unfold encodeLedger decodeLedger
  repeat refine Frames.field Framed.frames fun _ _ => ?_
  exact frames_checked _ _ _

instance (value : CapacityPool) : Framed (encodeCapacityPool value) decodeCapacityPool := by
  refine ⟨?_⟩
  unfold encodeCapacityPool decodeCapacityPool
  repeat refine Frames.field Framed.frames fun _ _ => ?_
  exact Frames.pure trivial

instance (value : CapacityPool) : NonemptyImage (encodeCapacityPool value) :=
  inferInstanceAs (NonemptyImage (Put.seq (encId value.poolId :: _)))

instance (value : FederationRecord) : Framed (encodeFederation value) decodeFederation := by
  refine ⟨?_⟩
  unfold encodeFederation decodeFederation
  repeat refine Frames.field Framed.frames fun _ _ => ?_
  exact frames_checked _ _ _

instance (value : FederationRecord) : NonemptyImage (encodeFederation value) :=
  inferInstanceAs (NonemptyImage (Put.seq _))

instance (value : SiteRecord) : Framed (encodeSite value) decodeSite := by
  refine ⟨?_⟩
  unfold encodeSite decodeSite
  repeat refine Frames.field Framed.frames fun _ _ => ?_
  exact frames_checked _ _ _

instance (value : SiteRecord) : NonemptyImage (encodeSite value) :=
  inferInstanceAs (NonemptyImage (Put.seq _))

instance (value : AcceleratorClassRecord) : Framed (encodeAcceleratorClass value) decodeAcceleratorClass := by
  refine ⟨?_⟩
  unfold encodeAcceleratorClass decodeAcceleratorClass
  repeat refine Frames.field Framed.frames fun _ _ => ?_
  exact frames_checked _ _ _

instance (value : AcceleratorClassRecord) : NonemptyImage (encodeAcceleratorClass value) :=
  inferInstanceAs (NonemptyImage (Put.seq _))

instance (value : RuntimeRecord) : Framed (encodeRuntime value) decodeRuntime := by
  refine ⟨?_⟩
  unfold encodeRuntime decodeRuntime
  repeat refine Frames.field Framed.frames fun _ _ => ?_
  exact frames_checked _ _ _

instance (value : RuntimeRecord) : NonemptyImage (encodeRuntime value) :=
  inferInstanceAs (NonemptyImage (Put.seq _))

instance (value : BackendRecord) : Framed (encodeBackend value) decodeBackend := by
  refine ⟨?_⟩
  unfold encodeBackend decodeBackend
  repeat refine Frames.field Framed.frames fun _ _ => ?_
  exact frames_checked _ _ _

instance (value : BackendRecord) : NonemptyImage (encodeBackend value) :=
  inferInstanceAs (NonemptyImage (Put.seq _))

instance (value : DomainRecord) : Framed (encodeDomain value) decodeDomain := by
  refine ⟨?_⟩
  unfold encodeDomain decodeDomain
  repeat refine Frames.field Framed.frames fun _ _ => ?_
  exact frames_checked _ _ _

instance (value : DomainRecord) : NonemptyImage (encodeDomain value) :=
  inferInstanceAs (NonemptyImage (Put.seq _))

instance (value : ClusterRecord) : Framed (encodeCluster value) decodeCluster := by
  refine ⟨?_⟩
  unfold encodeCluster decodeCluster
  repeat refine Frames.field Framed.frames fun _ _ => ?_
  exact frames_checked _ _ _

instance (value : ClusterRecord) : NonemptyImage (encodeCluster value) :=
  inferInstanceAs (NonemptyImage (Put.seq _))

instance (value : PolicyRecord) : Framed (encodePolicy value) decodePolicy := by
  refine ⟨?_⟩
  unfold encodePolicy decodePolicy
  repeat refine Frames.field Framed.frames fun _ _ => ?_
  exact frames_checked _ _ _

instance (value : PolicyRecord) : NonemptyImage (encodePolicy value) :=
  inferInstanceAs (NonemptyImage (Put.seq _))

instance (value : ArtifactRecord) : Framed (encodeArtifact value) decodeArtifact := by
  refine ⟨?_⟩
  unfold encodeArtifact decodeArtifact
  repeat refine Frames.field Framed.frames fun _ _ => ?_
  exact frames_checked _ _ _

instance (value : ArtifactRecord) : NonemptyImage (encodeArtifact value) :=
  inferInstanceAs (NonemptyImage (Put.seq _))

instance (value : WorkloadClassRecord) : Framed (encodeWorkloadClass value) decodeWorkloadClass := by
  refine ⟨?_⟩
  unfold encodeWorkloadClass decodeWorkloadClass
  repeat refine Frames.field Framed.frames fun _ _ => ?_
  exact frames_checked _ _ _

instance (value : WorkloadClassRecord) : NonemptyImage (encodeWorkloadClass value) :=
  inferInstanceAs (NonemptyImage (Put.seq _))

instance (value : WorkloadRecord) : Framed (encodeWorkload value) decodeWorkload := by
  refine ⟨?_⟩
  unfold encodeWorkload decodeWorkload
  repeat refine Frames.field Framed.frames fun _ _ => ?_
  exact frames_checked _ _ _

instance (value : WorkloadRecord) : NonemptyImage (encodeWorkload value) :=
  inferInstanceAs (NonemptyImage (Put.seq _))

instance (value : CandidateObservation) : Framed (encodeCandidate value) decodeCandidate := by
  refine ⟨?_⟩
  unfold encodeCandidate decodeCandidate
  iterate 6 refine Frames.field Framed.frames fun _ _ => ?_
  refine Frames.failIf fun _ => ?_
  repeat refine Frames.field Framed.frames fun _ _ => ?_
  exact Frames.pure trivial

instance (value : CandidateObservation) : NonemptyImage (encodeCandidate value) :=
  inferInstanceAs (NonemptyImage (Put.seq (encId value.cluster :: _)))

instance (value : PlacementRecord) : Framed (encodePlacement value) decodePlacement := by
  refine ⟨?_⟩
  unfold encodePlacement decodePlacement
  repeat refine Frames.field Framed.frames fun _ _ => ?_
  exact frames_checked _ _ _

instance (value : PlacementRecord) : NonemptyImage (encodePlacement value) :=
  inferInstanceAs (NonemptyImage (Put.seq _))

instance (value : MigrationStageEvent) : Framed (encodeStageEvent value) decodeStageEvent := by
  refine ⟨?_⟩
  unfold encodeStageEvent decodeStageEvent
  repeat refine Frames.field Framed.frames fun _ _ => ?_
  exact Frames.pure trivial

instance (value : MigrationStageEvent) : NonemptyImage (encodeStageEvent value) :=
  inferInstanceAs (NonemptyImage (Put.seq (encGen value.generation :: _)))

instance (value : MigrationRecord) : Framed (encodeMigration value) decodeMigration := by
  refine ⟨?_⟩
  unfold encodeMigration decodeMigration
  repeat refine Frames.field Framed.frames fun _ _ => ?_
  exact frames_checked _ _ _

instance (value : MigrationRecord) : NonemptyImage (encodeMigration value) :=
  inferInstanceAs (NonemptyImage (Put.seq _))

instance (value : PortabilityDimensionResult) : Framed (encodeDimension value) decodeDimension := by
  refine ⟨?_⟩
  unfold encodeDimension decodeDimension
  repeat refine Frames.field Framed.frames fun _ _ => ?_
  exact Frames.pure trivial

instance (value : PortabilityDimensionResult) : NonemptyImage (encodeDimension value) :=
  inferInstanceAs (NonemptyImage (Put.seq (encEnum value.dimension :: _)))

instance (value : PortabilityAssessment) : Framed (encodePortability value) decodePortability := by
  refine ⟨?_⟩
  unfold encodePortability decodePortability
  repeat refine Frames.field Framed.frames fun _ _ => ?_
  exact frames_checked _ _ _

instance (value : PortabilityAssessment) : NonemptyImage (encodePortability value) :=
  inferInstanceAs (NonemptyImage (Put.seq _))

end FederationObservatory
