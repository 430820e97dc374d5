import FederationObservatory.Model.Capability
import FederationObservatory.Model.Capacity

/-!
# Structural records

`model.hpp`: the records a publisher registers, each with its `validate`. Field defaults are the
source's.
-/

namespace FederationObservatory

open Sorting

/-! ## Enumerations -/

/-- `Currentness`: how current a record's dynamic evidence is. -/
inductive Currentness where
  | unknown | current | stale | revalidationRequired | retired
  deriving DecidableEq, Repr

instance : WireEnum Currentness where
  enumerators := [.unknown, .current, .stale, .revalidationRequired, .retired]
  code e := UInt8.ofNat e.ctorIdx
  getElem?_code e := by cases e <;> rfl

def Currentness.toText : Currentness → Text
  | .unknown => .ofString "UNKNOWN"
  | .current => .ofString "CURRENT"
  | .stale => .ofString "STALE"
  | .revalidationRequired => .ofString "REVALIDATION_REQUIRED"
  | .retired => .ofString "RETIRED"

/-- `Readiness`. -/
inductive Readiness where
  | unknown | ready | notReady | draining | retired
  deriving DecidableEq, Repr

instance : WireEnum Readiness where
  enumerators := [.unknown, .ready, .notReady, .draining, .retired]
  code e := UInt8.ofNat e.ctorIdx
  getElem?_code e := by cases e <;> rfl

/-- `RuntimeKind`. -/
inductive RuntimeKind where
  | unknown | cuda | rocm | oneApi | metal | vulkan | openCl | cpuGeneric | custom
  deriving DecidableEq, Repr

instance : WireEnum RuntimeKind where
  enumerators :=
    [.unknown, .cuda, .rocm, .oneApi, .metal, .vulkan, .openCl, .cpuGeneric, .custom]
  code e := UInt8.ofNat e.ctorIdx
  getElem?_code e := by cases e <;> rfl

/-- `ArtifactKind`. -/
inductive ArtifactKind where
  | unknown | executableBinary | sharedLibrary | deviceImage | containerImage | modelWeights
  | adapter | checkpoint | datasetShard | custom
  deriving DecidableEq, Repr

instance : WireEnum ArtifactKind where
  enumerators :=
    [.unknown, .executableBinary, .sharedLibrary, .deviceImage, .containerImage, .modelWeights,
     .adapter, .checkpoint, .datasetShard, .custom]
  code e := UInt8.ofNat e.ctorIdx
  getElem?_code e := by cases e <;> rfl

/-- `DomainKind`. -/
inductive DomainKind where
  | unknown | cluster | site | federation
  deriving DecidableEq, Repr

instance : WireEnum DomainKind where
  enumerators := [.unknown, .cluster, .site, .federation]
  code e := UInt8.ofNat e.ctorIdx
  getElem?_code e := by cases e <;> rfl

/-! ## Stamps -/

/-- `ObservationStamp`: who published an observation, under which authority, and when. -/
structure ObservationStamp where
  publisher : PublisherId := {}
  publisherBoot : BootGeneration := {}
  coordinatorEpoch : CoordinatorEpoch := {}
  evidenceGeneration : EvidenceGeneration := {}
  sequence : Sequence := {}
  observedAt : TimestampNanos := 0
  precision : Precision := .unknown
  evidenceClass : EvidenceClass := .unknown
  provenance : Provenance := .unknown
  deriving DecidableEq, Repr

/-! ## Records -/

/-- `FederationRecord`. -/
structure FederationRecord where
  id : FederationId := {}
  generation : FederationGeneration := {}
  displayName : Text := []
  coordinatorEpoch : CoordinatorEpoch := {}
  sites : List SiteId := []
  clusters : List ClusterId := []
  acceleratorClasses : List AcceleratorClassId := []
  runtimes : List RuntimeId := []
  workloadClasses : List WorkloadClassId := []
  policy : PolicyId := {}
  policyGeneration : PolicyGeneration := {}
  compatibilityGeneration : CompatibilityGeneration := {}
  capacityGeneration : CapacityGeneration := {}
  topologyGeneration : TopologyGeneration := {}
  evidenceGeneration : EvidenceGeneration := {}
  currentness : Currentness := .unknown
  stamp : ObservationStamp := {}
  evidence : EvidenceList := {}
  deriving DecidableEq, Repr

/-- `SiteRecord`. -/
structure SiteRecord where
  id : SiteId := {}
  generation : SiteGeneration := {}
  federation : FederationId := {}
  region : Text := []
  zone : Text := []
  failureDomain : Text := []
  clusters : List ClusterId := []
  policies : List PolicyId := []
  currentness : Currentness := .unknown
  stamp : ObservationStamp := {}
  evidence : EvidenceList := {}
  deriving DecidableEq, Repr

/-- `AcceleratorClassRecord`. -/
structure AcceleratorClassRecord where
  id : AcceleratorClassId := {}
  capabilityGeneration : AcceleratorCapabilityGeneration := {}
  vendor : Text := []
  family : Text := []
  model : Text := []
  architecture : Text := []
  computeCapability : Text := []
  memoryBytesPerDevice : UInt64 := 0
  memoryBandwidthGbps : UInt32 := 0
  capabilities : CapabilitySet := {}
  currentness : Currentness := .unknown
  stamp : ObservationStamp := {}
  evidence : EvidenceList := {}
  deriving DecidableEq

/-- `RuntimeRecord`. -/
structure RuntimeRecord where
  id : RuntimeId := {}
  generation : RuntimeGeneration := {}
  backend : BackendId := {}
  backendGeneration : BackendGeneration := {}
  kind : RuntimeKind := .unknown
  version : Text := []
  abi : Text := []
  driverVersion : Text := []
  driverAbi : Text := []
  compilerVersion : Text := []
  capabilities : CapabilitySet := {}
  currentness : Currentness := .unknown
  stamp : ObservationStamp := {}
  evidence : EvidenceList := {}
  deriving DecidableEq

/-- `BackendRecord`. -/
structure BackendRecord where
  id : BackendId := {}
  generation : BackendGeneration := {}
  runtime : RuntimeId := {}
  name : Text := []
  version : Text := []
  capabilities : CapabilitySet := {}
  currentness : Currentness := .unknown
  stamp : ObservationStamp := {}
  evidence : EvidenceList := {}
  deriving DecidableEq

/-- `ClusterRecord`: the unit that publishes accelerator, runtime and capacity evidence. -/
structure ClusterRecord where
  id : ClusterId := {}
  generation : ClusterGeneration := {}
  epoch : ClusterEpoch := {}
  federation : FederationId := {}
  site : SiteId := {}
  domain : DomainId := {}
  failureDomain : Text := []
  zone : Text := []
  acceleratorClasses : List AcceleratorClassId := []
  capacityPools : List CapacityPool := []
  runtimes : List RuntimeId := []
  backends : List BackendId := []
  topologyGeneration : TopologyGeneration := {}
  capabilityGeneration : AcceleratorCapabilityGeneration := {}
  capacityGeneration : CapacityGeneration := {}
  runtimeGeneration : RuntimeGeneration := {}
  compatibilityGeneration : CompatibilityGeneration := {}
  evidenceGeneration : EvidenceGeneration := {}
  readiness : Readiness := .unknown
  capabilities : CapabilitySet := {}
  currentness : Currentness := .unknown
  stamp : ObservationStamp := {}
  evidence : EvidenceList := {}
  deriving DecidableEq

/-- `DomainRecord`. -/
structure DomainRecord where
  id : DomainId := {}
  kind : DomainKind := .unknown
  federation : FederationId := {}
  site : SiteId := {}
  clusters : List ClusterId := []
  topologyGeneration : TopologyGeneration := {}
  currentness : Currentness := .unknown
  stamp : ObservationStamp := {}
  evidence : EvidenceList := {}
  deriving DecidableEq, Repr

/-- `ArtifactRecord`. -/
structure ArtifactRecord where
  id : ArtifactId := {}
  generation : ArtifactGeneration := {}
  kind : ArtifactKind := .unknown
  format : Text := []
  kernelFormat : Text := []
  targetArchitectures : List Text := []
  minimumComputeCapability : Text := []
  sizeBytes : UInt64 := 0
  runtimeAbi : Text := []
  driverAbi : Text := []
  compilerTarget : Text := []
  stateFormat : Text := []
  requiredMemoryBytes : UInt64 := 0
  capabilities : CapabilitySet := {}
  currentness : Currentness := .unknown
  stamp : ObservationStamp := {}
  evidence : EvidenceList := {}
  deriving DecidableEq

/-- `WorkloadClassRecord`. -/
structure WorkloadClassRecord where
  id : WorkloadClassId := {}
  displayName : Text := []
  prefersAccelerators : Bool := true
  currentness : Currentness := .unknown
  stamp : ObservationStamp := {}
  evidence : EvidenceList := {}
  deriving DecidableEq, Repr

/-- `WorkloadRecord`. -/
structure WorkloadRecord where
  id : WorkloadId := {}
  generation : WorkloadGeneration := {}
  workloadClass : WorkloadClassId := {}
  artifact : ArtifactId := {}
  artifactGeneration : ArtifactGeneration := {}
  requiredAccelerators : UInt32 := 1
  requiredMemoryBytesPerAccelerator : UInt64 := 0
  acceptableAcceleratorClasses : List AcceleratorClassId := []
  requirements : List CapabilityRequirement := []
  policy : PolicyId := {}
  policyGeneration : PolicyGeneration := {}
  requiredDomain : DomainId := {}
  requiredDomainKind : DomainKind := .unknown
  requireSingleFailureDomain : Bool := false
  isolationRequirement : Text := []
  portabilityClass : Text := []
  currentness : Currentness := .unknown
  stamp : ObservationStamp := {}
  evidence : EvidenceList := {}
  deriving DecidableEq

/-- `PolicyRecord`. -/
structure PolicyRecord where
  id : PolicyId := {}
  generation : PolicyGeneration := {}
  name : Text := []
  allowedSites : List SiteId := []
  deniedSites : List SiteId := []
  allowedClusters : List ClusterId := []
  deniedClusters : List ClusterId := []
  allowCrossSite : Tri := .unknown
  dataResidency : Text := []
  isolationRequirement : Text := []
  capabilities : CapabilitySet := {}
  currentness : Currentness := .unknown
  stamp : ObservationStamp := {}
  evidence : EvidenceList := {}
  deriving DecidableEq

/-! ## Validation -/

/-- `FederationRecord::validate`. -/
def FederationRecord.validate (r : FederationRecord) : Status := do
  failIf r.id.empty .invalidArgument "federation id is empty"
  failIf (!r.generation.isSet) .invalidArgument "federation generation is unset" r.id.value
  failIf (!r.coordinatorEpoch.isSet) .invalidArgument "coordinator epoch is unset" r.id.value
  failIf (hasDuplicates r.sites) .invalidArgument "duplicate site reference" r.id.value
  failIf (hasDuplicates r.clusters) .invalidArgument "duplicate cluster reference" r.id.value
  failIf (hasDuplicates r.acceleratorClasses) .invalidArgument
    "duplicate accelerator class reference" r.id.value
  failIf (hasDuplicates r.runtimes) .invalidArgument "duplicate runtime reference" r.id.value
  failIf (hasDuplicates r.workloadClasses) .invalidArgument "duplicate workload class reference"
    r.id.value

/-- `SiteRecord::validate`. -/
def SiteRecord.validate (r : SiteRecord) : Status := do
  failIf r.id.empty .invalidArgument "site id is empty"
  failIf (!r.generation.isSet) .invalidArgument "site generation is unset" r.id.value
  failIf r.federation.empty .invalidArgument "site has no federation" r.id.value
  failIf (hasDuplicates r.clusters) .invalidArgument "duplicate cluster reference" r.id.value
  failIf (decide (maxClusterPerSite < r.clusters.length)) .boundExceeded
    "too many clusters in site" r.id.value
  failIf (hasDuplicates r.policies) .invalidArgument "duplicate policy reference" r.id.value

/-- `AcceleratorClassRecord::validate`. -/
def AcceleratorClassRecord.validate (r : AcceleratorClassRecord) : Status := do
  failIf r.id.empty .invalidArgument "accelerator class id is empty"
  failIf (!r.capabilityGeneration.isSet) .invalidArgument
    "accelerator capability generation is unset" r.id.value
  r.capabilities.entries.forM fun entry => failIf (!entry.key.valid) .invalidArgument
    "invalid capability key on accelerator class" (r.id.value ++ .ofString " " ++ entry.key.toText)

/-- `RuntimeRecord::validate`. -/
def RuntimeRecord.validate (r : RuntimeRecord) : Status := do
  failIf r.id.empty .invalidArgument "runtime id is empty"
  failIf (!r.generation.isSet) .invalidArgument "runtime generation is unset" r.id.value

/-- `BackendRecord::validate`. -/
def BackendRecord.validate (r : BackendRecord) : Status := do
  failIf r.id.empty .invalidArgument "backend id is empty"
  failIf (!r.generation.isSet) .invalidArgument "backend generation is unset" r.id.value
  failIf r.runtime.empty .invalidArgument "backend has no runtime" r.id.value

/-- The checks of `ClusterRecord::validate` on one pool. -/
def ClusterRecord.validatePool (r : ClusterRecord) (pool : CapacityPool) : Status := do
  failIf pool.poolId.empty .invalidArgument "capacity pool has no id" r.id.value
  pool.ledger.validate.mapError fun e =>
    ⟨.capacityInconsistent, .ofString "capacity pool ledger does not close",
      r.id.value ++ .ofString " " ++ pool.poolId.value ++ .ofString ": " ++ e.message⟩
  failIf (pool.kind == .accelerator && pool.acceleratorClass.empty) .invalidArgument
    "accelerator pool has no accelerator class"
    (r.id.value ++ .ofString " " ++ pool.poolId.value)
  failIf (pool.kind == .custom && pool.customName.isEmpty) .invalidArgument
    "custom pool has no resource name" (r.id.value ++ .ofString " " ++ pool.poolId.value)

/-- `ClusterRecord::validate`. -/
def ClusterRecord.validate (r : ClusterRecord) : Status := do
  failIf r.id.empty .invalidArgument "cluster id is empty"
  failIf (!r.generation.isSet) .invalidArgument "cluster generation is unset" r.id.value
  failIf (!r.epoch.isSet) .invalidArgument "cluster epoch is unset" r.id.value
  failIf r.federation.empty .invalidArgument "cluster has no federation" r.id.value
  failIf r.site.empty .invalidArgument "cluster has no site" r.id.value
  failIf (hasDuplicates r.acceleratorClasses) .invalidArgument
    "duplicate accelerator class reference" r.id.value
  failIf (hasDuplicates r.runtimes) .invalidArgument "duplicate runtime reference" r.id.value
  failIf (hasDuplicates r.backends) .invalidArgument "duplicate backend reference" r.id.value
  failIf (decide (maxPoolsPerCluster < r.capacityPools.length)) .boundExceeded
    "too many capacity pools on cluster" r.id.value
  r.capacityPools.forM r.validatePool
  failIf (hasDuplicates (r.capacityPools.map (·.poolId))) .invalidArgument
    "duplicate capacity pool id" r.id.value
  r.capabilities.entries.forM fun entry => failIf (!entry.key.valid) .invalidArgument
    "invalid capability key on cluster" (r.id.value ++ .ofString " " ++ entry.key.toText)

/-- `DomainRecord::validate`. -/
def DomainRecord.validate (r : DomainRecord) : Status := do
  failIf r.id.empty .invalidArgument "domain id is empty"
  failIf (r.kind == .unknown) .invalidArgument "domain kind is unknown" r.id.value
  failIf r.federation.empty .invalidArgument "domain has no federation" r.id.value
  failIf (r.kind == .site && r.site.empty) .invalidArgument "site domain has no site" r.id.value
  failIf r.clusters.isEmpty .invalidArgument "domain has no member clusters" r.id.value
  failIf (hasDuplicates r.clusters) .invalidArgument "duplicate cluster reference" r.id.value

/-- `ArtifactRecord::validate`. -/
def ArtifactRecord.validate (r : ArtifactRecord) : Status := do
  failIf r.id.empty .invalidArgument "artifact id is empty"
  failIf (!r.generation.isSet) .invalidArgument "artifact generation is unset" r.id.value
  failIf (hasDuplicates r.targetArchitectures) .invalidArgument "duplicate target architecture"
    r.id.value
  r.targetArchitectures.forM fun architecture =>
    failIf (architecture.isEmpty || decide (64 < architecture.length)) .invalidArgument
      "target architecture is malformed" r.id.value

/-- `WorkloadClassRecord::validate`. -/
def WorkloadClassRecord.validate (r : WorkloadClassRecord) : Status :=
  failIf r.id.empty .invalidArgument "workload class id is empty"

/-- `WorkloadRecord::validate`. -/
def WorkloadRecord.validate (r : WorkloadRecord) : Status := do
  failIf r.id.empty .invalidArgument "workload id is empty"
  failIf (!r.generation.isSet) .invalidArgument "workload generation is unset" r.id.value
  failIf r.workloadClass.empty .invalidArgument "workload has no class" r.id.value
  failIf (r.requiredAccelerators == 0) .invalidArgument "workload requires zero accelerators"
    r.id.value
  failIf (hasDuplicates r.acceptableAcceleratorClasses) .invalidArgument
    "duplicate acceptable accelerator class" r.id.value
  r.requirements.forM fun requirement => failIf (!requirement.key.valid) .invalidArgument
    "requirement has an invalid capability key"
    (r.id.value ++ .ofString " " ++ requirement.key.toText)
  failIf (r.requiredDomainKind == .unknown && !r.requiredDomain.empty) .invalidArgument
    "workload names a domain without a domain kind" r.id.value
  failIf (decide (maxCapabilityEntriesPerPublication < r.requirements.length)) .boundExceeded
    "too many capability requirements" r.id.value

/-- `PolicyRecord::validate`. -/
def PolicyRecord.validate (r : PolicyRecord) : Status := do
  failIf r.id.empty .invalidArgument "policy id is empty"
  failIf (!r.generation.isSet) .invalidArgument "policy generation is unset" r.id.value
  failIf (hasDuplicates r.allowedSites || hasDuplicates r.deniedSites) .invalidArgument
    "duplicate site reference in policy" r.id.value
  failIf (hasDuplicates r.allowedClusters || hasDuplicates r.deniedClusters) .invalidArgument
    "duplicate cluster reference in policy" r.id.value
  r.allowedSites.forM fun site => failIf (decide (site ∈ r.deniedSites)) .invalidArgument
    "site is both allowed and denied" r.id.value
  r.allowedClusters.forM fun cluster =>
    failIf (decide (cluster ∈ r.deniedClusters)) .invalidArgument
      "cluster is both allowed and denied" r.id.value

end FederationObservatory
