import FederationObservatory.Analysis.Capabilities

/-!
# Compatibility

`assess_compatibility` (`compatibility.cpp`): the relations between a workload, its artifact and a
target, checked in a fixed order. Every check has an outcome, and the weakest of them is the verdict;
whether the policy admits the target is kept apart from it.
-/

namespace FederationObservatory

/-- `CompatibilityOutcome`. -/
inductive CompatibilityOutcome where
  | compatible | compatibleWithFallback | compatibleAfterReconfiguration | compatibleAfterRebuild
  | capabilityMissing | incompatibleMemory | incompatibleTopology | incompatibleIsolation
  | incompatibleArtifact | incompatibleAbi | incompatibleDriver | incompatibleRuntime
  | incompatibleArchitecture | staleEvidence | unknownCompatibility | unsupported
  deriving DecidableEq, Repr

namespace CompatibilityOutcome

/-- `compatibility_severity`. -/
def severity : CompatibilityOutcome → Nat
  | compatible => 0
  | compatibleWithFallback => 1
  | compatibleAfterReconfiguration => 2
  | compatibleAfterRebuild => 3
  | capabilityMissing => 4
  | incompatibleMemory => 5
  | incompatibleTopology => 6
  | incompatibleIsolation => 7
  | incompatibleArtifact => 8
  | incompatibleAbi => 9
  | incompatibleDriver => 10
  | incompatibleRuntime => 11
  | incompatibleArchitecture => 12
  | staleEvidence => 13
  | unknownCompatibility => 14
  | unsupported => 15

/-- `weakest`. -/
def weakest (a b : CompatibilityOutcome) : CompatibilityOutcome :=
  if b.severity ≤ a.severity then a else b

/-- `is_compatible_family`. -/
def isCompatibleFamily (outcome : CompatibilityOutcome) : Bool := decide (outcome.severity ≤ 3)

def toText : CompatibilityOutcome → Text
  | compatible => .ofString "COMPATIBLE"
  | compatibleWithFallback => .ofString "COMPATIBLE_WITH_FALLBACK"
  | compatibleAfterReconfiguration => .ofString "COMPATIBLE_AFTER_RECONFIGURATION"
  | compatibleAfterRebuild => .ofString "COMPATIBLE_AFTER_REBUILD"
  | capabilityMissing => .ofString "CAPABILITY_MISSING"
  | incompatibleMemory => .ofString "INCOMPATIBLE_MEMORY"
  | incompatibleTopology => .ofString "INCOMPATIBLE_TOPOLOGY"
  | incompatibleIsolation => .ofString "INCOMPATIBLE_ISOLATION"
  | incompatibleArtifact => .ofString "INCOMPATIBLE_ARTIFACT"
  | incompatibleAbi => .ofString "INCOMPATIBLE_ABI"
  | incompatibleDriver => .ofString "INCOMPATIBLE_DRIVER"
  | incompatibleRuntime => .ofString "INCOMPATIBLE_RUNTIME"
  | incompatibleArchitecture => .ofString "INCOMPATIBLE_ARCHITECTURE"
  | staleEvidence => .ofString "STALE_EVIDENCE"
  | unknownCompatibility => .ofString "UNKNOWN_COMPATIBILITY"
  | unsupported => .ofString "UNSUPPORTED"

end CompatibilityOutcome

/-- `CompatibilitySubject`. -/
inductive CompatibilitySubject where
  | workloadAccelerator | artifactArchitecture | artifactFormatSupport | artifactRuntime
  | artifactDriver | runtimeDriver | runtimeOperatingSystem | runtimeAbi | compilerAbi
  | kernelArchitecture | modelFormatBackend | adapterModelGeneration | collectiveTopology
  | partitionRequirement | isolationRequirement | memoryRequirement | precisionRequirement
  | capabilityRequirement | portabilityClassDestination | policyAdmissibility | clusterCurrentness
  deriving DecidableEq, Repr

def CompatibilitySubject.toText : CompatibilitySubject → Text
  | workloadAccelerator => .ofString "WORKLOAD_ACCELERATOR"
  | artifactArchitecture => .ofString "ARTIFACT_ARCHITECTURE"
  | artifactFormatSupport => .ofString "ARTIFACT_FORMAT_SUPPORT"
  | artifactRuntime => .ofString "ARTIFACT_RUNTIME"
  | artifactDriver => .ofString "ARTIFACT_DRIVER"
  | runtimeDriver => .ofString "RUNTIME_DRIVER"
  | runtimeOperatingSystem => .ofString "RUNTIME_OPERATING_SYSTEM"
  | runtimeAbi => .ofString "RUNTIME_ABI"
  | compilerAbi => .ofString "COMPILER_ABI"
  | kernelArchitecture => .ofString "KERNEL_ARCHITECTURE"
  | modelFormatBackend => .ofString "MODEL_FORMAT_BACKEND"
  | adapterModelGeneration => .ofString "ADAPTER_MODEL_GENERATION"
  | collectiveTopology => .ofString "COLLECTIVE_TOPOLOGY"
  | partitionRequirement => .ofString "PARTITION_REQUIREMENT"
  | isolationRequirement => .ofString "ISOLATION_REQUIREMENT"
  | memoryRequirement => .ofString "MEMORY_REQUIREMENT"
  | precisionRequirement => .ofString "PRECISION_REQUIREMENT"
  | capabilityRequirement => .ofString "CAPABILITY_REQUIREMENT"
  | portabilityClassDestination => .ofString "PORTABILITY_CLASS_DESTINATION"
  | policyAdmissibility => .ofString "POLICY_ADMISSIBILITY"
  | clusterCurrentness => .ofString "CLUSTER_CURRENTNESS"

/-- `outcome_for_failed_requirement`. -/
def CapabilityKey.failedOutcome : CapabilityKey → CompatibilityOutcome
  | .memoryBytes | .memoryBandwidthGbps => .incompatibleMemory
  | .partitionSupport | .partitionModes | .partitionGeometry | .partitionMaxInstances =>
    .incompatibleTopology
  | .securityIsolation => .incompatibleIsolation
  | .artifactFormat | .artifactFormats | .quantizationSupport | .quantizationFormats
  | .sparseExecutionSupport | .inferenceServingBackend => .incompatibleArtifact
  | .runtimeApi | .runtimeVersion | .runtimeGeneration => .incompatibleRuntime
  | .runtimeAbi | .compilerTarget | .compilerVersion => .incompatibleAbi
  | .driverApi | .driverVersion | .driverAbi | .driverGeneration => .incompatibleDriver
  | .kernelFormat | .kernelArchitectures => .incompatibleArtifact
  | .acceleratorArchitecture => .incompatibleArchitecture
  | _ => .capabilityMissing

/-- `CapabilitySubjectFor`. -/
def CapabilityKey.subject : CapabilityKey → CompatibilitySubject
  | .memoryBytes | .memoryBandwidthGbps => .memoryRequirement
  | .partitionSupport | .partitionModes | .partitionGeometry | .partitionMaxInstances =>
    .partitionRequirement
  | .securityIsolation => .isolationRequirement
  | .collectiveSupport | .collectiveBackend | .collectiveMaxGroupSize => .collectiveTopology
  | .kernelFormat | .kernelArchitectures => .kernelArchitecture
  | .artifactFormat | .artifactFormats => .artifactFormatSupport
  | .runtimeAbi | .compilerTarget | .compilerVersion => .compilerAbi
  | .runtimeApi | .runtimeVersion | .runtimeGeneration => .artifactRuntime
  | .driverApi | .driverVersion | .driverAbi | .driverGeneration => .artifactDriver
  | .acceleratorArchitecture => .artifactArchitecture
  | _ => .capabilityRequirement

/-- `CompatibilityInputs`; a pointer that is null is `none`. -/
structure CompatibilityInputs where
  workload : Option WorkloadRecord := none
  artifact : Option ArtifactRecord := none
  cluster : Option ClusterRecord := none
  acceleratorClass : Option AcceleratorClassRecord := none
  clusterRuntime : Option RuntimeRecord := none
  policy : Option PolicyRecord := none
  effectiveCapabilities : Option CapabilitySet := none
  compatibilityGeneration : CompatibilityGeneration := {}
  targetCurrentness : Currentness := .unknown

/-- `CompatibilityCheck`, but for what is the same of all of them: the basis and the precision are
    derived, and the evidence class is kept once, in the assessment. -/
structure CompatibilityCheck where
  subject : CompatibilitySubject
  requirement : Text
  observed : Text
  outcome : CompatibilityOutcome
  detail : Text
  deriving DecidableEq, Repr

/-- `CompatibilityAssessment`. -/
structure CompatibilityAssessment where
  overall : CompatibilityOutcome := .unknownCompatibility
  targetCluster : ClusterId := {}
  targetClusterGeneration : ClusterGeneration := {}
  targetClusterEpoch : ClusterEpoch := {}
  targetAcceleratorClass : AcceleratorClassId := {}
  workload : WorkloadId := {}
  workloadGeneration : WorkloadGeneration := {}
  artifact : ArtifactId := {}
  artifactGeneration : ArtifactGeneration := {}
  runtime : RuntimeId := {}
  runtimeGeneration : RuntimeGeneration := {}
  compatibilityGeneration : CompatibilityGeneration := {}
  targetCurrentness : Currentness := .unknown
  policyAdmissible : Tri := .unknown
  policyDetail : Text := []
  precision : Precision := .unknown
  evidenceClass : EvidenceClass := .unknown
  checkClass : EvidenceClass := .unknown
  checks : List CompatibilityCheck := []
  evidence : EvidenceList := {}
  deriving DecidableEq, Repr

/-- `CompatibilityAssessment::primary_failure`: the first of the weakest checks that fail. -/
def CompatibilityAssessment.primaryFailure (assessment : CompatibilityAssessment) :
    Option CompatibilityCheck :=
  assessment.checks.foldl
    (fun worst check =>
      if check.outcome.isCompatibleFamily then worst
      else if worst.all fun other => other.outcome.severity < check.outcome.severity then some check
      else worst)
    none

/-- How much is known of a record's evidence, by its stamp. -/
structure Strength where
  precision : Precision := .unknown
  evidenceClass : EvidenceClass := .unknown
  deriving DecidableEq, Repr

/-- What two records together are worth. -/
def Strength.weaken (a b : Strength) : Strength where
  precision := a.precision.weakest b.precision
  evidenceClass := a.evidenceClass.weaker b.evidenceClass

def ObservationStamp.strength (stamp : ObservationStamp) : Strength :=
  ⟨stamp.precision, stamp.evidenceClass⟩

def CapabilityEntry.strength (entry : CapabilityEntry) : Strength :=
  ⟨entry.precision, entry.evidenceClass⟩

/-- `combined_precision` and `combined_class`. -/
def CapabilitySet.strength (set : CapabilitySet) : Strength :=
  match set.entries with
  | [] => {}
  | entry :: entries => (entries.map CapabilityEntry.strength).foldl Strength.weaken entry.strength

/-- `compare_runtime_versions`. -/
def compareRuntimeVersions (requiredRuntimeAbi observedRuntimeAbi requiredDriverAbi
    observedDriverAbi : Text) : CompatibilityOutcome :=
  if !requiredRuntimeAbi.isEmpty && observedRuntimeAbi.isEmpty then .unknownCompatibility
  else if !requiredRuntimeAbi.isEmpty && requiredRuntimeAbi != observedRuntimeAbi then
    .incompatibleAbi
  else if !requiredDriverAbi.isEmpty && observedDriverAbi.isEmpty then .unknownCompatibility
  else if !requiredDriverAbi.isEmpty && requiredDriverAbi != observedDriverAbi then
    .incompatibleDriver
  else .compatible

namespace CompatibilityInputs

variable (formatDouble : Double → Text) (inputs : CompatibilityInputs)

/-- The check of the target's currentness. -/
def currentnessCheck : CompatibilityCheck :=
  let check : Text → CompatibilityOutcome → String → CompatibilityCheck :=
    fun observed outcome detail =>
      ⟨.clusterCurrentness, .ofString "evidence current", observed, outcome, .ofString detail⟩
  match inputs.targetCurrentness with
  | .current => check (.ofString "CURRENT") .compatible "target evidence is current"
  | .revalidationRequired =>
    check (.ofString "REVALIDATION_REQUIRED") .staleEvidence
      "target was restored from persistence and has not republished evidence"
  | .stale =>
    check (.ofString "STALE") .staleEvidence
      "target evidence is stale; a conclusion cannot be asserted"
  | .retired => check (.ofString "RETIRED") .unsupported "target cluster is retired"
  | .unknown =>
    check (.ofString "UNKNOWN") .unknownCompatibility
      "freshness of the target evidence is unknown"

/-- The check of the artifact against the architecture of the accelerator. -/
def architectureCheck (artifact : ArtifactRecord) : CompatibilityCheck :=
  let targets := joinStrings artifact.targetArchitectures (.ofString ",")
  let published := (inputs.acceleratorClass.map AcceleratorClassRecord.architecture).getD []
  if artifact.targetArchitectures.isEmpty then
    ⟨.artifactArchitecture, .ofString "artifact declares a target architecture",
      .ofString "UNKNOWN", .unknownCompatibility,
      .ofString "the artifact does not declare any target architecture"⟩
  else if published.isEmpty then
    ⟨.artifactArchitecture, targets, .ofString "UNKNOWN", .unknownCompatibility,
      .ofString "the target accelerator architecture is unpublished"⟩
  else if artifact.targetsArchitecture published then
    ⟨.artifactArchitecture, targets, published, .compatible,
      .ofString "the artifact declares this accelerator architecture as a target"⟩
  else
    ⟨.artifactArchitecture, targets, published, .incompatibleArchitecture,
      .ofString "the artifact targets no binary compatible with this accelerator architecture"⟩

/-- The check of the least compute capability the artifact asks for. -/
def computeCapabilityCheck (artifact : ArtifactRecord) : List CompatibilityCheck :=
  let published := (inputs.acceleratorClass.map AcceleratorClassRecord.computeCapability).getD []
  let required := .ofString "compute capability >= " ++ artifact.minimumComputeCapability
  if artifact.minimumComputeCapability.isEmpty then []
  else if published.isEmpty then
    [⟨.artifactArchitecture, required, .ofString "UNKNOWN", .unknownCompatibility,
      .ofString "the target compute capability is unpublished"⟩]
  else if 0 ≤ compareVersionStrings published artifact.minimumComputeCapability then
    [⟨.artifactArchitecture, required, published, .compatible,
      .ofString "the target meets the artifact minimum compute capability"⟩]
  else
    [⟨.artifactArchitecture, required, published, .incompatibleArchitecture,
      .ofString "the target is below the artifact minimum compute capability"⟩]

/-- The outcome of a requirement. -/
def requirementOutcome (requirement : CapabilityRequirement) (satisfied : Tri) :
    CompatibilityOutcome :=
  match satisfied with
  | .no =>
    if requirement.optional then .compatibleWithFallback else requirement.key.key.failedOutcome
  | .unknown => .unknownCompatibility
  | .yes => .compatible

/-- `add_capability_requirement`. -/
def requirementCheck (requirement : CapabilityRequirement) (fromArtifact : Bool) :
    CompatibilityCheck :=
  match inputs.effectiveCapabilities with
  | none =>
    ⟨requirement.key.key.subject, requirement.toText formatDouble, .ofString "UNKNOWN",
      .unknownCompatibility, .ofString "no capability evidence is available for the target"⟩
  | some effective =>
    let check := evaluateRequirement formatDouble requirement effective
    ⟨requirement.key.key.subject, requirement.toText formatDouble,
      if check.observed.known then check.observed.toText formatDouble else .ofString "UNKNOWN",
      requirementOutcome requirement check.satisfied,
      check.detail ++
        (if requirement.optional && check.satisfied = .no then
          Text.ofString " (optional requirement; recorded as a fallback, not a rejection)" else []) ++
        (if fromArtifact then Text.ofString " [artifact-declared requirement]" else [])⟩

/-- The requirement that a text is one of the published ones, where it can be stated. -/
def anyOfRequirement (key : CapabilityKey) (value : Text) (rationale : String) :
    Option CapabilityRequirement :=
  match CapabilityValue.ofTextSet [value] with
  | .ok value =>
    some { key := { key }, comparator := .anyOf, value, rationale := .ofString rationale }
  | .error _ => none

/-- The requirement that a text is the published one. -/
def equalsRequirement (key : CapabilityKey) (value : Text) (rationale : String) :
    CapabilityRequirement :=
  { key := { key }, comparator := .equals, value := .ofText value, rationale := .ofString rationale }

/-- The requirements an artifact declares by its formats and its compiler target. -/
def artifactRequirements (artifact : ArtifactRecord) : List CapabilityRequirement :=
  (if artifact.format.isEmpty then []
    else (anyOfRequirement .artifactFormats artifact.format "artifact format").toList) ++
  (if artifact.kernelFormat.isEmpty then []
    else [equalsRequirement .kernelFormat artifact.kernelFormat "artifact kernel format"]) ++
  (if artifact.compilerTarget.isEmpty then []
    else [equalsRequirement .compilerTarget artifact.compilerTarget "artifact compiler target"])

/-- The two checks of the ABIs, which share an outcome. -/
def abiChecks (artifact : ArtifactRecord) : List CompatibilityCheck :=
  if artifact.runtimeAbi.isEmpty && artifact.driverAbi.isEmpty then []
  else
    let observedRuntime := (inputs.clusterRuntime.map RuntimeRecord.abi).getD []
    let observedDriver := (inputs.clusterRuntime.map RuntimeRecord.driverAbi).getD []
    let outcome :=
      compareRuntimeVersions artifact.runtimeAbi observedRuntime artifact.driverAbi observedDriver
    let detail : Text :=
      match outcome with
      | .compatible => .ofString "runtime and driver ABIs match the artifact declaration"
      | .incompatibleAbi =>
        .ofString "the artifact requires runtime ABI " ++ artifact.runtimeAbi ++
          .ofString ", the target publishes " ++ renderText observedRuntime
      | .incompatibleDriver =>
        .ofString "the artifact requires driver ABI " ++ artifact.driverAbi ++
          .ofString ", the target publishes " ++ renderText observedDriver
      | _ => .ofString "the target does not publish an ABI to compare"
    [⟨.artifactRuntime, artifact.runtimeAbi, renderText observedRuntime, outcome, detail⟩,
     ⟨.artifactDriver, artifact.driverAbi, renderText observedDriver, outcome, detail⟩]

/-- The checks of what the artifact declares. -/
def artifactChecks : List CompatibilityCheck :=
  match inputs.artifact with
  | none => []
  | some artifact =>
    (if artifact.kind.isCodeBearing then
      inputs.architectureCheck artifact :: inputs.computeCapabilityCheck artifact
    else []) ++
    (artifactRequirements artifact).map (inputs.requirementCheck formatDouble · true) ++
    inputs.abiChecks artifact

/-- The check of the memory of a device. A workload that asks for none is not checked. -/
def memoryCheck (workload : WorkloadRecord) : List CompatibilityCheck :=
  let bytes : UInt64 → Text := fun n => .ofNat n.toNat ++ .ofString " bytes"
  let required := workload.requiredMemoryBytesPerAccelerator
  let published := (inputs.acceleratorClass.map AcceleratorClassRecord.memoryBytesPerDevice).getD 0
  if required = 0 then []
  else if published = 0 then
    [⟨.memoryRequirement, bytes required, .ofString "UNKNOWN", .unknownCompatibility,
      .ofString "per-device memory capacity is unpublished for the target"⟩]
  else if published < required then
    [⟨.memoryRequirement, bytes required, bytes published, .incompatibleMemory,
      .ofString "the workload requires more per-device memory than the target provides"⟩]
  else
    [⟨.memoryRequirement, bytes required, bytes published, .compatible,
      .ofString "per-device memory is sufficient for this workload generation"⟩]

/-- The requirement an isolation requirement amounts to. -/
def isolationRequirements (workload : WorkloadRecord) : List CapabilityRequirement :=
  if workload.isolationRequirement.isEmpty then []
  else
    (anyOfRequirement .securityIsolation workload.isolationRequirement
      "workload isolation requirement").toList

/-- The checks of what the workload declares. -/
def workloadChecks : List CompatibilityCheck :=
  match inputs.workload with
  | none => []
  | some workload =>
    workload.requirements.map (inputs.requirementCheck formatDouble · false) ++
      inputs.memoryCheck workload ++
      (isolationRequirements workload).map (inputs.requirementCheck formatDouble · false)

/-- Whether the policy admits the target. -/
def policyAdmissible (cluster : ClusterRecord) : Tri :=
  match inputs.policy with
  | none => .unknown
  | some policy => triAnd (policy.permitsSite cluster.site) (policy.permitsCluster cluster.id)

def policyDetail (cluster : ClusterRecord) : Text :=
  match inputs.policy with
  | none => .ofString "no policy record was supplied; admissibility is not evaluated here"
  | some policy =>
    let named : Text :=
      .ofString "policy " ++ policy.id.value ++ .ofString " generation " ++ policy.generation.toText
    match inputs.policyAdmissible cluster with
    | .yes => named ++ .ofString " permits this target"
    | .no => named ++ .ofString " does not permit this target"
    | .unknown =>
      .ofString "policy admissibility could not be decided from the supplied evidence"

/-- Only a policy that admits the target leaves a check. -/
def policyChecks (cluster : ClusterRecord) : List CompatibilityCheck :=
  match inputs.policy with
  | none => []
  | some policy =>
    if inputs.policyAdmissible cluster = .yes then
      [⟨.policyAdmissibility, .ofString "policy permits the target", policy.id.value, .compatible,
        inputs.policyDetail cluster⟩]
    else []

/-- The checks, in order. -/
def checks : List CompatibilityCheck :=
  match inputs.cluster with
  | none =>
    [⟨.clusterCurrentness, .ofString "target cluster record", .ofString "absent",
      .unknownCompatibility,
      .ofString "no cluster record was supplied; compatibility cannot be assessed"⟩]
  | some cluster =>
    inputs.currentnessCheck :: (inputs.artifactChecks formatDouble ++
      inputs.workloadChecks formatDouble ++ inputs.policyChecks cluster)

/-- The records that are considered for the strength of the assessment, after the cluster. -/
def considered : List Strength :=
  (inputs.acceleratorClass.map fun record => record.stamp.strength).toList ++
  (inputs.artifact.map fun record => record.stamp.strength).toList ++
  (inputs.workload.map fun record => record.stamp.strength).toList ++
  ((inputs.effectiveCapabilities.filter fun set => !set.entries.isEmpty).map
    CapabilitySet.strength).toList

/-- The precision and the evidence class of the assessment. -/
def strength : Strength :=
  match inputs.cluster with
  | none => {}
  | some cluster => inputs.considered.foldl Strength.weaken cluster.stamp.strength

/-- The evidence class of every check. -/
def checkClass : EvidenceClass :=
  let combined :=
    (inputs.effectiveCapabilities.map fun set => set.strength.evidenceClass).getD .unknown
  if combined = .unknown then
    (inputs.cluster.map fun cluster => cluster.stamp.evidenceClass).getD .unknown
  else combined

/-- The evidence of the assessment. -/
def evidence (checks : List CompatibilityCheck) : EvidenceList :=
  match inputs.cluster with
  | none => {}
  | some cluster =>
    let generation := (inputs.workload.map WorkloadRecord.generation).getD {}
    ({} : EvidenceList).addIgnoringStatus .derivedAnalysis inputs.strength.evidenceClass
      (.ofString "compatibility-assessor") .derived
      (.ofString "assessed " ++ .ofNat checks.length ++ .ofString " relationships for cluster " ++
        cluster.id.value ++ .ofString " workload generation " ++
        (if generation.isSet then generation.toText else .ofString "-"))

end CompatibilityInputs

/-- The verdict: every check weakens it. -/
def overallOutcome (checks : List CompatibilityCheck) : CompatibilityOutcome :=
  (checks.map CompatibilityCheck.outcome).foldl CompatibilityOutcome.weakest .compatible

/-- `assess_compatibility`. -/
def assessCompatibility (formatDouble : Double → Text) (inputs : CompatibilityInputs) :
    CompatibilityAssessment :=
  let checks := inputs.checks formatDouble
  { overall := overallOutcome checks
    targetCluster := (inputs.cluster.map ClusterRecord.id).getD {}
    targetClusterGeneration := (inputs.cluster.map ClusterRecord.generation).getD {}
    targetClusterEpoch := (inputs.cluster.map ClusterRecord.epoch).getD {}
    targetAcceleratorClass := (inputs.acceleratorClass.map AcceleratorClassRecord.id).getD {}
    workload := (inputs.workload.map WorkloadRecord.id).getD {}
    workloadGeneration := (inputs.workload.map WorkloadRecord.generation).getD {}
    artifact := (inputs.artifact.map ArtifactRecord.id).getD {}
    artifactGeneration := (inputs.artifact.map ArtifactRecord.generation).getD {}
    runtime := (inputs.clusterRuntime.map RuntimeRecord.id).getD {}
    runtimeGeneration := (inputs.clusterRuntime.map RuntimeRecord.generation).getD {}
    compatibilityGeneration := inputs.compatibilityGeneration
    targetCurrentness := inputs.targetCurrentness
    policyAdmissible := (inputs.cluster.map inputs.policyAdmissible).getD .unknown
    policyDetail := (inputs.cluster.map inputs.policyDetail).getD []
    precision := inputs.strength.precision
    evidenceClass := inputs.strength.evidenceClass
    checkClass := inputs.checkClass
    checks
    evidence := inputs.evidence checks }

end FederationObservatory
