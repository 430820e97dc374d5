import FederationObservatory.Analysis.Capabilities

/-!
# Eligibility of a pool

`evaluate_pool` (`analysis.cpp`): whether a workload can use the idle capacity of one pool. A check
that the pool does not pass fails for a reason, or leaves the question open; the reason of least
precedence is the primary one (`capacity.cpp`).
-/

namespace FederationObservatory

open Sorting

/-! ## Reasons -/

/-- `StrandingReason`. -/
inductive StrandingReason where
  | none | unsupportedAcceleratorCapability | unsupportedPrecision | missingOffloadCapability
  | missingInterconnectFeature | runtimeMismatch | driverMismatch | abiMismatch
  | artifactIncompatibility | missingCompilerTarget | partitionGeometry | topologyConstraint
  | isolationRequirement | missingLocalStorageState | memoryInsufficient | siteRestriction
  | policyRestriction | unknown
  deriving DecidableEq, Repr

namespace StrandingReason

/-- The enumerators, in the order of their values. -/
def enumerators : List StrandingReason :=
  [none, unsupportedAcceleratorCapability, unsupportedPrecision, missingOffloadCapability,
   missingInterconnectFeature, runtimeMismatch, driverMismatch, abiMismatch,
   artifactIncompatibility, missingCompilerTarget, partitionGeometry, topologyConstraint,
   isolationRequirement, missingLocalStorageState, memoryInsufficient, siteRestriction,
   policyRestriction, unknown]

theorem mem_enumerators (reason : StrandingReason) : reason ∈ enumerators := by
  cases reason <;> decide

theorem nodup_enumerators : enumerators.Nodup := by decide

/-- `to_string`. -/
def toText : StrandingReason → Text
  | none => .ofString "NONE"
  | unsupportedAcceleratorCapability => .ofString "UNSUPPORTED_ACCELERATOR_CAPABILITY"
  | unsupportedPrecision => .ofString "UNSUPPORTED_PRECISION"
  | missingOffloadCapability => .ofString "MISSING_OFFLOAD_CAPABILITY"
  | missingInterconnectFeature => .ofString "MISSING_INTERCONNECT_FEATURE"
  | runtimeMismatch => .ofString "RUNTIME_MISMATCH"
  | driverMismatch => .ofString "DRIVER_MISMATCH"
  | abiMismatch => .ofString "ABI_MISMATCH"
  | artifactIncompatibility => .ofString "ARTIFACT_INCOMPATIBILITY"
  | missingCompilerTarget => .ofString "MISSING_COMPILER_TARGET"
  | partitionGeometry => .ofString "PARTITION_GEOMETRY"
  | topologyConstraint => .ofString "TOPOLOGY_CONSTRAINT"
  | isolationRequirement => .ofString "ISOLATION_REQUIREMENT"
  | missingLocalStorageState => .ofString "MISSING_LOCAL_STORAGE_STATE"
  | memoryInsufficient => .ofString "MEMORY_INSUFFICIENT"
  | siteRestriction => .ofString "SITE_RESTRICTION"
  | policyRestriction => .ofString "POLICY_RESTRICTION"
  | unknown => .ofString "UNKNOWN"

/-- `stranding_reason_precedence`. -/
def precedence : StrandingReason → Nat
  | unknown => 0
  | unsupportedAcceleratorCapability => 1
  | unsupportedPrecision => 2
  | missingOffloadCapability => 3
  | missingInterconnectFeature => 4
  | runtimeMismatch => 5
  | driverMismatch => 6
  | abiMismatch => 7
  | artifactIncompatibility => 8
  | missingCompilerTarget => 9
  | partitionGeometry => 10
  | topologyConstraint => 11
  | isolationRequirement => 12
  | missingLocalStorageState => 13
  | memoryInsufficient => 14
  | siteRestriction => 15
  | policyRestriction => 16
  | none => 17

theorem precedence_injective : Function.Injective precedence := by
  intro a b h
  cases a <;> cases b <;> first | rfl | cases h

end StrandingReason

/-- `reason_for_requirement`. -/
def CapabilityKey.strandingReason : CapabilityKey → StrandingReason
  | .precisionFp64 | .precisionFp32 | .precisionTf32 | .precisionFp16 | .precisionBf16
  | .precisionFp8E4M3 | .precisionFp8E5M2 | .precisionFp6 | .precisionInt8 | .precisionInt4
  | .precisionFp4 => .unsupportedPrecision
  | .interconnectType | .interconnectBandwidthGbps | .nvlinkGeneration | .pcieGeneration =>
    .missingInterconnectFeature
  | .offloadCapability => .missingOffloadCapability
  | .partitionSupport | .partitionModes | .partitionGeometry | .partitionMaxInstances =>
    .partitionGeometry
  | .runtimeApi | .runtimeVersion | .runtimeGeneration => .runtimeMismatch
  | .runtimeAbi => .abiMismatch
  | .driverApi | .driverVersion | .driverAbi | .driverGeneration => .driverMismatch
  | .compilerTarget | .compilerVersion => .missingCompilerTarget
  | .artifactFormat | .artifactFormats | .kernelFormat | .kernelArchitectures
  | .quantizationSupport | .quantizationFormats | .sparseExecutionSupport
  | .inferenceServingBackend => .artifactIncompatibility
  | .collectiveSupport | .collectiveBackend | .collectiveMaxGroupSize => .topologyConstraint
  | .securityIsolation => .isolationRequirement
  | .memoryBytes | .memoryBandwidthGbps | .memoryType | .memoryEcc => .memoryInsufficient
  | _ => .unsupportedAcceleratorCapability

/-! ## Tallies -/

/-- What a caller makes of checked arithmetic: a result that does not fit is an error. -/
def orFail {α : Type} (value : Option α) (code : ErrorCode) (message : String)
    (detail : Text := []) : Result α :=
  match value with
  | none => fail code message detail
  | some value => .ok value

/-- `ReasonTally`: an amount for each reason. -/
structure ReasonTally where
  amounts : StrandingReason → UInt64 := fun _ => 0

namespace ReasonTally

/-- `ReasonTally::add`. -/
def add (tally : ReasonTally) (reason : StrandingReason) (amount : UInt64) :
    Result ReasonTally := do
  let updated ← orFail (checkedAdd (tally.amounts reason) amount) .capacityInconsistent
    "reason tally overflowed" reason.toText
  pure { amounts := Function.update tally.amounts reason updated }

/-- `ReasonTally::get`. -/
def get (tally : ReasonTally) (reason : StrandingReason) : UInt64 := tally.amounts reason

/-- `ReasonTally::total`. -/
def total (tally : ReasonTally) : UInt64 :=
  (checkedSumFrom 0 (StrandingReason.enumerators.map tally.amounts)).getD 0xFFFFFFFFFFFFFFFF

/-- `ReasonTally::non_zero`. -/
def nonZero (tally : ReasonTally) : List (StrandingReason × UInt64) :=
  stableSort (fun a b => decide (a.1.precedence < b.1.precedence))
    ((StrandingReason.enumerators.map fun reason => (reason, tally.amounts reason)).filter fun entry =>
      entry.2 != 0)

end ReasonTally

/-! ## Checks -/

/-- What a check says of a pool that does not simply pass it. -/
inductive PoolOutcome where
  | failure (reason : StrandingReason) (note : Text)
  | undecided (note : Text)
  deriving DecidableEq, Repr

/-- `PoolEligibility`. -/
structure PoolEligibility where
  decided : Bool := false
  eligible : Bool := false
  primary : StrandingReason := .none
  occurrences : ReasonTally := {}
  notes : List Text := []

/-- `note_reason`. -/
def PoolEligibility.noteReason (result : PoolEligibility) (reason : StrandingReason) :
    PoolEligibility :=
  { result with
    occurrences :=
      match result.occurrences.add reason 1 with
      | .ok tally => tally
      | .error _ => result.occurrences
    primary :=
      if result.primary = .none ∨ reason.precedence < result.primary.precedence then reason
      else result.primary }

/-- The result of `evaluate_pool` so far, with `any_failure` and `any_undecided`. -/
structure PoolEvaluation where
  result : PoolEligibility := {}
  anyFailure : Bool := false
  anyUndecided : Bool := false

/-- The effect of one check. -/
def PoolEvaluation.note (evaluation : PoolEvaluation) : PoolOutcome → PoolEvaluation
  | .failure reason note =>
    let result := evaluation.result.noteReason reason
    { evaluation with result := { result with notes := result.notes ++ [note] }, anyFailure := true }
  | .undecided note =>
    { evaluation with
      result := { evaluation.result with notes := evaluation.result.notes ++ [note] }
      anyUndecided := true }

/-- The three returns at the end of `evaluate_pool`. -/
def PoolEvaluation.verdict (evaluation : PoolEvaluation) : PoolEligibility :=
  if evaluation.anyFailure then { evaluation.result with decided := true, eligible := false }
  else if evaluation.anyUndecided then { evaluation.result with decided := false }
  else { evaluation.result with decided := true, eligible := true }

namespace PoolOutcome

variable (formatDouble : Double → Text)

/-- The check of the architecture of a code-bearing artifact. -/
def architecture (artifact : Option ArtifactRecord)
    (acceleratorClass : Option AcceleratorClassRecord) : List PoolOutcome :=
  match artifact with
  | none => []
  | some artifact =>
    if !artifact.kind.isCodeBearing then []
    else if artifact.targetArchitectures.isEmpty then
      [.undecided (.ofString "the artifact does not declare its target architectures")]
    else
      let unpublished : List PoolOutcome :=
        [.undecided (.ofString "the accelerator architecture of this pool is unpublished")]
      match acceleratorClass with
      | none => unpublished
      | some record =>
        if record.architecture.isEmpty then unpublished
        else if artifact.targetsArchitecture record.architecture then []
        else
          [.failure .artifactIncompatibility
            (.ofString "the artifact targets " ++
              joinStrings artifact.targetArchitectures (.ofString ",") ++
              .ofString " and not the pool architecture " ++ record.architecture)]

/-- `require_text`. -/
def requireText (effective : CapabilitySet) (value : Text) (key : CapabilityKey)
    (reason : StrandingReason) (label : String) : List PoolOutcome :=
  let unsupported : List PoolOutcome :=
    [.failure reason (.ofString label ++ .ofString " " ++ value ++
      .ofString " is not accepted by the target")]
  if value.isEmpty then []
  else
    match effective.find { key } with
    | none => [.undecided (.ofString "the target does not declare " ++ .ofString label)]
    | some entry =>
      match entry.value with
      | .unknown => [.undecided (.ofString "the target does not declare " ++ .ofString label)]
      | .text published => if published = value then [] else unsupported
      | .textSet published => if value ∈ published then [] else unsupported
      | _ => [.undecided (.ofString "the declared " ++ .ofString label ++
          .ofString " is not comparable")]

/-- The checks of the artifact's formats and of its compiler target. -/
def formats (artifact : Option ArtifactRecord) (effective : CapabilitySet) : List PoolOutcome :=
  match artifact with
  | none => []
  | some artifact =>
    requireText effective artifact.format .artifactFormats .artifactIncompatibility
        "artifact format" ++
      requireText effective artifact.kernelFormat .kernelFormat .artifactIncompatibility
        "kernel format" ++
      requireText effective artifact.stateFormat .artifactFormats .missingLocalStorageState
        "state format" ++
      requireText effective artifact.compilerTarget .compilerTarget .missingCompilerTarget
        "compiler target"

/-- The check of the runtime ABI. -/
def abi (artifact : Option ArtifactRecord) (runtime : Option RuntimeRecord) : List PoolOutcome :=
  match artifact with
  | none => []
  | some artifact =>
    if artifact.runtimeAbi.isEmpty then []
    else
      let published := (runtime.map RuntimeRecord.abi).getD []
      if published.isEmpty then
        [.undecided (.ofString "the target runtime does not publish an ABI")]
      else if published = artifact.runtimeAbi then []
      else
        [.failure .abiMismatch
          (.ofString "the artifact requires runtime ABI " ++ artifact.runtimeAbi ++
            .ofString " but the target publishes " ++ published)]

/-- The check of one requirement of the workload. -/
def requirement (effective : CapabilitySet) (requirement : CapabilityRequirement) :
    List PoolOutcome :=
  match (evaluateRequirement formatDouble requirement effective).satisfied with
  | .no =>
    if requirement.optional then []
    else
      [.failure requirement.key.key.strandingReason
        (.ofString "unsatisfied requirement " ++ requirement.toText formatDouble)]
  | .unknown =>
    [.undecided (.ofString "undecided requirement " ++ requirement.toText formatDouble)]
  | .yes => []

/-- The check of the memory of a device. -/
def memory (workload : WorkloadRecord) (acceleratorClass : Option AcceleratorClassRecord) :
    List PoolOutcome :=
  if workload.requiredMemoryBytesPerAccelerator = 0 then []
  else
    let published := (acceleratorClass.map AcceleratorClassRecord.memoryBytesPerDevice).getD 0
    if published = 0 then
      [.undecided (.ofString "per-device memory is unpublished for this pool")]
    else if published < workload.requiredMemoryBytesPerAccelerator then
      [.failure .memoryInsufficient
        (.ofString "the workload requires " ++
          .ofNat workload.requiredMemoryBytesPerAccelerator.toNat ++
          .ofString " bytes per device, the pool provides " ++ .ofNat published.toNat)]
    else []

/-- The checks of what the workload declares. -/
def declared (workload : Option WorkloadRecord) (effective : CapabilitySet)
    (acceleratorClass : Option AcceleratorClassRecord) : List PoolOutcome :=
  match workload with
  | none => []
  | some workload =>
    workload.requirements.flatMap (requirement formatDouble effective) ++
      memory workload acceleratorClass

/-- The check of the policy. A site that is excluded settles it. -/
def policy (policy : Option PolicyRecord) (site : Option SiteRecord) (cluster : ClusterRecord) :
    List PoolOutcome :=
  match policy with
  | none => []
  | some policy =>
    let excludes : Text :=
      .ofString "policy " ++ policy.id.value ++ .ofString " generation " ++
        policy.generation.toText ++ .ofString " excludes "
    match site.filter fun record => policy.permitsSite record.id = .no with
    | some record =>
      [.failure .siteRestriction (excludes ++ .ofString "site " ++ record.id.value)]
    | none =>
      match policy.permitsCluster cluster.id with
      | .no =>
        [.failure .policyRestriction (excludes ++ .ofString "cluster " ++ cluster.id.value)]
      | .unknown =>
        [.undecided (.ofString "policy admissibility of this cluster is undecided")]
      | .yes => []

end PoolOutcome

/-- What `evaluate_pool` is given. -/
structure PoolInputs where
  workload : Option WorkloadRecord
  artifact : Option ArtifactRecord
  cluster : ClusterRecord
  site : Option SiteRecord
  acceleratorClass : Option AcceleratorClassRecord
  runtime : Option RuntimeRecord
  policy : Option PolicyRecord
  kind : ResourceKind

namespace PoolInputs

/-- The capabilities of the target. -/
def effective (inputs : PoolInputs) : CapabilitySet :=
  mergeCapabilities inputs.cluster inputs.acceleratorClass inputs.runtime

/-- What the checks say, in order. -/
def outcomes (formatDouble : Double → Text) (inputs : PoolInputs) : List PoolOutcome :=
  PoolOutcome.architecture inputs.artifact inputs.acceleratorClass ++
    PoolOutcome.formats inputs.artifact inputs.effective ++
    PoolOutcome.abi inputs.artifact inputs.runtime ++
    PoolOutcome.declared formatDouble inputs.workload inputs.effective inputs.acceleratorClass ++
    PoolOutcome.policy inputs.policy inputs.site inputs.cluster

end PoolInputs

/-- `evaluate_pool`. -/
def evaluatePool (formatDouble : Double → Text) (inputs : PoolInputs) : PoolEligibility :=
  if inputs.cluster.readiness = .notReady ∨ inputs.cluster.readiness = .draining then
    { notes :=
        [.ofString "cluster reports idle capacity while its readiness is " ++
          inputs.cluster.readiness.toText ++
          .ofString "; the runtime does not resolve the inconsistency"] }
  else if inputs.kind = .accelerator ∧ inputs.acceleratorClass = none then
    { notes := [.ofString "the accelerator class of this pool is not published"] }
  else ((inputs.outcomes formatDouble).foldl PoolEvaluation.note {}).verdict

end FederationObservatory
