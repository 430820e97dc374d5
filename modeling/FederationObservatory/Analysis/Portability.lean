import FederationObservatory.Analysis.Capabilities
import FederationObservatory.Model.Observations

/-!
# Portability

`assess_portability` (`portability.cpp`): whether a workload can move to a destination, one
dimension at a time. A dimension that nothing constrains is reported and decides nothing; of the
others the weakest is the verdict.
-/

namespace FederationObservatory

namespace PortabilityOutcome

/-- `portability_severity`. -/
def severity : PortabilityOutcome → Nat
  | portableDirect => 0
  | portableWithFallback => 1
  | portableWithRebuild => 2
  | portableWithRecompile => 3
  | portableWithConversion => 4
  | portableWithStateTranslation => 5
  | notPortableTopology => 6
  | notPortablePolicy => 7
  | notPortableArtifact => 8
  | notPortableRuntime => 9
  | notPortableState => 10
  | notPortableArchitecture => 11
  | unknown => 12
  | unsupported => 13

/-- `weakest`. -/
def weakest (a b : PortabilityOutcome) : PortabilityOutcome :=
  if b.severity ≤ a.severity then a else b

/-- `is_technical_failure`. -/
def isTechnicalFailure : PortabilityOutcome → Bool
  | notPortableTopology | notPortableArtifact | notPortableRuntime | notPortableState
  | notPortableArchitecture => true
  | _ => false

/-- `is_undecided`. -/
def isUndecided : PortabilityOutcome → Bool
  | unknown | unsupported => true
  | _ => false

end PortabilityOutcome

/-- `to_string`. -/
def RuntimeKind.toText : RuntimeKind → Text
  | .unknown => .ofString "UNKNOWN"
  | .cuda => .ofString "CUDA"
  | .rocm => .ofString "ROCM"
  | .oneApi => .ofString "ONEAPI"
  | .metal => .ofString "METAL"
  | .vulkan => .ofString "VULKAN"
  | .openCl => .ofString "OPENCL"
  | .cpuGeneric => .ofString "CPU_GENERIC"
  | .custom => .ofString "CUSTOM"

/-- The keys whose `category_of` is `PrecisionSupport`. -/
def CapabilityKey.isPrecisionSupport : CapabilityKey → Bool
  | .precisionFp64 | .precisionFp32 | .precisionTf32 | .precisionFp16 | .precisionBf16
  | .precisionFp8E4M3 | .precisionFp8E5M2 | .precisionFp6 | .precisionInt8 | .precisionInt4
  | .precisionFp4 => true
  | _ => false

/-- `PortabilityInputs`; a pointer that is null is `none`. -/
structure PortabilityInputs where
  workload : Option WorkloadRecord := none
  artifact : Option ArtifactRecord := none
  sourceCluster : Option ClusterRecord := none
  sourceAcceleratorClass : Option AcceleratorClassRecord := none
  sourceRuntime : Option RuntimeRecord := none
  destinationCluster : Option ClusterRecord := none
  destinationAcceleratorClass : Option AcceleratorClassRecord := none
  destinationRuntime : Option RuntimeRecord := none
  policy : Option PolicyRecord := none
  destinationCapabilities : Option CapabilitySet := none
  federation : FederationId := {}
  federationGeneration : FederationGeneration := {}
  compatibilityGeneration : CompatibilityGeneration := {}
  policyGeneration : PolicyGeneration := {}

/-- `destination_supports_text`; `none` where it leaves `decided` false. -/
def destinationSupportsText (set : Option CapabilitySet) (key : CapabilityKey) (value : Text) :
    Option Bool :=
  match set.bind (CapabilitySet.find · { key }) with
  | none => none
  | some entry =>
    match entry.value with
    | .text published => some (published == value)
    | .textSet published => some (published.contains value)
    | _ => none

/-- `architecture_list`. -/
def architectureList (artifact : ArtifactRecord) : Text :=
  if artifact.targetArchitectures.isEmpty then .ofString "UNKNOWN"
  else joinStrings artifact.targetArchitectures (.ofString ",")

/-! ## Dimensions -/

namespace PortabilityInputs

/-- A dimension that nothing constrains. -/
def unconstrained (destination : ClusterRecord) (dimension : PortabilityDimension)
    (detail : String) : PortabilityDimensionResult :=
  { dimension
    constrainsOverall := false
    detail := .ofString detail
    basis := .unattributed
    evidenceClass := destination.stamp.evidenceClass }

/-- A dimension decided, or left open, by comparing records. -/
def derivedResult (destination : ClusterRecord) (dimension : PortabilityDimension)
    (outcome : PortabilityOutcome) (detail : Text) : PortabilityDimensionResult :=
  { dimension
    outcome
    detail
    basis := .derived
    precision := .derived
    evidenceClass := destination.stamp.evidenceClass }

section Dimensions

variable (formatDouble : Double → Text) (inputs : PortabilityInputs) (destination : ClusterRecord)

/-- What the destination says of the compiler target of an artifact. -/
def compilerTargetSupport (artifact : ArtifactRecord) : Option Bool :=
  if artifact.compilerTarget.isEmpty then none
  else
    destinationSupportsText inputs.destinationCapabilities .compilerTarget artifact.compilerTarget

/-- The dimension `Binary`. -/
def binary : PortabilityDimensionResult :=
  match inputs.artifact.filter fun artifact => artifact.kind.isCodeBearing with
  | none =>
    unconstrained destination .binary
      "binary portability does not apply to this artifact kind, or no artifact is known"
  | some artifact =>
    let architecture :=
      (inputs.destinationAcceleratorClass.map AcceleratorClassRecord.architecture).getD []
    if artifact.targetArchitectures.isEmpty then
      { dimension := .binary
        detail := .ofString "the artifact does not declare its target architectures"
        basis := .observed
        precision := artifact.stamp.precision
        evidenceClass := artifact.stamp.evidenceClass }
    else if architecture.isEmpty then
      { dimension := .binary
        detail := .ofString "the destination accelerator architecture is unpublished"
        basis := .observed
        evidenceClass := destination.stamp.evidenceClass }
    else if artifact.targetsArchitecture architecture then
      derivedResult destination .binary .portableDirect
        (.ofString "the artifact declares the destination architecture " ++ architecture ++
          .ofString " (targets: " ++ architectureList artifact ++ .ofString ")")
    else
      match inputs.compilerTargetSupport artifact with
      | some true =>
        derivedResult destination .binary .portableWithRebuild
          (.ofString "the artifact targets " ++ architectureList artifact ++
            .ofString " but the destination publishes compiler target " ++
            artifact.compilerTarget)
      | some false =>
        derivedResult destination .binary .notPortableArchitecture
          (.ofString "the artifact targets " ++ architectureList artifact ++
            .ofString " and not the destination architecture " ++ architecture ++
            .ofString "; the destination does not publish a matching compiler target")
      | none =>
        derivedResult destination .binary .notPortableArchitecture
          (.ofString "the artifact targets " ++ architectureList artifact ++
            .ofString " and not the destination architecture " ++ architecture ++
            .ofString "; no destination compiler target is published")

/-- The dimensions `Artifact` and `DataFormat`, which share an outcome. -/
def artifactFormat : List PortabilityDimensionResult :=
  match inputs.artifact.filter fun artifact => !artifact.format.isEmpty with
  | none =>
    [unconstrained destination .artifact "the artifact does not declare a format",
     unconstrained destination .dataFormat "no data format evidence is available"]
  | some artifact =>
    let both := fun outcome detail =>
      [derivedResult destination .artifact outcome detail,
       derivedResult destination .dataFormat outcome detail]
    match destinationSupportsText inputs.destinationCapabilities .artifactFormats
        artifact.format with
    | none =>
      both .unknown (.ofString "the destination does not publish supported artifact formats")
    | some true =>
      both .portableDirect (.ofString "the destination supports artifact format " ++ artifact.format)
    | some false =>
      both .notPortableArtifact
        (.ofString "the destination does not support artifact format " ++ artifact.format)

/-- The dimension `Model`. -/
def model : PortabilityDimensionResult :=
  match inputs.artifact.filter fun artifact =>
      artifact.kind == .modelWeights || artifact.kind == .adapter with
  | none =>
    unconstrained destination .model
      "model portability does not apply to this artifact kind, or no artifact is known"
  | some artifact =>
    match destinationSupportsText inputs.destinationCapabilities .inferenceServingBackend
        artifact.format with
    | none =>
      derivedResult destination .model .unknown
        (.ofString "the destination does not publish a serving backend capability")
    | some true =>
      derivedResult destination .model .portableDirect
        (.ofString "the destination serving backend accepts format " ++ artifact.format)
    | some false =>
      derivedResult destination .model .notPortableArtifact
        (.ofString "no destination serving backend accepts format " ++ artifact.format)

/-- The dimensions `Checkpoint` and `State`. -/
def stateFormat : List PortabilityDimensionResult :=
  match inputs.artifact.filter fun artifact => !artifact.stateFormat.isEmpty with
  | none =>
    [unconstrained destination .checkpoint "the artifact does not declare a state format",
     unconstrained destination .state
       "state portability cannot be decided without a declared state format"]
  | some artifact =>
    match destinationSupportsText inputs.destinationCapabilities .artifactFormats
        artifact.stateFormat with
    | none =>
      [derivedResult destination .checkpoint .unknown
         (.ofString "the destination does not publish supported state formats"),
       derivedResult destination .state .unknown
         (.ofString "state portability cannot be decided")]
    | some true =>
      let detail := .ofString "the destination accepts checkpoint format " ++ artifact.stateFormat
      [derivedResult destination .checkpoint .portableDirect detail,
       derivedResult destination .state .portableDirect detail]
    | some false =>
      [derivedResult destination .checkpoint .portableWithStateTranslation
         (.ofString "checkpoint format " ++ artifact.stateFormat ++
           .ofString " is not accepted by the destination; a translation step is required"),
       derivedResult destination .state .notPortableState
         (.ofString "state captured in format " ++ artifact.stateFormat ++
           .ofString " is not directly restorable at the destination")]

/-- The dimension `RuntimeApi`. -/
def runtimeApi : PortabilityDimensionResult :=
  match inputs.sourceRuntime, inputs.destinationRuntime with
  | some source, some target =>
    if source.kind ≠ target.kind then
      derivedResult destination .runtimeApi .notPortableRuntime
        (.ofString "runtime API family changes from " ++ source.kind.toText ++ .ofString " to " ++
          target.kind.toText)
    else if source.abi ≠ target.abi ∨ source.generation ≠ target.generation then
      derivedResult destination .runtimeApi .portableWithRecompile
        (.ofString "runtime ABI generation changes from " ++ renderText source.abi ++
          .ofString " (" ++ source.generation.toText ++ .ofString ") to " ++
          renderText target.abi ++ .ofString " (" ++ target.generation.toText ++ .ofString ")")
    else
      derivedResult destination .runtimeApi .portableDirect
        (.ofString "source and destination publish the same runtime kind, ABI and generation")
  | _, _ =>
    { dimension := .runtimeApi
      detail := .ofString "source and destination runtimes are not both known"
      basis := .unattributed
      evidenceClass := destination.stamp.evidenceClass }

/-- The dimension `Kernel`. -/
def kernel : PortabilityDimensionResult :=
  match inputs.artifact.filter fun artifact => !artifact.kernelFormat.isEmpty with
  | none => unconstrained destination .kernel "the artifact does not declare a kernel format"
  | some artifact =>
    match destinationSupportsText inputs.destinationCapabilities .kernelFormat
        artifact.kernelFormat with
    | none =>
      derivedResult destination .kernel .unknown
        (.ofString "the destination does not publish a kernel format capability")
    | some true =>
      derivedResult destination .kernel .portableDirect
        (.ofString "the destination accepts kernel format " ++ artifact.kernelFormat)
    | some false =>
      derivedResult destination .kernel .portableWithRecompile
        (.ofString "kernel format " ++ artifact.kernelFormat ++
          .ofString " is not accepted by the destination; kernels must be recompiled")

/-- The loop over the requirements keeps these. -/
structure NumericalState where
  worst : PortabilityOutcome := .portableDirect
  detail : Text := .ofString "every declared numerical requirement is satisfied"
  undecided : Bool := false

/-- The body of the loop over the requirements. -/
def NumericalState.add (capabilities : CapabilitySet) (state : NumericalState)
    (requirement : CapabilityRequirement) : NumericalState :=
  if !requirement.key.key.isPrecisionSupport then state
  else
    match (evaluateRequirement formatDouble requirement capabilities).satisfied with
    | .no =>
      { state with
        worst := state.worst.weakest .notPortableArchitecture
        detail := .ofString "the destination does not satisfy " ++ requirement.toText formatDouble }
    | .unknown =>
      { state with
        undecided := true
        detail := .ofString "the destination evidence does not decide " ++
          requirement.toText formatDouble }
    | .yes => state

/-- The outcome at the end of the loop. -/
def NumericalState.outcome (state : NumericalState) : PortabilityOutcome :=
  if state.undecided ∧ state.worst = .portableDirect then .unknown else state.worst

/-- The dimension `NumericalSemantic`. -/
def numericalSemantic : PortabilityDimensionResult :=
  match inputs.workload.filter fun workload => !workload.requirements.isEmpty with
  | none =>
    unconstrained destination .numericalSemantic
      "the workload generation states no numerical requirements"
  | some workload =>
    match inputs.destinationCapabilities with
    | none =>
      { dimension := .numericalSemantic
        detail := .ofString "the destination publishes no capability evidence"
        basis := .unattributed
        evidenceClass := destination.stamp.evidenceClass }
    | some capabilities =>
      let state := workload.requirements.foldl (NumericalState.add formatDouble capabilities) {}
      derivedResult destination .numericalSemantic state.outcome state.detail

/-- The dimension `Performance`. -/
def performance : PortabilityDimensionResult :=
  unconstrained destination .performance
    ("Federation Observatory does not measure workload performance and therefore never " ++
      "asserts performance portability")

/-- The dimension `Operational`. -/
def operational : PortabilityDimensionResult :=
  let observed := fun (outcome : PortabilityOutcome) (detail : String) =>
    { derivedResult destination .operational outcome (.ofString detail) with basis := .observed }
  match destination.currentness with
  | .current =>
    match destination.readiness with
    | .ready => observed .portableDirect "the destination is current and reports ready"
    | .draining =>
      observed .notPortableRuntime "the destination is draining and is not accepting new work"
    | .notReady => observed .notPortableRuntime "the destination reports not-ready"
    | .retired => observed .notPortableRuntime "the destination is retired"
    | .unknown => observed .unknown "the destination does not publish readiness"
  | .revalidationRequired =>
    { dimension := .operational
      detail := .ofString ("destination evidence requires revalidation and cannot support an " ++
        "operational conclusion") }
  | currentness =>
    { dimension := .operational
      detail := .ofString "destination evidence is " ++ currentness.toText }

/-- The dimensions, in the order they are recorded. -/
def dimensions : List PortabilityDimensionResult :=
  inputs.binary destination :: inputs.artifactFormat destination ++
    inputs.model destination :: inputs.stateFormat destination ++
    [inputs.runtimeApi destination, inputs.kernel destination,
     inputs.numericalSemantic formatDouble destination, performance destination,
     operational destination]

end Dimensions

end PortabilityInputs

/-! ## The assessment -/

/-- What the dimensions that constrain it make of the verdict. -/
structure PortabilityVerdict where
  overall : PortabilityOutcome := .unknown
  precision : Precision := .unknown
  evidenceClass : EvidenceClass := .unknown
  deriving DecidableEq, Repr

def PortabilityVerdict.ofResult (result : PortabilityDimensionResult) : PortabilityVerdict :=
  ⟨result.outcome, result.precision, result.evidenceClass⟩

/-- The verdict with one dimension more. -/
def PortabilityVerdict.weaken (verdict : PortabilityVerdict) (result : PortabilityDimensionResult) :
    PortabilityVerdict where
  overall := verdict.overall.weakest result.outcome
  precision := verdict.precision.weakest result.precision
  evidenceClass := verdict.evidenceClass.weaker result.evidenceClass

/-- The loop that aggregates the dimensions. Where none constrains the verdict, it is unknown. -/
def portabilityVerdict (dimensions : List PortabilityDimensionResult) : PortabilityVerdict :=
  match dimensions.filter PortabilityDimensionResult.constrainsOverall with
  | [] => {}
  | result :: results => results.foldl PortabilityVerdict.weaken (.ofResult result)

section Assessment

variable (formatDouble : Double → Text) (inputs : PortabilityInputs)

/-- What is known of the assessment before any dimension is. -/
def PortabilityInputs.subject : PortabilityAssessment :=
  { federation := inputs.federation
    federationGeneration := inputs.federationGeneration
    compatibilityGeneration := inputs.compatibilityGeneration
    policyGeneration := inputs.policyGeneration
    workload := (inputs.workload.map WorkloadRecord.id).getD {}
    workloadGeneration := (inputs.workload.map WorkloadRecord.generation).getD {}
    workloadClass := (inputs.workload.map WorkloadRecord.workloadClass).getD {}
    artifact := (inputs.artifact.map ArtifactRecord.id).getD {}
    artifactGeneration := (inputs.artifact.map ArtifactRecord.generation).getD {}
    source := (inputs.sourceCluster.map ClusterRecord.id).getD {}
    sourceGeneration := (inputs.sourceCluster.map ClusterRecord.generation).getD {}
    sourceEpoch := (inputs.sourceCluster.map ClusterRecord.epoch).getD {}
    sourceRuntime := (inputs.sourceRuntime.map RuntimeRecord.id).getD {}
    sourceRuntimeGeneration := (inputs.sourceRuntime.map RuntimeRecord.generation).getD {}
    destination := (inputs.destinationCluster.map ClusterRecord.id).getD {}
    destinationGeneration := (inputs.destinationCluster.map ClusterRecord.generation).getD {}
    destinationEpoch := (inputs.destinationCluster.map ClusterRecord.epoch).getD {}
    destinationRuntime := (inputs.destinationRuntime.map RuntimeRecord.id).getD {}
    destinationRuntimeGeneration :=
      (inputs.destinationRuntime.map RuntimeRecord.generation).getD {}
    currentness :=
      ((inputs.destinationCluster.or inputs.sourceCluster).map ClusterRecord.currentness).getD
        .unknown }

/-- Whether the policy permits the destination. Without a policy, nothing is said. -/
def PortabilityInputs.permitted (destination : ClusterRecord) : Option Tri :=
  inputs.policy.map fun policy =>
    triAnd (policy.permitsSite destination.site) (policy.permitsCluster destination.id)

/-- The evidence about the policy. -/
def PortabilityInputs.policyEvidence (destination : ClusterRecord) : EvidenceList :=
  let evidenceClass := destination.stamp.evidenceClass
  match inputs.policy with
  | none =>
    ({} : EvidenceList).addIgnoringStatus .derivedAnalysis evidenceClass
      (.ofString "portability-assessor") .unknown
      (.ofString ("no policy record was supplied; policy portability is not evaluated and " ++
        "NOT_PORTABLE_POLICY is not asserted"))
  | some policy =>
    match triAnd (policy.permitsSite destination.site) (policy.permitsCluster destination.id) with
    | .no =>
      ({} : EvidenceList).addIgnoringStatus .derivedAnalysis evidenceClass policy.id.value .derived
        (.ofString "policy generation " ++ policy.generation.toText ++
          .ofString " does not permit destination " ++ destination.id.value ++
          .ofString "; this is a policy restriction, not a technical incompatibility")
    | .unknown =>
      ({} : EvidenceList).addIgnoringStatus .derivedAnalysis evidenceClass policy.id.value .unknown
        (.ofString "policy admissibility of the destination could not be decided")
    | .yes => {}

/-- `assess_portability`. -/
def assessPortability : PortabilityAssessment :=
  match inputs.destinationCluster with
  | none =>
    { inputs.subject with
      dimensions := (WireEnum.enumerators (E := PortabilityDimension)).map fun dimension =>
        { dimension
          detail := .ofString "no destination cluster was supplied"
          basis := .unattributed }
      evidence := ({} : EvidenceList).addIgnoringStatus .derivedAnalysis .unknown
        (.ofString "portability-assessor") .unknown (.ofString "destination cluster absent") }
  | some destination =>
    let dimensions := inputs.dimensions formatDouble destination
    let verdict := portabilityVerdict dimensions
    let has := fun outcome => dimensions.any fun result => result.outcome == outcome
    let policyBlocked := inputs.permitted destination == some .no
    { inputs.subject with
      dimensions
      requiresRebuild := has .portableWithRebuild
      requiresRecompile := has .portableWithRecompile
      requiresConversion := has .portableWithConversion || has .portableWithStateTranslation
      requiresFallback := has .portableWithFallback
      requiresStateTranslation := has .notPortableState
      technicallyBlocked := dimensions.any fun result => result.outcome.isTechnicalFailure
      policyBlocked
      overall := if policyBlocked then verdict.overall.weakest .notPortablePolicy
        else verdict.overall
      precision := verdict.precision
      evidenceClass := verdict.evidenceClass
      evidence := (inputs.policyEvidence destination).addIgnoringStatus .derivedAnalysis
        verdict.evidenceClass (.ofString "portability-assessor") .derived
        (.ofString "evaluated " ++ .ofNat dimensions.length ++
          .ofString " dimensions for destination " ++ destination.id.value ++
          .ofString (" (heterogeneous portability is never reduced to a " ++ "single boolean)")) }

end Assessment

end FederationObservatory
