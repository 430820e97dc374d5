import FederationObservatory.Model.Records

/-!
# Dynamic records

`placement.hpp`, `migration.hpp` and `portability.hpp`: the placement, migration and portability
observations, with their `validate`, the migration stage machine, and the rendering that a
portability assessment is fingerprinted by.
-/

namespace FederationObservatory

open Sorting

/-! ## Placements -/

/-- `kRejectionReasonCount`. -/
def rejectionReasonCount : Nat := 19

/-- `CandidateStatus`. -/
inductive CandidateStatus where
  | selected | rejected | notConsidered | unattributed
  deriving DecidableEq, Repr

instance : WireEnum CandidateStatus where
  enumerators := [.selected, .rejected, .notConsidered, .unattributed]
  code e := UInt8.ofNat e.ctorIdx
  getElem?_code e := by cases e <;> rfl

/-- `CandidateSetCompleteness`. -/
inductive CandidateSetCompleteness where
  | unknown | selectedOnly | partialSet | complete
  deriving DecidableEq, Repr

instance : WireEnum CandidateSetCompleteness where
  enumerators := [.unknown, .selectedOnly, .partialSet, .complete]
  code e := UInt8.ofNat e.ctorIdx
  getElem?_code e := by cases e <;> rfl

/-- `CandidateObservation`: one candidate row of a placement. -/
structure CandidateObservation where
  cluster : ClusterId := {}
  clusterGeneration : ClusterGeneration := {}
  clusterEpoch : ClusterEpoch := {}
  acceleratorClass : AcceleratorClassId := {}
  status : CandidateStatus := .unattributed
  reasons : UInt32 := 0
  basis : ReasonBasis := .unattributed
  precision : Precision := .unknown
  evidenceClass : EvidenceClass := .unknown
  detail : Text := []
  evidence : EvidenceList := {}
  deriving DecidableEq, Repr

/-- `operator<` on candidates. -/
def CandidateObservation.lt (a b : CandidateObservation) : Bool :=
  if a.cluster ≠ b.cluster then less a.cluster b.cluster
  else if a.status ≠ b.status then WireEnum.codeLt a.status b.status
  else less a.acceleratorClass b.acceleratorClass

/-- `PlacementRecord`. -/
structure PlacementRecord where
  id : PlacementId := {}
  generation : PlacementGeneration := {}
  workload : WorkloadId := {}
  workloadGeneration : WorkloadGeneration := {}
  federation : FederationId := {}
  federationGeneration : FederationGeneration := {}
  workloadClass : WorkloadClassId := {}
  selected : ClusterId := {}
  selectedGeneration : ClusterGeneration := {}
  selectedEpoch : ClusterEpoch := {}
  selectedAcceleratorClass : AcceleratorClassId := {}
  selectedAcceleratorCount : UInt32 := 0
  selectedMemoryBytes : UInt64 := 0
  candidates : List CandidateObservation := []
  candidateCompleteness : CandidateSetCompleteness := .unknown
  policyGeneration : PolicyGeneration := {}
  capacityGeneration : CapacityGeneration := {}
  topologyGeneration : TopologyGeneration := {}
  compatibilityGeneration : CompatibilityGeneration := {}
  runtimeGeneration : RuntimeGeneration := {}
  capacityAvailable : Bool := false
  compatibilityConstrained : Tri := .unknown
  topologyConstrained : Tri := .unknown
  policyConstrained : Tri := .unknown
  capabilityConstrained : Tri := .unknown
  affinityConstrained : Tri := .unknown
  fallbackRequired : Bool := false
  fallbackDetail : Text := []
  costKnown : Bool := false
  costEstimate : Double := {}
  sloClass : Text := []
  currentness : Currentness := .unknown
  stamp : ObservationStamp := {}
  evidence : EvidenceList := {}
  deriving DecidableEq, Repr

/-- The checks of `PlacementRecord::validate` on one candidate. -/
def PlacementRecord.validateCandidate (r : PlacementRecord) (c : CandidateObservation) :
    Status := do
  failIf c.cluster.empty .invalidArgument "candidate has no cluster" r.id.value
  failIf (c.status == .selected && c.cluster != r.selected) .invalidArgument
    "selected candidate is not the selected cluster"
    (r.id.value ++ .ofString " " ++ c.cluster.value)
  failIf (c.reasons == 0 && c.status == .rejected) .invalidArgument
    "rejected candidate carries no reason" (r.id.value ++ .ofString " " ++ c.cluster.value)

/-- `PlacementRecord::validate`. -/
def PlacementRecord.validate (r : PlacementRecord) : Status := do
  failIf r.id.empty .invalidArgument "placement id is empty"
  failIf (!r.generation.isSet) .invalidArgument "placement generation is unset" r.id.value
  failIf r.workload.empty .invalidArgument "placement has no workload" r.id.value
  failIf (!r.workloadGeneration.isSet) .invalidArgument "placement workload generation is unset"
    r.id.value
  failIf r.federation.empty .invalidArgument "placement has no federation" r.id.value
  failIf r.selected.empty .invalidArgument "placement has no selected cluster" r.id.value
  failIf (decide (maxCandidatesPerPlacement < r.candidates.length)) .boundExceeded
    "too many placement candidates" r.id.value
  r.candidates.forM r.validateCandidate
  failIf (decide (1 < r.candidates.countP (·.status == .selected))) .invalidArgument
    "placement has more than one selected candidate" r.id.value
  failIf (hasDuplicates (r.candidates.map (·.cluster))) .invalidArgument
    "duplicate candidate cluster" r.id.value
  failIf (r.candidateCompleteness == .selectedOnly && decide (1 < r.candidates.length))
    .invalidArgument "candidate set is marked SELECTED_ONLY but carries more than one candidate"
    r.id.value
  failIf (r.candidateCompleteness == .selectedOnly && r.candidates.any (·.status == .rejected))
    .invalidArgument "candidate set is marked SELECTED_ONLY but carries a rejection" r.id.value

/-! ## Migrations -/

/-- `MigrationStage`. -/
inductive MigrationStage where
  | planned | sourceQuiescing | stateCaptured | transferStarted | transferComplete
  | destinationPrepared | restoreStarted | restoreComplete | revalidationRequired | committed
  | rolledBack | failed | outcomeUnknown
  deriving DecidableEq, Repr

instance : WireEnum MigrationStage where
  enumerators :=
    [.planned, .sourceQuiescing, .stateCaptured, .transferStarted, .transferComplete,
     .destinationPrepared, .restoreStarted, .restoreComplete, .revalidationRequired, .committed,
     .rolledBack, .failed, .outcomeUnknown]
  code e := UInt8.ofNat e.ctorIdx
  getElem?_code e := by cases e <;> rfl

namespace MigrationStage

/-- `stage_name`. -/
def toText : MigrationStage → Text
  | .planned => .ofString "PLANNED"
  | .sourceQuiescing => .ofString "SOURCE_QUIESCING"
  | .stateCaptured => .ofString "STATE_CAPTURED"
  | .transferStarted => .ofString "TRANSFER_STARTED"
  | .transferComplete => .ofString "TRANSFER_COMPLETE"
  | .destinationPrepared => .ofString "DESTINATION_PREPARED"
  | .restoreStarted => .ofString "RESTORE_STARTED"
  | .restoreComplete => .ofString "RESTORE_COMPLETE"
  | .revalidationRequired => .ofString "REVALIDATION_REQUIRED"
  | .committed => .ofString "COMMITTED"
  | .rolledBack => .ofString "ROLLED_BACK"
  | .failed => .ofString "FAILED"
  | .outcomeUnknown => .ofString "OUTCOME_UNKNOWN"

/-- `is_terminal_stage`. -/
def isTerminal (stage : MigrationStage) : Bool :=
  stage == .committed || stage == .rolledBack || stage == .failed

/-- The stages that may follow a stage, in the source's order. -/
def successors : MigrationStage → List MigrationStage
  | .planned => [.sourceQuiescing, .failed, .rolledBack, .outcomeUnknown]
  | .sourceQuiescing => [.stateCaptured, .failed, .rolledBack, .outcomeUnknown]
  | .stateCaptured => [.transferStarted, .destinationPrepared, .failed, .rolledBack,
      .outcomeUnknown]
  | .transferStarted => [.transferComplete, .failed, .rolledBack, .outcomeUnknown]
  | .transferComplete => [.destinationPrepared, .restoreStarted, .failed, .rolledBack,
      .outcomeUnknown]
  | .destinationPrepared => [.restoreStarted, .failed, .rolledBack, .outcomeUnknown]
  | .restoreStarted => [.restoreComplete, .failed, .rolledBack, .outcomeUnknown]
  | .restoreComplete => [.revalidationRequired, .committed, .rolledBack, .failed, .outcomeUnknown]
  | .revalidationRequired => [.committed, .rolledBack, .failed, .outcomeUnknown]
  | .committed => []
  | .rolledBack => []
  | .failed => []
  | .outcomeUnknown => [.committed, .rolledBack, .failed, .revalidationRequired]

/-- `is_valid_migration_transition`. -/
def isValidTransition (source target : MigrationStage) : Bool := source.successors.contains target

/-- `is_acceptable_migration_event`. -/
def isAcceptableEvent (source target : MigrationStage) : Bool :=
  source == target || isValidTransition source target

end MigrationStage

/-- `MigrationOutcome`. -/
inductive MigrationOutcome where
  | inProgress | committed | rolledBack | failed | unknown
  deriving DecidableEq, Repr

instance : WireEnum MigrationOutcome where
  enumerators := [.inProgress, .committed, .rolledBack, .failed, .unknown]
  code e := UInt8.ofNat e.ctorIdx
  getElem?_code e := by cases e <;> rfl

def MigrationOutcome.toText : MigrationOutcome → Text
  | .inProgress => .ofString "IN_PROGRESS"
  | .committed => .ofString "COMMITTED"
  | .rolledBack => .ofString "ROLLED_BACK"
  | .failed => .ofString "FAILED"
  | .unknown => .ofString "UNKNOWN"

/-- The outcome `MigrationRecord::validate` expects for a stage. -/
def MigrationStage.expectedOutcome : MigrationStage → MigrationOutcome
  | .committed => .committed
  | .rolledBack => .rolledBack
  | .failed => .failed
  | .outcomeUnknown => .unknown
  | _ => .inProgress

/-- `MigrationStageEvent`. -/
structure MigrationStageEvent where
  generation : MigrationGeneration := {}
  stage : MigrationStage := .planned
  sequence : Sequence := {}
  observedAt : TimestampNanos := 0
  precision : Precision := .unknown
  evidenceClass : EvidenceClass := .unknown
  detail : Text := []
  deriving DecidableEq, Repr

/-- `MigrationRecord`. -/
structure MigrationRecord where
  id : MigrationId := {}
  generation : MigrationGeneration := {}
  workload : WorkloadId := {}
  workloadGeneration : WorkloadGeneration := {}
  federation : FederationId := {}
  federationGeneration : FederationGeneration := {}
  workloadClass : WorkloadClassId := {}
  supersedes : MigrationId := {}
  supersedesGeneration : MigrationGeneration := {}
  source : ClusterId := {}
  sourceGeneration : ClusterGeneration := {}
  sourceEpoch : ClusterEpoch := {}
  destination : ClusterId := {}
  destinationGeneration : ClusterGeneration := {}
  destinationEpoch : ClusterEpoch := {}
  artifact : ArtifactId := {}
  artifactGeneration : ArtifactGeneration := {}
  sourceRuntime : RuntimeId := {}
  sourceRuntimeGeneration : RuntimeGeneration := {}
  destinationRuntime : RuntimeId := {}
  destinationRuntimeGeneration : RuntimeGeneration := {}
  compatibilityGeneration : CompatibilityGeneration := {}
  policyGeneration : PolicyGeneration := {}
  capacityGeneration : CapacityGeneration := {}
  topologyGeneration : TopologyGeneration := {}
  stage : MigrationStage := .planned
  outcome : MigrationOutcome := .inProgress
  stageEvents : List MigrationStageEvent := []
  reason : Text := []
  reasonObserved : Bool := false
  stateTransferKnown : Bool := false
  stateTransferBytes : UInt64 := 0
  downtimeKnown : Bool := false
  downtimeMicros : UInt64 := 0
  requiresRebuild : Bool := false
  requiresRecompile : Bool := false
  requiresConversion : Bool := false
  requiresStateTranslation : Bool := false
  revalidationPending : Bool := false
  destinationGenerationChanged : Bool := false
  changedEffectiveCapability : Bool := false
  changedSlo : Bool := false
  fallbackDetail : Text := []
  currentness : Currentness := .unknown
  stamp : ObservationStamp := {}
  evidence : EvidenceList := {}
  deriving DecidableEq, Repr

namespace MigrationRecord

/-- `MigrationRecord::last_event`. -/
def lastEvent (r : MigrationRecord) : Option MigrationStageEvent := r.stageEvents.getLast?

/-- The event loop of `MigrationRecord::validate`: `previous` is the event before, if any. -/
def validateEvents (r : MigrationRecord) (previous : Option MigrationStageEvent) :
    List MigrationStageEvent → Status
  | [] => pure ()
  | event :: events => do
    failIf (!event.generation.isSet) .invalidArgument "stage event has no migration generation"
      r.id.value
    failIf (event.generation.newerThan r.generation) .invalidArgument
      "stage event carries a newer migration generation than the record" r.id.value
    match previous with
    | none => pure ()
    | some p => do
      failIf (decide (event.sequence ≤ p.sequence)) .sequenceRegression
        "stage event sequence does not increase"
        (r.id.value ++ .ofString " " ++ event.sequence.toText)
      failIf (!MigrationStage.isAcceptableEvent p.stage event.stage) .invalidTransition
        "invalid migration stage transition"
        (r.id.value ++ .ofString " " ++ p.stage.toText ++ .ofString " -> " ++ event.stage.toText)
    validateEvents r (some event) events

/-- The history is checked against the identity and the generation of the record only. -/
theorem validateEvents_congr {r r' : MigrationRecord} (hid : r'.id = r.id)
    (hgeneration : r'.generation = r.generation) (previous : Option MigrationStageEvent)
    (events : List MigrationStageEvent) :
    r'.validateEvents previous events = r.validateEvents previous events := by
  induction events generalizing previous with
  | nil => rfl
  | cons event events ih => simp only [validateEvents, hid, hgeneration, ih]

/-- `MigrationRecord::validate`. -/
def validate (r : MigrationRecord) : Status := do
  failIf r.id.empty .invalidArgument "migration id is empty"
  failIf (!r.generation.isSet) .invalidArgument "migration generation is unset" r.id.value
  failIf r.workload.empty .invalidArgument "migration has no workload" r.id.value
  failIf (!r.workloadGeneration.isSet) .invalidArgument "migration workload generation is unset"
    r.id.value
  failIf r.federation.empty .invalidArgument "migration has no federation" r.id.value
  failIf (r.source.empty || r.destination.empty) .invalidArgument
    "migration must name a source and a destination" r.id.value
  failIf (r.source == r.destination) .invalidArgument
    "migration source and destination are the same cluster" r.id.value
  failIf (decide (maxStageEventsPerMigration < r.stageEvents.length)) .boundExceeded
    "too many migration stage events" r.id.value
  r.validateEvents none r.stageEvents
  match r.lastEvent with
  | none => pure ()
  | some last =>
    failIf (last.stage != r.stage) .invalidTransition
      "recorded migration stage does not match the last stage event"
      (r.id.value ++ .ofString " record=" ++ r.stage.toText ++ .ofString " last_event=" ++
        last.stage.toText)
  failIf (r.outcome != r.stage.expectedOutcome) .invalidTransition
    "migration outcome does not match its stage"
    (r.id.value ++ .ofString " stage=" ++ r.stage.toText ++ .ofString " outcome=" ++
      r.outcome.toText)
  failIf (r.supersedes == r.id && !r.supersedes.empty) .invalidArgument
    "migration supersedes itself" r.id.value

end MigrationRecord

/-! ## Portability assessments -/

/-- `PortabilityDimension`. -/
inductive PortabilityDimension where
  | binary | artifact | model | checkpoint | runtimeApi | kernel | dataFormat | state
  | numericalSemantic | performance | operational
  deriving DecidableEq, Repr

instance : WireEnum PortabilityDimension where
  enumerators :=
    [.binary, .artifact, .model, .checkpoint, .runtimeApi, .kernel, .dataFormat, .state,
     .numericalSemantic, .performance, .operational]
  code e := UInt8.ofNat e.ctorIdx
  getElem?_code e := by cases e <;> rfl

/-- `kPortabilityDimensionCount`. -/
def portabilityDimensionCount : Nat := 11

def PortabilityDimension.toText : PortabilityDimension → Text
  | .binary => .ofString "BINARY"
  | .artifact => .ofString "ARTIFACT"
  | .model => .ofString "MODEL"
  | .checkpoint => .ofString "CHECKPOINT"
  | .runtimeApi => .ofString "RUNTIME_API"
  | .kernel => .ofString "KERNEL"
  | .dataFormat => .ofString "DATA_FORMAT"
  | .state => .ofString "STATE"
  | .numericalSemantic => .ofString "NUMERICAL_SEMANTIC"
  | .performance => .ofString "PERFORMANCE"
  | .operational => .ofString "OPERATIONAL"

/-- `PortabilityOutcome`. -/
inductive PortabilityOutcome where
  | portableDirect | portableWithFallback | portableWithRebuild | portableWithRecompile
  | portableWithConversion | portableWithStateTranslation | notPortableTopology
  | notPortablePolicy | notPortableArtifact | notPortableRuntime | notPortableState
  | notPortableArchitecture | unknown | unsupported
  deriving DecidableEq, Repr

instance : WireEnum PortabilityOutcome where
  enumerators :=
    [.portableDirect, .portableWithFallback, .portableWithRebuild, .portableWithRecompile,
     .portableWithConversion, .portableWithStateTranslation, .notPortableTopology,
     .notPortablePolicy, .notPortableArtifact, .notPortableRuntime, .notPortableState,
     .notPortableArchitecture, .unknown, .unsupported]
  code e := UInt8.ofNat e.ctorIdx
  getElem?_code e := by cases e <;> rfl

def PortabilityOutcome.toText : PortabilityOutcome → Text
  | .portableDirect => .ofString "PORTABLE_DIRECT"
  | .portableWithFallback => .ofString "PORTABLE_WITH_FALLBACK"
  | .portableWithRebuild => .ofString "PORTABLE_WITH_REBUILD"
  | .portableWithRecompile => .ofString "PORTABLE_WITH_RECOMPILE"
  | .portableWithConversion => .ofString "PORTABLE_WITH_CONVERSION"
  | .portableWithStateTranslation => .ofString "PORTABLE_WITH_STATE_TRANSLATION"
  | .notPortableTopology => .ofString "NOT_PORTABLE_TOPOLOGY"
  | .notPortablePolicy => .ofString "NOT_PORTABLE_POLICY"
  | .notPortableArtifact => .ofString "NOT_PORTABLE_ARTIFACT"
  | .notPortableRuntime => .ofString "NOT_PORTABLE_RUNTIME"
  | .notPortableState => .ofString "NOT_PORTABLE_STATE"
  | .notPortableArchitecture => .ofString "NOT_PORTABLE_ARCHITECTURE"
  | .unknown => .ofString "UNKNOWN"
  | .unsupported => .ofString "UNSUPPORTED"

/-- `PortabilityDimensionResult`. -/
structure PortabilityDimensionResult where
  dimension : PortabilityDimension := .binary
  outcome : PortabilityOutcome := .unknown
  constrainsOverall : Bool := true
  detail : Text := []
  basis : ReasonBasis := .derived
  precision : Precision := .unknown
  evidenceClass : EvidenceClass := .unknown
  evidence : EvidenceList := {}
  deriving DecidableEq, Repr

/-- `PortabilityAssessment`. -/
structure PortabilityAssessment where
  workload : WorkloadId := {}
  workloadGeneration : WorkloadGeneration := {}
  artifact : ArtifactId := {}
  artifactGeneration : ArtifactGeneration := {}
  workloadClass : WorkloadClassId := {}
  source : ClusterId := {}
  sourceGeneration : ClusterGeneration := {}
  sourceEpoch : ClusterEpoch := {}
  destination : ClusterId := {}
  destinationGeneration : ClusterGeneration := {}
  destinationEpoch : ClusterEpoch := {}
  sourceRuntime : RuntimeId := {}
  sourceRuntimeGeneration : RuntimeGeneration := {}
  destinationRuntime : RuntimeId := {}
  destinationRuntimeGeneration : RuntimeGeneration := {}
  federation : FederationId := {}
  federationGeneration : FederationGeneration := {}
  compatibilityGeneration : CompatibilityGeneration := {}
  policyGeneration : PolicyGeneration := {}
  dimensions : List PortabilityDimensionResult := []
  overall : PortabilityOutcome := .unknown
  requiresRebuild : Bool := false
  requiresRecompile : Bool := false
  requiresConversion : Bool := false
  requiresStateTranslation : Bool := false
  requiresFallback : Bool := false
  technicallyBlocked : Bool := false
  policyBlocked : Bool := false
  currentness : Currentness := .unknown
  precision : Precision := .unknown
  evidenceClass : EvidenceClass := .unknown
  stamp : ObservationStamp := {}
  evidence : EvidenceList := {}
  deriving DecidableEq, Repr

namespace PortabilityAssessment

/-- `PortabilityAssessment::validate`. -/
def validate (r : PortabilityAssessment) : Status := do
  failIf r.workload.empty .invalidArgument "portability assessment has no workload"
  failIf (!r.workloadGeneration.isSet) .invalidArgument "portability workload generation is unset"
    r.workload.value
  failIf r.destination.empty .invalidArgument "portability assessment has no destination"
    r.workload.value
  failIf (decide (portabilityDimensionCount < r.dimensions.length)) .boundExceeded
    "too many portability dimensions" r.workload.value
  failIf (hasDuplicates (r.dimensions.map (·.dimension))) .invalidArgument
    "duplicate portability dimension" r.workload.value

/-- A generation, or a dash. -/
def generationCell {tag : GenerationTag} (g : Generation tag) : Text :=
  if g.isSet then g.toText else .ofString "-"

def yesNo (b : Bool) : Text := .ofString (if b then "yes" else "no")

/-- The rows of the first table of the rendering. -/
def rows (r : PortabilityAssessment) : List (List Text) :=
  [[.ofString "workload", renderId r.workload],
   [.ofString "workload_generation", generationCell r.workloadGeneration],
   [.ofString "artifact", renderId r.artifact],
   [.ofString "artifact_generation", generationCell r.artifactGeneration],
   [.ofString "source", renderId r.source],
   [.ofString "source_generation", generationCell r.sourceGeneration],
   [.ofString "destination", renderId r.destination],
   [.ofString "destination_generation", generationCell r.destinationGeneration],
   [.ofString "source_runtime", renderId r.sourceRuntime],
   [.ofString "destination_runtime", renderId r.destinationRuntime],
   [.ofString "overall", r.overall.toText],
   [.ofString "requires_rebuild", yesNo r.requiresRebuild],
   [.ofString "requires_recompile", yesNo r.requiresRecompile],
   [.ofString "requires_conversion", yesNo r.requiresConversion],
   [.ofString "requires_state_translation", yesNo r.requiresStateTranslation],
   [.ofString "requires_fallback", yesNo r.requiresFallback],
   [.ofString "technically_blocked", yesNo r.technicallyBlocked],
   [.ofString "policy_blocked", yesNo r.policyBlocked],
   [.ofString "currentness", r.currentness.toText],
   [.ofString "precision", r.precision.toText],
   [.ofString "evidence_class", r.evidenceClass.toText]]

/-- `PortabilityAssessment::render` with its default indent. -/
def render (r : PortabilityAssessment) : Text :=
  .ofString "  portability:\n" ++
    Text.renderTable [.ofString "field", .ofString "value"] r.rows (.ofString "    ") ++
    if r.dimensions.isEmpty then []
    else
      .ofString "\n" ++
        Text.renderTable
          [.ofString "dimension", .ofString "outcome", .ofString "basis", .ofString "precision",
            .ofString "detail"]
          (r.dimensions.map fun d =>
            [d.dimension.toText, d.outcome.toText, d.basis.toText, d.precision.toText, d.detail])
          (.ofString "    ") ++
        .ofString "\n"

/-- `PortabilityAssessment::digest`. The stamp, the evidence and the federation are not part of
    the rendering. -/
def digest (r : PortabilityAssessment) : Text := Text.digest r.render

end PortabilityAssessment

end FederationObservatory
