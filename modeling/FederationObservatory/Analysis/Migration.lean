import FederationObservatory.Analysis.Inputs

/-!
# Migration analysis

`analyze_migration` (`migration.cpp`) and `FederationObservatory::migration_analysis`: what a
migration asked for, how far it is from being confirmed, and what it does not prove.
-/

namespace FederationObservatory

open PortabilityAssessment (generationCell)

/-- `migration_stage_rank`. -/
def MigrationStage.rank : MigrationStage → Int
  | .planned => 0
  | .sourceQuiescing => 1
  | .stateCaptured => 2
  | .transferStarted => 3
  | .transferComplete => 4
  | .destinationPrepared => 5
  | .restoreStarted => 6
  | .restoreComplete => 7
  | .revalidationRequired => 8
  | .committed => 9
  | .rolledBack => -1
  | .failed => -1
  | .outcomeUnknown => -1

/-- `PortabilityAssessment::find`. -/
def PortabilityAssessment.find (assessment : PortabilityAssessment)
    (dimension : PortabilityDimension) : Option PortabilityDimensionResult :=
  assessment.dimensions.find? fun result => result.dimension = dimension

/-- `MigrationAnalysis`. -/
structure MigrationAnalysis where
  migration : MigrationId := {}
  generation : MigrationGeneration := {}
  workload : WorkloadId := {}
  workloadGeneration : WorkloadGeneration := {}
  stage : MigrationStage := .planned
  outcome : MigrationOutcome := .inProgress
  superseded : Bool := false
  supersededBy : MigrationId := {}
  portability : PortabilityAssessment := {}
  requiresAdaptation : Bool := false
  adaptationObserved : Bool := false
  revalidationOutstanding : Bool := false
  destinationChangedMidMigration : Bool := false
  capabilityDeltaObserved : Bool := false
  capabilityDelta : Text := []
  sloDeltaObserved : Bool := false
  statePortabilityProven : Tri := .unknown
  performancePortabilityProven : Tri := .unknown
  precision : Precision := .unknown
  evidenceClass : EvidenceClass := .unknown
  currentness : Currentness := .unknown
  snapshotGeneration : SnapshotGeneration := {}
  conclusions : List Text := []
  evidence : EvidenceList := {}
  deriving DecidableEq, Repr

/-- `MigrationAnalysisInputs`. -/
structure MigrationAnalysisInputs where
  migration : Option MigrationRecord := none
  portability : Option PortabilityAssessment := none
  supersededBy : MigrationId := {}
  snapshotGeneration : SnapshotGeneration := {}

section Analysis

variable (migration : MigrationRecord) (portability : PortabilityAssessment)

def PortabilityAssessment.requiresAdaptation : Bool :=
  portability.requiresRebuild || portability.requiresRecompile || portability.requiresConversion ||
    portability.requiresStateTranslation || portability.requiresFallback

/-- `revalidation_outstanding`. -/
def MigrationRecord.revalidationOutstanding : Bool :=
  migration.revalidationPending || migration.stage == .revalidationRequired

/-- `capability_delta_observed`. -/
def MigrationRecord.capabilityDeltaObserved : Bool :=
  (!migration.sourceRuntime.empty || !migration.destinationRuntime.empty) &&
    (migration.sourceRuntime != migration.destinationRuntime ||
      migration.sourceRuntimeGeneration != migration.destinationRuntimeGeneration ||
      migration.sourceGeneration != migration.destinationGeneration)

/-- `capability_delta`. -/
def MigrationRecord.capabilityDelta : Text :=
  if migration.capabilityDeltaObserved then
    .ofString "runtime " ++ renderId migration.sourceRuntime ++ .ofString " gen " ++
      generationCell migration.sourceRuntimeGeneration ++ .ofString " -> " ++
      renderId migration.destinationRuntime ++ .ofString " gen " ++
      generationCell migration.destinationRuntimeGeneration ++
      .ofString "; cluster generation " ++ generationCell migration.sourceGeneration ++
      .ofString " -> " ++ generationCell migration.destinationGeneration
  else []

/-- A committed migration proves that the workload runs, not that its state is intact. -/
def statePortabilityProven : Tri :=
  match portability.find .state with
  | none => .unknown
  | some state =>
    if state.outcome = .portableDirect ∧ state.precision = .exact ∧
        migration.outcome = .committed then .yes
    else if state.outcome = .notPortableState then .no
    else .unknown

/-- The conclusion about what the pair of clusters requires. -/
def adaptationConclusions : List Text :=
  if portability.requiresAdaptation then
    [.ofString "the source/destination pair requires adaptation: " ++
      (if portability.requiresRebuild then Text.ofString "rebuild " else []) ++
      (if portability.requiresRecompile then Text.ofString "recompile " else []) ++
      (if portability.requiresConversion then Text.ofString "conversion " else []) ++
      (if portability.requiresStateTranslation then Text.ofString "state-translation " else []) ++
      (if portability.requiresFallback then Text.ofString "fallback" else [])]
  else if portability.dimensions.isEmpty then
    [.ofString ("no portability assessment accompanies this migration, so adaptation needs are " ++
      "unknown")]
  else []

/-- The conclusion about the state of the workload. -/
def stateConclusion : Tri → Text
  | .yes =>
    .ofString ("the state dimension of the accompanying portability assessment is directly " ++
      "portable with exact evidence; this is the only basis on which state portability is " ++
      "asserted")
  | .no =>
    .ofString ("state portability failed: the captured state format is not restorable at the " ++
      "destination")
  | .unknown =>
    .ofString ("state portability is not proven: a workload running after migration does not " ++
      "demonstrate byte-for-byte state portability")

/-- The conclusions, in order. -/
def migrationConclusions (supersededBy : MigrationId) : List Text :=
  [.ofString "migration " ++ migration.id.value ++ .ofString " generation " ++
    migration.generation.toText ++ .ofString " is at stage " ++ migration.stage.toText ++
    .ofString " with outcome " ++ migration.outcome.toText,
   if migration.reasonObserved && !migration.reason.isEmpty then
     .ofString "the source stated the reason for this migration: " ++ migration.reason
   else
     .ofString "no reason for this migration was observed; the runtime does not infer one"] ++
  (if supersededBy.empty then []
   else
    [.ofString "this migration was superseded by " ++ supersededBy.value ++
      .ofString "; late events bearing its generation are refused"]) ++
  (if migration.destinationGenerationChanged then
    [.ofString ("the destination cluster generation changed during the migration, which forces " ++
      "revalidation of the destination evidence")]
   else []) ++
  adaptationConclusions portability ++
  (if migration.revalidationOutstanding then
    [.ofString ("revalidation is outstanding: the destination's post-migration evidence has not " ++
      "been confirmed")]
   else []) ++
  [stateConclusion (statePortabilityProven migration portability),
   .ofString ("performance portability is never asserted by Federation Observatory; it is not " ++
    "measured here")]

end Analysis

/-- `analyze_migration`. -/
def analyzeMigration (inputs : MigrationAnalysisInputs) : MigrationAnalysis :=
  match inputs.migration with
  | none =>
    { conclusions := [.ofString "no migration record was supplied"]
      snapshotGeneration := inputs.snapshotGeneration }
  | some migration =>
    let portability := inputs.portability.getD {}
    { migration := migration.id
      generation := migration.generation
      workload := migration.workload
      workloadGeneration := migration.workloadGeneration
      stage := migration.stage
      outcome := migration.outcome
      superseded := !inputs.supersededBy.empty
      supersededBy := inputs.supersededBy
      portability
      requiresAdaptation := portability.requiresAdaptation
      adaptationObserved := portability.requiresAdaptation && decide (7 ≤ migration.stage.rank)
      revalidationOutstanding := migration.revalidationOutstanding
      destinationChangedMidMigration := migration.destinationGenerationChanged
      capabilityDeltaObserved := migration.capabilityDeltaObserved
      capabilityDelta := migration.capabilityDelta
      sloDeltaObserved := migration.changedSlo
      statePortabilityProven := statePortabilityProven migration portability
      precision := migration.stamp.precision.weakest portability.precision
      evidenceClass := migration.stamp.evidenceClass.weaker portability.evidenceClass
      currentness := migration.currentness
      snapshotGeneration := inputs.snapshotGeneration
      conclusions := migrationConclusions migration portability inputs.supersededBy
      evidence :=
        (({} : EvidenceList).addEach migration.evidence.items).addEach portability.evidence.items }

section Queries

variable (formatDouble : Double → Text) (s : Impl)

/-- The assessment a migration is analyzed with: the first published one for its workload and its
    clusters, or else the one computed for its destination. -/
def migrationPortability (record : MigrationRecord) : Option PortabilityAssessment :=
  (((buildSnapshot s {}).records .portability).find? fun assessment : PortabilityAssessment =>
    decide (assessment.workload = record.workload ∧ assessment.destination = record.destination ∧
      assessment.source = record.source)).or
    (evaluatePortability formatDouble s record.workload record.destination).toOption

/-- `FederationObservatory::migration_analysis`. -/
def migrationAnalysis (migration : MigrationId) : Result MigrationAnalysis :=
  match (buildSnapshot s {}).find .migration migration with
  | none => .error ⟨.notFound, .ofString "migration is not registered", migration.value⟩
  | some record =>
    .ok (analyzeMigration
      { migration := some record
        portability := migrationPortability formatDouble s record
        supersededBy := (buildSnapshot s {}).supersededBy record
        snapshotGeneration := (buildSnapshot s {}).snapshotGeneration })

/-- It says that a migration is superseded when there is a migration that names it. -/
theorem superseded_migrationAnalysis (migration : MigrationId) :
    (migrationAnalysis formatDouble s migration).map MigrationAnalysis.superseded =
      migrationAnalysisSuperseded s migration := by
  unfold migrationAnalysis migrationAnalysisSuperseded
  rcases Option.eq_none_or_eq_some ((buildSnapshot s {}).find .migration migration) with
    hfind | ⟨record, hfind⟩
  · rw [hfind]
    rfl
  · rw [hfind]
    rfl

end Queries

end FederationObservatory
