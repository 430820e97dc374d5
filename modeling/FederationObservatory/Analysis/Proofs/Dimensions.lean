import FederationObservatory.Analysis.Inputs
import FederationObservatory.Analysis.Proofs.Optional
import FederationObservatory.Misc.Weakest
import FederationObservatory.Observatory.Operations

/-!
# The dimensions of a portability assessment

Each of the eleven dimensions is reported once, in every branch, and the verdict and the flags are
read off the rows. Three things are not what the rows say: a state that must be translated counts as
a conversion, equality of two runtimes that publish nothing is taken for evidence, and so is a loop
over requirements of which none is about precision.
-/

namespace FederationObservatory

open Weakest (IsWeakest)

namespace PortabilityOutcome

theorem severity_injective : Function.Injective severity := by
  intro a b h
  cases a <;> cases b <;> first | rfl | exact absurd h (by decide)

end PortabilityOutcome

/-! ## Rows -/

namespace PortabilityInputs

variable (formatDouble : Double → Text) (inputs : PortabilityInputs) (destination : ClusterRecord)

@[simp] theorem dimension_unconstrained (dimension : PortabilityDimension) (detail : String) :
    (unconstrained destination dimension detail).dimension = dimension := rfl

@[simp] theorem outcome_unconstrained (dimension : PortabilityDimension) (detail : String) :
    (unconstrained destination dimension detail).outcome = .unknown := rfl

@[simp] theorem dimension_derivedResult (dimension : PortabilityDimension)
    (outcome : PortabilityOutcome) (detail : Text) :
    (derivedResult destination dimension outcome detail).dimension = dimension := rfl

@[simp] theorem outcome_derivedResult (dimension : PortabilityDimension)
    (outcome : PortabilityOutcome) (detail : Text) :
    (derivedResult destination dimension outcome detail).outcome = outcome := rfl

theorem dimension_binary : (inputs.binary destination).dimension = .binary := by
  unfold binary
  dsimp only
  repeat' split
  all_goals rfl

theorem dimension_artifactFormat :
    (inputs.artifactFormat destination).map PortabilityDimensionResult.dimension =
      [.artifact, .dataFormat] := by
  unfold artifactFormat
  repeat' split
  all_goals rfl

theorem dimension_model : (inputs.model destination).dimension = .model := by
  unfold model
  repeat' split
  all_goals rfl

theorem dimension_stateFormat :
    (inputs.stateFormat destination).map PortabilityDimensionResult.dimension =
      [.checkpoint, .state] := by
  unfold stateFormat
  repeat' split
  all_goals rfl

theorem dimension_runtimeApi : (inputs.runtimeApi destination).dimension = .runtimeApi := by
  unfold runtimeApi
  repeat' split
  all_goals rfl

theorem dimension_kernel : (inputs.kernel destination).dimension = .kernel := by
  unfold kernel
  repeat' split
  all_goals rfl

theorem dimension_numericalSemantic :
    (inputs.numericalSemantic formatDouble destination).dimension = .numericalSemantic := by
  unfold numericalSemantic
  repeat' split
  all_goals rfl

theorem dimension_operational : (operational destination).dimension = .operational := by
  unfold operational
  repeat' split
  all_goals rfl

/-- The dimensions in the order they are recorded. -/
theorem map_dimension_dimensions :
    (inputs.dimensions formatDouble destination).map PortabilityDimensionResult.dimension =
      [.binary, .artifact, .dataFormat, .model, .checkpoint, .state, .runtimeApi, .kernel,
       .numericalSemantic, .performance, .operational] := by
  simp only [dimensions, List.map_cons, List.map_append, List.map_nil, List.cons_append,
    dimension_binary, dimension_artifactFormat, dimension_model, dimension_stateFormat,
    dimension_runtimeApi, dimension_kernel, dimension_numericalSemantic, dimension_operational,
    performance, dimension_unconstrained, List.nil_append]

/-! ## Outcomes -/

/-- The rows of the dimensions that compare a format. -/
theorem outcome_binary :
    (inputs.binary destination).outcome = .unknown ∨
      (inputs.binary destination).outcome = .portableDirect ∨
      (inputs.binary destination).outcome = .portableWithRebuild ∨
      (inputs.binary destination).outcome = .notPortableArchitecture := by
  unfold binary
  dsimp only
  repeat' split
  all_goals simp

theorem outcome_artifactFormat {result : PortabilityDimensionResult}
    (h : result ∈ inputs.artifactFormat destination) :
    result.outcome = .unknown ∨ result.outcome = .portableDirect ∨
      result.outcome = .notPortableArtifact := by
  revert h
  unfold artifactFormat
  repeat' split
  all_goals
    simp only [List.mem_cons, List.not_mem_nil, or_false]
    rintro (rfl | rfl) <;> simp

theorem outcome_model :
    (inputs.model destination).outcome = .unknown ∨
      (inputs.model destination).outcome = .portableDirect ∨
      (inputs.model destination).outcome = .notPortableArtifact := by
  unfold model
  repeat' split
  all_goals simp

theorem outcome_runtimeApi :
    (inputs.runtimeApi destination).outcome = .unknown ∨
      (inputs.runtimeApi destination).outcome = .portableDirect ∨
      (inputs.runtimeApi destination).outcome = .portableWithRecompile ∨
      (inputs.runtimeApi destination).outcome = .notPortableRuntime := by
  unfold runtimeApi
  repeat' split
  all_goals simp

theorem outcome_kernel :
    (inputs.kernel destination).outcome = .unknown ∨
      (inputs.kernel destination).outcome = .portableDirect ∨
      (inputs.kernel destination).outcome = .portableWithRecompile := by
  unfold kernel
  repeat' split
  all_goals simp

theorem outcome_operational :
    (operational destination).outcome = .unknown ∨
      (operational destination).outcome = .portableDirect ∨
      (operational destination).outcome = .notPortableRuntime := by
  unfold operational
  repeat' split
  all_goals simp

theorem outcome_numericalSemantic :
    (inputs.numericalSemantic formatDouble destination).outcome = .unknown ∨
      (inputs.numericalSemantic formatDouble destination).outcome = .portableDirect ∨
      (inputs.numericalSemantic formatDouble destination).outcome = .notPortableArchitecture := by
  unfold numericalSemantic
  split
  · exact .inl rfl
  · rename_i workload _
    split
    · exact .inl rfl
    · rename_i capabilities _
      rcases outcome_foldl formatDouble capabilities workload.requirements with ⟨-, h⟩ | ⟨-, -, h⟩ | ⟨-, -, h⟩
      · exact .inr (.inr h)
      · exact .inl h
      · exact .inr (.inl h)

theorem mem_dimensions {result : PortabilityDimensionResult} :
    result ∈ inputs.dimensions formatDouble destination ↔
      result = inputs.binary destination ∨ result ∈ inputs.artifactFormat destination ∨
        result = inputs.model destination ∨ result ∈ inputs.stateFormat destination ∨
        result = inputs.runtimeApi destination ∨ result = inputs.kernel destination ∨
        result = inputs.numericalSemantic formatDouble destination ∨
        result = performance destination ∨ result = operational destination := by
  simp only [dimensions, List.mem_cons, List.mem_append, List.not_mem_nil, or_false]
  tauto

/-- What is said of a state, a conversion of it included, is said by the dimensions `Checkpoint` and
    `State`. -/
theorem mem_stateFormat {result : PortabilityDimensionResult}
    (h : result ∈ inputs.dimensions formatDouble destination)
    (houtcome : result.outcome = .portableWithConversion ∨
      result.outcome = .portableWithStateTranslation ∨ result.outcome = .notPortableState) :
    result ∈ inputs.stateFormat destination := by
  rcases (mem_dimensions formatDouble inputs destination).mp h with
    rfl | h | rfl | h | rfl | rfl | rfl | rfl | rfl
  · rcases outcome_binary inputs destination with heq | heq | heq | heq <;> simp [heq] at houtcome
  · rcases outcome_artifactFormat inputs destination h with heq | heq | heq <;>
      simp [heq] at houtcome
  · rcases outcome_model inputs destination with heq | heq | heq <;> simp [heq] at houtcome
  · exact h
  · rcases outcome_runtimeApi inputs destination with heq | heq | heq | heq <;>
      simp [heq] at houtcome
  · rcases outcome_kernel inputs destination with heq | heq | heq <;> simp [heq] at houtcome
  · rcases outcome_numericalSemantic formatDouble inputs destination with heq | heq | heq <;>
      simp [heq] at houtcome
  · simp [performance] at houtcome
  · rcases outcome_operational destination with heq | heq | heq <;> simp [heq] at houtcome

/-- The destination publishes formats, and that of the artifact's state is not one of them. -/
def StateRefused : Prop :=
  ∃ artifact, inputs.artifact = some artifact ∧ artifact.stateFormat ≠ [] ∧
    destinationSupportsText inputs.destinationCapabilities .artifactFormats artifact.stateFormat =
      some false

/-- A state that is refused is reported by both dimensions, and neither asks for a conversion. -/
theorem outcomes_stateFormat :
    (inputs.stateFormat destination).map PortabilityDimensionResult.outcome =
        [.portableWithStateTranslation, .notPortableState] ∧ inputs.StateRefused ∨
      (∀ result ∈ inputs.stateFormat destination,
        result.outcome = .unknown ∨ result.outcome = .portableDirect) ∧ ¬inputs.StateRefused := by
  unfold stateFormat StateRefused
  cases hartifact : inputs.artifact.filter fun artifact => !artifact.stateFormat.isEmpty with
  | none =>
    refine .inr ⟨by simp, ?_⟩
    rintro ⟨artifact, hsome, hformat, -⟩
    simp [hsome, hformat] at hartifact
  | some artifact =>
    obtain ⟨hsome, hformat⟩ := Option.filter_eq_some_iff.mp hartifact
    dsimp only
    cases hsupport : destinationSupportsText inputs.destinationCapabilities .artifactFormats
        artifact.stateFormat with
    | none =>
      refine .inr ⟨by simp, ?_⟩
      rintro ⟨other, hother, -, hrefused⟩
      obtain rfl := Option.some.inj (hsome.symm.trans hother)
      simp [hsupport] at hrefused
    | some supported =>
      cases supported with
      | true =>
        refine .inr ⟨by simp, ?_⟩
        rintro ⟨other, hother, -, hrefused⟩
        obtain rfl := Option.some.inj (hsome.symm.trans hother)
        simp [hsupport] at hrefused
      | false => exact .inl ⟨rfl, artifact, hsome, by simpa using hformat, hsupport⟩

end PortabilityInputs

/-! ## The verdict -/

theorem overall_foldl_weaken (verdict : PortabilityVerdict)
    (results : List PortabilityDimensionResult) :
    (results.foldl PortabilityVerdict.weaken verdict).overall =
      (results.map PortabilityDimensionResult.outcome).foldl PortabilityOutcome.weakest
        verdict.overall := by
  induction results generalizing verdict with
  | nil => rfl
  | cons result results ih => exact ih (verdict.weaken result)

theorem isWeakest_portabilityVerdict {dimensions : List PortabilityDimensionResult}
    (h : dimensions.filter PortabilityDimensionResult.constrainsOverall ≠ []) :
    IsWeakest PortabilityOutcome.severity
      ((dimensions.filter PortabilityDimensionResult.constrainsOverall).map
        PortabilityDimensionResult.outcome) (portabilityVerdict dimensions).overall := by
  unfold portabilityVerdict
  cases hfilter : dimensions.filter PortabilityDimensionResult.constrainsOverall with
  | nil => exact absurd hfilter h
  | cons result results =>
    rw [List.map_cons]
    dsimp only
    rw [overall_foldl_weaken]
    exact Weakest.isWeakest_foldl result.outcome _

section Assessment

variable (formatDouble : Double → Text) (inputs : PortabilityInputs)

/-- The dimension `RuntimeApi` always constrains the verdict. -/
theorem constrainsOverall_runtimeApi (destination : ClusterRecord) :
    (inputs.runtimeApi destination).constrainsOverall = true := by
  unfold PortabilityInputs.runtimeApi
  repeat' split
  all_goals rfl

theorem filter_constrainsOverall_ne_nil (destination : ClusterRecord) :
    (inputs.dimensions formatDouble destination).filter
      PortabilityDimensionResult.constrainsOverall ≠ [] := by
  refine List.ne_nil_of_mem (a := inputs.runtimeApi destination) (List.mem_filter.mpr ⟨?_, ?_⟩)
  · rw [PortabilityInputs.mem_dimensions]
    tauto
  · exact constrainsOverall_runtimeApi inputs destination

theorem assessPortability_of_some {destination : ClusterRecord}
    (h : inputs.destinationCluster = some destination) :
    (assessPortability formatDouble inputs).dimensions =
      inputs.dimensions formatDouble destination := by
  unfold assessPortability
  rw [h]

theorem assessPortability_of_none (h : inputs.destinationCluster = none) :
    (assessPortability formatDouble inputs).dimensions =
      (WireEnum.enumerators (E := PortabilityDimension)).map fun dimension =>
        { dimension
          detail := .ofString "no destination cluster was supplied"
          basis := .unattributed } := by
  unfold assessPortability
  rw [h]

theorem outcome_of_none (h : inputs.destinationCluster = none) {result : PortabilityDimensionResult}
    (hresult : result ∈ (assessPortability formatDouble inputs).dimensions) :
    result.outcome = .unknown := by
  rw [assessPortability_of_none formatDouble inputs h] at hresult
  obtain ⟨dimension, -, rfl⟩ := List.mem_map.mp hresult
  rfl

theorem perm_dimensions :
    ((assessPortability formatDouble inputs).dimensions.map
      PortabilityDimensionResult.dimension).Perm WireEnum.enumerators := by
  cases hdestination : inputs.destinationCluster with
  | none =>
    rw [assessPortability_of_none formatDouble inputs hdestination, List.map_map]
    exact .of_eq (List.map_id _)
  | some destination =>
    rw [assessPortability_of_some formatDouble inputs hdestination,
      PortabilityInputs.map_dimension_dimensions]
    decide

/-- The flags and the dimensions are computed without the policy. -/
structure SameButPolicy (a b : PortabilityAssessment) : Prop where
  dimensions : a.dimensions = b.dimensions
  requiresRebuild : a.requiresRebuild = b.requiresRebuild
  requiresRecompile : a.requiresRecompile = b.requiresRecompile
  requiresConversion : a.requiresConversion = b.requiresConversion
  requiresStateTranslation : a.requiresStateTranslation = b.requiresStateTranslation
  requiresFallback : a.requiresFallback = b.requiresFallback
  technicallyBlocked : a.technicallyBlocked = b.technicallyBlocked

/-- Every dimension is reported once. With a destination, the verdict is the weakest of the outcomes
    that constrain it and of the policy's where it blocks; the assessment is technically blocked
    exactly if a dimension fails technically; and another policy, or none, leaves the dimensions and
    the flags as they are. -/
theorem portability_verdict :
    ((assessPortability formatDouble inputs).dimensions.map
      PortabilityDimensionResult.dimension).Perm WireEnum.enumerators ∧
    (inputs.destinationCluster.isSome = true →
      IsWeakest PortabilityOutcome.severity
        (((assessPortability formatDouble inputs).dimensions.filter
            PortabilityDimensionResult.constrainsOverall).map PortabilityDimensionResult.outcome ++
          if (assessPortability formatDouble inputs).policyBlocked then [.notPortablePolicy] else [])
        (assessPortability formatDouble inputs).overall) ∧
    ((assessPortability formatDouble inputs).technicallyBlocked = true ↔
      ∃ result ∈ (assessPortability formatDouble inputs).dimensions,
        result.outcome.isTechnicalFailure = true) ∧
    ∀ (policy : Option PolicyRecord) (policyGeneration : PolicyGeneration),
      SameButPolicy (assessPortability formatDouble { inputs with policy, policyGeneration })
        (assessPortability formatDouble inputs) := by
  refine ⟨perm_dimensions formatDouble inputs, fun h => ?_, ?_, fun policy policyGeneration => ?_⟩
  · obtain ⟨destination, hdestination⟩ := Option.isSome_iff_exists.mp h
    have hverdict :=
      isWeakest_portabilityVerdict (filter_constrainsOverall_ne_nil formatDouble inputs destination)
    unfold assessPortability
    rw [hdestination]
    dsimp only
    split
    · exact hverdict.concat _
    · rw [List.append_nil]
      exact hverdict
  · cases hdestination : inputs.destinationCluster with
    | none =>
      refine iff_of_false ?_ ?_
      · unfold assessPortability
        rw [hdestination]
        exact Bool.false_ne_true
      · rintro ⟨result, hresult, hfailure⟩
        rw [outcome_of_none formatDouble inputs hdestination hresult] at hfailure
        exact absurd hfailure (by decide)
    | some destination =>
      unfold assessPortability
      rw [hdestination]
      exact List.any_eq_true
  · unfold assessPortability
    cases inputs.destinationCluster with
    | none => exact ⟨rfl, rfl, rfl, rfl, rfl, rfl, rfl⟩
    | some destination => exact ⟨rfl, rfl, rfl, rfl, rfl, rfl, rfl⟩

end Assessment

/-! ## The flags -/

/-- One of the dimensions has the outcome. -/
def PortabilityAssessment.Reports (assessment : PortabilityAssessment)
    (outcome : PortabilityOutcome) : Prop :=
  ∃ result ∈ assessment.dimensions, result.outcome = outcome

/-- Every flag says what the dimensions say. -/
structure FlagsMatch (assessment : PortabilityAssessment) : Prop where
  rebuild : assessment.requiresRebuild = true ↔ assessment.Reports .portableWithRebuild
  recompile : assessment.requiresRecompile = true ↔ assessment.Reports .portableWithRecompile
  conversion : assessment.requiresConversion = true ↔ assessment.Reports .portableWithConversion
  fallback : assessment.requiresFallback = true ↔ assessment.Reports .portableWithFallback
  stateTranslation : assessment.requiresStateTranslation = true ↔
    assessment.Reports .portableWithStateTranslation ∨ assessment.Reports .notPortableState

section Flags

variable (formatDouble : Double → Text) (inputs : PortabilityInputs) (destination : ClusterRecord)

theorem exists_state_iff {outcome : PortabilityOutcome}
    (h : outcome = .portableWithStateTranslation ∨ outcome = .notPortableState) :
    (∃ result ∈ inputs.dimensions formatDouble destination, result.outcome = outcome) ↔
      inputs.StateRefused := by
  constructor
  · rintro ⟨result, hresult, rfl⟩
    have hmem := inputs.mem_stateFormat formatDouble destination hresult (.inr h)
    rcases inputs.outcomes_stateFormat destination with ⟨-, hrefused⟩ | ⟨hkept, -⟩
    · exact hrefused
    · rcases hkept result hmem with heq | heq <;> simp [heq] at h
  · intro hrefused
    rcases inputs.outcomes_stateFormat destination with ⟨houtcomes, -⟩ | ⟨-, hkept⟩
    · have hmem : outcome ∈ (inputs.stateFormat destination).map
          PortabilityDimensionResult.outcome := by
        rw [houtcomes]
        simpa using h
      obtain ⟨result, hresult, rfl⟩ := List.mem_map.mp hmem
      refine ⟨result, (inputs.mem_dimensions formatDouble destination).mpr ?_, rfl⟩
      exact .inr (.inr (.inr (.inl hresult)))
    · exact absurd hrefused hkept

theorem not_exists_conversion :
    ¬∃ result ∈ inputs.dimensions formatDouble destination,
      result.outcome = .portableWithConversion := by
  rintro ⟨result, hresult, houtcome⟩
  have hmem := inputs.mem_stateFormat formatDouble destination hresult (.inl houtcome)
  rcases inputs.outcomes_stateFormat destination with ⟨houtcomes, -⟩ | ⟨hkept, -⟩
  · have hconversion := List.mem_map_of_mem (f := PortabilityDimensionResult.outcome) hmem
    rw [houtcomes, houtcome] at hconversion
    simp at hconversion
  · rcases hkept result hmem with heq | heq <;> simp [heq] at houtcome

theorem any_outcome_iff {results : List PortabilityDimensionResult} {outcome : PortabilityOutcome} :
    (results.any fun result => result.outcome == outcome) = true ↔
      ∃ result ∈ results, result.outcome = outcome := by
  simp only [List.any_eq_true, beq_iff_eq]

/-- Without a destination no flag is set, and nothing is reported that would set one. -/
theorem flagsMatch_of_none (h : inputs.destinationCluster = none) :
    FlagsMatch (assessPortability formatDouble inputs) := by
  have hreports : ∀ outcome, outcome ≠ .unknown →
      ¬(assessPortability formatDouble inputs).Reports outcome := by
    rintro outcome hne ⟨result, hresult, rfl⟩
    exact hne (outcome_of_none formatDouble inputs h hresult)
  have hflags : ∀ flag : PortabilityAssessment → Bool,
      flag inputs.subject = false →
      (∀ a dimensions evidence, flag { a with dimensions, evidence } = flag a) →
      flag (assessPortability formatDouble inputs) = true → False := by
    intro flag hsubject hframe hset
    unfold assessPortability at hset
    rw [h] at hset
    rw [hframe, hsubject] at hset
    exact Bool.false_ne_true hset
  constructor
  · exact iff_of_false (hflags (·.requiresRebuild) rfl fun _ _ _ => rfl) (hreports _ nofun)
  · exact iff_of_false (hflags (·.requiresRecompile) rfl fun _ _ _ => rfl) (hreports _ nofun)
  · exact iff_of_false (hflags (·.requiresConversion) rfl fun _ _ _ => rfl) (hreports _ nofun)
  · exact iff_of_false (hflags (·.requiresFallback) rfl fun _ _ _ => rfl) (hreports _ nofun)
  · exact iff_of_false (hflags (·.requiresStateTranslation) rfl fun _ _ _ => rfl)
      (not_or.mpr ⟨hreports _ nofun, hreports _ nofun⟩)

/-- With a destination, the flag for conversions is set for a state that must be translated too. -/
theorem flagsMatch_iff_of_some (h : inputs.destinationCluster = some destination) :
    FlagsMatch (assessPortability formatDouble inputs) ↔ ¬inputs.StateRefused := by
  have hreports : ∀ outcome, (assessPortability formatDouble inputs).Reports outcome ↔
      ∃ result ∈ inputs.dimensions formatDouble destination, result.outcome = outcome := by
    intro outcome
    unfold PortabilityAssessment.Reports
    rw [assessPortability_of_some formatDouble inputs h]
  have htranslation := exists_state_iff formatDouble inputs destination (.inl rfl)
  have hstate := exists_state_iff formatDouble inputs destination (.inr rfl)
  have hnone := not_exists_conversion formatDouble inputs destination
  have hconversion : (assessPortability formatDouble inputs).requiresConversion = true ↔
      inputs.StateRefused := by
    unfold assessPortability
    rw [h]
    dsimp only
    rw [Bool.or_eq_true, any_outcome_iff, any_outcome_iff, htranslation]
    exact or_iff_right hnone
  constructor
  · intro hmatch hrefused
    exact hnone ((hreports _).mp (hmatch.conversion.mp (hconversion.mpr hrefused)))
  · intro hkept
    refine ⟨?_, ?_, ?_, ?_, ?_⟩
    · rw [hreports, ← any_outcome_iff]
      unfold assessPortability
      rw [h]
    · rw [hreports, ← any_outcome_iff]
      unfold assessPortability
      rw [h]
    · rw [hconversion, hreports]
      exact iff_of_false hkept hnone
    · rw [hreports, ← any_outcome_iff]
      unfold assessPortability
      rw [h]
    · rw [hreports, hreports, htranslation, hstate, or_self, ← hstate, ← any_outcome_iff]
      unfold assessPortability
      rw [h]

end Flags

/-- The flags say what the dimensions say exactly where no destination refuses the artifact's state
    format: a refused one is reported as a translation of the state, and flagged as a conversion. -/
theorem adaptation_flags_iff (formatDouble : Double → Text) (inputs : PortabilityInputs) :
    FlagsMatch (assessPortability formatDouble inputs) ↔
      inputs.destinationCluster = none ∨ ¬inputs.StateRefused := by
  cases h : inputs.destinationCluster with
  | none => exact iff_of_true (flagsMatch_of_none formatDouble inputs h) (.inl rfl)
  | some destination =>
    rw [flagsMatch_iff_of_some formatDouble inputs destination h]
    exact (or_iff_right nofun).symm

/-- A checkpoint that must be translated to move to a destination that accepts ONNX only. -/
def translatedInputs : PortabilityInputs :=
  { artifact := some { id := ⟨.ofString "artifact"⟩, stateFormat := .ofString "PT" }
    destinationCluster := some Deployment.cluster
    destinationCapabilities :=
      some (CapabilitySet.ofEntry .artifactFormats (.textSet [.ofString "ONNX"])) }

theorem conversion_flag_of_translation :
    ¬∀ (formatDouble : Double → Text) (inputs : PortabilityInputs),
      FlagsMatch (assessPortability formatDouble inputs) := by
  intro h
  have hset : (assessPortability (fun _ => []) translatedInputs).requiresConversion = true := by
    decide +kernel
  have hreports := (h (fun _ => []) translatedInputs).conversion.mp hset
  unfold PortabilityAssessment.Reports at hreports
  rw [@assessPortability_of_some _ _ Deployment.cluster rfl] at hreports
  exact not_exists_conversion _ _ _ hreports

end FederationObservatory
