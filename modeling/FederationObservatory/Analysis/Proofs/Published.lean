import FederationObservatory.Analysis.Proofs.Dimensions

/-!
# What a direct verdict stands on

A dimension that is portable as it is should rest on something the destination has published. For
three of them it may rest on nothing: two runtimes that publish nothing publish the same, a loop over
requirements finds no fault where none is about precision, and a serving backend may list the empty
format.
-/

namespace FederationObservatory

/-- The destination publishes the value, as a text or in a set of texts. -/
def Publishes (set : Option CapabilitySet) (key : CapabilityKey) (value : Text) : Prop :=
  ∃ capabilities entry, set = some capabilities ∧ capabilities.find { key } = some entry ∧
    (entry.value = .text value ∨ ∃ values, entry.value = .textSet values ∧ value ∈ values)

theorem destinationSupportsText_eq_true {set : Option CapabilitySet} {key : CapabilityKey}
    {value : Text} : destinationSupportsText set key value = some true ↔ Publishes set key value := by
  unfold destinationSupportsText Publishes
  cases set with
  | none => simp
  | some capabilities =>
    rw [Option.bind_some]
    cases hfind : capabilities.find { key } with
    | none => simp [hfind]
    | some entry =>
      simp only [Option.some.injEq, exists_and_left, exists_eq_left', hfind]
      cases entry.value <;> simp

namespace PortabilityInputs

variable (formatDouble : Double → Text) (inputs : PortabilityInputs) (destination : ClusterRecord)

/-- The artifact declares a format that the destination publishes. -/
def PublishesFormat (key : CapabilityKey) (format : ArtifactRecord → Text) : Prop :=
  ∃ artifact, inputs.artifact = some artifact ∧ format artifact ≠ [] ∧
    Publishes inputs.destinationCapabilities key (format artifact)

/-- The two runtimes publish a kind, an ABI and a generation, the same of each. -/
def PublishesRuntime : Prop :=
  ∃ source target, inputs.sourceRuntime = some source ∧ inputs.destinationRuntime = some target ∧
    source.kind ≠ .unknown ∧ source.kind = target.kind ∧ source.abi ≠ [] ∧
    source.abi = target.abi ∧ source.generation.isSet = true ∧
    source.generation = target.generation

/-- The workload requires something of the precision, and the destination satisfies all of it. -/
def PublishesPrecision : Prop :=
  ∃ workload capabilities, inputs.workload = some workload ∧
    inputs.destinationCapabilities = some capabilities ∧
    (∃ requirement ∈ workload.requirements, requirement.key.key.isPrecisionSupport = true) ∧
    ∀ requirement ∈ workload.requirements, requirement.key.key.isPrecisionSupport = true →
      (evaluateRequirement formatDouble requirement capabilities).satisfied = .yes

/-- What decides that a dimension is portable as it is. -/
def Evident : PortabilityDimension → Prop
  | .binary =>
    ∃ artifact record, inputs.artifact = some artifact ∧
      inputs.destinationAcceleratorClass = some record ∧ record.architecture ≠ [] ∧
      artifact.targetsArchitecture record.architecture = true
  | .artifact | .dataFormat => inputs.PublishesFormat .artifactFormats ArtifactRecord.format
  | .model => inputs.PublishesFormat .inferenceServingBackend ArtifactRecord.format
  | .checkpoint | .state => inputs.PublishesFormat .artifactFormats ArtifactRecord.stateFormat
  | .kernel => inputs.PublishesFormat .kernelFormat ArtifactRecord.kernelFormat
  | .runtimeApi => inputs.PublishesRuntime
  | .numericalSemantic => inputs.PublishesPrecision formatDouble
  | .performance => False
  | .operational => destination.currentness = .current ∧ destination.readiness = .ready

/-- Where a dimension would be decided, there is something that decides it. -/
structure Grounded : Prop where
  runtimes : ∀ source target, inputs.sourceRuntime = some source →
    inputs.destinationRuntime = some target → source.kind = target.kind →
    source.abi = target.abi → source.generation = target.generation →
    source.kind ≠ .unknown ∧ source.abi ≠ [] ∧ source.generation.isSet = true
  requirements : ∀ workload, inputs.workload = some workload → workload.requirements ≠ [] →
    inputs.destinationCapabilities.isSome = true →
    ∃ requirement ∈ workload.requirements, requirement.key.key.isPrecisionSupport = true
  servingBackend : ∀ artifact, inputs.artifact = some artifact →
    artifact.kind = .modelWeights ∨ artifact.kind = .adapter → artifact.format = [] →
    ¬Publishes inputs.destinationCapabilities .inferenceServingBackend []

variable {formatDouble inputs destination}

/-! ## Dimension by dimension -/

theorem evident_binary (h : (inputs.binary destination).outcome = .portableDirect) :
    inputs.Evident formatDouble destination .binary := by
  unfold binary at h
  dsimp only at h
  split at h
  · simp at h
  · rename_i artifact hartifact
    obtain ⟨hsome, -⟩ := Option.filter_eq_some_iff.mp hartifact
    split at h
    · simp at h
    split at h
    · simp at h
    split at h
    · rename_i hpublished htargets
      cases hclass : inputs.destinationAcceleratorClass with
      | none => simp [hclass] at hpublished
      | some record =>
        rw [hclass] at hpublished htargets
        exact ⟨artifact, record, hsome, hclass, by simpa using hpublished, htargets⟩
    · split at h <;> simp at h

theorem evident_artifactFormat {result : PortabilityDimensionResult}
    (hresult : result ∈ inputs.artifactFormat destination)
    (h : result.outcome = .portableDirect) :
    inputs.PublishesFormat .artifactFormats ArtifactRecord.format := by
  unfold artifactFormat at hresult
  split at hresult
  · simp only [List.mem_cons, List.not_mem_nil, or_false] at hresult
    rcases hresult with rfl | rfl <;> simp at h
  · rename_i artifact hartifact
    obtain ⟨hsome, hformat⟩ := Option.filter_eq_some_iff.mp hartifact
    cases hsupport : destinationSupportsText inputs.destinationCapabilities .artifactFormats
        artifact.format with
    | none =>
      simp only [hsupport, List.mem_cons, List.not_mem_nil, or_false] at hresult
      rcases hresult with rfl | rfl <;> simp at h
    | some supported =>
      cases supported with
      | true =>
        exact ⟨artifact, hsome, by simpa using hformat, destinationSupportsText_eq_true.mp hsupport⟩
      | false =>
        simp only [hsupport, List.mem_cons, List.not_mem_nil, or_false] at hresult
        rcases hresult with rfl | rfl <;> simp at h

/-- The dimension `Model` does not ask for a format. -/
theorem model_direct_iff :
    (inputs.model destination).outcome = .portableDirect ↔
      ∃ artifact, inputs.artifact = some artifact ∧
        (artifact.kind = .modelWeights ∨ artifact.kind = .adapter) ∧
        Publishes inputs.destinationCapabilities .inferenceServingBackend artifact.format := by
  unfold model
  split
  · rename_i hartifact
    refine iff_of_false (by simp) ?_
    rintro ⟨artifact, hsome, hkind, -⟩
    have hnone := Option.filter_eq_none_iff.mp hartifact artifact hsome
    exact hnone (by simpa using hkind)
  · rename_i artifact hartifact
    obtain ⟨hsome, hkind⟩ := Option.filter_eq_some_iff.mp hartifact
    have hpublishes : (∃ other, inputs.artifact = some other ∧
        (other.kind = .modelWeights ∨ other.kind = .adapter) ∧
        Publishes inputs.destinationCapabilities .inferenceServingBackend other.format) ↔
          destinationSupportsText inputs.destinationCapabilities .inferenceServingBackend
            artifact.format = some true := by
      rw [destinationSupportsText_eq_true]
      constructor
      · rintro ⟨other, hother, -, hpublished⟩
        obtain rfl := Option.some.inj (hsome.symm.trans hother)
        exact hpublished
      · exact fun hpublished => ⟨artifact, hsome, by simpa using hkind, hpublished⟩
    rw [hpublishes]
    split <;> simp [*]

theorem evident_stateFormat {result : PortabilityDimensionResult}
    (hresult : result ∈ inputs.stateFormat destination) (h : result.outcome = .portableDirect) :
    inputs.PublishesFormat .artifactFormats ArtifactRecord.stateFormat := by
  unfold stateFormat at hresult
  split at hresult
  · simp only [List.mem_cons, List.not_mem_nil, or_false] at hresult
    rcases hresult with rfl | rfl <;> simp at h
  · rename_i artifact hartifact
    obtain ⟨hsome, hformat⟩ := Option.filter_eq_some_iff.mp hartifact
    cases hsupport : destinationSupportsText inputs.destinationCapabilities .artifactFormats
        artifact.stateFormat with
    | none =>
      simp only [hsupport, List.mem_cons, List.not_mem_nil, or_false] at hresult
      rcases hresult with rfl | rfl <;> simp at h
    | some supported =>
      cases supported with
      | true =>
        exact ⟨artifact, hsome, by simpa using hformat, destinationSupportsText_eq_true.mp hsupport⟩
      | false =>
        simp only [hsupport, List.mem_cons, List.not_mem_nil, or_false] at hresult
        rcases hresult with rfl | rfl <;> simp at h

/-- The dimension `RuntimeApi` compares what two runtimes publish, if anything. -/
theorem runtimeApi_direct_iff :
    (inputs.runtimeApi destination).outcome = .portableDirect ↔
      ∃ source target, inputs.sourceRuntime = some source ∧
        inputs.destinationRuntime = some target ∧ source.kind = target.kind ∧
        source.abi = target.abi ∧ source.generation = target.generation := by
  unfold runtimeApi
  split
  · rename_i source target hsource htarget
    simp only [hsource, htarget, Option.some.injEq, exists_and_left, exists_eq_left']
    by_cases hkind : source.kind = target.kind
    · by_cases habi : source.abi = target.abi
      · by_cases hgeneration : source.generation = target.generation <;>
          simp [hkind, habi, hgeneration]
      · simp [hkind, habi]
    · simp [hkind]
  · rename_i hnot
    refine iff_of_false (by simp) ?_
    rintro ⟨source, target, hsource, htarget, -⟩
    exact hnot source target hsource htarget

theorem evident_kernel (h : (inputs.kernel destination).outcome = .portableDirect) :
    inputs.PublishesFormat .kernelFormat ArtifactRecord.kernelFormat := by
  unfold kernel at h
  split at h
  · simp at h
  · rename_i artifact hartifact
    obtain ⟨hsome, hformat⟩ := Option.filter_eq_some_iff.mp hartifact
    split at h
    · simp at h
    · rename_i hsupport
      exact ⟨artifact, hsome, by simpa using hformat, destinationSupportsText_eq_true.mp hsupport⟩
    · simp at h

/-- The dimension `NumericalSemantic` finds no fault with requirements of other kinds. -/
theorem numericalSemantic_direct_iff :
    (inputs.numericalSemantic formatDouble destination).outcome = .portableDirect ↔
      ∃ workload capabilities, inputs.workload = some workload ∧ workload.requirements ≠ [] ∧
        inputs.destinationCapabilities = some capabilities ∧
        ∀ requirement ∈ workload.requirements, requirement.key.key.isPrecisionSupport = true →
          (evaluateRequirement formatDouble requirement capabilities).satisfied = .yes := by
  unfold numericalSemantic
  split
  · rename_i hworkload
    refine iff_of_false (by simp) ?_
    rintro ⟨workload, capabilities, hsome, hne, -⟩
    exact Option.filter_eq_none_iff.mp hworkload workload hsome (by simpa using hne)
  · rename_i workload hworkload
    obtain ⟨hsome, hne⟩ := Option.filter_eq_some_iff.mp hworkload
    cases hcapabilities : inputs.destinationCapabilities with
    | none => simp
    | some capabilities =>
      have hanswers : (∀ requirement ∈ workload.requirements,
          requirement.key.key.isPrecisionSupport = true →
          (evaluateRequirement formatDouble requirement capabilities).satisfied = .yes) ↔
            ¬AnswersPrecision formatDouble capabilities workload.requirements .no ∧
              ¬AnswersPrecision formatDouble capabilities workload.requirements .unknown := by
        unfold AnswersPrecision
        simp only [not_exists, not_and, ← forall_and]
        refine forall_congr' fun requirement => forall_congr' fun _ => forall_congr' fun _ => ?_
        cases (evaluateRequirement formatDouble requirement capabilities).satisfied <;> simp
      have hne : workload.requirements ≠ [] := by simpa using hne
      simp only [hsome, Option.some.injEq, exists_and_left, exists_eq_left', ne_eq, hne,
        not_false_eq_true, true_and, outcome_derivedResult, hanswers]
      rcases outcome_foldl formatDouble capabilities workload.requirements with
        ⟨hno, h⟩ | ⟨hno, hunknown, h⟩ | ⟨hno, hunknown, h⟩
      · simp [h, hno]
      · simp [h, hunknown]
      · simp [h, hno, hunknown]

theorem evident_operational (h : (operational destination).outcome = .portableDirect) :
    destination.currentness = .current ∧ destination.readiness = .ready := by
  unfold operational at h
  dsimp only at h
  split at h
  · rename_i hcurrent
    split at h
    · rename_i hready
      exact ⟨hcurrent, hready⟩
    all_goals simp at h
  · simp at h
  · simp at h

/-! ## All dimensions -/

/-- Where the inputs are grounded, every direct verdict is evident. -/
theorem evident_of_grounded (hgrounded : inputs.Grounded) {result : PortabilityDimensionResult}
    (hresult : result ∈ inputs.dimensions formatDouble destination)
    (h : result.outcome = .portableDirect) :
    inputs.Evident formatDouble destination result.dimension := by
  rcases (mem_dimensions formatDouble inputs destination).mp hresult with
    rfl | hmem | rfl | hmem | rfl | rfl | rfl | rfl | rfl
  · rw [dimension_binary]
    exact evident_binary h
  · have hdimension := List.mem_map_of_mem (f := PortabilityDimensionResult.dimension) hmem
    rw [dimension_artifactFormat] at hdimension
    have hpublished := evident_artifactFormat hmem h
    simp only [List.mem_cons, List.not_mem_nil, or_false] at hdimension
    rcases hdimension with heq | heq <;> rw [heq] <;> exact hpublished
  · rw [dimension_model]
    obtain ⟨artifact, hsome, hkind, hpublished⟩ := model_direct_iff.mp h
    refine ⟨artifact, hsome, fun hformat => ?_, hpublished⟩
    exact hgrounded.servingBackend artifact hsome hkind hformat (hformat ▸ hpublished)
  · have hdimension := List.mem_map_of_mem (f := PortabilityDimensionResult.dimension) hmem
    rw [dimension_stateFormat] at hdimension
    have hpublished := evident_stateFormat hmem h
    simp only [List.mem_cons, List.not_mem_nil, or_false] at hdimension
    rcases hdimension with heq | heq <;> rw [heq] <;> exact hpublished
  · rw [dimension_runtimeApi]
    obtain ⟨source, target, hsource, htarget, hkind, habi, hgeneration⟩ :=
      runtimeApi_direct_iff.mp h
    obtain ⟨hknown, hnamed, hset⟩ :=
      hgrounded.runtimes source target hsource htarget hkind habi hgeneration
    exact ⟨source, target, hsource, htarget, hknown, hkind, hnamed, habi, hset, hgeneration⟩
  · rw [dimension_kernel]
    exact evident_kernel h
  · rw [dimension_numericalSemantic]
    obtain ⟨workload, capabilities, hsome, hne, hcapabilities, hsatisfied⟩ :=
      numericalSemantic_direct_iff.mp h
    exact ⟨workload, capabilities, hsome, hcapabilities,
      hgrounded.requirements workload hsome hne (by rw [hcapabilities]; rfl), hsatisfied⟩
  · simp [performance] at h
  · rw [dimension_operational]
    exact evident_operational h

/-- The loop over the requirements finds no fault where none is about precision. -/
theorem exists_precision_of_evident
    (h : ∀ result ∈ inputs.dimensions formatDouble destination, result.outcome = .portableDirect →
      inputs.Evident formatDouble destination result.dimension)
    {workload : WorkloadRecord} (hworkload : inputs.workload = some workload)
    (hne : workload.requirements ≠ []) (hsome : inputs.destinationCapabilities.isSome = true) :
    ∃ requirement ∈ workload.requirements, requirement.key.key.isPrecisionSupport = true := by
  by_contra hnone
  obtain ⟨capabilities, hcapabilities⟩ := Option.isSome_iff_exists.mp hsome
  have hdirect := (@numericalSemantic_direct_iff formatDouble inputs destination).mpr ⟨workload, capabilities, hworkload, hne, hcapabilities,
      fun requirement hmem hprecision => absurd ⟨requirement, hmem, hprecision⟩ hnone⟩
  have hmem : inputs.numericalSemantic formatDouble destination ∈
      inputs.dimensions formatDouble destination := by
    rw [mem_dimensions]
    tauto
  have hevident := h _ hmem hdirect
  rw [dimension_numericalSemantic] at hevident
  obtain ⟨other, -, hother, -, hexists, -⟩ := hevident
  obtain rfl := Option.some.inj (hworkload.symm.trans hother)
  exact hnone hexists

theorem grounded_of_evident
    (h : ∀ result ∈ inputs.dimensions formatDouble destination, result.outcome = .portableDirect →
      inputs.Evident formatDouble destination result.dimension) : inputs.Grounded := by
  refine ⟨?_, fun workload => exists_precision_of_evident h, ?_⟩
  · intro source target hsource htarget hkind habi hgeneration
    have hmem : inputs.runtimeApi destination ∈ inputs.dimensions formatDouble destination := by
      rw [mem_dimensions]
      tauto
    have hevident := h _ hmem (runtimeApi_direct_iff.mpr
      ⟨source, target, hsource, htarget, hkind, habi, hgeneration⟩)
    rw [dimension_runtimeApi] at hevident
    obtain ⟨other, -, hother, -, hknown, -, hnamed, -, hset, -⟩ := hevident
    obtain rfl := Option.some.inj (hsource.symm.trans hother)
    exact ⟨hknown, hnamed, hset⟩
  · intro artifact hartifact hkind hformat hpublished
    have hmem : inputs.model destination ∈ inputs.dimensions formatDouble destination := by
      rw [mem_dimensions]
      tauto
    have hevident := h _ hmem (model_direct_iff.mpr
      ⟨artifact, hartifact, hkind, hformat ▸ hpublished⟩)
    rw [dimension_model] at hevident
    obtain ⟨other, hother, hne, -⟩ := hevident
    obtain rfl := Option.some.inj (hartifact.symm.trans hother)
    exact hne hformat

end PortabilityInputs

/-- Every direct verdict of the assessment rests on published evidence. -/
def DirectIsEvident (formatDouble : Double → Text) (inputs : PortabilityInputs) : Prop :=
  ∀ result ∈ (assessPortability formatDouble inputs).dimensions, result.outcome = .portableDirect →
    ∃ destination, inputs.destinationCluster = some destination ∧
      inputs.Evident formatDouble destination result.dimension

/-- Direct verdicts rest on published evidence exactly where there is no destination, or the inputs
    are grounded: runtimes that agree publish a kind, an ABI and a generation, a workload with
    requirements has one on precision, and no serving backend lists the empty format for an artifact
    that declares none. -/
theorem direct_is_evident_iff (formatDouble : Double → Text) (inputs : PortabilityInputs) :
    DirectIsEvident formatDouble inputs ↔ inputs.destinationCluster = none ∨ inputs.Grounded := by
  unfold DirectIsEvident
  cases hdestination : inputs.destinationCluster with
  | none =>
    refine iff_of_true (fun result hresult h => ?_) (.inl rfl)
    rw [outcome_of_none formatDouble inputs hdestination hresult] at h
    cases h
  | some destination =>
    rw [assessPortability_of_some formatDouble inputs hdestination]
    simp only [Option.some.injEq, exists_eq_left', reduceCtorEq, false_or]
    exact ⟨PortabilityInputs.grounded_of_evident,
      fun hgrounded result => PortabilityInputs.evident_of_grounded hgrounded⟩

/-- Two runtimes of which neither publishes more than an identifier and a generation. -/
theorem direct_runtime_not_evident :
    ¬∀ (formatDouble : Double → Text) (inputs : PortabilityInputs),
      DirectIsEvident formatDouble inputs := by
  intro h
  have hevident := h (fun _ => [])
    { destinationCluster := some Deployment.cluster
      sourceRuntime := some Deployment.runtime
      destinationRuntime := some Deployment.runtime }
  unfold DirectIsEvident at hevident
  rw [@assessPortability_of_some _ _ Deployment.cluster rfl] at hevident
  obtain ⟨destination, -, source, target, hsource, -, hknown, -⟩ :=
    hevident _ ((PortabilityInputs.mem_dimensions _ _ _).mpr
      (.inr (.inr (.inr (.inr (.inl rfl)))))) rfl
  obtain rfl := Option.some.inj hsource
  exact hknown rfl

end FederationObservatory
