import FederationObservatory.Analysis.Mismatch
import FederationObservatory.Analysis.Proofs.Placeable

/-!
# Optional requirements

What one more optional requirement of a workload changes for each of the four evaluators that read
the requirements.
-/

namespace FederationObservatory

/-- A workload with other requirements. -/
def WorkloadRecord.withRequirements (workload : WorkloadRecord)
    (requirements : List CapabilityRequirement) : WorkloadRecord :=
  { workload with requirements }

section Requirement

variable {formatDouble : Double → Text} {workload : WorkloadRecord}
  {requirement : CapabilityRequirement} {requirements : List CapabilityRequirement}

/-! ## Pools -/

/-- The pool with a workload that has other requirements. -/
def PoolInputs.withRequirements (inputs : PoolInputs) (workload : WorkloadRecord)
    (requirements : List CapabilityRequirement) : PoolInputs :=
  { inputs with workload := some (workload.withRequirements requirements) }

/-- An optional requirement leaves an outcome only where it is undecided. -/
theorem requirement_eq_nil_iff {effective : CapabilitySet} (hoptional : requirement.optional = true) :
    PoolOutcome.requirement formatDouble effective requirement = [] ↔
      (evaluateRequirement formatDouble requirement effective).satisfied ≠ .unknown := by
  unfold PoolOutcome.requirement
  rw [hoptional, if_pos rfl]
  cases (evaluateRequirement formatDouble requirement effective).satisfied <;> simp

theorem outcomes_withRequirements {inputs : PoolInputs} (hworkload : inputs.workload = some workload)
    (hperm : requirements.Perm (requirement :: workload.requirements)) :
    (inputs.withRequirements workload requirements).outcomes formatDouble = [] ↔
      PoolOutcome.requirement formatDouble inputs.effective requirement = [] ∧
        inputs.outcomes formatDouble = [] := by
  have hdeclared : PoolOutcome.declared formatDouble
      (some (workload.withRequirements requirements)) inputs.effective inputs.acceleratorClass = [] ↔
        PoolOutcome.requirement formatDouble inputs.effective requirement = [] ∧
          PoolOutcome.declared formatDouble (some workload) inputs.effective
            inputs.acceleratorClass = [] := by
    simp only [PoolOutcome.declared, List.append_eq_nil_iff, List.flatMap_eq_nil_iff,
      WorkloadRecord.withRequirements, hperm.mem_iff, List.forall_mem_cons, and_assoc]
    rfl
  have heffective : (inputs.withRequirements workload requirements).effective =
      inputs.effective := rfl
  unfold PoolInputs.outcomes
  rw [heffective, hworkload]
  simp only [PoolInputs.withRequirements, List.append_eq_nil_iff, hdeclared]
  tauto

/-- An eligible pool. -/
def PoolInputs.Eligible (formatDouble : Double → Text) (inputs : PoolInputs) : Prop :=
  (evaluatePool formatDouble inputs).decided = true ∧
    (evaluatePool formatDouble inputs).eligible = true

theorem eligible_withRequirements_iff {inputs : PoolInputs}
    (hworkload : inputs.workload = some workload)
    (hperm : requirements.Perm (requirement :: workload.requirements))
    (hoptional : requirement.optional = true) (h : inputs.Eligible formatDouble) :
    (inputs.withRequirements workload requirements).Eligible formatDouble ↔
      (evaluateRequirement formatDouble requirement inputs.effective).satisfied ≠ .unknown := by
  obtain ⟨hchecked, houtcomes⟩ := eligible_iff.mp h
  have hchecked' : (inputs.withRequirements workload requirements).Checked := hchecked
  unfold PoolInputs.Eligible
  rw [eligible_iff, outcomes_withRequirements hworkload hperm, requirement_eq_nil_iff hoptional,
    and_iff_right hchecked', and_iff_left houtcomes]

/-! ## Compatibility -/

/-- The inputs with a workload that has other requirements. -/
def CompatibilityInputs.withRequirements (inputs : CompatibilityInputs) (workload : WorkloadRecord)
    (requirements : List CapabilityRequirement) : CompatibilityInputs :=
  { inputs with workload := some (workload.withRequirements requirements) }

theorem passes_perm {checks checks' : List CompatibilityCheck} (h : checks.Perm checks') :
    Passes checks ↔ Passes checks' := by
  unfold Passes
  simp only [h.mem_iff]

theorem passes_withRequirements {inputs : CompatibilityInputs}
    (hworkload : inputs.workload = some workload)
    (hperm : requirements.Perm (requirement :: workload.requirements))
    (h : Passes (inputs.checks formatDouble)) :
    Passes ((inputs.withRequirements workload requirements).checks formatDouble) ↔
      Passes [inputs.requirementCheck formatDouble requirement false] := by
  unfold CompatibilityInputs.checks at h ⊢
  have hsame : (inputs.withRequirements workload requirements).cluster = inputs.cluster := rfl
  rw [hsame]
  cases hcluster : inputs.cluster with
  | none =>
    rw [hcluster] at h
    exact absurd (passes_singleton.mp h) (by decide)
  | some cluster =>
    rw [hcluster] at h
    dsimp only at h ⊢
    rw [← List.singleton_append, passes_append, passes_append, passes_append] at h ⊢
    obtain ⟨hcurrentness, ⟨hartifact, hworkloads⟩, hpolicy⟩ := h
    have hcurrentness' : Passes
        [(inputs.withRequirements workload requirements).currentnessCheck] := hcurrentness
    have hartifact' : Passes
        ((inputs.withRequirements workload requirements).artifactChecks formatDouble) := hartifact
    have hpolicy' : Passes
        ((inputs.withRequirements workload requirements).policyChecks cluster) := hpolicy
    have hworkloads' : Passes
        ((inputs.withRequirements workload requirements).workloadChecks formatDouble) ↔
          Passes [inputs.requirementCheck formatDouble requirement false] := by
      unfold CompatibilityInputs.workloadChecks at hworkloads ⊢
      rw [hworkload] at hworkloads
      dsimp only at hworkloads
      rw [passes_append, passes_append] at hworkloads
      obtain ⟨⟨hrequirements, hmemory⟩, hisolation⟩ := hworkloads
      change Passes (requirements.map (inputs.requirementCheck formatDouble · false) ++
        inputs.memoryCheck workload ++
          (CompatibilityInputs.isolationRequirements workload).map
            (inputs.requirementCheck formatDouble · false)) ↔ _
      rw [passes_append, passes_append, passes_perm (hperm.map _), List.map_cons,
        ← List.singleton_append, passes_append, and_iff_left hrequirements, and_iff_left hmemory,
        and_iff_left hisolation]
    rw [and_iff_right hcurrentness', and_iff_right hartifact', and_iff_left hpolicy', hworkloads']

theorem isCompatibleFamily_withRequirements_iff {inputs : CompatibilityInputs}
    (hworkload : inputs.workload = some workload)
    (hperm : requirements.Perm (requirement :: workload.requirements))
    (hoptional : requirement.optional = true)
    (h : (assessCompatibility formatDouble inputs).overall.isCompatibleFamily = true) :
    (assessCompatibility formatDouble
        (inputs.withRequirements workload requirements)).overall.isCompatibleFamily = true ↔
      ∃ set, inputs.effectiveCapabilities = some set ∧
        (evaluateRequirement formatDouble requirement set).satisfied ≠ .unknown := by
  have hoverall : ∀ inputs : CompatibilityInputs,
      (assessCompatibility formatDouble inputs).overall.isCompatibleFamily = true ↔
        Passes (inputs.checks formatDouble) := fun inputs => isCompatibleFamily_overallOutcome
  rw [hoverall] at h ⊢
  rw [passes_withRequirements hworkload hperm h, passes_singleton]
  cases heffective : inputs.effectiveCapabilities with
  | none =>
    have houtcome : (inputs.requirementCheck formatDouble requirement false).outcome =
        .unknownCompatibility := by
      unfold CompatibilityInputs.requirementCheck
      rw [heffective]
    rw [houtcome]
    simp [CompatibilityOutcome.isCompatibleFamily, CompatibilityOutcome.severity]
  | some set =>
    rw [outcome_requirementCheck _ heffective, isCompatibleFamily_requirementOutcome, hoptional]
    cases hsatisfied : (evaluateRequirement formatDouble requirement set).satisfied <;>
      simp [hsatisfied]

/-! ## Numerical semantics -/

/-- A requirement about a precision that the capabilities answer in some way. -/
def AnswersPrecision (formatDouble : Double → Text) (capabilities : CapabilitySet)
    (requirements : List CapabilityRequirement) (answer : Tri) : Prop :=
  ∃ requirement ∈ requirements, requirement.key.key.isPrecisionSupport = true ∧
    (evaluateRequirement formatDouble requirement capabilities).satisfied = answer

theorem answersPrecision_perm {capabilities : CapabilitySet}
    (hperm : requirements.Perm (requirement :: workload.requirements)) {answer : Tri} :
    AnswersPrecision formatDouble capabilities requirements answer ↔
      (requirement.key.key.isPrecisionSupport = true ∧
          (evaluateRequirement formatDouble requirement capabilities).satisfied = answer) ∨
        AnswersPrecision formatDouble capabilities workload.requirements answer := by
  unfold AnswersPrecision
  simp only [hperm.mem_iff, List.mem_cons, or_and_right, exists_or, exists_eq_left]

namespace PortabilityInputs

/-- What the loop over the requirements has found. -/
structure NumericalState.Found (formatDouble : Double → Text) (capabilities : CapabilitySet)
    (state : NumericalState) (requirements : List CapabilityRequirement) : Prop where
  fails : AnswersPrecision formatDouble capabilities requirements .no →
    state.worst = .notPortableArchitecture
  holds : ¬AnswersPrecision formatDouble capabilities requirements .no →
    state.worst = .portableDirect
  undecided : state.undecided = true ↔
    AnswersPrecision formatDouble capabilities requirements .unknown

variable (formatDouble) in
theorem NumericalState.found_foldl (capabilities : CapabilitySet)
    (requirements : List CapabilityRequirement) :
    (requirements.foldl (NumericalState.add formatDouble capabilities) {}).Found formatDouble
      capabilities requirements := by
  induction requirements using List.reverseRecOn with
  | nil => exact ⟨by simp [AnswersPrecision], fun _ => rfl, by simp [AnswersPrecision]⟩
  | append_singleton requirements requirement ih =>
    rw [List.foldl_append, List.foldl_cons, List.foldl_nil]
    have hanswers : ∀ answer,
        AnswersPrecision formatDouble capabilities (requirements ++ [requirement]) answer ↔
          AnswersPrecision formatDouble capabilities requirements answer ∨
            (requirement.key.key.isPrecisionSupport = true ∧
              (evaluateRequirement formatDouble requirement capabilities).satisfied = answer) := by
      intro answer
      unfold AnswersPrecision
      simp only [List.mem_append, List.mem_singleton, or_and_right, exists_or, exists_eq_left]
    generalize requirements.foldl (NumericalState.add formatDouble capabilities) {} = state at ih
    obtain ⟨hfails, hholds, hundecided⟩ := ih
    have hweakest : state.worst.weakest .notPortableArchitecture = .notPortableArchitecture := by
      by_cases hno : AnswersPrecision formatDouble capabilities requirements .no
      · rw [hfails hno]
        rfl
      · rw [hholds hno]
        rfl
    unfold NumericalState.add
    by_cases hprecision : requirement.key.key.isPrecisionSupport = true
    · rw [if_neg (by simp [hprecision])]
      cases hsatisfied : (evaluateRequirement formatDouble requirement capabilities).satisfied with
      | no =>
        refine ⟨fun _ => hweakest, fun hnone => ?_, ?_⟩
        · exact absurd ((hanswers .no).mpr (.inr ⟨hprecision, hsatisfied⟩)) hnone
        · rw [hanswers, hsatisfied]
          simpa using hundecided
      | unknown =>
        refine ⟨fun hno => hfails ?_, fun hnone => hholds ?_, ?_⟩
        · simpa [hanswers, hsatisfied] using hno
        · simpa [hanswers, hsatisfied] using hnone
        · rw [hanswers]
          exact iff_of_true rfl (.inr ⟨hprecision, hsatisfied⟩)
      | yes =>
        refine ⟨fun hno => hfails ?_, fun hnone => hholds ?_, ?_⟩
        · simpa [hanswers, hsatisfied] using hno
        · simpa [hanswers, hsatisfied] using hnone
        · rw [hanswers, hsatisfied]
          simpa using hundecided
    · rw [if_pos (by simpa using hprecision)]
      refine ⟨fun hno => hfails ?_, fun hnone => hholds ?_, ?_⟩
      · simpa [hanswers, hprecision] using hno
      · simpa [hanswers, hprecision] using hnone
      · rw [hanswers]
        simpa [hprecision] using hundecided

end PortabilityInputs

/-- The dimension, with what it says and whether it constrains the verdict. -/
def numericalVerdict (formatDouble : Double → Text) (inputs : PortabilityInputs)
    (destination : ClusterRecord) : Bool × PortabilityOutcome :=
  ((inputs.numericalSemantic formatDouble destination).constrainsOverall,
    (inputs.numericalSemantic formatDouble destination).outcome)

/-- The inputs with a workload that has other requirements. -/
def PortabilityInputs.withRequirements (inputs : PortabilityInputs) (workload : WorkloadRecord)
    (requirements : List CapabilityRequirement) : PortabilityInputs :=
  { inputs with workload := some (workload.withRequirements requirements) }

theorem filter_requirements (workload : WorkloadRecord) :
    (some workload).filter (fun workload => !workload.requirements.isEmpty) =
      if workload.requirements = [] then none else some workload := by
  rw [Option.filter_some]
  by_cases hnone : workload.requirements = [] <;> simp [hnone]

theorem numericalVerdict_of_none {inputs : PortabilityInputs} {destination : ClusterRecord}
    (hworkload : inputs.workload = some workload)
    (hcapabilities : inputs.destinationCapabilities = none) :
    numericalVerdict formatDouble inputs destination =
      if workload.requirements = [] then (false, .unknown) else (true, .unknown) := by
  unfold numericalVerdict PortabilityInputs.numericalSemantic
  rw [hworkload, hcapabilities, filter_requirements]
  by_cases hnone : workload.requirements = []
  · rw [if_pos hnone, if_pos hnone]
    rfl
  · rw [if_neg hnone, if_neg hnone]

theorem numericalVerdict_of_some {inputs : PortabilityInputs} {destination : ClusterRecord}
    {capabilities : CapabilitySet} (hworkload : inputs.workload = some workload)
    (hcapabilities : inputs.destinationCapabilities = some capabilities) :
    numericalVerdict formatDouble inputs destination =
      if workload.requirements = [] then (false, .unknown)
      else (true, (workload.requirements.foldl
        (PortabilityInputs.NumericalState.add formatDouble capabilities) {}).outcome) := by
  unfold numericalVerdict PortabilityInputs.numericalSemantic
  rw [hworkload, hcapabilities, filter_requirements]
  by_cases hnone : workload.requirements = []
  · rw [if_pos hnone, if_pos hnone]
    rfl
  · rw [if_neg hnone, if_neg hnone]
    rfl

variable (formatDouble) in
/-- The outcome at the end of the loop. -/
theorem outcome_foldl (capabilities : CapabilitySet) (requirements : List CapabilityRequirement) :
    (AnswersPrecision formatDouble capabilities requirements .no ∧
      (requirements.foldl (PortabilityInputs.NumericalState.add formatDouble capabilities)
        {}).outcome = .notPortableArchitecture) ∨
    (¬AnswersPrecision formatDouble capabilities requirements .no ∧
      AnswersPrecision formatDouble capabilities requirements .unknown ∧
      (requirements.foldl (PortabilityInputs.NumericalState.add formatDouble capabilities)
        {}).outcome = .unknown) ∨
    (¬AnswersPrecision formatDouble capabilities requirements .no ∧
      ¬AnswersPrecision formatDouble capabilities requirements .unknown ∧
      (requirements.foldl (PortabilityInputs.NumericalState.add formatDouble capabilities)
        {}).outcome = .portableDirect) := by
  obtain ⟨hfails, hholds, hundecided⟩ :=
    PortabilityInputs.NumericalState.found_foldl formatDouble capabilities
      requirements
  unfold PortabilityInputs.NumericalState.outcome
  by_cases hno : AnswersPrecision formatDouble capabilities requirements .no
  · left
    rw [hfails hno, if_neg (by simp)]
    exact ⟨hno, rfl⟩
  · right
    rw [hholds hno]
    by_cases hunknown : AnswersPrecision formatDouble capabilities requirements .unknown
    · left
      rw [if_pos ⟨hundecided.mpr hunknown, rfl⟩]
      exact ⟨hno, hunknown, rfl⟩
    · right
      rw [if_neg fun hboth => hunknown (hundecided.mp hboth.1)]
      exact ⟨hno, hunknown, rfl⟩

/-- The dimension constrains the verdict with a failure or Unknown only where it did before. -/
def NotWorse (before after : Bool × PortabilityOutcome) : Prop :=
  after.1 = true → after.2 = .portableDirect ∨ before = after

/-- What keeps the dimension from getting worse. -/
def KeepsNumerical (formatDouble : Double → Text) (workload : WorkloadRecord)
    (requirement : CapabilityRequirement) : Option CapabilitySet → Prop
  | none => workload.requirements ≠ []
  | some capabilities => requirement.key.key.isPrecisionSupport = true →
    match (evaluateRequirement formatDouble requirement capabilities).satisfied with
    | .yes => True
    | .no => AnswersPrecision formatDouble capabilities workload.requirements .no
    | .unknown => AnswersPrecision formatDouble capabilities workload.requirements .no ∨
        AnswersPrecision formatDouble capabilities workload.requirements .unknown

theorem notWorse_withRequirements_iff {inputs : PortabilityInputs} {destination : ClusterRecord}
    (hworkload : inputs.workload = some workload)
    (hperm : requirements.Perm (requirement :: workload.requirements)) :
    NotWorse (numericalVerdict formatDouble inputs destination)
        (numericalVerdict formatDouble (inputs.withRequirements workload requirements)
          destination) ↔
      KeepsNumerical formatDouble workload requirement inputs.destinationCapabilities := by
  have hsome : requirements ≠ [] := by
    rintro rfl
    exact absurd hperm.length_eq (by simp)
  have hafter : (inputs.withRequirements workload requirements).workload =
      some (workload.withRequirements requirements) := rfl
  cases hcapabilities : inputs.destinationCapabilities with
  | none =>
    rw [numericalVerdict_of_none hworkload hcapabilities,
      numericalVerdict_of_none hafter hcapabilities]
    change NotWorse _ (if requirements = [] then _ else _) ↔ _
    rw [if_neg hsome]
    by_cases hnone : workload.requirements = [] <;> simp [NotWorse, KeepsNumerical, hnone]
  | some capabilities =>
    rw [numericalVerdict_of_some hworkload hcapabilities,
      numericalVerdict_of_some hafter hcapabilities]
    change NotWorse _ (if requirements = [] then _ else
      (true, PortabilityInputs.NumericalState.outcome (requirements.foldl _ _))) ↔ _
    rw [if_neg hsome]
    have hbefore := outcome_foldl formatDouble capabilities workload.requirements
    have hafter := outcome_foldl formatDouble capabilities requirements
    rw [answersPrecision_perm hperm, answersPrecision_perm hperm] at hafter
    have hempty : workload.requirements = [] → ∀ answer,
        ¬AnswersPrecision formatDouble capabilities workload.requirements answer := by
      intro hnone answer
      simp [AnswersPrecision, hnone]
    unfold KeepsNumerical
    generalize requirements.foldl _ _ = after at hafter ⊢
    generalize workload.requirements.foldl _ _ = before at hbefore ⊢
    have hverdict : NotWorse (if workload.requirements = [] then (false, .unknown)
        else (true, before.outcome)) (true, after.outcome) ↔
          after.outcome = .portableDirect ∨ before.outcome = after.outcome := by
      by_cases hnone : workload.requirements = []
      · have hdirect : before.outcome = .portableDirect := by
          rcases hbefore with ⟨hno, -⟩ | ⟨-, hunknown, -⟩ | ⟨-, -, hdirect⟩
          · exact absurd hno (hempty hnone _)
          · exact absurd hunknown (hempty hnone _)
          · exact hdirect
        rw [if_pos hnone, hdirect]
        simp [NotWorse, eq_comm]
      · rw [if_neg hnone]
        simp [NotWorse]
    rw [hverdict]
    dsimp only
    generalize AnswersPrecision formatDouble capabilities workload.requirements .no = no
      at hbefore hafter ⊢
    generalize AnswersPrecision formatDouble capabilities workload.requirements .unknown = open'
      at hbefore hafter ⊢
    -- the two outcomes are now determined by what the requirements answer
    by_cases hprecision : requirement.key.key.isPrecisionSupport = true
    · cases hsatisfied : (evaluateRequirement formatDouble requirement capabilities).satisfied <;>
        rcases hbefore with hbefore | hbefore | hbefore <;>
        rcases hafter with hafter | hafter | hafter <;>
        simp_all
    · rcases hbefore with hbefore | hbefore | hbefore <;>
        rcases hafter with hafter | hafter | hafter <;>
        simp_all

/-! ## Mismatch rows -/

/-- A cluster meets the requirements exactly if it satisfies each of them. -/
theorem meetsRequirements_eq_yes_iff {effective : CapabilitySet} :
    meetsRequirements formatDouble effective requirements = .yes ↔
      ∀ r ∈ requirements, (evaluateRequirement formatDouble r effective).satisfied = .yes := by
  induction requirements with
  | nil => simp [meetsRequirements]
  | cons r requirements ih =>
    rw [meetsRequirements, List.forall_mem_cons, ← ih]
    cases (evaluateRequirement formatDouble r effective).satisfied with
    | yes => simp
    | no => simp
    | unknown =>
      dsimp only
      split <;> simp

/-- The row of a workload is satisfied exactly if every cluster meets its requirements. -/
theorem workloadOutcome_eq_yes_iff {snapshot : FederationSnapshot} {clusters : List ClusterRecord} :
    workloadOutcome formatDouble snapshot clusters workload = some .yes ↔
      clusters ≠ [] ∧ ∀ cluster ∈ clusters,
        meetsRequirements formatDouble (mismatchCapabilities snapshot cluster)
          workload.requirements = .yes := by
  unfold workloadOutcome
  by_cases hnone : clusters = []
  · simp [hnone]
  · have hcount : (clusters.map fun cluster => meetsRequirements formatDouble
        (mismatchCapabilities snapshot cluster) workload.requirements).count .yes =
          clusters.length ↔ ∀ cluster ∈ clusters, meetsRequirements formatDouble
            (mismatchCapabilities snapshot cluster) workload.requirements = .yes := by
      rw [← List.length_map fun cluster => meetsRequirements formatDouble
        (mismatchCapabilities snapshot cluster) workload.requirements, List.count_eq_length,
        List.forall_mem_map]
      exact forall₂_congr fun _ _ => eq_comm
    rw [← hcount]
    dsimp only
    rw [if_neg (by simpa using hnone)]
    by_cases hall : (clusters.map fun cluster => meetsRequirements formatDouble
        (mismatchCapabilities snapshot cluster) workload.requirements).count .yes = clusters.length
    · rw [if_pos hall]
      exact iff_of_true rfl ⟨hnone, hall⟩
    · rw [if_neg hall]
      refine iff_of_false ?_ fun hboth => hall hboth.2
      split <;> simp

theorem workloadOutcome_withRequirements_iff {snapshot : FederationSnapshot}
    {clusters : List ClusterRecord}
    (hperm : requirements.Perm (requirement :: workload.requirements))
    (h : workloadOutcome formatDouble snapshot clusters workload = some .yes) :
    workloadOutcome formatDouble snapshot clusters (workload.withRequirements requirements) =
        some .yes ↔
      ∀ cluster ∈ clusters,
        (evaluateRequirement formatDouble requirement
          (mismatchCapabilities snapshot cluster)).satisfied = .yes := by
  rw [workloadOutcome_eq_yes_iff] at h ⊢
  obtain ⟨hsome, hmeets⟩ := h
  rw [and_iff_right hsome]
  refine forall₂_congr fun cluster hcluster => ?_
  have hmet := meetsRequirements_eq_yes_iff.mp (hmeets cluster hcluster)
  rw [meetsRequirements_eq_yes_iff]
  simp only [WorkloadRecord.withRequirements, hperm.mem_iff, List.forall_mem_cons]
  exact and_iff_left hmet

end Requirement

/-- One more optional requirement keeps a pool eligible and a target compatible exactly if it is
    decided, keeps the numerical dimension exactly if `KeepsNumerical`, and keeps the row of a
    workload satisfied exactly if every cluster satisfies it. -/
theorem optional_requirement_iff (formatDouble : Double → Text) (workload : WorkloadRecord)
    (requirement : CapabilityRequirement) (requirements : List CapabilityRequirement)
    (hoptional : requirement.optional = true)
    (hperm : requirements.Perm (requirement :: workload.requirements)) :
    (∀ inputs : PoolInputs, inputs.workload = some workload → inputs.Eligible formatDouble →
      ((inputs.withRequirements workload requirements).Eligible formatDouble ↔
        (evaluateRequirement formatDouble requirement inputs.effective).satisfied ≠ .unknown)) ∧
    (∀ inputs : CompatibilityInputs, inputs.workload = some workload →
      (assessCompatibility formatDouble inputs).overall.isCompatibleFamily = true →
      ((assessCompatibility formatDouble
          (inputs.withRequirements workload requirements)).overall.isCompatibleFamily = true ↔
        ∃ set, inputs.effectiveCapabilities = some set ∧
          (evaluateRequirement formatDouble requirement set).satisfied ≠ .unknown)) ∧
    (∀ (inputs : PortabilityInputs) (destination : ClusterRecord),
      inputs.workload = some workload →
      (NotWorse (numericalVerdict formatDouble inputs destination)
          (numericalVerdict formatDouble (inputs.withRequirements workload requirements)
            destination) ↔
        KeepsNumerical formatDouble workload requirement inputs.destinationCapabilities)) ∧
    (∀ (snapshot : FederationSnapshot) (clusters : List ClusterRecord),
      workloadOutcome formatDouble snapshot clusters workload = some .yes →
      (workloadOutcome formatDouble snapshot clusters (workload.withRequirements requirements) =
          some .yes ↔
        ∀ cluster ∈ clusters,
          (evaluateRequirement formatDouble requirement
            (mismatchCapabilities snapshot cluster)).satisfied = .yes)) := by
  refine ⟨?_, ?_, ?_, ?_⟩
  · intro inputs hworkload h
    exact eligible_withRequirements_iff hworkload hperm hoptional h
  · intro inputs hworkload h
    exact isCompatibleFamily_withRequirements_iff hworkload hperm hoptional h
  · intro inputs destination hworkload
    exact notWorse_withRequirements_iff hworkload hperm
  · intro snapshot clusters h
    exact workloadOutcome_withRequirements_iff hperm h

/-- An optional requirement that a capability is published. -/
def optionalRequirement : CapabilityRequirement :=
  { key := { key := .collectiveSupport }, comparator := .present, optional := true }

theorem optional_requirement_pool :
    ((choosyInputs "a1").withRequirements (choosyWorkload "a1")
      [optionalRequirement]).Eligible fun _ => [] := by
  have hiff := (optional_requirement_iff (fun _ => []) (choosyWorkload "a1") optionalRequirement
    [optionalRequirement] rfl (List.Perm.refl _)).1 (choosyInputs "a1") rfl ⟨by decide +kernel, by decide +kernel⟩
  exact hiff.mpr (by decide +kernel)

/-- A cluster does not publish the capability, and the row of the workload is missing. -/
theorem optional_requirement_disqualifies :
    ¬∀ (formatDouble : Double → Text) (workload : WorkloadRecord)
      (requirement : CapabilityRequirement) (requirements : List CapabilityRequirement),
      requirement.optional = true → requirements.Perm (requirement :: workload.requirements) →
      (∀ inputs : PoolInputs, inputs.workload = some workload → inputs.Eligible formatDouble →
        (inputs.withRequirements workload requirements).Eligible formatDouble) ∧
      (∀ inputs : CompatibilityInputs, inputs.workload = some workload →
        (assessCompatibility formatDouble inputs).overall.isCompatibleFamily = true →
        (assessCompatibility formatDouble
          (inputs.withRequirements workload requirements)).overall.isCompatibleFamily = true) ∧
      (∀ (inputs : PortabilityInputs) (destination : ClusterRecord),
        inputs.workload = some workload →
        NotWorse (numericalVerdict formatDouble inputs destination)
          (numericalVerdict formatDouble (inputs.withRequirements workload requirements)
            destination)) ∧
      ∀ (snapshot : FederationSnapshot) (clusters : List ClusterRecord),
        workloadOutcome formatDouble snapshot clusters workload = some .yes →
        workloadOutcome formatDouble snapshot clusters (workload.withRequirements requirements) =
          some .yes := by
  intro h
  have hrow := (h (fun _ => []) {} optionalRequirement [optionalRequirement] rfl
    (List.Perm.refl _)).2.2.2 acceleratedSnapshot [onePoolCluster] (by decide +kernel)
  exact absurd hrow (by decide +kernel)

end FederationObservatory
