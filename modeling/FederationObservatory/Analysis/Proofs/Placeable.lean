import FederationObservatory.Analysis.Proofs.Formats
import FederationObservatory.Analysis.Proofs.Partition

/-!
# Eligible pools and compatible targets

Two evaluators judge whether a workload fits: `evaluate_pool` for stranded capacity, and
`assess_compatibility`. The second checks what the first does not.
-/

namespace FederationObservatory

open CompatibilityInputs (artifactRequirements equalsRequirement isolationRequirements)

/-! ## The verdict -/

theorem severity_weakest (a b : CompatibilityOutcome) :
    (a.weakest b).severity = max a.severity b.severity := by
  unfold CompatibilityOutcome.weakest
  split <;> omega

/-- The verdict is in the compatible family exactly if every check is. -/
theorem isCompatibleFamily_overallOutcome {checks : List CompatibilityCheck} :
    (overallOutcome checks).isCompatibleFamily = true ↔
      ∀ check ∈ checks, check.outcome.isCompatibleFamily = true := by
  unfold overallOutcome
  induction checks using List.reverseRecOn with
  | nil => simp [CompatibilityOutcome.isCompatibleFamily, CompatibilityOutcome.severity]
  | append_singleton checks check ih =>
    rw [List.map_append, List.map_singleton, List.foldl_append, List.foldl_cons, List.foldl_nil,
      List.forall_mem_append, List.forall_mem_singleton, ← ih]
    simp only [CompatibilityOutcome.isCompatibleFamily, decide_eq_true_eq, severity_weakest]
    omega

/-- The inputs for the same cluster, accelerator class, runtime, artifact, policy and effective
    capabilities. -/
def PoolInputs.compatibility (inputs : PoolInputs) : CompatibilityInputs where
  workload := inputs.workload
  artifact := inputs.artifact
  cluster := some inputs.cluster
  acceleratorClass := inputs.acceleratorClass
  clusterRuntime := inputs.runtime
  policy := inputs.policy
  effectiveCapabilities := some inputs.effective
  compatibilityGeneration := inputs.cluster.compatibilityGeneration
  targetCurrentness := inputs.cluster.currentness

/-- What `assess_compatibility` checks of an artifact, and `evaluate_pool` does not. -/
structure PoolInputs.CoversArtifact (inputs : PoolInputs) (artifact : ArtifactRecord) : Prop where
  computeCapability : artifact.kind.isCodeBearing = true → artifact.minimumComputeCapability ≠ [] →
    ∃ record, inputs.acceleratorClass = some record ∧ record.computeCapability ≠ [] ∧
      0 ≤ compareVersionStrings record.computeCapability artifact.minimumComputeCapability
  driverAbi : artifact.driverAbi ≠ [] →
    ∃ runtime, inputs.runtime = some runtime ∧ runtime.driverAbi = artifact.driverAbi
  /-- A text over the bound of a value is compared as the value keeps it. -/
  kernelFormat : artifact.kernelFormat ≠ [] →
    formatEvidence inputs.effective .kernelFormat (shortened artifact.kernelFormat) = .yes
  compilerTarget : artifact.compilerTarget ≠ [] →
    formatEvidence inputs.effective .compilerTarget (shortened artifact.compilerTarget) = .yes

/-- What is promised of an eligible pool, and `evaluate_pool` does not check. -/
structure PoolInputs.Covers (inputs : PoolInputs) (workload : WorkloadRecord)
    (acceleratorClass : AcceleratorClassId) : Prop where
  acceptable : workload.acceptableAcceleratorClasses ≠ [] →
    acceleratorClass ∈ workload.acceptableAcceleratorClasses
  artifact : ∀ artifact, inputs.artifact = some artifact → inputs.CoversArtifact artifact
  isolation : workload.isolationRequirement ≠ [] → workload.isolationRequirement.length ≤ 256 →
    formatEvidence inputs.effective .securityIsolation workload.isolationRequirement = .yes
  site : ∀ policy, inputs.policy = some policy → policy.permitsSite inputs.cluster.site ≠ .no

/-! ## Check by check -/

/-- Every check of a list leaves the verdict in the compatible family. -/
def Passes (checks : List CompatibilityCheck) : Prop :=
  ∀ check ∈ checks, check.outcome.isCompatibleFamily = true

theorem passes_append {checks checks' : List CompatibilityCheck} :
    Passes (checks ++ checks') ↔ Passes checks ∧ Passes checks' :=
  List.forall_mem_append

theorem passes_nil : Passes [] := by simp [Passes]

theorem passes_singleton {check : CompatibilityCheck} :
    Passes [check] ↔ check.outcome.isCompatibleFamily = true :=
  List.forall_mem_singleton

theorem isCompatibleFamily_requirementOutcome {requirement : CapabilityRequirement} {satisfied : Tri} :
    (CompatibilityInputs.requirementOutcome requirement satisfied).isCompatibleFamily = true ↔
      satisfied = .yes ∨ satisfied = .no ∧ requirement.optional = true := by
  cases satisfied with
  | no =>
    unfold CompatibilityInputs.requirementOutcome
    cases requirement.optional with
    | true => simp [CompatibilityOutcome.isCompatibleFamily, CompatibilityOutcome.severity]
    | false =>
      simp only [Bool.false_eq_true, if_false, and_false, or_false, reduceCtorEq, iff_false]
      cases requirement.key.key <;> decide
  | unknown => simp [CompatibilityInputs.requirementOutcome, CompatibilityOutcome.isCompatibleFamily,
      CompatibilityOutcome.severity]
  | yes => simp [CompatibilityInputs.requirementOutcome, CompatibilityOutcome.isCompatibleFamily,
      CompatibilityOutcome.severity]

section Checks

variable {formatDouble : Double → Text} {inputs : PoolInputs} {artifact : ArtifactRecord}

theorem isCompatibleFamily_requirementCheck {requirement : CapabilityRequirement}
    {fromArtifact : Bool} :
    (inputs.compatibility.requirementCheck formatDouble requirement
        fromArtifact).outcome.isCompatibleFamily = true ↔
      (evaluateRequirement formatDouble requirement inputs.effective).satisfied = .yes ∨
        (evaluateRequirement formatDouble requirement inputs.effective).satisfied = .no ∧
          requirement.optional = true := by
  rw [outcome_requirementCheck _ rfl, isCompatibleFamily_requirementOutcome]

theorem passes_architectureCheck
    (h : PoolOutcome.architecture (some artifact) inputs.acceleratorClass = [])
    (hcode : artifact.kind.isCodeBearing = true) :
    Passes [inputs.compatibility.architectureCheck artifact] := by
  unfold PoolOutcome.architecture at h
  dsimp only at h
  rw [hcode, Bool.not_true, if_neg Bool.false_ne_true] at h
  rw [passes_singleton]
  unfold CompatibilityInputs.architectureCheck PoolInputs.compatibility
  cases htargets : artifact.targetArchitectures.isEmpty with
  | true => simp [htargets] at h
  | false =>
    cases hclass : inputs.acceleratorClass with
    | none => simp [htargets, hclass] at h
    | some record =>
      by_cases hunpublished : record.architecture = []
      · simp [htargets, hclass, hunpublished] at h
      · by_cases htarget : artifact.targetsArchitecture record.architecture = true
        · simp [hunpublished, htarget, CompatibilityOutcome.isCompatibleFamily,
            CompatibilityOutcome.severity]
        · simp [htargets, hclass, hunpublished, htarget] at h

theorem passes_computeCapabilityCheck :
    Passes (inputs.compatibility.computeCapabilityCheck artifact) ↔
      (artifact.minimumComputeCapability ≠ [] →
        ∃ record, inputs.acceleratorClass = some record ∧ record.computeCapability ≠ [] ∧
          0 ≤ compareVersionStrings record.computeCapability
            artifact.minimumComputeCapability) := by
  unfold CompatibilityInputs.computeCapabilityCheck PoolInputs.compatibility
  dsimp only
  by_cases hminimum : artifact.minimumComputeCapability = []
  · simp [hminimum, passes_nil]
  · cases hclass : inputs.acceleratorClass with
    | none =>
      simp [hminimum, passes_singleton, CompatibilityOutcome.isCompatibleFamily,
        CompatibilityOutcome.severity]
    | some record =>
      by_cases hunpublished : record.computeCapability = []
      · simp [hminimum, hunpublished, passes_singleton, CompatibilityOutcome.isCompatibleFamily,
          CompatibilityOutcome.severity]
      · by_cases horder : 0 ≤ compareVersionStrings record.computeCapability
            artifact.minimumComputeCapability <;>
          simp [hminimum, hunpublished, horder, passes_singleton,
            CompatibilityOutcome.isCompatibleFamily, CompatibilityOutcome.severity]

/-- A requirement that two texts are equal, or that nothing is required. -/
theorem passes_equalsRequirement {key : CapabilityKey} {value : Text} {rationale : String}
    {fromArtifact : Bool} :
    Passes ((if value.isEmpty then [] else [equalsRequirement key value rationale]).map
        (inputs.compatibility.requirementCheck formatDouble · fromArtifact)) ↔
      (value ≠ [] → formatEvidence inputs.effective key (shortened value) = .yes) := by
  by_cases hvalue : value = []
  · simp [hvalue, passes_nil]
  · rw [if_neg (by simpa using hvalue), List.map_singleton, passes_singleton,
      isCompatibleFamily_requirementCheck, satisfied_equalsRequirement]
    have hrequired : (equalsRequirement key value rationale).optional = false := rfl
    rw [hrequired]
    simp [hvalue]

/-- A requirement that a text is one of those published, where it can be stated. -/
theorem passes_anyOfRequirement {key : CapabilityKey} {value : Text} {rationale : String}
    {fromArtifact : Bool} :
    Passes ((if value.isEmpty then []
        else (CompatibilityInputs.anyOfRequirement key value rationale).toList).map
          (inputs.compatibility.requirementCheck formatDouble · fromArtifact)) ↔
      (value ≠ [] → value.length ≤ 256 → formatEvidence inputs.effective key value = .yes) := by
  by_cases hvalue : value = []
  · simp [hvalue, passes_nil]
  · rw [if_neg (by simpa using hvalue)]
    have hrequirement := @anyOfRequirement_eq key value rationale
    by_cases hlength : value.length ≤ 256
    · rw [if_pos hlength] at hrequirement
      rw [hrequirement, Option.toList_some, List.map_singleton, passes_singleton,
        isCompatibleFamily_requirementCheck, satisfied_anyOfRequirement hrequirement]
      simp only [Bool.false_eq_true, and_false, or_false]
      split
      · rename_i hany
        rw [formatEvidence_of_not_textual hany]
        simp [hvalue, hlength]
      · simp [hvalue, hlength]
    · rw [if_neg hlength] at hrequirement
      rw [hrequirement]
      simp [hlength, passes_nil]

/-- Two ABIs that an artifact may require of a runtime. -/
theorem isCompatibleFamily_compareRuntimeVersions {required observed required' observed' : Text} :
    (compareRuntimeVersions required observed required' observed').isCompatibleFamily = true ↔
      (required = [] ∨ observed = required) ∧ (required' = [] ∨ observed' = required') := by
  unfold compareRuntimeVersions
  by_cases hruntime : required = [] ∨ observed = required
  · have hfirst : ¬((!required.isEmpty && observed.isEmpty) = true) := by
      rcases hruntime with rfl | rfl <;> simp
    have hsecond : ¬((!required.isEmpty && required != observed) = true) := by
      rcases hruntime with rfl | rfl <;> simp
    rw [if_neg hfirst, if_neg hsecond, and_iff_right hruntime]
    by_cases hdriver : required' = [] ∨ observed' = required'
    · have hthird : ¬((!required'.isEmpty && observed'.isEmpty) = true) := by
        rcases hdriver with rfl | rfl <;> simp
      have hfourth : ¬((!required'.isEmpty && required' != observed') = true) := by
        rcases hdriver with rfl | rfl <;> simp
      rw [if_neg hthird, if_neg hfourth]
      exact iff_of_true rfl hdriver
    · have hne : (!required'.isEmpty && required' != observed') = true := by
        obtain ⟨hsome, hne⟩ := not_or.mp hdriver
        simp [hsome, Ne.symm hne]
      rw [if_pos hne]
      refine iff_of_false ?_ hdriver
      split <;> decide
  · have hne : (!required.isEmpty && required != observed) = true := by
      obtain ⟨hsome, hne⟩ := not_or.mp hruntime
      simp [hsome, Ne.symm hne]
    rw [if_pos hne]
    refine iff_of_false ?_ fun h => hruntime h.1
    split <;> decide

theorem abi_eq_nil_iff {runtime : Option RuntimeRecord} :
    PoolOutcome.abi (some artifact) runtime = [] ↔
      artifact.runtimeAbi = [] ∨
        (runtime.map RuntimeRecord.abi).getD [] = artifact.runtimeAbi := by
  unfold PoolOutcome.abi
  dsimp only
  by_cases hnone : artifact.runtimeAbi = []
  · simp [hnone]
  · rw [if_neg (by simpa using hnone), or_iff_right hnone]
    generalize (runtime.map RuntimeRecord.abi).getD [] = published
    by_cases hunpublished : published = []
    · simp [hunpublished, Ne.symm hnone]
    · by_cases heq : published = artifact.runtimeAbi
      · simp [heq, hnone]
      · simp [hunpublished, heq]

/-- The two checks of the ABIs, where the runtime ABI has been found to match. -/
theorem passes_abiChecks (h : PoolOutcome.abi (some artifact) inputs.runtime = []) :
    Passes (inputs.compatibility.abiChecks artifact) ↔
      (artifact.driverAbi ≠ [] →
        ∃ runtime, inputs.runtime = some runtime ∧ runtime.driverAbi = artifact.driverAbi) := by
  have hdriver : (artifact.driverAbi = [] ∨
      (inputs.runtime.map RuntimeRecord.driverAbi).getD [] = artifact.driverAbi) ↔
        (artifact.driverAbi ≠ [] →
          ∃ runtime, inputs.runtime = some runtime ∧ runtime.driverAbi = artifact.driverAbi) := by
    by_cases hnone : artifact.driverAbi = []
    · simp [hnone]
    · cases inputs.runtime with
      | none => simp [hnone, eq_comm]
      | some runtime => simp [hnone]
  rw [← hdriver]
  unfold CompatibilityInputs.abiChecks PoolInputs.compatibility
  dsimp only
  split
  · rename_i hboth
    have hdriver : artifact.driverAbi = [] := by simpa using (Bool.and_eq_true_iff.mp hboth).2
    exact iff_of_true passes_nil (.inl hdriver)
  · rw [Passes, List.forall_mem_cons, List.forall_mem_singleton, and_self,
      isCompatibleFamily_compareRuntimeVersions, and_iff_right (abi_eq_nil_iff.mp h)]

theorem passes_artifactRequirements :
    Passes ((artifactRequirements artifact).map
        (inputs.compatibility.requirementCheck formatDouble · true)) ↔
      ((artifact.format ≠ [] → artifact.format.length ≤ 256 →
          formatEvidence inputs.effective .artifactFormats artifact.format = .yes) ∧
        (artifact.kernelFormat ≠ [] →
          formatEvidence inputs.effective .kernelFormat (shortened artifact.kernelFormat) =
            .yes)) ∧
        (artifact.compilerTarget ≠ [] →
          formatEvidence inputs.effective .compilerTarget (shortened artifact.compilerTarget) =
            .yes) := by
  unfold artifactRequirements
  rw [List.map_append, List.map_append, passes_append, passes_append]
  exact and_congr (and_congr passes_anyOfRequirement passes_equalsRequirement)
    passes_equalsRequirement

/-- The checks of the artifact, where no check of the pool objects to it. -/
theorem passes_artifactChecks
    (harchitecture : PoolOutcome.architecture inputs.artifact inputs.acceleratorClass = [])
    (hformats : PoolOutcome.formats inputs.artifact inputs.effective = [])
    (habi : PoolOutcome.abi inputs.artifact inputs.runtime = []) :
    Passes (inputs.compatibility.artifactChecks formatDouble) ↔
      ∀ artifact, inputs.artifact = some artifact → inputs.CoversArtifact artifact := by
  unfold CompatibilityInputs.artifactChecks
  have hsame : inputs.compatibility.artifact = inputs.artifact := rfl
  rw [hsame]
  cases hartifact : inputs.artifact with
  | none =>
    refine iff_of_true passes_nil ?_
    intro artifact hsome
    cases hsome
  | some artifact =>
    rw [hartifact] at harchitecture hformats habi
    unfold PoolOutcome.formats at hformats
    simp only [List.append_eq_nil_iff, PoolOutcome.requireText_eq_nil_iff] at hformats
    obtain ⟨⟨⟨hformat, -⟩, -⟩, -⟩ := hformats
    have hcode : Passes (if artifact.kind.isCodeBearing then
        inputs.compatibility.architectureCheck artifact ::
          inputs.compatibility.computeCapabilityCheck artifact else []) ↔
        (artifact.kind.isCodeBearing = true → artifact.minimumComputeCapability ≠ [] →
          ∃ record, inputs.acceleratorClass = some record ∧ record.computeCapability ≠ [] ∧
            0 ≤ compareVersionStrings record.computeCapability
              artifact.minimumComputeCapability) := by
      by_cases hbearing : artifact.kind.isCodeBearing = true
      · rw [if_pos hbearing, ← List.singleton_append, passes_append,
          and_iff_right (passes_architectureCheck harchitecture hbearing),
          passes_computeCapabilityCheck]
        simp [hbearing]
      · rw [if_neg hbearing]
        exact iff_of_true passes_nil fun hcode => absurd hcode hbearing
    have hdeclared : artifact.format ≠ [] → artifact.format.length ≤ 256 →
        formatEvidence inputs.effective .artifactFormats artifact.format = .yes := by
      intro hne _
      exact hformat.resolve_left hne
    dsimp only
    rw [passes_append, passes_append, hcode, passes_artifactRequirements, passes_abiChecks habi,
      and_iff_right hdeclared]
    constructor
    · rintro ⟨⟨hcompute, hkernel, hcompiler⟩, hdriver⟩ found hfound
      cases hfound
      exact ⟨hcompute, hdriver, hkernel, hcompiler⟩
    · intro hcovers
      obtain ⟨hcompute, hdriver, hkernel, hcompiler⟩ := hcovers artifact rfl
      exact ⟨⟨hcompute, hkernel, hcompiler⟩, hdriver⟩

theorem passes_memoryCheck {workload : WorkloadRecord}
    (h : PoolOutcome.memory workload inputs.acceleratorClass = []) :
    Passes (inputs.compatibility.memoryCheck workload) := by
  have hsame : inputs.compatibility.acceleratorClass = inputs.acceleratorClass := rfl
  unfold CompatibilityInputs.memoryCheck
  unfold PoolOutcome.memory at h
  dsimp only at h ⊢
  rw [hsame]
  generalize (inputs.acceleratorClass.map AcceleratorClassRecord.memoryBytesPerDevice).getD 0 =
    published at h ⊢
  split
  · exact passes_nil
  · rename_i hrequired
    rw [if_neg hrequired] at h
    split
    · rename_i hzero
      rw [if_pos hzero] at h
      cases h
    · rename_i hpublished
      rw [if_neg hpublished] at h
      split
      · rename_i hshort
        rw [if_pos hshort] at h
        cases h
      · exact passes_singleton.mpr rfl

/-- A requirement that no check of the pool objects to. -/
theorem satisfied_of_requirement_eq_nil {requirement : CapabilityRequirement}
    {effective : CapabilitySet}
    (h : PoolOutcome.requirement formatDouble effective requirement = []) :
    (evaluateRequirement formatDouble requirement effective).satisfied = .yes ∨
      (evaluateRequirement formatDouble requirement effective).satisfied = .no ∧
        requirement.optional = true := by
  unfold PoolOutcome.requirement at h
  cases hsatisfied : (evaluateRequirement formatDouble requirement effective).satisfied with
  | yes => exact .inl rfl
  | no =>
    rw [hsatisfied] at h
    cases hoptional : requirement.optional with
    | true => exact .inr ⟨rfl, rfl⟩
    | false =>
      rw [hoptional] at h
      cases h
  | unknown =>
    rw [hsatisfied] at h
    cases h

/-- The checks of the workload, where no check of the pool objects to it. -/
theorem passes_workloadChecks {workload : WorkloadRecord} (hworkload : inputs.workload = some workload)
    (h : PoolOutcome.declared formatDouble (some workload) inputs.effective
      inputs.acceleratorClass = []) :
    Passes (inputs.compatibility.workloadChecks formatDouble) ↔
      (workload.isolationRequirement ≠ [] → workload.isolationRequirement.length ≤ 256 →
        formatEvidence inputs.effective .securityIsolation workload.isolationRequirement =
          .yes) := by
  have hsame : inputs.compatibility.workload = some workload := hworkload
  unfold PoolOutcome.declared at h
  obtain ⟨hrequirements, hmemory⟩ := List.append_eq_nil_iff.mp h
  have hpasses : Passes (workload.requirements.map
      (inputs.compatibility.requirementCheck formatDouble · false)) := by
    intro check hcheck
    obtain ⟨requirement, hrequirement, rfl⟩ := List.mem_map.mp hcheck
    exact isCompatibleFamily_requirementCheck.mpr
      (satisfied_of_requirement_eq_nil (List.flatMap_eq_nil_iff.mp hrequirements _ hrequirement))
  unfold CompatibilityInputs.workloadChecks
  rw [hsame]
  dsimp only
  rw [passes_append, passes_append, and_iff_right hpasses,
    and_iff_right (passes_memoryCheck hmemory)]
  unfold isolationRequirements
  exact passes_anyOfRequirement

end Checks

/-! ## Eligible pools -/

section Eligible

variable {formatDouble : Double → Text} {inputs : PoolInputs} {workload : WorkloadRecord}

/-- The compatibility of an eligible pool. -/
theorem isCompatibleFamily_of_eligible (hcurrent : inputs.cluster.currentness = .current)
    (hworkload : inputs.workload = some workload) (h : inputs.outcomes formatDouble = []) :
    (assessCompatibility formatDouble inputs.compatibility).overall.isCompatibleFamily = true ↔
      (∀ artifact, inputs.artifact = some artifact → inputs.CoversArtifact artifact) ∧
        (workload.isolationRequirement ≠ [] → workload.isolationRequirement.length ≤ 256 →
          formatEvidence inputs.effective .securityIsolation workload.isolationRequirement =
            .yes) := by
  unfold PoolInputs.outcomes at h
  simp only [List.append_eq_nil_iff] at h
  obtain ⟨⟨⟨⟨harchitecture, hformats⟩, habi⟩, hdeclared⟩, -⟩ := h
  rw [hworkload] at hdeclared
  have hcurrentness : Passes [inputs.compatibility.currentnessCheck] := by
    rw [passes_singleton]
    unfold CompatibilityInputs.currentnessCheck PoolInputs.compatibility
    dsimp only
    rw [hcurrent]
    rfl
  have hpolicy : Passes (inputs.compatibility.policyChecks inputs.cluster) := by
    unfold CompatibilityInputs.policyChecks
    cases inputs.compatibility.policy with
    | none => exact passes_nil
    | some policy =>
      dsimp only
      split
      · exact passes_singleton.mpr rfl
      · exact passes_nil
  have hchecks : (assessCompatibility formatDouble inputs.compatibility).overall =
      overallOutcome ([inputs.compatibility.currentnessCheck] ++
        (inputs.compatibility.artifactChecks formatDouble ++
          inputs.compatibility.workloadChecks formatDouble ++
            inputs.compatibility.policyChecks inputs.cluster)) := rfl
  rw [hchecks, isCompatibleFamily_overallOutcome]
  change Passes _ ↔ _
  rw [passes_append, passes_append, passes_append, and_iff_right hcurrentness,
    and_iff_left hpolicy, passes_artifactChecks harchitecture hformats habi,
    passes_workloadChecks hworkload hdeclared]

/-- The policy of an eligible pool. -/
theorem policyAdmissible_of_eligible (h : inputs.outcomes formatDouble = []) :
    (assessCompatibility formatDouble inputs.compatibility).policyAdmissible ≠ .no ↔
      ∀ policy, inputs.policy = some policy → policy.permitsSite inputs.cluster.site ≠ .no := by
  unfold PoolInputs.outcomes at h
  obtain ⟨-, hpolicy⟩ := List.append_eq_nil_iff.mp h
  have hadmissible : (assessCompatibility formatDouble inputs.compatibility).policyAdmissible =
      inputs.compatibility.policyAdmissible inputs.cluster := rfl
  have hsame : inputs.compatibility.policy = inputs.policy := rfl
  rw [hadmissible, CompatibilityInputs.policyAdmissible, hsame]
  cases hlookup : inputs.policy with
  | none =>
    refine iff_of_true (by intro hno; cases hno) ?_
    intro policy hsome
    cases hsome
  | some policy =>
    rw [hlookup] at hpolicy
    unfold PoolOutcome.policy at hpolicy
    dsimp only at hpolicy ⊢
    split at hpolicy
    · cases hpolicy
    · have hcluster : policy.permitsCluster inputs.cluster.id = .yes := by
        cases hpermits : policy.permitsCluster inputs.cluster.id with
        | yes => rfl
        | no =>
          rw [hpermits] at hpolicy
          cases hpolicy
        | unknown =>
          rw [hpermits] at hpolicy
          cases hpolicy
      rw [hcluster]
      constructor
      · intro hne found hfound hno
        cases hfound
        rw [hno] at hne
        exact hne rfl
      · intro hsite hno
        have hsite := hsite policy rfl
        cases hpermits : policy.permitsSite inputs.cluster.site with
        | no => exact hsite hpermits
        | yes =>
          rw [hpermits] at hno
          cases hno
        | unknown =>
          rw [hpermits] at hno
          cases hno

end Eligible

/-- An eligible pool is placeable exactly if what `evaluate_pool` does not check holds of it. -/
theorem placeable_iff (formatDouble : Double → Text) {snapshot : FederationSnapshot}
    {workload : WorkloadRecord} {cluster : ClusterRecord} {pool : CapacityPool} (inputs : PoolInputs)
    (hinputs : inputs = poolInputs snapshot (strandedSubject snapshot (some workload)) cluster pool)
    (hcurrent : cluster.currentness = .current)
    (hdecided : (evaluatePool formatDouble inputs).decided = true)
    (heligible : (evaluatePool formatDouble inputs).eligible = true) :
    ((workload.acceptableAcceleratorClasses ≠ [] →
        pool.acceleratorClass ∈ workload.acceptableAcceleratorClasses) ∧
      (assessCompatibility formatDouble inputs.compatibility).overall.isCompatibleFamily = true ∧
      (assessCompatibility formatDouble inputs.compatibility).policyAdmissible ≠ .no) ↔
      inputs.Covers workload pool.acceleratorClass := by
  have hcluster : inputs.cluster.currentness = .current := by
    rw [hinputs]
    exact hcurrent
  have hworkload : inputs.workload = some workload := by
    rw [hinputs]
    rfl
  obtain ⟨-, houtcomes⟩ := eligible_iff.mp ⟨hdecided, heligible⟩
  rw [isCompatibleFamily_of_eligible hcluster hworkload houtcomes,
    policyAdmissible_of_eligible houtcomes]
  constructor
  · rintro ⟨hacceptable, ⟨hartifact, hisolation⟩, hsite⟩
    exact ⟨hacceptable, hartifact, hisolation, hsite⟩
  · rintro ⟨hacceptable, hartifact, hisolation, hsite⟩
    exact ⟨hacceptable, ⟨hartifact, hisolation⟩, hsite⟩

/-- A snapshot of a cluster with one pool, and of the class of its accelerators. -/
def acceleratedSnapshot : FederationSnapshot :=
  { buildSnapshot {} {} with
    records := fun k =>
      match k with
      | .cluster => [onePoolCluster]
      | .acceleratorClass => [{ id := ⟨.ofString "a1"⟩ }]
      | _ => [] }

/-- Its pool of eight idle accelerators. -/
def acceleratedPool : CapacityPool :=
  { poolId := ⟨.ofString "p1"⟩
    acceleratorClass := ⟨.ofString "a1"⟩
    ledger := { nominal := 8, idle := 8 } }

/-- A workload that accepts one class. -/
def choosyWorkload (id : String) : WorkloadRecord :=
  { id := ⟨.ofString "w1"⟩, acceptableAcceleratorClasses := [⟨.ofString id⟩] }

/-- The inputs for the pool and the workload. -/
def choosyInputs (id : String) : PoolInputs :=
  poolInputs acceleratedSnapshot (strandedSubject acceleratedSnapshot (some (choosyWorkload id)))
    onePoolCluster acceleratedPool

theorem placeable_accepted :
    (acceleratedPool.acceleratorClass ∈ (choosyWorkload "a1").acceptableAcceleratorClasses) ∧
      (assessCompatibility (fun _ => [])
        (choosyInputs "a1").compatibility).overall.isCompatibleFamily = true ∧
      (assessCompatibility (fun _ => [])
        (choosyInputs "a1").compatibility).policyAdmissible ≠ .no := by
  have hcovers : (choosyInputs "a1").Covers (choosyWorkload "a1")
      acceleratedPool.acceleratorClass := by
    have hartifact : (choosyInputs "a1").artifact = none := by decide +kernel
    have hpolicy : (choosyInputs "a1").policy = none := by decide +kernel
    refine ⟨fun _ => by decide, ?_, fun hisolation => absurd rfl hisolation, ?_⟩
    · intro artifact hsome
      rw [hartifact] at hsome
      cases hsome
    · intro policy hsome
      rw [hpolicy] at hsome
      cases hsome
  obtain ⟨hacceptable, hfamily, hadmissible⟩ :=
    (placeable_iff (fun _ => []) (choosyInputs "a1") rfl rfl
      (by decide +kernel) (by decide +kernel)).mpr hcovers
  exact ⟨hacceptable (by decide), hfamily, hadmissible⟩

/-- The pool is eligible for a workload that does not accept its class. -/
theorem eligible_not_acceptable :
    ¬∀ (formatDouble : Double → Text) (snapshot : FederationSnapshot) (workload : WorkloadRecord)
      (cluster : ClusterRecord) (pool : CapacityPool) (inputs : PoolInputs),
      inputs = poolInputs snapshot (strandedSubject snapshot (some workload)) cluster pool →
      cluster.currentness = .current →
      (evaluatePool formatDouble inputs).decided = true →
      (evaluatePool formatDouble inputs).eligible = true →
      (workload.acceptableAcceleratorClasses ≠ [] →
          pool.acceleratorClass ∈ workload.acceptableAcceleratorClasses) ∧
        (assessCompatibility formatDouble inputs.compatibility).overall.isCompatibleFamily = true ∧
        (assessCompatibility formatDouble inputs.compatibility).policyAdmissible ≠ .no := by
  intro h
  have hacceptable := (h (fun _ => []) acceleratedSnapshot (choosyWorkload "a2") onePoolCluster
    acceleratedPool (choosyInputs "a2") rfl rfl (by decide +kernel) (by decide +kernel)).1
  exact absurd (hacceptable (by decide)) (by decide)

end FederationObservatory
