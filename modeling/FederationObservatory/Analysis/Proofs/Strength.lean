import FederationObservatory.Analysis.Compatibility
import FederationObservatory.Analysis.Proofs.Mismatch
import FederationObservatory.Misc.Weakest

/-!
# How strong a derived finding is

The precision of the rows of a mismatch analysis against that of the observations they count, its
evidence class against the clusters that participate, and the strength of a compatibility assessment
against the records it is given.
-/

namespace FederationObservatory

open Sorting
open FindOrAdd (Ledger)

/-! ## Rows that start at unknown -/

theorem Precision.weakest_unknown (precision : Precision) :
    Precision.weakest .unknown precision = .unknown := by
  cases precision <;> rfl

/-- Nothing is weaker than what is unknown. -/
theorem foldl_weakest_unknown (precisions : List Precision) :
    precisions.foldl Precision.weakest .unknown = .unknown := by
  induction precisions with
  | nil => rfl
  | cons precision precisions ih => rw [List.foldl_cons, Precision.weakest_unknown, ih]

theorem Precision.weakest_eq_unknown (a b : Precision) :
    a.weakest b = .unknown ↔ a = .unknown ∨ b = .unknown := by
  cases a <;> cases b <;> decide

theorem foldl_weakest_eq_unknown (start : Precision) (precisions : List Precision) :
    precisions.foldl Precision.weakest start = .unknown ↔
      start = .unknown ∨ .unknown ∈ precisions := by
  induction precisions generalizing start with
  | nil => simp
  | cons precision precisions ih =>
    rw [List.foldl_cons, ih, Precision.weakest_eq_unknown, or_assoc, List.mem_cons]
    exact or_congr_right (or_congr_left eq_comm)

theorem precision_countObservations {observations : List MismatchObservation} {row : MismatchRow}
    (h : row ∈ countObservations observations) : row.precision = .unknown := by
  rw [(mem_countObservations h).precision, foldl_weakest_unknown]

theorem MismatchRow.settled_precision {row : MismatchRow} (h : row.precision ≠ .exact) :
    row.settled.precision = row.precision := by
  unfold settled
  rw [if_neg fun hexact => h hexact.1]

/-! ## The precision of rows -/

/-- Each row is as precise as the weakest of what contributes to it, and no more than derived. -/
def PreciseRows (rows : List MismatchRow) (contributions : List (Text × Precision)) : Prop :=
  ∀ row ∈ rows, row.precision =
    ((contributions.filter (·.1 = row.subject)).map Prod.snd).foldl Precision.weakest .derived

/-- What an observation contributes. -/
def MismatchObservation.contribution (o : MismatchObservation) : Text × Precision :=
  (o.subject, o.precision)

/-- The rows of a family are as precise as they should be when each of them counts an observation of
    unknown precision. -/
theorem preciseRows_iff (observations : List MismatchObservation) :
    PreciseRows (sortRows (countObservations observations))
        (observations.map MismatchObservation.contribution) ↔
      ∀ o ∈ observations, ∃ other ∈ observations, other.subject = o.subject ∧
        other.precision = .unknown := by
  have hrow : ∀ row ∈ countObservations observations, ∀ contributions : List (Text × Precision),
      (row.settled.precision = ((contributions.filter (·.1 = row.settled.subject)).map
        Prod.snd).foldl Precision.weakest .derived ↔
          ∃ c ∈ contributions, c.1 = row.subject ∧ c.2 = .unknown) := by
    intro row hmem contributions
    have hunknown := precision_countObservations hmem
    rw [MismatchRow.settled_precision (by rw [hunknown]; decide), hunknown,
      MismatchRow.settled_subject, eq_comm, foldl_weakest_eq_unknown]
    simp only [reduceCtorEq, false_or, List.mem_map, List.mem_filter, decide_eq_true_eq, and_assoc]
  constructor
  · intro h o ho
    obtain ⟨row, hmem, hsubject⟩ := List.mem_map.mp (rowLedger.mem_keys_run.mpr ⟨o, ho, rfl⟩)
    rw [← countObservations_eq] at hmem
    obtain ⟨c, hc, hc', hunknown⟩ :=
      (hrow row hmem _).mp (h _ (mem_sortRows.mpr ⟨row, hmem, rfl⟩))
    obtain ⟨other, hother, rfl⟩ := List.mem_map.mp hc
    exact ⟨other, hother, hc'.trans hsubject, hunknown⟩
  · intro h row hmem
    obtain ⟨r, hr, rfl⟩ := mem_sortRows.mp hmem
    refine (hrow r hr _).mpr ?_
    have hkey : ∃ o ∈ observations, o.subject = r.subject := by
      rw [countObservations_eq] at hr
      exact rowLedger.mem_keys_run.mp (List.mem_map_of_mem hr)
    obtain ⟨o, ho, hsubject⟩ := hkey
    obtain ⟨other, hother, hsame, hunknown⟩ := h o ho
    exact ⟨_, List.mem_map_of_mem hother, hsame.trans hsubject, hunknown⟩

/-- A family whose observations are all derived has the precision it should have only if it has no
    row. -/
theorem preciseRows_derived_iff {observations : List MismatchObservation}
    (hderived : ∀ o ∈ observations, o.precision = .derived) :
    PreciseRows (sortRows (countObservations observations))
        (observations.map MismatchObservation.contribution) ↔ observations = [] := by
  rw [preciseRows_iff]
  constructor
  · intro h
    refine List.eq_nil_iff_forall_not_mem.mpr fun o ho => ?_
    obtain ⟨other, hother, -, hunknown⟩ := h o ho
    rw [hderived other hother] at hunknown
    cases hunknown
  · rintro rfl o ho
    cases ho

/-! ## Observations that are derived -/

section Derived

variable {formatDouble : Double → Text} {snapshot : FederationSnapshot}
  {request : MismatchAnalysisRequest}

theorem precision_rejectionObservations {placement : PlacementRecord} {o : MismatchObservation}
    (h : o ∈ placement.rejectionObservations) : o.precision = .derived := by
  rcases List.mem_append.mp h with h | h
  · obtain ⟨candidate, -, h⟩ := List.mem_flatMap.mp h
    obtain ⟨reason, -, rfl⟩ := List.mem_map.mp h
    rfl
  · split at h
    · obtain rfl := List.mem_singleton.mp h
      rfl
    · cases h

theorem precision_adaptationObservations {migration : MigrationRecord} {o : MismatchObservation}
    (h : o ∈ migration.adaptationObservations) : o.precision = .derived := by
  obtain ⟨entry, -, rfl⟩ := List.mem_map.mp h
  rfl

/-! ### Where no cluster participates -/

/-- The loop over the clusters finds nothing where it skips every one of them. -/
theorem findings_of_skipped {strandedRequest : StrandedCapacityRequest} {subject : StrandedSubject}
    {clusters : List ClusterRecord}
    (hskips : ∀ cluster ∈ clusters, strandedRequest.concerns cluster = false ∨
      strandedRequest.excludes cluster = true)
    {state result : StrandedState}
    (h : clusters.foldlM (StrandedState.addCluster formatDouble snapshot strandedRequest subject)
      state = .ok result) : result.findings = state.findings := by
  induction clusters generalizing state with
  | nil => rw [← Except.ok.inj h]
  | cons cluster clusters ih =>
    rw [List.foldlM_cons] at h
    obtain ⟨next, hnext, hrest⟩ := bind_eq_ok.mp h
    have hsame : next.findings = state.findings := by
      unfold StrandedState.addCluster at hnext
      by_cases hconcerns : strandedRequest.concerns cluster = true
      · have hexcludes := (hskips cluster List.mem_cons_self).resolve_left (by simp [hconcerns])
        rw [if_neg (by simp [hconcerns]), if_pos hexcludes] at hnext
        rw [← Except.ok.inj hnext]
      · rw [if_pos (by simpa using hconcerns)] at hnext
        rw [← Except.ok.inj hnext]
    rw [ih (fun c hc => hskips c (List.mem_cons_of_mem _ hc)) hrest, hsame]

theorem countedFindings_of_no_population (h : request.population snapshot = []) :
    countedFindings formatDouble snapshot request = [] := by
  refine List.flatMap_eq_nil_iff.mpr fun workloadClass _ => ?_
  unfold strandedFindings
  split
  · next report hreport =>
    obtain ⟨_, -, hreport⟩ := bind_eq_ok.mp hreport
    obtain ⟨state, hstate, hreport⟩ := bind_eq_ok.mp hreport
    obtain ⟨_, -, hreport⟩ := bind_eq_ok.mp hreport
    have hfindings : state.findings = [] := by
      refine findings_of_skipped ?_ hstate
      intro cluster hcluster
      have hout := List.filter_eq_nil_iff.mp h cluster hcluster
      simp only [Bool.and_eq_true, not_and_or] at hout
      unfold StrandedCapacityRequest.concerns StrandedCapacityRequest.excludes
      rcases hout with (hfederation | hretired) | hstale
      · exact .inl (by simp [hfederation])
      · exact .inl (by simp [hretired])
      · simp only [Bool.or_eq_true, not_or, Bool.not_eq_true] at hstale
        exact .inr (by simpa [bne] using hstale)
    rw [← Except.ok.inj hreport]
    unfold StrandedState.report
    rw [hfindings]
    rfl
  · rfl

theorem outcomes_of_no_population (h : request.population snapshot = [])
    (workload : WorkloadRecord) :
    classObservation formatDouble snapshot (request.population snapshot) workload = none ∧
      artifactObservation formatDouble snapshot (request.population snapshot) workload = none := by
  unfold classObservation artifactObservation workloadOutcome
  rw [h]
  refine ⟨rfl, ?_⟩
  split <;> rfl

end Derived

/-! ## The analysis -/

section Analysis

variable (formatDouble : Double → Text) (snapshot : FederationSnapshot)
  (request : MismatchAnalysisRequest)

/-- What a finding contributes to the rows of its reasons. -/
def StrandedCapacityFinding.contributions (finding : StrandedCapacityFinding) :
    List (Text × Precision) :=
  finding.breakdown.strandedByPrimaryReason.nonZero.map fun entry =>
    (entry.1.toText, finding.precision)

/-- Every family of rows has the precision of what contributes to it. -/
structure MismatchAnalysis.Precise (analysis : MismatchAnalysis) : Prop where
  byCapabilityKey : PreciseRows analysis.byCapabilityKey
    (((request.population snapshot).flatMap (capabilityObservations formatDouble snapshot request
      (observedKeys snapshot (request.population snapshot)))).map MismatchObservation.contribution)
  byAcceleratorClass : PreciseRows analysis.byAcceleratorClass
    ((coverageObservations snapshot request (acceleratorSubject snapshot)).map
      MismatchObservation.contribution)
  byCluster : PreciseRows analysis.byCluster
    ((coverageObservations snapshot request fun cluster => cluster.id.value).map
      MismatchObservation.contribution)
  bySite : PreciseRows analysis.bySite
    ((coverageObservations snapshot request (siteSubject snapshot)).map
      MismatchObservation.contribution)
  byRuntime : PreciseRows analysis.byRuntime
    ((coverageObservations snapshot request (runtimeSubject snapshot)).map
      MismatchObservation.contribution)
  byWorkloadClass : PreciseRows analysis.byWorkloadClass
    (((snapshot.records .workload).filterMap (classObservation formatDouble snapshot
      (request.population snapshot))).map MismatchObservation.contribution)
  byArtifact : PreciseRows analysis.byArtifact
    (((snapshot.records .workload).filterMap (artifactObservation formatDouble snapshot
      (request.population snapshot))).map MismatchObservation.contribution)
  placementRejections : PreciseRows analysis.placementRejections
    (((request.placements snapshot).flatMap PlacementRecord.rejectionObservations).map
      MismatchObservation.contribution)
  capacityStrandedByReason : PreciseRows analysis.capacityStrandedByReason
    ((countedFindings formatDouble snapshot request).flatMap
      StrandedCapacityFinding.contributions)
  migrationAdaptations : PreciseRows analysis.migrationAdaptations
    (((request.migrations snapshot).flatMap MigrationRecord.adaptationObservations).map
      MismatchObservation.contribution)
  portabilityOutcomes : PreciseRows analysis.portabilityOutcomes
    (((request.assessments snapshot).map PortabilityAssessment.outcomeObservation).map
      MismatchObservation.contribution)

/-- There is nothing to count but assessments, and of these, of every outcome, one of unknown
    precision. -/
structure OnlyUnknown : Prop where
  population : request.population snapshot = []
  rejections : ∀ placement ∈ request.placements snapshot, placement.rejectionObservations = []
  adaptations : ∀ migration ∈ request.migrations snapshot, migration.adaptationObservations = []
  outcomes : ∀ assessment ∈ request.assessments snapshot, ∃ other ∈ request.assessments snapshot,
    other.overall = assessment.overall ∧ other.precision = .unknown

theorem precise_iff :
    (analyzeMismatch formatDouble snapshot request).Precise formatDouble snapshot request ↔
      OnlyUnknown snapshot request := by
  have hrejections := @preciseRows_derived_iff
    ((request.placements snapshot).flatMap PlacementRecord.rejectionObservations)
    fun o ho => by
      obtain ⟨placement, -, ho⟩ := List.mem_flatMap.mp ho
      exact precision_rejectionObservations ho
  have hadaptations := @preciseRows_derived_iff
    ((request.migrations snapshot).flatMap MigrationRecord.adaptationObservations)
    fun o ho => by
      obtain ⟨migration, -, ho⟩ := List.mem_flatMap.mp ho
      exact precision_adaptationObservations ho
  have houtcomes := preciseRows_iff
    ((request.assessments snapshot).map PortabilityAssessment.outcomeObservation)
  have hclusters := @preciseRows_derived_iff
    (coverageObservations snapshot request fun cluster => cluster.id.value)
    fun o ho => by
      obtain ⟨cluster, -, rfl⟩ := List.mem_map.mp ho
      rfl
  constructor
  · intro h
    refine ⟨?_, ?_, ?_, ?_⟩
    · exact List.map_eq_nil_iff.mp (hclusters.mp h.byCluster)
    · exact List.flatMap_eq_nil_iff.mp (hrejections.mp h.placementRejections)
    · exact List.flatMap_eq_nil_iff.mp (hadaptations.mp h.migrationAdaptations)
    · intro assessment hassessment
      obtain ⟨o, ho, hsubject, hunknown⟩ := houtcomes.mp h.portabilityOutcomes _
        (List.mem_map_of_mem hassessment)
      obtain ⟨other, hother, rfl⟩ := List.mem_map.mp ho
      exact ⟨other, hother, PortabilityOutcome.toText_injective hsubject, hunknown⟩
  · intro h
    have hempty : ∀ contributions, PreciseRows (sortRows (countObservations [])) contributions := by
      intro contributions row hrow
      obtain ⟨r, hr, -⟩ := mem_sortRows.mp hrow
      cases hr
    have hworkloads := workloadRows_eq formatDouble snapshot request
    have hclass : (snapshot.records .workload).filterMap (classObservation formatDouble snapshot
        (request.population snapshot)) = [] :=
      List.filterMap_eq_nil_iff.mpr fun workload _ =>
        (outcomes_of_no_population h.population workload).1
    have hartifact : (snapshot.records .workload).filterMap (artifactObservation formatDouble
        snapshot (request.population snapshot)) = [] :=
      List.filterMap_eq_nil_iff.mpr fun workload _ =>
        (outcomes_of_no_population h.population workload).2
    rw [hclass, hartifact] at hworkloads
    have hcovered : ∀ subject : ClusterRecord → Text, PreciseRows
        (sortRows (countObservations (coverageObservations snapshot request subject)))
        ((coverageObservations snapshot request subject).map MismatchObservation.contribution) := by
      intro subject
      unfold coverageObservations
      rw [h.population]
      exact hempty _
    refine ⟨?_, ?_, ?_, ?_, ?_, ?_, ?_, ?_, ?_, ?_, ?_⟩
    case refine_1 =>
      unfold analyzeMismatch
      dsimp only
      rw [h.population]
      exact hempty _
    case refine_6 =>
      unfold analyzeMismatch
      dsimp only
      rw [hworkloads]
      exact hempty _
    case refine_7 =>
      unfold analyzeMismatch
      dsimp only
      rw [hworkloads]
      exact hempty _
    case refine_8 => exact hrejections.mpr (List.flatMap_eq_nil_iff.mpr h.rejections)
    case refine_9 =>
      unfold analyzeMismatch
      dsimp only
      rw [countedFindings_of_no_population h.population]
      exact hempty _
    case refine_10 => exact hadaptations.mpr (List.flatMap_eq_nil_iff.mpr h.adaptations)
    case refine_11 =>
      refine houtcomes.mpr fun o ho => ?_
      obtain ⟨assessment, hassessment, rfl⟩ := List.mem_map.mp ho
      obtain ⟨other, hother, hsame, hunknown⟩ := h.outcomes assessment hassessment
      exact ⟨_, List.mem_map_of_mem hother, congrArg PortabilityOutcome.toText hsame, hunknown⟩
    all_goals exact hcovered _

/-- The class of the analysis is at least as weak as that of every cluster exactly when no cluster is
    weaker than the first. -/
theorem evidenceClass_iff :
    (∀ cluster ∈ request.population snapshot, cluster.stamp.evidenceClass.rank ≤
      (analyzeMismatch formatDouble snapshot request).evidenceClass.rank) ↔
      ∀ first rest, request.population snapshot = first :: rest → ∀ cluster ∈ rest,
        cluster.stamp.evidenceClass.rank ≤ first.stamp.evidenceClass.rank := by
  unfold analyzeMismatch
  dsimp only
  generalize request.population snapshot = clusters
  cases clusters with
  | nil =>
    constructor
    · intro _ first rest h
      cases h
    · intro _ cluster h
      cases h
  | cons first rest =>
    constructor
    · rintro h first' rest' heq cluster hcluster
      cases heq
      exact h cluster (List.mem_cons_of_mem _ hcluster)
    · intro h cluster hcluster
      rcases List.mem_cons.mp hcluster with rfl | hcluster
      · exact Nat.le_refl _
      · exact h first rest rfl cluster hcluster

end Analysis

/-! ## Compatibility assessments -/

/-- The stamp is not stronger than a finding of this strength. -/
def ObservationStamp.AtMost (stamp : ObservationStamp) (strength : Strength) : Prop :=
  stamp.precision.rank ≤ strength.precision.rank ∧
    stamp.evidenceClass.rank ≤ strength.evidenceClass.rank
  deriving Decidable

/-- The strengths that go into a combination are the only ones that weaken it. -/
theorem atMost_foldl_iff (stamp : ObservationStamp) (start : Strength) (strengths : List Strength) :
    stamp.AtMost (strengths.foldl Strength.weaken start) ↔
      (∃ strength ∈ start :: strengths, stamp.precision.rank ≤ strength.precision.rank) ∧
        ∃ strength ∈ start :: strengths, stamp.evidenceClass.rank ≤ strength.evidenceClass.rank := by
  have hprecision : (strengths.foldl Strength.weaken start).precision =
      (strengths.map Strength.precision).foldl (Weakest.weakest Precision.rank) start.precision := by
    rw [List.foldl_map]
    exact (List.foldl_hom Strength.precision (fun _ _ => rfl)).symm
  have hclass : (strengths.foldl Strength.weaken start).evidenceClass =
      (strengths.map Strength.evidenceClass).foldl (Weakest.weakest EvidenceClass.rank)
        start.evidenceClass := by
    rw [List.foldl_map]
    exact (List.foldl_hom Strength.evidenceClass (fun _ _ => rfl)).symm
  have hweakest : ∀ {α : Type} (rank : α → Nat) (bound : Nat) (field : Strength → α),
      bound ≤ rank ((strengths.map field).foldl (Weakest.weakest rank) (field start)) ↔
        ∃ strength ∈ start :: strengths, bound ≤ rank (field strength) := by
    intro α rank bound field
    have h : Weakest.IsWeakest rank (field start :: strengths.map field) _ :=
      Weakest.isWeakest_foldl (field start) (strengths.map field)
    rw [← List.map_cons] at h
    constructor
    · intro hle
      obtain ⟨strength, hmem, heq⟩ := List.mem_map.mp h.mem
      exact ⟨strength, hmem, heq ▸ hle⟩
    · rintro ⟨strength, hmem, hle⟩
      exact hle.trans (h.rank_le _ (List.mem_map_of_mem hmem))
  unfold ObservationStamp.AtMost
  rw [hprecision, hclass, hweakest, hweakest]

namespace CompatibilityInputs

variable (inputs : CompatibilityInputs)

/-- The stamps of the records an assessment is given. -/
def consulted : List ObservationStamp :=
  (inputs.cluster.map ClusterRecord.stamp).toList ++
  (inputs.acceleratorClass.map AcceleratorClassRecord.stamp).toList ++
  (inputs.clusterRuntime.map RuntimeRecord.stamp).toList ++
  (inputs.artifact.map ArtifactRecord.stamp).toList ++
  (inputs.workload.map WorkloadRecord.stamp).toList ++
  (inputs.policy.map PolicyRecord.stamp).toList

/-- The stamps that are not considered for the strength of the assessment. -/
def unconsidered : List ObservationStamp :=
  (inputs.clusterRuntime.map RuntimeRecord.stamp).toList ++
  (inputs.policy.map PolicyRecord.stamp).toList

/-- What goes into the strength of the assessment is as weak as the runtime and the policy. -/
def CoversUnconsidered : Prop :=
  ∀ cluster, inputs.cluster = some cluster → ∀ stamp ∈ inputs.unconsidered,
    (∃ strength ∈ cluster.stamp.strength :: inputs.considered,
      stamp.precision.rank ≤ strength.precision.rank) ∧
    ∃ strength ∈ cluster.stamp.strength :: inputs.considered,
      stamp.evidenceClass.rank ≤ strength.evidenceClass.rank

theorem atMost_unknown (stamp : ObservationStamp) : stamp.AtMost {} := by
  constructor
  · cases stamp.precision <;> decide
  · cases stamp.evidenceClass <;> decide

/-- The stamps of an assessment are those that are considered, and the others. -/
theorem mem_consulted {stamp : ObservationStamp} (h : stamp ∈ inputs.consulted) :
    (∃ cluster, inputs.cluster = some cluster ∧ stamp = cluster.stamp) ∨
      stamp.strength ∈ inputs.considered ∨ stamp ∈ inputs.unconsidered := by
  simp only [consulted, List.mem_append, Option.mem_toList, Option.map_eq_some_iff, or_assoc] at h
  rcases h with ⟨record, hrecord, rfl⟩ | ⟨record, hrecord, rfl⟩ | ⟨record, hrecord, rfl⟩ |
    ⟨record, hrecord, rfl⟩ | ⟨record, hrecord, rfl⟩ | ⟨record, hrecord, rfl⟩
  · exact .inl ⟨record, hrecord, rfl⟩
  · exact .inr (.inl (by simp [considered, hrecord]))
  · exact .inr (.inr (by simp [unconsidered, hrecord]))
  · exact .inr (.inl (by simp [considered, hrecord]))
  · exact .inr (.inl (by simp [considered, hrecord]))
  · exact .inr (.inr (by simp [unconsidered, hrecord]))

theorem consulted_of_unconsidered {stamp : ObservationStamp} (h : stamp ∈ inputs.unconsidered) :
    stamp ∈ inputs.consulted := by
  rcases List.mem_append.mp h with h | h <;> simp [consulted, h]

/-- An assessment is not stronger than any of its records exactly when what goes into its strength
    covers the runtime and the policy. -/
theorem strength_iff :
    (∀ stamp ∈ inputs.consulted, stamp.AtMost inputs.strength) ↔ inputs.CoversUnconsidered := by
  unfold CoversUnconsidered
  rcases Option.eq_none_or_eq_some inputs.cluster with hcluster | ⟨cluster, hcluster⟩
  · have hstrength : inputs.strength = {} := by
      unfold strength
      rw [hcluster]
    rw [hstrength]
    refine iff_of_true (fun stamp _ => atMost_unknown stamp) fun cluster h => ?_
    rw [hcluster] at h
    cases h
  · have hstrength : inputs.strength =
        inputs.considered.foldl Strength.weaken cluster.stamp.strength := by
      unfold strength
      rw [hcluster]
    have hconsidered : ∀ stamp : ObservationStamp,
        stamp.strength ∈ cluster.stamp.strength :: inputs.considered →
          stamp.AtMost inputs.strength := by
      intro stamp hmem
      rw [hstrength]
      exact (atMost_foldl_iff _ _ _).mpr ⟨⟨_, hmem, Nat.le_refl _⟩, _, hmem, Nat.le_refl _⟩
    simp only [← atMost_foldl_iff]
    constructor
    · intro h cluster' hcluster' stamp hmem
      obtain rfl := Option.some.inj (hcluster.symm.trans hcluster')
      rw [← hstrength]
      exact h stamp (inputs.consulted_of_unconsidered hmem)
    · intro h stamp hmem
      rcases inputs.mem_consulted hmem with ⟨cluster', hcluster', rfl⟩ | hmem | hmem
      · obtain rfl := Option.some.inj (hcluster.symm.trans hcluster')
        exact hconsidered _ List.mem_cons_self
      · exact hconsidered _ (List.mem_cons_of_mem _ hmem)
      · rw [hstrength]
        exact h cluster hcluster stamp hmem

end CompatibilityInputs

/-! ## Both -/

/-- The rows of a mismatch analysis are as precise as they should be when there is nothing to count
    but assessments, of every outcome one of unknown precision; its class is weak enough when the
    first cluster is the weakest; a compatibility assessment is weak enough when the records it
    considers are as weak as those it does not. -/
theorem derived_not_stronger_iff (formatDouble : Double → Text) (snapshot : FederationSnapshot)
    (request : MismatchAnalysisRequest) (inputs : CompatibilityInputs) :
    ((analyzeMismatch formatDouble snapshot request).Precise formatDouble snapshot request ↔
      OnlyUnknown snapshot request) ∧
    ((∀ cluster ∈ request.population snapshot, cluster.stamp.evidenceClass.rank ≤
        (analyzeMismatch formatDouble snapshot request).evidenceClass.rank) ↔
      ∀ first rest, request.population snapshot = first :: rest → ∀ cluster ∈ rest,
        cluster.stamp.evidenceClass.rank ≤ first.stamp.evidenceClass.rank) ∧
    ((∀ stamp ∈ inputs.consulted,
        stamp.precision.rank ≤ (assessCompatibility formatDouble inputs).precision.rank ∧
          stamp.evidenceClass.rank ≤
            (assessCompatibility formatDouble inputs).evidenceClass.rank) ↔
      inputs.CoversUnconsidered) :=
  ⟨precise_iff formatDouble snapshot request, evidenceClass_iff formatDouble snapshot request,
    inputs.strength_iff⟩

namespace Deployment

/-- A current cluster with evidence of this class. -/
def stampedCluster (id : String) (evidenceClass : EvidenceClass) : ClusterRecord :=
  { cluster with
    id := ⟨.ofString id⟩
    currentness := .current
    stamp := { precision := .exact, evidenceClass } }

/-- A snapshot with a cluster of real evidence before one of synthetic evidence. -/
def mixedSnapshot : FederationSnapshot :=
  { buildSnapshot (Impl.new {}) {} with
    records := fun k => match k with
      | .cluster => [stampedCluster "cluster-1" .real, stampedCluster "cluster-2" .synthetic]
      | _ => [] }

/-- The first of them, with a runtime that is only inferred. -/
def mixedInputs : CompatibilityInputs where
  cluster := some (stampedCluster "cluster-1" .real)
  clusterRuntime := some { runtime with
    stamp := { precision := .inferred, evidenceClass := .synthetic } }

end Deployment

/-- Two exact clusters: their rows are of unknown precision, the analysis is of the class of the
    first, and an assessment of the first is stronger than the runtime it is about. -/
theorem derived_stronger_than_inputs :
    ¬(analyzeMismatch (fun _ => []) Deployment.mixedSnapshot {}).Precise (fun _ => [])
        Deployment.mixedSnapshot {} ∧
      (¬∀ cluster ∈ ({} : MismatchAnalysisRequest).population Deployment.mixedSnapshot,
        cluster.stamp.evidenceClass.rank ≤
          (analyzeMismatch (fun _ => []) Deployment.mixedSnapshot {}).evidenceClass.rank) ∧
      ¬∀ stamp ∈ Deployment.mixedInputs.consulted,
        stamp.precision.rank ≤
            (assessCompatibility (fun _ => []) Deployment.mixedInputs).precision.rank ∧
          stamp.evidenceClass.rank ≤
            (assessCompatibility (fun _ => []) Deployment.mixedInputs).evidenceClass.rank := by
  have hpopulation : ({} : MismatchAnalysisRequest).population Deployment.mixedSnapshot =
      [Deployment.stampedCluster "cluster-1" .real,
        Deployment.stampedCluster "cluster-2" .synthetic] := rfl
  refine ⟨?_, ?_, ?_⟩
  · intro h
    have hempty := ((precise_iff _ _ _).mp h).population
    rw [hpopulation] at hempty
    cases hempty
  · intro h
    have hweak := (evidenceClass_iff _ _ _).mp h _ _ hpopulation _ (List.mem_singleton_self _)
    exact absurd hweak (by decide)
  · intro h
    have hweak := (h { precision := .inferred, evidenceClass := .synthetic } (by decide)).1
    exact absurd hweak (by decide)

end FederationObservatory
