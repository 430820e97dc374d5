import FederationObservatory.Analysis.Mismatch
import FederationObservatory.Analysis.Proofs.Rows
import FederationObservatory.Misc.FindOrAdd

/-!
# What the rows of a mismatch analysis count

Each family of rows accounts for the observations of its loop. A row of the portability outcomes
counts a policy failure as satisfied.
-/

namespace FederationObservatory

open Sorting
open FindOrAdd (Ledger)

/-! ## Rows as a ledger -/

/-- The rows of a family: an observation is counted in the row of its subject. -/
def rowLedger : Ledger MismatchObservation MismatchRow Text where
  key := MismatchRow.subject
  fresh subject := { subject }
  subject := MismatchObservation.subject
  update row o := row.count o.satisfied o.precision
  key_fresh _ := rfl
  key_update _ _ := rfl

theorem bump_eq (o : MismatchObservation) (rows : List MismatchRow) :
    bump o.subject o.satisfied o.precision rows = rowLedger.findOrAdd o rows := by
  induction rows with
  | nil => rfl
  | cons row rows ih =>
    unfold bump Ledger.findOrAdd
    rw [ih]
    rfl

theorem countObservations_eq (observations : List MismatchObservation) :
    countObservations observations = rowLedger.run observations := by
  unfold countObservations Ledger.run
  simp only [bump_eq]

/-- A row counts these observations. -/
structure MismatchRow.Counts (row : MismatchRow) (observations : List MismatchObservation) :
    Prop where
  population : row.population = UInt64.ofNat observations.length
  satisfied : row.satisfied = UInt64.ofNat (observations.countP (·.satisfied = .yes))
  missing : row.missing = UInt64.ofNat (observations.countP (·.satisfied = .no))
  unknown : row.unknown = UInt64.ofNat (observations.countP (·.satisfied = .unknown))
  precision : row.precision =
    (observations.map MismatchObservation.precision).foldl Precision.weakest .unknown

theorem ofNat_succ (n : Nat) : UInt64.ofNat n + 1 = UInt64.ofNat (n + 1) :=
  (UInt64.ofNat_add n 1).symm

/-- A counter that counts the observations with an outcome. -/
theorem countP_concat {counter : UInt64} {observations : List MismatchObservation} {outcome : Tri}
    (h : counter = UInt64.ofNat (observations.countP (·.satisfied = outcome)))
    (o : MismatchObservation) :
    (if o.satisfied = outcome then counter + 1 else counter) =
      UInt64.ofNat ((observations ++ [o]).countP (·.satisfied = outcome)) := by
  rw [List.countP_append, List.countP_singleton, h]
  by_cases ho : o.satisfied = outcome
  · rw [if_pos ho, if_pos (decide_eq_true ho), ofNat_succ]
  · rw [if_neg ho, if_neg (by simpa using ho), Nat.add_zero]

theorem MismatchRow.Counts.count {row : MismatchRow} {observations : List MismatchObservation}
    (h : row.Counts observations) (o : MismatchObservation) :
    (row.count o.satisfied o.precision).Counts (observations ++ [o]) := by
  unfold MismatchRow.count
  refine ⟨?_, countP_concat h.satisfied o, countP_concat h.missing o, countP_concat h.unknown o, ?_⟩
  · rw [List.length_append, List.length_singleton, h.population, ofNat_succ]
  · rw [List.map_append, List.foldl_append, ← h.precision]
    rfl

theorem counts_row (observations : List MismatchObservation) (subject : Text) :
    (rowLedger.row observations subject).Counts (rowLedger.of observations subject) := by
  unfold Ledger.row
  generalize rowLedger.of observations subject = counted
  induction counted using List.reverseRecOn with
  | nil => exact ⟨rfl, rfl, rfl, rfl, rfl⟩
  | append_singleton counted o ih =>
    rw [List.foldl_append, List.foldl_cons, List.foldl_nil]
    exact ih.count o

theorem mem_countObservations {observations : List MismatchObservation} {row : MismatchRow}
    (h : row ∈ countObservations observations) :
    row.Counts (rowLedger.of observations row.subject) := by
  rw [countObservations_eq] at h
  have hrow := (rowLedger.mem_run_iff.mp h).2
  have hcounts := counts_row observations row.subject
  change row = rowLedger.row observations row.subject at hrow
  rwa [← hrow] at hcounts

/-! ## Sorted rows -/

/-- A row as `sort_rows` leaves it. -/
def MismatchRow.settled (row : MismatchRow) : MismatchRow :=
  if row.precision = .exact ∧ row.population ≠ 0 then { row with precision := .derived } else row

theorem perm_sortRows (rows : List MismatchRow) :
    (sortRows rows).Perm (rows.map MismatchRow.settled) :=
  perm_stableSort _ _

theorem mem_sortRows {rows : List MismatchRow} {row : MismatchRow} :
    row ∈ sortRows rows ↔ ∃ r ∈ rows, r.settled = row := by
  rw [(perm_sortRows rows).mem_iff, List.mem_map]

section Settled

variable (row : MismatchRow)

@[simp]
theorem MismatchRow.settled_subject : row.settled.subject = row.subject := by
  unfold settled
  split <;> rfl

@[simp]
theorem MismatchRow.settled_population : row.settled.population = row.population := by
  unfold settled
  split <;> rfl

@[simp]
theorem MismatchRow.settled_satisfied : row.settled.satisfied = row.satisfied := by
  unfold settled
  split <;> rfl

@[simp]
theorem MismatchRow.settled_missing : row.settled.missing = row.missing := by
  unfold settled
  split <;> rfl

@[simp]
theorem MismatchRow.settled_unknown : row.settled.unknown = row.unknown := by
  unfold settled
  split <;> rfl

end Settled

/-! ## Conservation -/

/-- The rows of a family account for its observations, in the arithmetic of the counters; in that of
    the numbers, unless there are more observations than a counter can hold. -/
structure Conserves (rows : List MismatchRow) (observations : List MismatchObservation) : Prop where
  balanced : ∀ row ∈ rows, row.population = row.satisfied + row.missing + row.unknown
  total : (rows.map MismatchRow.population).sum = UInt64.ofNat observations.length
  balanced_numbers : observations.length < 2 ^ 64 → ∀ row ∈ rows,
    row.population.toNat = row.satisfied.toNat + row.missing.toNat + row.unknown.toNat
  total_numbers : observations.length < 2 ^ 64 →
    (rows.map fun row => row.population.toNat).sum = observations.length

theorem length_eq_countP (observations : List MismatchObservation) :
    observations.length = observations.countP (·.satisfied = .yes) +
      observations.countP (·.satisfied = .no) + observations.countP (·.satisfied = .unknown) := by
  induction observations with
  | nil => rfl
  | cons o observations ih =>
    simp only [List.length_cons, List.countP_cons]
    cases o.satisfied <;> simp <;> omega

theorem sum_ofNat (ns : List Nat) : (ns.map UInt64.ofNat).sum = UInt64.ofNat ns.sum := by
  induction ns with
  | nil => rfl
  | cons n ns ih => rw [List.map_cons, List.sum_cons, List.sum_cons, ih, UInt64.ofNat_add]

theorem toNat_ofNat_of_le {n m : Nat} (hle : n ≤ m) (h : m < 2 ^ 64) :
    (UInt64.ofNat n).toNat = n :=
  UInt64.toNat_ofNat_of_lt' (Nat.lt_of_le_of_lt hle h)

theorem length_of_le (observations : List MismatchObservation) (subject : Text) :
    (rowLedger.of observations subject).length ≤ observations.length :=
  List.length_filter_le _ _

theorem conserves_countObservations (observations : List MismatchObservation) :
    Conserves (sortRows (countObservations observations)) observations := by
  have hpopulations : ((sortRows (countObservations observations)).map
      MismatchRow.population).Perm ((countObservations observations).map fun row =>
        UInt64.ofNat (rowLedger.of observations row.subject).length) := by
    refine ((perm_sortRows _).map _).trans (List.Perm.of_eq ?_)
    rw [List.map_map]
    refine List.map_congr_left fun row hrow => ?_
    rw [Function.comp_apply, MismatchRow.settled_population, (mem_countObservations hrow).population]
  have hlengths : ((countObservations observations).map fun row =>
      (rowLedger.of observations row.subject).length).sum = observations.length := by
    rw [countObservations_eq]
    exact rowLedger.sum_length_of observations
  refine ⟨?_, ?_, ?_, ?_⟩
  · intro row hrow
    obtain ⟨r, hr, rfl⟩ := mem_sortRows.mp hrow
    have hcounts := mem_countObservations hr
    rw [MismatchRow.settled_population, MismatchRow.settled_satisfied, MismatchRow.settled_missing,
      MismatchRow.settled_unknown, hcounts.population, hcounts.satisfied, hcounts.missing,
      hcounts.unknown, ← UInt64.ofNat_add, ← UInt64.ofNat_add, ← length_eq_countP]
  · rw [hpopulations.sum_eq, ← hlengths, ← sum_ofNat, List.map_map]
    rfl
  · intro hsize row hrow
    obtain ⟨r, hr, rfl⟩ := mem_sortRows.mp hrow
    have hcounts := mem_countObservations hr
    have hlength := length_of_le observations r.subject
    have hsplit := length_eq_countP (rowLedger.of observations r.subject)
    rw [MismatchRow.settled_population, MismatchRow.settled_satisfied, MismatchRow.settled_missing,
      MismatchRow.settled_unknown, hcounts.population, hcounts.satisfied, hcounts.missing,
      hcounts.unknown, toNat_ofNat_of_le hlength hsize, toNat_ofNat_of_le (by omega) hsize,
      toNat_ofNat_of_le (m := observations.length) (by omega) hsize,
      toNat_ofNat_of_le (m := observations.length) (by omega) hsize]
    exact hsplit
  · intro hsize
    have hnumbers := (hpopulations.map UInt64.toNat).sum_eq
    rw [List.map_map, List.map_map] at hnumbers
    rw [← hlengths]
    refine hnumbers.trans (congrArg List.sum (List.map_congr_left fun row _ => ?_))
    exact toNat_ofNat_of_le (length_of_le observations row.subject) hsize

/-! ## Rows about workloads -/

section Workloads

variable (formatDouble : Double → Text) (snapshot : FederationSnapshot)

/-- What the clusters make of a workload, counted under its class. -/
def classObservation (clusters : List ClusterRecord) (workload : WorkloadRecord) :
    Option MismatchObservation :=
  (workloadOutcome formatDouble snapshot clusters workload).map fun outcome =>
    { subject := workload.workloadClass.value, satisfied := outcome }

/-- What the clusters make of a workload, counted under its artifact. -/
def artifactObservation (clusters : List ClusterRecord) (workload : WorkloadRecord) :
    Option MismatchObservation :=
  if workload.artifact.empty then none
  else
    (workloadOutcome formatDouble snapshot clusters workload).map fun outcome =>
      { subject := workload.artifact.value, satisfied := outcome }

theorem workloadRows_eq (request : MismatchAnalysisRequest) :
    workloadRows formatDouble snapshot request =
      { byWorkloadClass := countObservations ((snapshot.records .workload).filterMap
          (classObservation formatDouble snapshot (request.population snapshot)))
        byArtifact := countObservations ((snapshot.records .workload).filterMap
          (artifactObservation formatDouble snapshot (request.population snapshot))) } := by
  unfold workloadRows
  generalize request.population snapshot = clusters
  have hworkloads : ∀ workloads : List WorkloadRecord,
      workloads.foldl (WorkloadRows.add formatDouble snapshot clusters) {} =
        { byWorkloadClass := countObservations (workloads.filterMap
            (classObservation formatDouble snapshot clusters))
          byArtifact := countObservations (workloads.filterMap
            (artifactObservation formatDouble snapshot clusters)) } := by
    intro workloads
    induction workloads using List.reverseRecOn with
    | nil => rfl
    | append_singleton workloads workload ih =>
      rw [List.foldl_append, List.foldl_cons, List.foldl_nil, ih, List.filterMap_append,
        List.filterMap_append]
      unfold WorkloadRows.add
      rcases Option.eq_none_or_eq_some (workloadOutcome formatDouble snapshot clusters workload)
        with houtcome | ⟨outcome, houtcome⟩
      · have hclass : [workload].filterMap (classObservation formatDouble snapshot clusters) = [] := by
          simp [classObservation, houtcome]
        have hartifact : [workload].filterMap (artifactObservation formatDouble snapshot clusters) =
            [] := by
          simp [artifactObservation, houtcome]
        rw [hclass, hartifact, houtcome, List.append_nil, List.append_nil]
      · have hclass : [workload].filterMap (classObservation formatDouble snapshot clusters) =
            [{ subject := workload.workloadClass.value, satisfied := outcome }] := by
          simp [classObservation, houtcome]
        rw [hclass, houtcome]
        by_cases hempty : workload.artifact.empty = true
        · have hartifact : [workload].filterMap
              (artifactObservation formatDouble snapshot clusters) = [] := by
            simp [artifactObservation, hempty]
          rw [hartifact, List.append_nil]
          simp [countObservations, hempty]
        · have hartifact : [workload].filterMap
              (artifactObservation formatDouble snapshot clusters) =
                [{ subject := workload.artifact.value, satisfied := outcome }] := by
            simp [artifactObservation, hempty, houtcome]
          rw [hartifact]
          simp [countObservations, hempty]
  exact hworkloads _

end Workloads

/-! ## Portability outcomes -/

/-- Portable, as it is or with some adaptation. -/
def PortabilityOutcome.isPortable : PortabilityOutcome → Bool
  | .portableDirect | .portableWithFallback | .portableWithRebuild | .portableWithRecompile
  | .portableWithConversion | .portableWithStateTranslation => true
  | _ => false

theorem PortabilityOutcome.toText_injective : Function.Injective PortabilityOutcome.toText := by
  have hnodup : ((WireEnum.enumerators : List PortabilityOutcome).map
      PortabilityOutcome.toText).Nodup := by
    decide +kernel
  intro a b h
  exact List.inj_on_of_nodup_map hnodup (List.mem_of_getElem? (WireEnum.getElem?_code a))
    (List.mem_of_getElem? (WireEnum.getElem?_code b)) h

/-- What is neither a technical failure nor undecided is portable, or a policy failure. -/
theorem satisfied_outcomeObservation (assessment : PortabilityAssessment) :
    assessment.outcomeObservation.satisfied = .yes ↔
      assessment.overall.isPortable = true ∨ assessment.overall = .notPortablePolicy := by
  unfold PortabilityAssessment.outcomeObservation
  dsimp only
  cases assessment.overall <;> decide

/-- The assessments of a row. -/
theorem countP_of_outcomes (assessments : List PortabilityAssessment) (subject : Text) :
    (rowLedger.of (assessments.map PortabilityAssessment.outcomeObservation) subject).countP
        (·.satisfied = .yes) =
      assessments.countP fun assessment => assessment.overall.toText = subject ∧
        (assessment.overall.isPortable = true ∨ assessment.overall = .notPortablePolicy) := by
  unfold Ledger.of
  rw [List.countP_filter, List.countP_map]
  refine List.countP_congr fun assessment _ => ?_
  simp only [Function.comp_apply, Bool.and_eq_true, decide_eq_true_eq,
    satisfied_outcomeObservation]
  exact and_comm

/-- The rows count as satisfied the assessments that say portable. -/
def CountsPortable (rows : List MismatchRow) (assessments : List PortabilityAssessment) : Prop :=
  ∀ row ∈ rows, row.satisfied = UInt64.ofNat (assessments.countP fun assessment =>
    assessment.overall.toText = row.subject ∧ assessment.overall.isPortable = true)

theorem countsPortable_iff {assessments : List PortabilityAssessment}
    (hsize : assessments.length < 2 ^ 64) :
    CountsPortable (sortRows (countObservations
        (assessments.map PortabilityAssessment.outcomeObservation))) assessments ↔
      ∀ assessment ∈ assessments, assessment.overall ≠ .notPortablePolicy := by
  constructor
  · intro h assessment hmem hpolicy
    have hobservation : ∃ o ∈ assessments.map PortabilityAssessment.outcomeObservation,
        o.subject = PortabilityOutcome.notPortablePolicy.toText :=
      ⟨_, List.mem_map_of_mem hmem, congrArg PortabilityOutcome.toText hpolicy⟩
    obtain ⟨r, hr, hsubject⟩ := List.mem_map.mp (rowLedger.mem_keys_run.mpr hobservation)
    rw [← countObservations_eq] at hr
    have hrow := h _ (mem_sortRows.mpr ⟨r, hr, rfl⟩)
    change r.subject = _ at hsubject
    rw [MismatchRow.settled_satisfied, MismatchRow.settled_subject,
      (mem_countObservations hr).satisfied, countP_of_outcomes, hsubject] at hrow
    have hnone : (assessments.countP fun a =>
        a.overall.toText = PortabilityOutcome.notPortablePolicy.toText ∧
          a.overall.isPortable = true) = 0 := by
      refine List.countP_eq_zero.mpr fun a _ ha => ?_
      obtain ⟨htext, hportable⟩ := of_decide_eq_true ha
      rw [PortabilityOutcome.toText_injective htext] at hportable
      cases hportable
    have hsome : 0 < assessments.countP fun a =>
        a.overall.toText = PortabilityOutcome.notPortablePolicy.toText ∧
          (a.overall.isPortable = true ∨ a.overall = .notPortablePolicy) :=
      List.countP_pos_iff.mpr ⟨assessment, hmem, decide_eq_true
        ⟨congrArg PortabilityOutcome.toText hpolicy, .inr hpolicy⟩⟩
    have hnumber := congrArg UInt64.toNat hrow
    rw [hnone, toNat_ofNat_of_le List.countP_le_length hsize] at hnumber
    exact absurd hnumber hsome.ne'
  · intro hnever row hrow
    obtain ⟨r, hr, rfl⟩ := mem_sortRows.mp hrow
    rw [MismatchRow.settled_satisfied, MismatchRow.settled_subject,
      (mem_countObservations hr).satisfied, countP_of_outcomes]
    refine congrArg UInt64.ofNat (List.countP_congr fun assessment hmem => ?_)
    simp only [decide_eq_true_eq, or_iff_left (hnever assessment hmem)]

/-! ## The analysis -/

section Analysis

variable (formatDouble : Double → Text) (snapshot : FederationSnapshot)
  (request : MismatchAnalysisRequest)

/-- What a subject is counted for in a family of coverage rows. -/
def coverageObservations (subject : ClusterRecord → Text) : List MismatchObservation :=
  (request.population snapshot).map
    (coverageObservation snapshot (observedKeys snapshot (request.population snapshot)) subject)

/-- Every family of rows accounts for its observations, and the portability rows count as satisfied
    the assessments that say portable. -/
structure MismatchAnalysis.Accounts (analysis : MismatchAnalysis) : Prop where
  byCapabilityKey : Conserves analysis.byCapabilityKey ((request.population snapshot).flatMap
    (capabilityObservations formatDouble snapshot request
      (observedKeys snapshot (request.population snapshot))))
  byAcceleratorClass : Conserves analysis.byAcceleratorClass
    (coverageObservations snapshot request (acceleratorSubject snapshot))
  byCluster : Conserves analysis.byCluster
    (coverageObservations snapshot request fun cluster => cluster.id.value)
  bySite : Conserves analysis.bySite (coverageObservations snapshot request (siteSubject snapshot))
  byRuntime : Conserves analysis.byRuntime
    (coverageObservations snapshot request (runtimeSubject snapshot))
  byWorkloadClass : Conserves analysis.byWorkloadClass ((snapshot.records .workload).filterMap
    (classObservation formatDouble snapshot (request.population snapshot)))
  byArtifact : Conserves analysis.byArtifact ((snapshot.records .workload).filterMap
    (artifactObservation formatDouble snapshot (request.population snapshot)))
  placementRejections : Conserves analysis.placementRejections
    ((request.placements snapshot).flatMap PlacementRecord.rejectionObservations)
  migrationAdaptations : Conserves analysis.migrationAdaptations
    ((request.migrations snapshot).flatMap MigrationRecord.adaptationObservations)
  portabilityOutcomes : Conserves analysis.portabilityOutcomes
    ((request.assessments snapshot).map PortabilityAssessment.outcomeObservation)
  portable : CountsPortable analysis.portabilityOutcomes (request.assessments snapshot)

theorem accounts_iff (hsize : (request.assessments snapshot).length < 2 ^ 64) :
    (analyzeMismatch formatDouble snapshot request).Accounts formatDouble snapshot request ↔
      ∀ assessment ∈ request.assessments snapshot, assessment.overall ≠ .notPortablePolicy := by
  rw [← countsPortable_iff hsize]
  constructor
  · exact fun h => h.portable
  · intro hportable
    have hworkloads := workloadRows_eq formatDouble snapshot request
    refine ⟨?_, ?_, ?_, ?_, ?_, ?_, ?_, ?_, ?_, ?_, hportable⟩
    case refine_6 =>
      unfold analyzeMismatch
      rw [hworkloads]
      exact conserves_countObservations _
    case refine_7 =>
      unfold analyzeMismatch
      rw [hworkloads]
      exact conserves_countObservations _
    all_goals exact conserves_countObservations _

end Analysis

/-- A snapshot of a reachable state has no more records of a kind than its budget has room for. -/
theorem Reachable.length_records_lt {s : Impl} (h : Reachable s) (restrictTo : FederationId)
    (k : RecordKind) : ((buildSnapshot s restrictTo).records k).length < 2 ^ 64 := by
  have hmem : (s.bounds.maxSnapshotBytes, 1024, FederationObservatory.maxSnapshotBytes,
      "max_snapshot_bytes") ∈ s.bounds.ranges := by
    simp [Bounds.ranges]
  have hbudget := (Bounds.within_of_validate h.validate_bounds hmem).2
  have hlength : (s.includedRecords restrictTo k).length ≤
      s.bounds.maxSnapshotBytes / snapshotRecordBytes + 1 := by
    rw [includedRecords_eq h.filed, List.length_take]
    exact (Nat.min_le_left _ _).trans (Nat.sub_le _ _)
  have hroom : s.bounds.maxSnapshotBytes / snapshotRecordBytes ≤ s.bounds.maxSnapshotBytes :=
    Nat.div_le_self _ _
  have hlimit : FederationObservatory.maxSnapshotBytes + 1 < 2 ^ 64 := by decide
  change (s.includedRecords restrictTo k).length < 2 ^ 64
  omega

/-- The analysis accounts for what it counts exactly when no assessment it counts is a policy
    failure. -/
theorem mismatch_accounts_iff (formatDouble : Double → Text) {s : Impl} (hreachable : Reachable s)
    (restrictTo : FederationId) (request : MismatchAnalysisRequest) :
    (analyzeMismatch formatDouble (buildSnapshot s restrictTo) request).Accounts formatDouble
        (buildSnapshot s restrictTo) request ↔
      ∀ assessment ∈ request.assessments (buildSnapshot s restrictTo),
        assessment.overall ≠ .notPortablePolicy := by
  refine accounts_iff formatDouble _ request ?_
  exact Nat.lt_of_le_of_lt (List.length_filter_le _ _)
    (hreachable.length_records_lt restrictTo .portability)

namespace Deployment

/-- The deployment with an assessment of this outcome. -/
def assessed (overall : PortabilityOutcome) : Impl :=
  loaded.run [publish 8 (.publishPortability (assessment overall))]

theorem reachable_assessed (overall : PortabilityOutcome) : Reachable (assessed overall) :=
  reachable_loaded.run _

end Deployment

theorem mismatch_accounts_deployment :
    (analyzeMismatch (fun _ => []) (buildSnapshot (Deployment.assessed .portableDirect) {})
      {}).Accounts (fun _ => []) (buildSnapshot (Deployment.assessed .portableDirect) {}) {} := by
  have houtcomes : ((({} : MismatchAnalysisRequest).assessments
      (buildSnapshot (Deployment.assessed .portableDirect) {})).map (·.overall)) =
        [.portableDirect] := by
    decide +kernel
  refine (mismatch_accounts_iff _ (Deployment.reachable_assessed .portableDirect) {} {}).mpr ?_
  intro assessment hmem hpolicy
  have hoverall := List.mem_map_of_mem (f := fun a : PortabilityAssessment => a.overall) hmem
  rw [houtcomes, hpolicy] at hoverall
  exact absurd hoverall (by decide)

/-- An assessment that a policy blocks is counted as satisfied. -/
theorem policy_failure_satisfied :
    ¬(analyzeMismatch (fun _ => []) (buildSnapshot (Deployment.assessed .notPortablePolicy) {})
      {}).Accounts (fun _ => []) (buildSnapshot (Deployment.assessed .notPortablePolicy) {}) {} := by
  have houtcomes : ((({} : MismatchAnalysisRequest).assessments
      (buildSnapshot (Deployment.assessed .notPortablePolicy) {})).map (·.overall)) =
        [.notPortablePolicy] := by
    decide +kernel
  intro h
  have hsize : (({} : MismatchAnalysisRequest).assessments
      (buildSnapshot (Deployment.assessed .notPortablePolicy) {})).length < 2 ^ 64 := by
    rw [← List.length_map (f := fun a : PortabilityAssessment => a.overall), houtcomes]
    decide
  have hnever := (accounts_iff _ _ _ hsize).mp h
  have hmem : PortabilityOutcome.notPortablePolicy ∈ ((({} : MismatchAnalysisRequest).assessments
      (buildSnapshot (Deployment.assessed .notPortablePolicy) {})).map (·.overall)) := by
    rw [houtcomes]
    exact List.mem_singleton_self _
  obtain ⟨assessment, hassessment, hpolicy⟩ := List.mem_map.mp hmem
  exact hnever assessment hassessment hpolicy

end FederationObservatory
