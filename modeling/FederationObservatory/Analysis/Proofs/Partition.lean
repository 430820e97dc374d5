import FederationObservatory.Analysis.Proofs.Stranded

/-!
# The report as a whole

What `analyze_stranded_capacity` returns, and that the order of the requirements of a workload and of
the pools of a cluster does not show in it.
-/

namespace FederationObservatory

open Loops Sorting

theorem failIf_false (code : ErrorCode) (message : String) (detail : Text) :
    failIf false code message detail = .ok () := rfl

section Report

variable (formatDouble : Double → Text) (snapshot : FederationSnapshot)
  (request : StrandedCapacityRequest)

/-- The pools that a request selects, each with its cluster. -/
def selectedPools : List (ClusterRecord × CapacityPool) :=
  ((snapshot.records .cluster).filter request.selects).flatMap fun cluster =>
    (request.pools cluster).map fun pool => (cluster, pool)

/-- What the analysis looks up for a request. -/
def requestSubject : StrandedSubject :=
  strandedSubject snapshot (selectWorkload snapshot request.workloadClass)

/-- The finding about a selected pool. -/
def selectedFinding (selected : ClusterRecord × CapacityPool) : StrandedCapacityFinding :=
  poolFinding formatDouble snapshot request (requestSubject snapshot request) selected.1 selected.2

/-- A class is asked for that no workload has. -/
def NoWorkload : Prop :=
  request.workloadClass.empty = false ∧
    ∀ workload ∈ snapshot.records .workload,
      WorkloadRecord.workloadClass workload ≠ request.workloadClass

theorem selectWorkload_eq_none {workloadClass : WorkloadClassId} :
    selectWorkload snapshot workloadClass = none ↔
      ∀ workload ∈ snapshot.records .workload,
        WorkloadRecord.workloadClass workload ≠ workloadClass := by
  unfold selectWorkload
  generalize snapshot.records .workload = workloads
  induction workloads using List.reverseRecOn with
  | nil => simp
  | append_singleton workloads workload ih =>
    rw [List.foldl_append, List.foldl_cons, List.foldl_nil]
    by_cases hclass : workload.workloadClass = workloadClass
    · rw [if_neg (by simpa using hclass)]
      constructor
      · intro h
        split at h
        · cases h
        · split at h
          · cases h
          · simp_all
      · intro h
        exact absurd hclass (h workload (by simp))
    · rw [if_pos (by simpa using hclass), ih]
      constructor
      · intro h w hw
        rcases List.mem_append.mp hw with hw | hw
        · exact h w hw
        · rw [List.mem_singleton.mp hw]
          exact hclass
      · intro h w hw
        exact h w (List.mem_append_left _ hw)

theorem noWorkload_iff :
    NoWorkload snapshot request ↔
      ((selectWorkload snapshot request.workloadClass).isNone && !request.workloadClass.empty) =
        true := by
  rw [NoWorkload, ← selectWorkload_eq_none, Bool.and_eq_true, Option.isNone_iff_eq_none,
    Bool.not_eq_true', and_comm]

theorem flatMap_clusterFindings :
    (snapshot.records .cluster).flatMap
        (clusterFindings formatDouble snapshot request (requestSubject snapshot request)) =
      (selectedPools snapshot request).map (selectedFinding formatDouble snapshot request) := by
  unfold selectedPools
  generalize (snapshot.records .cluster : List ClusterRecord) = clusters
  induction clusters with
  | nil => rfl
  | cons cluster clusters ih =>
    rw [List.flatMap_cons, ih, List.filter_cons, clusterFindings]
    by_cases hselects : request.selects cluster = true
    · rw [if_pos hselects, if_pos hselects, List.flatMap_cons, List.map_append, List.map_map]
      rfl
    · rw [if_neg hselects, if_neg hselects, List.nil_append]

/-- The error of a class without workloads. -/
def noWorkloadError : Error :=
  ⟨.notFound, .ofString "no workload generation is registered for this workload class",
    request.workloadClass.value⟩

/-- The pools of every cluster have ledgers that close. -/
def LedgersClose : Prop :=
  ∀ cluster ∈ snapshot.records .cluster, ∀ pool ∈ ClusterRecord.capacityPools cluster,
    pool.ledger.validate = .ok ()

/-- A report about findings: it has them all, and their exact sums. -/
structure StrandedCapacityReport.Covers (report : StrandedCapacityReport)
    (findings : List StrandedCapacityFinding) : Prop where
  perm : report.findings.Perm findings
  sums : report.summary.Sums findings
  fits : NominalFits findings
  closes : report.closes = true

/-- The findings about the selected pools. -/
def selectedFindings : List StrandedCapacityFinding :=
  (selectedPools snapshot request).map (selectedFinding formatDouble snapshot request)

variable {snapshot} in
/-- What the analysis returns, case by case. -/
theorem analyzeStrandedCapacity_cases (hledgers : LedgersClose snapshot) :
    (NoWorkload snapshot request ∧
      analyzeStrandedCapacity formatDouble snapshot request =
        .error (noWorkloadError request)) ∨
    (¬ NoWorkload snapshot request ∧
      ¬ NominalFits (selectedFindings formatDouble snapshot request) ∧
      analyzeStrandedCapacity formatDouble snapshot request = .error nominalOverflow) ∨
    (¬ NoWorkload snapshot request ∧
      ∃ report, analyzeStrandedCapacity formatDouble snapshot request = .ok report ∧
        report.Covers (selectedFindings formatDouble snapshot request)) := by
  have hloop := collects_addClusters formatDouble snapshot request (requestSubject snapshot request)
    hledgers
  rw [flatMap_clusterFindings] at hloop
  unfold analyzeStrandedCapacity
  by_cases hnone : NoWorkload snapshot request
  · left
    refine ⟨hnone, ?_⟩
    rw [noWorkload_iff] at hnone
    dsimp only
    rw [hnone]
    rfl
  · right
    have hsome := mt (noWorkload_iff snapshot request).mpr hnone
    rw [Bool.not_eq_true] at hsome
    dsimp only
    rw [hsome]
    by_cases hfits : NominalFits (selectedFindings formatDouble snapshot request)
    · right
      refine ⟨hnone, ?_⟩
      obtain ⟨state, hstate, hholds⟩ := hloop.of_fits hfits
      have hperm : (state.report snapshot request).findings.Perm
          (selectedFindings formatDouble snapshot request) := by
        rw [StrandedState.report, hholds.findings_eq]
        exact perm_stableSort _ _
      have hcloses : (state.report snapshot request).closes = true :=
        StrandedCapacityReport.closes_of_sums hholds.sums hfits
      refine ⟨state.report snapshot request, ?_, hperm, hholds.sums, hfits, hcloses⟩
      rw [requestSubject] at hstate
      rw [hstate, failIf_false, ok_bind, ok_bind, hcloses]
      rfl
    · left
      refine ⟨hnone, hfits, ?_⟩
      have hfailed := hloop.of_not_fits hfits
      rw [requestSubject] at hfailed
      rw [hfailed]
      rfl

end Report

/-! ## Order -/

section Order

variable (formatDouble : Double → Text) (snapshot : FederationSnapshot)
  (request : StrandedCapacityRequest) (pools : ClusterRecord → List CapacityPool)
  (requirements : WorkloadRecord → List CapabilityRequirement)

/-- A cluster with its pools in another order. -/
def ClusterRecord.reorder (cluster : ClusterRecord) : ClusterRecord :=
  { cluster with capacityPools := pools cluster }

/-- A workload with its requirements in another order. -/
def WorkloadRecord.reorder (workload : WorkloadRecord) : WorkloadRecord :=
  { workload with requirements := requirements workload }

/-- The snapshot with the pools of every cluster and the requirements of every workload in another
    order. -/
def FederationSnapshot.reorder : FederationSnapshot :=
  { snapshot with
    records := fun k =>
      match k with
      | .cluster => (snapshot.records .cluster).map (ClusterRecord.reorder pools)
      | .workload => (snapshot.records .workload).map (WorkloadRecord.reorder requirements)
      | k => snapshot.records k }

/-- What a finding says about its pool, apart from the notes. -/
def StrandedCapacityFinding.account (finding : StrandedCapacityFinding) :
    ClusterId × ResourcePoolId × ResourceKind × CapacityLedger × UInt64 × UInt64 × ReasonTally :=
  (finding.cluster, finding.pool, finding.kind, finding.ledger, finding.breakdown.usable,
    finding.breakdown.unknown, finding.breakdown.strandedByPrimaryReason)

theorem selectWorkload_reorder (workloadClass : WorkloadClassId) :
    selectWorkload (snapshot.reorder pools requirements) workloadClass =
      (selectWorkload snapshot workloadClass).map (WorkloadRecord.reorder requirements) := by
  unfold selectWorkload
  change ((snapshot.records .workload).map (WorkloadRecord.reorder requirements)).foldl _ none = _
  generalize (snapshot.records .workload : List WorkloadRecord) = workloads
  induction workloads using List.reverseRecOn with
  | nil => rfl
  | append_singleton workloads workload ih =>
    rw [List.map_append, List.map_singleton, List.foldl_append, List.foldl_append, ih,
      List.foldl_cons, List.foldl_nil, List.foldl_cons, List.foldl_nil]
    generalize workloads.foldl _ none = selected
    by_cases hclass : workload.workloadClass = workloadClass
    · rw [if_neg (by simpa [WorkloadRecord.reorder] using hclass), if_neg (by simpa using hclass)]
      cases selected with
      | none => rfl
      | some record =>
        dsimp only [Option.map_some]
        by_cases hless : less workload.id record.id = true
        · rw [if_pos hless]
          exact if_pos hless
        · rw [if_neg hless]
          exact if_neg hless
    · rw [if_pos (by simpa [WorkloadRecord.reorder] using hclass), if_pos (by simpa using hclass)]

variable {requirements}

theorem outcomes_reorder (hrequirements : ∀ workload, (requirements workload).Perm workload.requirements)
    (cluster : ClusterRecord) (pool : CapacityPool) :
    ((poolInputs (snapshot.reorder pools requirements)
        (requestSubject (snapshot.reorder pools requirements) request) (cluster.reorder pools)
        pool).outcomes formatDouble).Perm
      ((poolInputs snapshot (requestSubject snapshot request) cluster pool).outcomes
        formatDouble) := by
  have hdeclared : (PoolOutcome.declared formatDouble
      (requestSubject (snapshot.reorder pools requirements) request).workload
      (poolInputs snapshot (requestSubject snapshot request) cluster pool).effective
      (poolInputs snapshot (requestSubject snapshot request) cluster pool).acceleratorClass).Perm
      (PoolOutcome.declared formatDouble (requestSubject snapshot request).workload
        (poolInputs snapshot (requestSubject snapshot request) cluster pool).effective
        (poolInputs snapshot (requestSubject snapshot request) cluster pool).acceleratorClass) := by
    simp only [requestSubject, strandedSubject, selectWorkload_reorder]
    cases selectWorkload snapshot request.workloadClass with
    | none => exact .refl _
    | some workload => exact (((hrequirements workload).flatMap_right _).append_right _)
  have hartifact : (requestSubject (snapshot.reorder pools requirements) request).artifact =
      (requestSubject snapshot request).artifact := by
    simp only [requestSubject, strandedSubject, selectWorkload_reorder]
    cases selectWorkload snapshot request.workloadClass <;> rfl
  have hpolicy : (requestSubject (snapshot.reorder pools requirements) request).policy =
      (requestSubject snapshot request).policy := by
    simp only [requestSubject, strandedSubject, selectWorkload_reorder]
    cases selectWorkload snapshot request.workloadClass <;> rfl
  unfold PoolInputs.outcomes
  simp only [poolInputs, hartifact, hpolicy]
  exact ((List.Perm.append_left _ hdeclared).append_right _)

theorem account_reorder
    (hrequirements : ∀ workload, (requirements workload).Perm workload.requirements)
    (cluster : ClusterRecord) (pool : CapacityPool) :
    (selectedFinding formatDouble (snapshot.reorder pools requirements) request
        (cluster.reorder pools, pool)).account =
      (selectedFinding formatDouble snapshot request (cluster, pool)).account := by
  have hfinding := findingOf_poolFinding formatDouble snapshot request
    (requestSubject snapshot request) cluster pool
  have hfinding' := findingOf_poolFinding formatDouble (snapshot.reorder pools requirements) request
    (requestSubject (snapshot.reorder pools requirements) request) (cluster.reorder pools) pool
  have hperm := outcomes_reorder formatDouble snapshot request pools hrequirements cluster pool
  obtain ⟨hdecided, hverdict⟩ := evaluatePool_perm (by exact Iff.rfl) hperm
  have hpartitions := hfinding.partitions
  have hpartitions' := hfinding'.partitions
  unfold StrandedCapacityFinding.account selectedFinding
  rw [hfinding.cluster_eq, hfinding'.cluster_eq, hfinding.pool_eq, hfinding'.pool_eq,
    hfinding.kind_eq, hfinding'.kind_eq, hfinding.ledger_eq, hfinding'.ledger_eq,
    hpartitions.usable_eq, hpartitions'.usable_eq, hpartitions.unknown_eq, hpartitions'.unknown_eq,
    hpartitions.strandedBy_eq, hpartitions'.strandedBy_eq, ← hdecided]
  generalize evaluatePool formatDouble (poolInputs snapshot (requestSubject snapshot request) cluster
    pool) = verdict at hverdict
  generalize evaluatePool formatDouble (poolInputs (snapshot.reorder pools requirements)
    (requestSubject (snapshot.reorder pools requirements) request) (cluster.reorder pools) pool) =
    verdict' at hverdict
  cases hd : verdict'.decided with
  | false => simp [ClusterRecord.reorder]
  | true =>
    obtain ⟨heligible, hprimary⟩ := hverdict hd
    rw [← heligible]
    cases he : verdict'.eligible with
    | true => simp [ClusterRecord.reorder]
    | false =>
      rw [← hprimary he]
      rfl

theorem accounts_reorder {pools : ClusterRecord → List CapacityPool}
    (hpools : ∀ cluster, (pools cluster).Perm cluster.capacityPools)
    (hrequirements : ∀ workload, (requirements workload).Perm workload.requirements) :
    ((selectedFindings formatDouble (snapshot.reorder pools requirements) request).map
        StrandedCapacityFinding.account).Perm
      ((selectedFindings formatDouble snapshot request).map StrandedCapacityFinding.account) := by
  have hclusters : (snapshot.reorder pools requirements).records .cluster =
      (snapshot.records .cluster).map (ClusterRecord.reorder pools) := rfl
  unfold selectedFindings selectedPools
  rw [hclusters, List.filter_map, List.flatMap_map, List.map_flatMap, List.map_flatMap,
    List.map_flatMap, List.map_flatMap]
  refine List.Perm.flatMap_left _ ?_
  intro cluster _
  simp only [List.map_map]
  have hselected : (request.pools (cluster.reorder pools)).Perm (request.pools cluster) :=
    (hpools cluster).filter _
  refine (hselected.map _).trans ?_
  rw [List.map_congr_left]
  intro pool _
  exact account_reorder formatDouble snapshot request pools hrequirements cluster pool

theorem ledgersClose_reorder {pools : ClusterRecord → List CapacityPool}
    (hpools : ∀ cluster, (pools cluster).Perm cluster.capacityPools)
    (hledgers : LedgersClose snapshot) : LedgersClose (snapshot.reorder pools requirements) := by
  intro cluster hcluster pool hpool
  obtain ⟨original, horiginal, rfl⟩ := List.mem_map.mp hcluster
  exact hledgers original horiginal pool ((hpools original).mem_iff.mp hpool)

end Order

/-! ## The partition -/

section Partition

variable (formatDouble : Double → Text) (snapshot : FederationSnapshot)
  (request : StrandedCapacityRequest)

/-- The nominal capacity of the selected pools. -/
def selectedNominal : Nat :=
  ((selectedPools snapshot request).map fun selected => selected.2.ledger.nominal.toNat).sum

theorem fieldSum_nominal_selectedFindings :
    fieldSum .nominal (selectedFindings formatDouble snapshot request) =
      selectedNominal snapshot request := by
  unfold fieldSum selectedFindings selectedNominal
  rw [List.map_map]
  congr 1
  refine List.map_congr_left ?_
  intro selected _
  have hledger := (findingOf_poolFinding formatDouble snapshot request
    (requestSubject snapshot request) selected.1 selected.2).ledger_eq
  simp only [Function.comp_apply, selectedFinding, StrandedCapacityFinding.get, hledger]

/-- The verdict on a selected pool. -/
def selectedVerdict (selected : ClusterRecord × CapacityPool) : PoolEligibility :=
  evaluatePool formatDouble
    (poolInputs snapshot (requestSubject snapshot request) selected.1 selected.2)

/-- The reasons of the checks that a selected pool fails. -/
def selectedReasons (selected : ClusterRecord × CapacityPool) : List StrandingReason :=
  failingReasons ((poolInputs snapshot (requestSubject snapshot request) selected.1
    selected.2).outcomes formatDouble)

/-- A report that is an exact partition of the idle capacity of the selected pools. -/
structure StrandedCapacityReport.PartitionsIdle (report : StrandedCapacityReport) : Prop where
  /-- Each selected pool has exactly one finding. -/
  findings : report.findings.Perm
    ((selectedPools snapshot request).map (selectedFinding formatDouble snapshot request))
  about : ∀ selected ∈ selectedPools snapshot request,
    (selectedFinding formatDouble snapshot request selected).cluster = selected.1.id ∧
      (selectedFinding formatDouble snapshot request selected).pool = selected.2.poolId ∧
      (selectedFinding formatDouble snapshot request selected).ledger = selected.2.ledger
  /-- What is usable, unknown and stranded adds up to what is idle. -/
  splits : ∀ finding ∈ report.findings,
    finding.breakdown.usable.toNat + finding.breakdown.unknown.toNat +
      finding.breakdown.strandedByPrimaryReason.sum = finding.ledger.idle.toNat
  /-- The sums are exact. -/
  sums : ∀ field,
    (report.summary.get field).toNat =
      (report.findings.map fun finding => (finding.get field).toNat).sum
  closes : report.closes = true
  /-- The primary reason is the failing one of least precedence. -/
  primary : ∀ selected ∈ selectedPools snapshot request,
    (selectedVerdict formatDouble snapshot request selected).decided = true →
    (selectedVerdict formatDouble snapshot request selected).eligible = false →
    ∃ reason ∈ selectedReasons formatDouble snapshot request selected,
      (∀ other ∈ selectedReasons formatDouble snapshot request selected,
        reason.precedence ≤ other.precedence) ∧
      (selectedFinding formatDouble snapshot request selected).breakdown.strandedByPrimaryReason =
        .single reason selected.2.ledger.idle
  /-- The order of pools and requirements does not show. -/
  order : ∀ (pools : ClusterRecord → List CapacityPool)
      (requirements : WorkloadRecord → List CapabilityRequirement),
    (∀ cluster, (pools cluster).Perm cluster.capacityPools) →
    (∀ workload, (requirements workload).Perm workload.requirements) →
    ∃ reordered,
      analyzeStrandedCapacity formatDouble (snapshot.reorder pools requirements) request =
        .ok reordered ∧
      (reordered.findings.map StrandedCapacityFinding.account).Perm
        (report.findings.map StrandedCapacityFinding.account)

variable {formatDouble snapshot request} in
theorem selected_primary
    {selected : ClusterRecord × CapacityPool}
    (hdecided : (selectedVerdict formatDouble snapshot request selected).decided = true)
    (heligible : (selectedVerdict formatDouble snapshot request selected).eligible = false) :
    ∃ reason ∈ selectedReasons formatDouble snapshot request selected,
      (∀ other ∈ selectedReasons formatDouble snapshot request selected,
        reason.precedence ≤ other.precedence) ∧
      (selectedFinding formatDouble snapshot request selected).breakdown.strandedByPrimaryReason =
        .single reason selected.2.ledger.idle := by
  obtain ⟨hfailing, hprimary⟩ := primary_of_stranded hdecided heligible
  have hpartitions := (findingOf_poolFinding formatDouble snapshot request
    (requestSubject snapshot request) selected.1 selected.2).partitions
  refine ⟨_, StrandingReason.least_mem hfailing (none_notMem_failingReasons _ _),
    fun other hother => StrandingReason.precedence_least_le hother, ?_⟩
  have hstranded := hpartitions.strandedBy_eq
  rw [selectedReasons, ← hprimary, selectedFinding, hstranded]
  simp only [selectedVerdict] at hdecided heligible
  rw [hdecided, heligible]
  rfl

/-- Where the analysis succeeds, the same pools and requirements in another order give the same
    findings. -/
theorem exists_reordered (hledgers : LedgersClose snapshot)
    (hsome : ¬ NoWorkload snapshot request) {report : StrandedCapacityReport}
    (hreport : report.Covers (selectedFindings formatDouble snapshot request))
    {pools : ClusterRecord → List CapacityPool}
    {requirements : WorkloadRecord → List CapabilityRequirement}
    (hpools : ∀ cluster, (pools cluster).Perm cluster.capacityPools)
    (hrequirements : ∀ workload, (requirements workload).Perm workload.requirements) :
    ∃ reordered,
      analyzeStrandedCapacity formatDouble (snapshot.reorder pools requirements) request =
        .ok reordered ∧
      (reordered.findings.map StrandedCapacityFinding.account).Perm
        (report.findings.map StrandedCapacityFinding.account) := by
  have haccounts := accounts_reorder formatDouble snapshot request hpools hrequirements
  rcases analyzeStrandedCapacity_cases formatDouble request
      (ledgersClose_reorder snapshot hpools hledgers) with
    ⟨hnone, -⟩ | ⟨-, hfits, -⟩ | ⟨-, reordered, hreordered, hcovers⟩
  · rw [noWorkload_iff, selectWorkload_reorder, Option.isNone_map, ← noWorkload_iff] at hnone
    exact absurd hnone hsome
  · -- the nominal sum is read off the accounts
    have hsum : ∀ findings, fieldSum .nominal findings =
        ((findings.map StrandedCapacityFinding.account).map fun account =>
          account.2.2.2.1.nominal.toNat).sum := by
      intro findings
      rw [List.map_map]
      rfl
    refine absurd ?_ hfits
    have hreport' := hreport.fits
    unfold NominalFits at hreport' ⊢
    rw [hsum] at hreport' ⊢
    rw [(haccounts.map _).sum_eq]
    exact hreport'
  · refine ⟨reordered, hreordered, ?_⟩
    exact ((hcovers.perm.map _).trans haccounts).trans (hreport.perm.map _).symm

/-- Stranded capacity is an exact partition of idle capacity: a class without workloads is not
    found, a nominal sum that does not fit is an error, and every other report is a partition. -/
theorem stranded_partition (hledgers : LedgersClose snapshot) :
    (NoWorkload snapshot request ∧
      analyzeStrandedCapacity formatDouble snapshot request =
        .error (noWorkloadError request)) ∨
    (¬ NoWorkload snapshot request ∧ 2 ^ 64 ≤ selectedNominal snapshot request ∧
      analyzeStrandedCapacity formatDouble snapshot request = .error nominalOverflow) ∨
    (¬ NoWorkload snapshot request ∧ selectedNominal snapshot request < 2 ^ 64 ∧
      ∃ report, analyzeStrandedCapacity formatDouble snapshot request = .ok report ∧
        report.PartitionsIdle formatDouble snapshot request) := by
  have hnominal := fieldSum_nominal_selectedFindings formatDouble snapshot request
  rcases analyzeStrandedCapacity_cases formatDouble request hledgers with
    ⟨hnone, herror⟩ | ⟨hsome, hfits, herror⟩ | ⟨hsome, report, hreport, hcovers⟩
  · exact .inl ⟨hnone, herror⟩
  · refine .inr (.inl ⟨hsome, ?_, herror⟩)
    unfold NominalFits at hfits
    omega
  · have hfits := hcovers.fits
    unfold NominalFits at hfits
    refine .inr (.inr ⟨hsome, by omega, report, hreport, ?_⟩)
    have hof := fun selected : ClusterRecord × CapacityPool =>
      findingOf_poolFinding formatDouble snapshot request (requestSubject snapshot request)
        selected.1 selected.2
    exact {
      findings := hcovers.perm
      about := fun selected _ =>
        ⟨(hof selected).cluster_eq, (hof selected).pool_eq, (hof selected).ledger_eq⟩
      splits := by
        intro finding hfinding
        obtain ⟨selected, -, rfl⟩ := List.mem_map.mp (hcovers.perm.mem_iff.mp hfinding)
        have hsplit := (hof selected).partitions.sum_eq
        rw [← (hof selected).ledger_eq] at hsplit
        exact hsplit
      sums := fun field => (hcovers.sums.exact field).trans (fieldSum_perm field hcovers.perm.symm)
      closes := hcovers.closes
      primary := fun selected _ hdecided heligible =>
        selected_primary hdecided heligible
      order := fun pools requirements hpools hrequirements =>
        exists_reordered formatDouble snapshot request hledgers hsome hcovers hpools hrequirements }

end Partition

/-- A cluster with one pool of eight idle accelerators. -/
def onePoolCluster : ClusterRecord :=
  { id := ⟨.ofString "c1"⟩
    currentness := .current
    acceleratorClasses := [⟨.ofString "a1"⟩]
    capacityPools :=
      [{ poolId := ⟨.ofString "p1"⟩
         acceleratorClass := ⟨.ofString "a1"⟩
         ledger := { nominal := 8, idle := 8 } }] }

/-- A snapshot of that cluster alone. -/
def onePoolSnapshot : FederationSnapshot :=
  { buildSnapshot {} {} with
    records := fun k =>
      match k with
      | .cluster => [onePoolCluster]
      | _ => [] }

theorem stranded_partition_onePool :
    LedgersClose onePoolSnapshot ∧ ¬ NoWorkload onePoolSnapshot {} ∧
      selectedNominal onePoolSnapshot {} < 2 ^ 64 ∧
      ∃ report, analyzeStrandedCapacity (fun _ => []) onePoolSnapshot {} = .ok report ∧
        report.PartitionsIdle (fun _ => []) onePoolSnapshot {} := by
  have hledgers : LedgersClose onePoolSnapshot := by
    intro cluster hcluster pool hpool
    rw [List.mem_singleton.mp hcluster] at hpool
    rw [List.mem_singleton.mp hpool]
    rfl
  have hnominal : selectedNominal onePoolSnapshot {} = 8 := by decide
  rcases stranded_partition (fun _ => []) onePoolSnapshot {} hledgers with
    ⟨hnone, -⟩ | ⟨-, hoverflow, -⟩ | hreport
  · cases hnone.1
  · omega
  · exact ⟨hledgers, hreport⟩

end FederationObservatory
