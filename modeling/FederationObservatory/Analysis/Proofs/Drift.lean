import FederationObservatory.Analysis.Drift
import FederationObservatory.Analysis.Proofs.Rows
import FederationObservatory.Misc.Arrivals

/-!
# What a drift report says

Between two windows, the target, the compatibility and the fallback of a placement share one
finding, so that only the last of their changes is reported; rejection reasons have findings of
their own. Against an intended state, the members that are missing, stale or not listed are
reported, except for the sites that are not listed.
-/

namespace FederationObservatory

open Sorting

/-- A finding of this kind about this subject. -/
def DriftReport.Reports (report : DriftReport) (kind : DriftKind) (subject : Text) : Prop :=
  ∃ finding ∈ report.findings, finding.kind = kind ∧ finding.subject = subject

/-! ## The latest placements -/

/-- The placements of a workload in a window, in the order of the snapshot. -/
def windowHistory (federation : FederationId) (window : TimeWindow) (workload : WorkloadId)
    (placements : List PlacementRecord) : List PlacementRecord :=
  placements.filter fun placement =>
    (federation.empty || placement.federation == federation) &&
      (placement.workload == workload && window.contains placement.stamp.observedAt)

/-- The placement is the first of those that were observed last. -/
def IsLatest (history : List PlacementRecord) (placement : PlacementRecord) : Prop :=
  ∃ before after, history = before ++ placement :: after ∧
    (∀ other ∈ before, other.stamp.observedAt < placement.stamp.observedAt) ∧
    ∀ other ∈ after, other.stamp.observedAt ≤ placement.stamp.observedAt

/-- When a placement was observed, as a number. -/
def PlacementRecord.observedAt (placement : PlacementRecord) : Int :=
  placement.stamp.observedAt.toInt

section Latest

variable {window : TimeWindow} {workload : WorkloadId}

theorem getElem?_add (kept : WindowPlacements) (placement : PlacementRecord) :
    (kept.add window placement)[workload]? =
      if placement.workload = workload ∧ window.contains placement.stamp.observedAt = true then
        Arrivals.keep PlacementRecord.observedAt PlacementRecord.observedAt kept[workload]? placement
      else kept[workload]? := by
  unfold WindowPlacements.add
  by_cases hwindow : window.contains placement.stamp.observedAt = true
  · rw [if_pos hwindow]
    by_cases hworkload : placement.workload = workload
    · subst hworkload
      rw [if_pos ⟨rfl, hwindow⟩]
      rcases Option.eq_none_or_eq_some kept[placement.workload]? with hkept | ⟨latest, hkept⟩
      · simp [hkept]
      · have hlater : latest.stamp.observedAt < placement.stamp.observedAt ↔
            latest.observedAt < placement.observedAt := Int64.lt_iff_toInt_lt
        simp only [hkept, Arrivals.keep_some, hlater]
        split
        · rw [Std.TreeMap.getElem?_insert_self]
        · rw [hkept]
    · rw [if_neg fun h => hworkload h.1]
      have hother : (kept.insert placement.workload placement)[workload]? = kept[workload]? := by
        rw [Std.TreeMap.getElem?_insert, if_neg]
        simpa only [Std.LawfulEqOrd.compare_eq_iff_eq] using hworkload
      split
      · exact hother
      · split
        · exact hother
        · rfl
  · rw [if_neg hwindow, if_neg fun h => hwindow h.2]

/-- The table keeps for each workload what its own placements in the window leave. -/
theorem getElem?_latestPlacements (federation : FederationId) (placements : List PlacementRecord) :
    (latestPlacements federation window placements)[workload]? =
      (windowHistory federation window workload placements).foldl
        (Arrivals.keep PlacementRecord.observedAt PlacementRecord.observedAt) none := by
  have hstep : ∀ kept : WindowPlacements,
      ((placements.filter fun placement =>
        federation.empty || placement.federation == federation).foldl
          (WindowPlacements.add window) kept)[workload]? =
        (windowHistory federation window workload placements).foldl
          (Arrivals.keep PlacementRecord.observedAt PlacementRecord.observedAt)
            kept[workload]? := by
    induction placements with
    | nil => exact fun kept => rfl
    | cons placement placements ih =>
      intro kept
      unfold windowHistory
      rw [List.filter_cons, List.filter_cons]
      by_cases hscope : (federation.empty || placement.federation == federation) = true
      · rw [if_pos hscope, List.foldl_cons, ih, getElem?_add, hscope, Bool.true_and]
        by_cases hplaced : placement.workload = workload ∧
            window.contains placement.stamp.observedAt = true
        · rw [if_pos hplaced, if_pos (by simp [hplaced]), List.foldl_cons]
          rfl
        · rw [if_neg hplaced, if_neg (by simpa using hplaced)]
          rfl
      · rw [if_neg hscope, if_neg (by simp [hscope]), ih]
        rfl
  exact hstep {}

theorem getElem?_latestPlacements_iff {federation : FederationId}
    {placements : List PlacementRecord} {placement : PlacementRecord} :
    (latestPlacements federation window placements)[workload]? = some placement ↔
      IsLatest (windowHistory federation window workload placements) placement := by
  rw [getElem?_latestPlacements]
  simp only [IsLatest, Int64.lt_iff_toInt_lt, Int64.le_iff_toInt_le]
  exact Arrivals.kept_latest_iff

end Latest

/-! ## Findings about placements -/

section Reasons

/-- The reasons of all candidates of a placement. -/
def PlacementRecord.reasons (placement : PlacementRecord) : List RejectionReason :=
  placement.candidates.flatMap CandidateObservation.reasonList

theorem RejectionReason.toText_injective : Function.Injective RejectionReason.toText := by
  have hnodup : ((WireEnum.enumerators : List RejectionReason).map RejectionReason.toText).Nodup := by
    decide +kernel
  intro a b h
  exact List.inj_on_of_nodup_map hnodup (List.mem_of_getElem? (WireEnum.getElem?_code a))
    (List.mem_of_getElem? (WireEnum.getElem?_code b)) h

theorem count_sortedReasons (placement : PlacementRecord) (reason : RejectionReason) :
    placement.sortedReasons.count reason.toText = placement.reasons.count reason := by
  unfold PlacementRecord.sortedReasons PlacementRecord.reasons
  rw [(perm_stableSort _ _).count_eq,
    List.count_map_of_injective _ _ RejectionReason.toText_injective]

theorem exists_of_mem_sortedReasons {placement : PlacementRecord} {text : Text}
    (h : text ∈ placement.sortedReasons) : ∃ reason : RejectionReason, reason.toText = text := by
  obtain ⟨reason, -, htext⟩ := List.mem_map.mp ((perm_stableSort _ _).mem_iff.mp h)
  exact ⟨reason, htext⟩

theorem pairwise_sortedReasons (placement : PlacementRecord) :
    placement.sortedReasons.Pairwise fun a b => less b a = false :=
  weak_less.pairwise _

/-- Some reason is more frequent in one placement than in another. -/
theorem setDifference_sortedReasons (a b : PlacementRecord) :
    setDifference less a.sortedReasons b.sortedReasons ≠ [] ↔
      ∃ reason, b.reasons.count reason < a.reasons.count reason := by
  rw [ne_eq, setDifference_eq_nil_iff linear_less (pairwise_sortedReasons a)
    (pairwise_sortedReasons b), not_forall]
  constructor
  · rintro ⟨text, htext⟩
    rw [not_le] at htext
    obtain ⟨reason, rfl⟩ := exists_of_mem_sortedReasons
      (List.count_pos_iff.mp (Nat.zero_lt_of_lt htext))
    rw [count_sortedReasons, count_sortedReasons] at htext
    exact ⟨reason, htext⟩
  · rintro ⟨reason, hreason⟩
    refine ⟨reason.toText, not_le.mpr ?_⟩
    rwa [count_sortedReasons, count_sortedReasons]

end Reasons

section Behavior

variable (workload : WorkloadId) (old new : PlacementRecord)

/-- What is new in the second placement, kind by kind. -/
def BehaviorChange (old new : PlacementRecord) : DriftKind → Prop
  | .placementTargetChanged => old.selected ≠ new.selected
  | .placementCompatibilityChanged =>
    old.compatibilityConstrained ≠ new.compatibilityConstrained
  | .placementFallbackIntroduced => old.fallbackRequired = false ∧ new.fallbackRequired = true
  | .placementRejectionIntroduced =>
    ∃ reason, old.reasons.count reason < new.reasons.count reason
  | .placementRejectionCleared => ∃ reason, new.reasons.count reason < old.reasons.count reason
  | _ => False

/-- At most one of the changes happened that share a finding. -/
structure ChangesOnce : Prop where
  target_compatibility : ¬(BehaviorChange old new .placementTargetChanged ∧
    BehaviorChange old new .placementCompatibilityChanged)
  target_fallback : ¬(BehaviorChange old new .placementTargetChanged ∧
    BehaviorChange old new .placementFallbackIntroduced)
  compatibility_fallback : ¬(BehaviorChange old new .placementCompatibilityChanged ∧
    BehaviorChange old new .placementFallbackIntroduced)

/-- The kind that is written last. -/
def lastChange : DriftKind :=
  if !old.fallbackRequired && new.fallbackRequired then .placementFallbackIntroduced
  else if old.compatibilityConstrained ≠ new.compatibilityConstrained then
    .placementCompatibilityChanged
  else .placementTargetChanged

theorem mem_placementFindings {finding : DriftFinding}
    (h : finding ∈ placementFindings workload old new) :
    placementChanged old new = true ∧ finding.kind = lastChange old new ∧
      finding.subject = workload.value := by
  unfold placementFindings at h
  dsimp only at h
  split at h
  · next hchanged =>
    obtain rfl := List.mem_singleton.mp h
    refine ⟨hchanged, ?_, ?_⟩
    · unfold DriftFinding.withFallback DriftFinding.withCompatibility DriftFinding.withTarget
        lastChange
      unfold placementChanged at hchanged
      split_ifs <;> simp_all
    · unfold DriftFinding.withFallback DriftFinding.withCompatibility DriftFinding.withTarget
      split_ifs <;> rfl
  · cases h

theorem exists_placementFinding (h : placementChanged old new = true) :
    ∃ finding, finding ∈ placementFindings workload old new := by
  unfold placementFindings
  dsimp only
  rw [if_pos h]
  exact ⟨_, List.mem_singleton_self _⟩

theorem placementChanged_iff :
    placementChanged old new = true ↔ BehaviorChange old new .placementTargetChanged ∨
      BehaviorChange old new .placementCompatibilityChanged ∨
        BehaviorChange old new .placementFallbackIntroduced := by
  simp only [placementChanged, Bool.or_eq_true, bne_iff_ne, Bool.and_eq_true, Bool.not_eq_true',
    BehaviorChange, or_assoc]

theorem lastChange_eq_fallback_iff :
    lastChange old new = .placementFallbackIntroduced ↔
      BehaviorChange old new .placementFallbackIntroduced := by
  unfold lastChange
  simp only [BehaviorChange]
  split_ifs <;> simp_all

theorem lastChange_eq_compatibility_iff :
    lastChange old new = .placementCompatibilityChanged ↔
      ¬BehaviorChange old new .placementFallbackIntroduced ∧
        BehaviorChange old new .placementCompatibilityChanged := by
  unfold lastChange
  simp only [BehaviorChange]
  split_ifs <;> simp_all

theorem lastChange_eq_target_iff :
    lastChange old new = .placementTargetChanged ↔
      ¬BehaviorChange old new .placementFallbackIntroduced ∧
        ¬BehaviorChange old new .placementCompatibilityChanged := by
  unfold lastChange
  simp only [BehaviorChange]
  split_ifs <;> simp_all

theorem mem_rejectionDriftFindings {finding : DriftFinding}
    (h : finding ∈ rejectionDriftFindings workload old new) :
    (finding.kind = .placementRejectionIntroduced ∨ finding.kind = .placementRejectionCleared) ∧
      BehaviorChange old new finding.kind ∧ finding.subject = workload.value := by
  unfold rejectionDriftFindings at h
  dsimp only at h
  split at h
  · cases h
  · rcases List.mem_append.mp h with h | h
    · split at h
      · cases h
      · next hnonempty =>
        obtain rfl := List.mem_singleton.mp h
        refine ⟨.inl rfl, ?_, rfl⟩
        exact (setDifference_sortedReasons new old).mp fun hnil => hnonempty (by rw [hnil]; rfl)
    · split at h
      · cases h
      · next hnonempty =>
        obtain rfl := List.mem_singleton.mp h
        refine ⟨.inr rfl, ?_, rfl⟩
        exact (setDifference_sortedReasons old new).mp fun hnil => hnonempty (by rw [hnil]; rfl)

theorem exists_rejectionDriftFinding {kind : DriftKind}
    (hkind : kind = .placementRejectionIntroduced ∨ kind = .placementRejectionCleared)
    (h : BehaviorChange old new kind) :
    ∃ finding ∈ rejectionDriftFindings workload old new, finding.kind = kind := by
  have hdifferent : old.sortedReasons ≠ new.sortedReasons := by
    intro heq
    have hcount : ∀ reason, old.reasons.count reason = new.reasons.count reason := by
      intro reason
      rw [← count_sortedReasons, heq, count_sortedReasons]
    rcases hkind with rfl | rfl
    · obtain ⟨reason, hlt⟩ := h
      exact absurd (hcount reason) hlt.ne
    · obtain ⟨reason, hlt⟩ := h
      exact absurd (hcount reason) hlt.ne'
  unfold rejectionDriftFindings
  dsimp only
  rw [if_neg hdifferent]
  rcases hkind with rfl | rfl
  · have hnonempty := (setDifference_sortedReasons new old).mpr h
    rw [if_neg (by simpa using hnonempty)]
    exact ⟨_, List.mem_append_left _ (List.mem_singleton_self _), rfl⟩
  · have hnonempty := (setDifference_sortedReasons old new).mpr h
    rw [if_neg (c := (setDifference less old.sortedReasons new.sortedReasons).isEmpty = true)
      (by simpa using hnonempty)]
    exact ⟨_, List.mem_append_right _ (List.mem_singleton_self _), rfl⟩

theorem isBehavioral_lastChange : (lastChange old new).isBehavioral = true := by
  unfold lastChange
  split_ifs <;> rfl

theorem mem_behaviorFindings {finding : DriftFinding}
    (h : finding ∈ behaviorFindings workload old new) :
    finding.kind.isBehavioral = true ∧ finding.subject = workload.value := by
  rcases List.mem_append.mp h with h | h
  · obtain ⟨hkind, -, hsubject⟩ := mem_rejectionDriftFindings workload old new h
    refine ⟨?_, hsubject⟩
    rcases hkind with hkind | hkind <;> rw [hkind] <;> rfl
  · obtain ⟨-, hkind, hsubject⟩ := mem_placementFindings workload old new h
    exact ⟨by rw [hkind, isBehavioral_lastChange], hsubject⟩

/-- A finding of the first three kinds is the one about the placement itself. -/
theorem exists_behaviorFinding_iff {kind : DriftKind} (hkind : kind.isBehavioral = true) :
    (∃ finding ∈ behaviorFindings workload old new, finding.kind = kind) ↔
      if kind = .placementRejectionIntroduced ∨ kind = .placementRejectionCleared then
        BehaviorChange old new kind
      else placementChanged old new = true ∧ lastChange old new = kind := by
  have hlast : ∀ k : DriftKind, k = .placementRejectionIntroduced ∨
      k = .placementRejectionCleared → lastChange old new ≠ k := by
    intro k hk
    unfold lastChange
    rcases hk with rfl | rfl <;> split_ifs <;> nofun
  split
  · next hrejection =>
    constructor
    · rintro ⟨finding, hmem, rfl⟩
      rcases List.mem_append.mp hmem with hmem | hmem
      · exact (mem_rejectionDriftFindings workload old new hmem).2.1
      · obtain ⟨-, hfinding, -⟩ := mem_placementFindings workload old new hmem
        exact absurd hfinding.symm (hlast _ hrejection)
    · intro h
      obtain ⟨finding, hmem, hfinding⟩ := exists_rejectionDriftFinding workload old new hrejection h
      exact ⟨finding, List.mem_append_left _ hmem, hfinding⟩
  · next hrejection =>
    constructor
    · rintro ⟨finding, hmem, rfl⟩
      rcases List.mem_append.mp hmem with hmem | hmem
      · exact absurd (mem_rejectionDriftFindings workload old new hmem).1 hrejection
      · obtain ⟨hchanged, hfinding, -⟩ := mem_placementFindings workload old new hmem
        exact ⟨hchanged, hfinding.symm⟩
    · rintro ⟨hchanged, rfl⟩
      obtain ⟨finding, hmem⟩ := exists_placementFinding workload old new hchanged
      exact ⟨finding, List.mem_append_right _ hmem,
        (mem_placementFindings workload old new hmem).2.1⟩

end Behavior

/-! ## Findings of a report -/

section Report

variable {formatDouble : Double → Text} {snapshot : FederationSnapshot} {request : DriftRequest}
  {report : DriftReport}

theorem analyzeDrift_eq_ok (h : analyzeDrift formatDouble snapshot request = .ok report) :
    report = driftReport formatDouble snapshot request ∧
      ∀ intended, request.intended = some intended → intended.validate = .ok () := by
  unfold analyzeDrift at h
  rcases Option.eq_none_or_eq_some request.intended with hintended | ⟨intended, hintended⟩
  · rw [hintended] at h
    exact ⟨(Except.ok.inj h).symm, fun other hother => by rw [hintended] at hother; cases hother⟩
  · rw [hintended] at h
    obtain ⟨⟨⟩, hvalid, hreport⟩ := bind_eq_ok.mp h
    refine ⟨(Except.ok.inj hreport).symm, ?_⟩
    intro other hother
    rw [hintended, Option.some.injEq] at hother
    rwa [← hother]

theorem reports_driftReport {kind : DriftKind} {subject : Text} :
    (driftReport formatDouble snapshot request).Reports kind subject ↔
      ∃ finding ∈ driftFindings formatDouble snapshot request,
        finding.kind = kind ∧ finding.subject = subject :=
  exists_congr fun _ => and_congr_left fun _ => (perm_stableSort _ _).mem_iff

theorem mem_windowFindings {before after : WindowPlacements} {finding : DriftFinding} :
    finding ∈ windowFindings before after ↔
      ∃ (workload : WorkloadId) (old new : PlacementRecord), before[workload]? = some old ∧
        after[workload]? = some new ∧ finding ∈ behaviorFindings workload old new := by
  unfold windowFindings
  rw [List.mem_flatMap]
  constructor
  · rintro ⟨⟨workload, new⟩, hmem, hfinding⟩
    rw [Std.TreeMap.mem_toList_iff_getElem?_eq_some] at hmem
    rcases Option.eq_none_or_eq_some before[workload]? with hold | ⟨old, hold⟩
    · simp only [hold, List.not_mem_nil] at hfinding
    · simp only [hold] at hfinding
      exact ⟨workload, old, new, hold, hmem, hfinding⟩
  · rintro ⟨workload, old, new, hold, hnew, hfinding⟩
    refine ⟨(workload, new), Std.TreeMap.mem_toList_iff_getElem?_eq_some.mpr hnew, ?_⟩
    simp only [hold]
    exact hfinding

/-! ### Kinds of the findings against the intended state -/

section Intended

variable {intended : IntendedFederationState} {finding : DriftFinding}

theorem expectedClusterFinding_eq_some {expected : ClusterId}
    (h : expectedClusterFinding intended snapshot expected = some finding) :
    finding.subject = expected.value ∧
      (finding.kind = .clusterMissing ∧ snapshot.find .cluster expected = none ∨
        finding.kind = .staleCluster ∧ ∃ cluster, snapshot.find .cluster expected = some cluster ∧
          cluster.currentness ≠ .current) := by
  unfold expectedClusterFinding at h
  rcases Option.eq_none_or_eq_some (snapshot.find .cluster expected) with hfind | ⟨cluster, hfind⟩
  · rw [hfind] at h
    obtain rfl := Option.some.inj h
    exact ⟨rfl, .inl ⟨rfl, hfind⟩⟩
  · rw [hfind] at h
    dsimp only at h
    split at h
    · cases h
    · next hcurrent =>
      obtain rfl := Option.some.inj h
      exact ⟨rfl, .inr ⟨rfl, cluster, hfind, hcurrent⟩⟩

theorem expectedSiteFinding_eq_some {expected : SiteId}
    (h : expectedSiteFinding intended snapshot expected = some finding) :
    finding.subject = expected.value ∧ finding.kind = .siteMissing ∧
      snapshot.find .site expected = none := by
  unfold expectedSiteFinding at h
  split at h
  · cases h
  · next hfind =>
    obtain rfl := Option.some.inj h
    exact ⟨rfl, rfl, by simpa using hfind⟩

theorem observedClusterFinding_eq_some {cluster : ClusterRecord}
    (h : observedClusterFinding intended cluster = some finding) :
    finding.subject = cluster.id.value ∧ finding.kind = .unexpectedCluster ∧
      cluster.id ∉ intended.expectedClusters := by
  unfold observedClusterFinding at h
  split at h
  · next hunexpected =>
    obtain rfl := Option.some.inj h
    exact ⟨rfl, rfl, hunexpected.1⟩
  · cases h

theorem kind_of_policyGenerationFindings {federation : FederationId}
    (h : finding ∈ policyGenerationFindings intended snapshot federation) :
    finding.kind = .policyGenerationMismatch := by
  unfold policyGenerationFindings at h
  split at h
  · dsimp only at h
    split at h
    · cases h
    · obtain rfl := List.mem_singleton.mp h
      rfl
  · cases h

theorem kind_of_expectedCapabilityFinding {expected : ExpectedCapability}
    (h : expectedCapabilityFinding formatDouble snapshot expected = some finding) :
    finding.kind = .capabilityMismatch := by
  obtain ⟨cluster, -, h⟩ := Option.bind_eq_some_iff.mp h
  dsimp only at h
  split at h
  · cases h
  · obtain rfl := Option.some.inj h
    rfl

theorem kind_of_expectedRuntimeFinding {expected : ClusterId × Text}
    (h : expectedRuntimeFinding snapshot expected = some finding) :
    finding.kind = .runtimeVersionDivergence := by
  obtain ⟨cluster, -, h⟩ := Option.bind_eq_some_iff.mp h
  rcases Option.eq_none_or_eq_some (primaryRuntime snapshot cluster) with hruntime | ⟨r, hruntime⟩
  · rw [hruntime] at h
    obtain rfl := Option.some.inj h
    rfl
  · rw [hruntime] at h
    dsimp only at h
    split at h
    · cases h
    · obtain rfl := Option.some.inj h
      rfl

theorem kind_of_expectedCapacityFinding {expected : ClusterId × CapacityLedger}
    (h : expectedCapacityFinding snapshot expected = some finding) :
    finding.kind = .capacityReportDivergence := by
  obtain ⟨cluster, -, h⟩ := Option.bind_eq_some_iff.mp h
  generalize cluster.totalLedger .accelerator = total at h
  cases total with
  | error e => cases h
  | ok observed =>
    dsimp only at h
    split at h
    · cases h
    · obtain rfl := Option.some.inj h
      rfl

/-- A finding is about an expected cluster, an expected site or an observed cluster, or it is of
    another kind. -/
theorem mem_intendedFindings {federation : FederationId}
    (h : finding ∈ intendedFindings formatDouble intended snapshot federation) :
    (∃ expected ∈ intended.expectedClusters,
        expectedClusterFinding intended snapshot expected = some finding) ∨
      (∃ expected ∈ intended.expectedSites,
        expectedSiteFinding intended snapshot expected = some finding) ∨
      (∃ cluster ∈ snapshot.records .cluster,
        observedClusterFinding intended cluster = some finding) ∨
      finding.kind ∈ [.policyGenerationMismatch, .capabilityMismatch, .runtimeVersionDivergence,
        .capacityReportDivergence] := by
  simp only [intendedFindings, List.mem_append, List.mem_filterMap, or_assoc] at h
  rcases h with h | h | h | h | ⟨expected, -, h⟩ | ⟨expected, -, h⟩ | ⟨expected, -, h⟩
  · exact .inl h
  · rw [kind_of_policyGenerationFindings h]
    exact .inr (.inr (.inr (by decide)))
  · exact .inr (.inl h)
  · exact .inr (.inr (.inl h))
  · rw [kind_of_expectedCapabilityFinding h]
    exact .inr (.inr (.inr (by decide)))
  · rw [kind_of_expectedRuntimeFinding h]
    exact .inr (.inr (.inr (by decide)))
  · rw [kind_of_expectedCapacityFinding h]
    exact .inr (.inr (.inr (by decide)))

theorem isBehavioral_of_mem_intendedFindings {federation : FederationId}
    (h : finding ∈ intendedFindings formatDouble intended snapshot federation) :
    finding.kind.isBehavioral = false := by
  rcases mem_intendedFindings h with ⟨_, -, h⟩ | ⟨_, -, h⟩ | ⟨_, -, h⟩ | h
  · rcases (expectedClusterFinding_eq_some h).2 with ⟨hkind, -⟩ | ⟨hkind, -⟩ <;> rw [hkind] <;> rfl
  · rw [(expectedSiteFinding_eq_some h).2.1]
    rfl
  · rw [(observedClusterFinding_eq_some h).2.1]
    rfl
  · simp only [List.mem_cons, List.not_mem_nil, or_false] at h
    rcases h with h | h | h | h <;> rw [h] <;> rfl

end Intended

/-! ## Two windows -/

/-- The report on a workload that was placed in both windows says what changed. -/
structure DriftReport.ReportsChanges (report : DriftReport) (workload : WorkloadId)
    (old new : PlacementRecord) : Prop where
  target : report.Reports .placementTargetChanged workload.value ↔ old.selected ≠ new.selected
  compatibility : report.Reports .placementCompatibilityChanged workload.value ↔
    old.compatibilityConstrained ≠ new.compatibilityConstrained
  fallback : report.Reports .placementFallbackIntroduced workload.value ↔
    old.fallbackRequired = false ∧ new.fallbackRequired = true
  introduced : report.Reports .placementRejectionIntroduced workload.value ↔
    ∃ reason, old.reasons.count reason < new.reasons.count reason
  cleared : report.Reports .placementRejectionCleared workload.value ↔
    ∃ reason, new.reasons.count reason < old.reasons.count reason

/-- The findings of a behavioural kind about a workload are those of its latest placements. -/
theorem reports_behavior {workload : WorkloadId} {old new : PlacementRecord}
    (hsupplied : request.behaviorWindowSupplied = true)
    (hold : IsLatest (windowHistory (request.scope snapshot) request.beforeWindow workload
      (snapshot.records .placement)) old)
    (hnew : IsLatest (windowHistory (request.scope snapshot) request.afterWindow workload
      (snapshot.records .placement)) new)
    {kind : DriftKind} (hkind : kind.isBehavioral = true) :
    (driftReport formatDouble snapshot request).Reports kind workload.value ↔
      ∃ finding ∈ behaviorFindings workload old new, finding.kind = kind := by
  rw [← getElem?_latestPlacements_iff] at hold hnew
  rw [reports_driftReport]
  unfold driftFindings
  rw [hsupplied]
  constructor
  · rintro ⟨finding, hmem, rfl, hsubject⟩
    rcases List.mem_append.mp hmem with hmem | hmem
    · rcases Option.eq_none_or_eq_some request.intended with hintended | ⟨intended, hintended⟩
      · rw [hintended] at hmem
        cases hmem
      · rw [hintended] at hmem
        rw [isBehavioral_of_mem_intendedFindings hmem] at hkind
        cases hkind
    · obtain ⟨workload', old', new', hold', hnew', hfinding⟩ := mem_windowFindings.mp hmem
      have hworkload : workload' = workload := StrongId.ext
        ((mem_behaviorFindings workload' old' new' hfinding).2.symm.trans hsubject)
      subst hworkload
      obtain rfl := Option.some.inj (hold.symm.trans hold')
      obtain rfl := Option.some.inj (hnew.symm.trans hnew')
      exact ⟨finding, hfinding, rfl⟩
  · rintro ⟨finding, hfinding, rfl⟩
    exact ⟨finding,
      List.mem_append_right _ (mem_windowFindings.mpr ⟨workload, old, new, hold, hnew, hfinding⟩),
      rfl, (mem_behaviorFindings workload old new hfinding).2⟩

/-- The report on a workload that was placed in both windows says what changed exactly when at most
    one of the changes happened that share a finding. -/
theorem behavior_drift_iff {workload : WorkloadId} {old new : PlacementRecord}
    (hreport : analyzeDrift formatDouble snapshot request = .ok report)
    (hsupplied : request.behaviorWindowSupplied = true)
    (hold : IsLatest (windowHistory (request.scope snapshot) request.beforeWindow workload
      (snapshot.records .placement)) old)
    (hnew : IsLatest (windowHistory (request.scope snapshot) request.afterWindow workload
      (snapshot.records .placement)) new) :
    report.ReportsChanges workload old new ↔ ChangesOnce old new := by
  obtain ⟨rfl, -⟩ := analyzeDrift_eq_ok hreport
  have hreports : ∀ kind : DriftKind, kind.isBehavioral = true →
      ((driftReport formatDouble snapshot request).Reports kind workload.value ↔
        if kind = .placementRejectionIntroduced ∨ kind = .placementRejectionCleared then
          BehaviorChange old new kind
        else placementChanged old new = true ∧ lastChange old new = kind) := fun kind hkind =>
    (reports_behavior hsupplied hold hnew hkind).trans
      (exists_behaviorFinding_iff workload old new hkind)
  have htarget := hreports .placementTargetChanged rfl
  have hcompatibility := hreports .placementCompatibilityChanged rfl
  have hfallback := hreports .placementFallbackIntroduced rfl
  have hintroduced := hreports .placementRejectionIntroduced rfl
  have hcleared := hreports .placementRejectionCleared rfl
  rw [if_neg (by decide), placementChanged_iff, lastChange_eq_target_iff] at htarget
  rw [if_neg (by decide), placementChanged_iff, lastChange_eq_compatibility_iff] at hcompatibility
  rw [if_neg (by decide), placementChanged_iff, lastChange_eq_fallback_iff] at hfallback
  rw [if_pos (by decide)] at hintroduced hcleared
  constructor
  · intro h
    have htarget' := htarget.symm.trans h.target
    have hcompatibility' := hcompatibility.symm.trans h.compatibility
    constructor
    · rintro ⟨ht, hc⟩
      exact (htarget'.mpr ht).2.2 hc
    · rintro ⟨ht, hf⟩
      exact (htarget'.mpr ht).2.1 hf
    · rintro ⟨hc, hf⟩
      exact (hcompatibility'.mpr hc).2.1 hf
  · intro h
    refine ⟨htarget.trans ?_, hcompatibility.trans ?_, hfallback.trans ?_, hintroduced, hcleared⟩
    · constructor
      · rintro ⟨ht | hc | hf, hf', hc'⟩
        · exact ht
        · exact absurd hc hc'
        · exact absurd hf hf'
      · intro ht
        exact ⟨.inl ht, fun hf => h.target_fallback ⟨ht, hf⟩,
          fun hc => h.target_compatibility ⟨ht, hc⟩⟩
    · constructor
      · rintro ⟨-, -, hc⟩
        exact hc
      · intro hc
        exact ⟨.inr (.inl hc), fun hf => h.compatibility_fallback ⟨hc, hf⟩, hc⟩
    · constructor
      · rintro ⟨-, hf⟩
        exact hf
      · intro hf
        exact ⟨.inr (.inr hf), hf⟩

end Report

namespace Deployment

/-- A placement of the workload that was observed at a time. -/
def observedPlacement (id : String) (observed : TimestampNanos) (selected : String) (c : Tri) :
    PlacementRecord where
  id := ⟨.ofString id⟩
  generation := ⟨1⟩
  workload := ⟨.ofString "workload"⟩
  workloadGeneration := ⟨1⟩
  federation := ⟨.ofString "federation"⟩
  selected := ⟨.ofString selected⟩
  compatibilityConstrained := c
  stamp := { observedAt := observed }

/-- A snapshot with these placements, and with the sites of another state. -/
def placementSnapshot (placements : List PlacementRecord) : FederationSnapshot :=
  { buildSnapshot (Impl.new {}) {} with
    records := fun k => match k with
      | .placement => placements
      | _ => [] }

/-- The first and the second unit of time. -/
def twoWindows : DriftRequest where
  federation := ⟨.ofString "federation"⟩
  behaviorWindowSupplied := true
  beforeWindow := ⟨1, 2⟩
  afterWindow := ⟨2, 3⟩

end Deployment

/-- The only placement of the first window, and that of the second one. -/
theorem Deployment.isLatest_twoWindows (old new : PlacementRecord)
    (hold : windowHistory ⟨.ofString "federation"⟩ ⟨1, 2⟩ ⟨.ofString "workload"⟩ [old, new] = [old])
    (hnew : windowHistory ⟨.ofString "federation"⟩ ⟨2, 3⟩ ⟨.ofString "workload"⟩ [old, new] =
      [new]) :
    IsLatest (windowHistory (Deployment.twoWindows.scope (Deployment.placementSnapshot [old, new]))
        Deployment.twoWindows.beforeWindow ⟨.ofString "workload"⟩
        ((Deployment.placementSnapshot [old, new]).records .placement)) old ∧
      IsLatest (windowHistory
        (Deployment.twoWindows.scope (Deployment.placementSnapshot [old, new]))
        Deployment.twoWindows.afterWindow ⟨.ofString "workload"⟩
        ((Deployment.placementSnapshot [old, new]).records .placement)) new := by
  have hscope : Deployment.twoWindows.scope (Deployment.placementSnapshot [old, new]) =
      ⟨.ofString "federation"⟩ := if_neg (by decide)
  rw [hscope]
  refine ⟨⟨[], [], hold, ?_, ?_⟩, ⟨[], [], hnew, ?_, ?_⟩⟩ <;> intro other hother <;> cases hother

theorem behavior_drift_deployment :
    (driftReport (fun _ => [])
      (Deployment.placementSnapshot
        [Deployment.observedPlacement "placement-1" 1 "first" .no,
          Deployment.observedPlacement "placement-2" 2 "second" .no])
      Deployment.twoWindows).ReportsChanges ⟨.ofString "workload"⟩
        (Deployment.observedPlacement "placement-1" 1 "first" .no)
        (Deployment.observedPlacement "placement-2" 2 "second" .no) := by
  obtain ⟨hold, hnew⟩ := Deployment.isLatest_twoWindows
    (Deployment.observedPlacement "placement-1" 1 "first" .no)
    (Deployment.observedPlacement "placement-2" 2 "second" .no)
    (by decide +kernel) (by decide +kernel)
  have hreport : analyzeDrift (fun _ => []) (Deployment.placementSnapshot
      [Deployment.observedPlacement "placement-1" 1 "first" .no,
        Deployment.observedPlacement "placement-2" 2 "second" .no]) Deployment.twoWindows =
      .ok (driftReport (fun _ => []) _ Deployment.twoWindows) := rfl
  refine (behavior_drift_iff hreport rfl hold hnew).mpr ?_
  constructor
  · rintro ⟨-, hcompatibility⟩
    exact hcompatibility rfl
  · rintro ⟨-, -, hfallback⟩
    cases hfallback
  · rintro ⟨-, -, hfallback⟩
    cases hfallback

/-- Another target under another constraint: the change of the target is not reported. -/
theorem target_change_overwritten :
    let old := Deployment.observedPlacement "placement-1" 1 "first" .no
    let new := Deployment.observedPlacement "placement-2" 2 "second" .yes
    let snapshot := Deployment.placementSnapshot [old, new]
    old.validate = .ok () ∧ new.validate = .ok () ∧
      IsLatest (windowHistory (Deployment.twoWindows.scope snapshot)
        Deployment.twoWindows.beforeWindow ⟨.ofString "workload"⟩ (snapshot.records .placement))
        old ∧
      IsLatest (windowHistory (Deployment.twoWindows.scope snapshot)
        Deployment.twoWindows.afterWindow ⟨.ofString "workload"⟩ (snapshot.records .placement))
        new ∧
      analyzeDrift (fun _ => []) snapshot Deployment.twoWindows =
        .ok (driftReport (fun _ => []) snapshot Deployment.twoWindows) ∧
      ¬(driftReport (fun _ => []) snapshot Deployment.twoWindows).ReportsChanges
        ⟨.ofString "workload"⟩ old new := by
  dsimp only
  obtain ⟨hold, hnew⟩ := Deployment.isLatest_twoWindows
    (Deployment.observedPlacement "placement-1" 1 "first" .no)
    (Deployment.observedPlacement "placement-2" 2 "second" .yes)
    (by decide +kernel) (by decide +kernel)
  refine ⟨by decide +kernel, by decide +kernel, hold, hnew, rfl, ?_⟩
  intro h
  have hsupplied : Deployment.twoWindows.behaviorWindowSupplied = true := rfl
  obtain ⟨finding, hfinding, hkind⟩ :=
    (reports_behavior hsupplied hold hnew rfl).mp (h.target.mpr (by decide))
  obtain ⟨-, hlast⟩ := (exists_behaviorFinding_iff _ _ _ rfl).mp ⟨finding, hfinding, hkind⟩
  exact absurd hlast (by decide)

end FederationObservatory
