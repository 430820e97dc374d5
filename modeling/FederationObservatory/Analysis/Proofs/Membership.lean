import FederationObservatory.Analysis.Proofs.Drift

/-!
# Membership drift

The clusters and sites of a snapshot against those an intended state lists. Four of the five
differences are reported; the sites that are not listed are not looked for.
-/

namespace FederationObservatory

open Sorting
open StoredRecord (key)

/-- The kinds of finding about a member of the federation. -/
def DriftKind.isMembership : DriftKind → Bool
  | .clusterMissing | .siteMissing | .unexpectedCluster | .unexpectedSite | .staleCluster => true
  | _ => false

/-- The report names exactly the members that differ from the intended state, each once. -/
structure DriftReport.ReportsMembership (report : DriftReport) (intended : IntendedFederationState)
    (snapshot : FederationSnapshot) : Prop where
  clusterMissing : ∀ id : ClusterId, report.Reports .clusterMissing id.value ↔
    id ∈ intended.expectedClusters ∧ ∀ cluster ∈ snapshot.records .cluster, cluster.id ≠ id
  siteMissing : ∀ id : SiteId, report.Reports .siteMissing id.value ↔
    id ∈ intended.expectedSites ∧ ∀ site ∈ snapshot.records .site, site.id ≠ id
  unexpectedCluster : ∀ id : ClusterId, report.Reports .unexpectedCluster id.value ↔
    (∃ cluster ∈ snapshot.records .cluster, cluster.id = id) ∧ id ∉ intended.expectedClusters
  unexpectedSite : ∀ id : SiteId, report.Reports .unexpectedSite id.value ↔
    (∃ site ∈ snapshot.records .site, site.id = id) ∧ id ∉ intended.expectedSites
  staleCluster : ∀ id : ClusterId, report.Reports .staleCluster id.value ↔
    id ∈ intended.expectedClusters ∧
      ∃ cluster ∈ snapshot.records .cluster, cluster.id = id ∧ cluster.currentness ≠ .current
  once : ∀ kind : DriftKind, kind.isMembership = true →
    ((report.findings.filter (·.kind = kind)).map DriftFinding.subject).Nodup

theorem isBehavioral_of_isMembership {kind : DriftKind} (h : kind.isMembership = true) :
    kind.isBehavioral = false := by
  cases kind <;> first | rfl | cases h

theorem FederationSnapshot.Ordered.find_eq_none {snapshot : FederationSnapshot}
    (h : snapshot.Ordered) {k : RecordKind} [DecidableEq k.Key] {id : k.Key} :
    snapshot.find k id = none ↔ ∀ record ∈ snapshot.records k, key record ≠ id := by
  rw [Option.eq_none_iff_forall_not_mem]
  constructor
  · intro hnone record hmem hkey
    exact hnone record (h.find_eq_some.mpr ⟨hmem, hkey⟩)
  · intro hnone record hfind
    obtain ⟨hmem, hkey⟩ := h.find_eq_some.mp hfind
    exact hnone record hmem hkey

/-! ## The findings about members -/

section Findings

variable {formatDouble : Double → Text} {snapshot : FederationSnapshot} {request : DriftRequest}
  {intended : IntendedFederationState}

theorem filter_kind_eq_nil {kind : DriftKind} {findings : List DriftFinding}
    (h : ∀ finding ∈ findings, finding.kind ≠ kind) : findings.filter (·.kind = kind) = [] :=
  List.filter_eq_nil_iff.mpr fun finding hmem => by simpa using h finding hmem

/-- The findings of a membership kind, in the order of the loops. -/
def membershipFindings (intended : IntendedFederationState) (snapshot : FederationSnapshot) :
    List DriftFinding :=
  intended.expectedClusters.filterMap (expectedClusterFinding intended snapshot) ++
    intended.expectedSites.filterMap (expectedSiteFinding intended snapshot) ++
    (snapshot.records .cluster).filterMap (observedClusterFinding intended)

theorem filter_intendedFindings {federation : FederationId} {kind : DriftKind}
    (hkind : kind.isMembership = true) :
    (intendedFindings formatDouble intended snapshot federation).filter (·.kind = kind) =
      (membershipFindings intended snapshot).filter (·.kind = kind) := by
  have hpolicy : (policyGenerationFindings intended snapshot federation).filter (·.kind = kind) =
      [] := by
    refine filter_kind_eq_nil fun finding hmem heq => ?_
    rw [← heq, kind_of_policyGenerationFindings hmem] at hkind
    cases hkind
  have hcapability : (intended.expectedCapabilities.filterMap
      (expectedCapabilityFinding formatDouble snapshot)).filter (·.kind = kind) = [] := by
    refine filter_kind_eq_nil fun finding hmem heq => ?_
    obtain ⟨expected, -, h⟩ := List.mem_filterMap.mp hmem
    rw [← heq, kind_of_expectedCapabilityFinding h] at hkind
    cases hkind
  have hruntime : (intended.expectedRuntimeVersions.filterMap
      (expectedRuntimeFinding snapshot)).filter (·.kind = kind) = [] := by
    refine filter_kind_eq_nil fun finding hmem heq => ?_
    obtain ⟨expected, -, h⟩ := List.mem_filterMap.mp hmem
    rw [← heq, kind_of_expectedRuntimeFinding h] at hkind
    cases hkind
  have hcapacity : (intended.expectedCapacity.filterMap
      (expectedCapacityFinding snapshot)).filter (·.kind = kind) = [] := by
    refine filter_kind_eq_nil fun finding hmem heq => ?_
    obtain ⟨expected, -, h⟩ := List.mem_filterMap.mp hmem
    rw [← heq, kind_of_expectedCapacityFinding h] at hkind
    cases hkind
  unfold intendedFindings membershipFindings
  simp only [List.filter_append, hpolicy, hcapability, hruntime, hcapacity, List.append_nil]

theorem filter_driftFindings (hintended : request.intended = some intended) {kind : DriftKind}
    (hkind : kind.isMembership = true) :
    (driftFindings formatDouble snapshot request).filter (·.kind = kind) =
      (membershipFindings intended snapshot).filter (·.kind = kind) := by
  have hwindow : ∀ before after : WindowPlacements,
      (windowFindings before after).filter (·.kind = kind) = [] := by
    intro before after
    refine filter_kind_eq_nil fun finding hmem heq => ?_
    obtain ⟨workload, old, new, -, -, hfinding⟩ := mem_windowFindings.mp hmem
    have hbehavioral := (mem_behaviorFindings workload old new hfinding).1
    rw [heq, isBehavioral_of_isMembership hkind] at hbehavioral
    cases hbehavioral
  unfold driftFindings
  dsimp only
  rw [hintended, List.filter_append]
  split
  · rw [hwindow, List.append_nil]
    exact filter_intendedFindings hkind
  · rw [List.filter_nil, List.append_nil]
    exact filter_intendedFindings hkind

theorem reports_membership (hintended : request.intended = some intended) {kind : DriftKind}
    (hkind : kind.isMembership = true) {subject : Text} :
    (driftReport formatDouble snapshot request).Reports kind subject ↔
      ∃ finding ∈ membershipFindings intended snapshot,
        finding.kind = kind ∧ finding.subject = subject := by
  have hmem : ∀ finding : DriftFinding, finding.kind = kind →
      (finding ∈ driftFindings formatDouble snapshot request ↔
        finding ∈ membershipFindings intended snapshot) := by
    intro finding heq
    have hfilter : finding ∈ (driftFindings formatDouble snapshot request).filter (·.kind = kind) ↔
        finding ∈ (membershipFindings intended snapshot).filter (·.kind = kind) := by
      rw [filter_driftFindings hintended hkind]
    simpa [List.mem_filter, heq] using hfilter
  rw [reports_driftReport]
  exact exists_congr fun finding => and_congr_left fun h => hmem finding h.1

/-! ### Where a finding of a kind comes from -/

theorem mem_membershipFindings {finding : DriftFinding} :
    finding ∈ membershipFindings intended snapshot ↔
      (∃ expected ∈ intended.expectedClusters,
        expectedClusterFinding intended snapshot expected = some finding) ∨
      (∃ expected ∈ intended.expectedSites,
        expectedSiteFinding intended snapshot expected = some finding) ∨
      ∃ cluster ∈ snapshot.records .cluster,
        observedClusterFinding intended cluster = some finding := by
  simp only [membershipFindings, List.mem_append, List.mem_filterMap, or_assoc]

theorem reports_clusterMissing (hordered : snapshot.Ordered) {id : ClusterId} :
    (∃ finding ∈ membershipFindings intended snapshot,
      finding.kind = .clusterMissing ∧ finding.subject = id.value) ↔
      id ∈ intended.expectedClusters ∧ ∀ cluster ∈ snapshot.records .cluster, cluster.id ≠ id := by
  constructor
  · rintro ⟨finding, hmem, hkind, hsubject⟩
    rcases mem_membershipFindings.mp hmem with ⟨expected, hexpected, h⟩ | ⟨_, -, h⟩ | ⟨_, -, h⟩
    · obtain ⟨hexpectedSubject, hfinding⟩ := expectedClusterFinding_eq_some h
      have hid : expected = id := StrongId.ext (hexpectedSubject.symm.trans hsubject)
      subst hid
      rcases hfinding with ⟨-, hfind⟩ | ⟨hstale, -⟩
      · exact ⟨hexpected, hordered.find_eq_none.mp hfind⟩
      · cases hkind.symm.trans hstale
    · cases hkind.symm.trans (expectedSiteFinding_eq_some h).2.1
    · cases hkind.symm.trans (observedClusterFinding_eq_some h).2.1
  · rintro ⟨hexpected, habsent⟩
    have hfind : snapshot.find .cluster id = none := hordered.find_eq_none.mpr habsent
    have h : ∃ finding, expectedClusterFinding intended snapshot id = some finding ∧
        finding.kind = .clusterMissing ∧ finding.subject = id.value := by
      unfold expectedClusterFinding
      rw [hfind]
      exact ⟨_, rfl, rfl, rfl⟩
    obtain ⟨finding, h, hkind, hsubject⟩ := h
    exact ⟨finding, mem_membershipFindings.mpr (.inl ⟨id, hexpected, h⟩), hkind, hsubject⟩

theorem reports_staleCluster (hordered : snapshot.Ordered) {id : ClusterId} :
    (∃ finding ∈ membershipFindings intended snapshot,
      finding.kind = .staleCluster ∧ finding.subject = id.value) ↔
      id ∈ intended.expectedClusters ∧
        ∃ cluster ∈ snapshot.records .cluster, cluster.id = id ∧
          cluster.currentness ≠ .current := by
  constructor
  · rintro ⟨finding, hmem, hkind, hsubject⟩
    rcases mem_membershipFindings.mp hmem with ⟨expected, hexpected, h⟩ | ⟨_, -, h⟩ | ⟨_, -, h⟩
    · obtain ⟨hexpectedSubject, hfinding⟩ := expectedClusterFinding_eq_some h
      have hid : expected = id := StrongId.ext (hexpectedSubject.symm.trans hsubject)
      subst hid
      rcases hfinding with ⟨hmissing, -⟩ | ⟨-, cluster, hfind, hcurrent⟩
      · cases hkind.symm.trans hmissing
      · obtain ⟨hcluster, hid⟩ := hordered.find_eq_some.mp hfind
        exact ⟨hexpected, cluster, hcluster, hid, hcurrent⟩
    · cases hkind.symm.trans (expectedSiteFinding_eq_some h).2.1
    · cases hkind.symm.trans (observedClusterFinding_eq_some h).2.1
  · rintro ⟨hexpected, cluster, hcluster, hid, hcurrent⟩
    have hfind : snapshot.find .cluster id = some cluster :=
      hordered.find_eq_some.mpr ⟨hcluster, hid⟩
    have h : ∃ finding, expectedClusterFinding intended snapshot id = some finding ∧
        finding.kind = .staleCluster ∧ finding.subject = id.value := by
      unfold expectedClusterFinding
      rw [hfind]
      dsimp only
      rw [if_neg hcurrent]
      exact ⟨_, rfl, rfl, rfl⟩
    obtain ⟨finding, h, hkind, hsubject⟩ := h
    exact ⟨finding, mem_membershipFindings.mpr (.inl ⟨id, hexpected, h⟩), hkind, hsubject⟩

theorem reports_siteMissing (hordered : snapshot.Ordered) {id : SiteId} :
    (∃ finding ∈ membershipFindings intended snapshot,
      finding.kind = .siteMissing ∧ finding.subject = id.value) ↔
      id ∈ intended.expectedSites ∧ ∀ site ∈ snapshot.records .site, site.id ≠ id := by
  constructor
  · rintro ⟨finding, hmem, hkind, hsubject⟩
    rcases mem_membershipFindings.mp hmem with ⟨_, -, h⟩ | ⟨expected, hexpected, h⟩ | ⟨_, -, h⟩
    · rcases (expectedClusterFinding_eq_some h).2 with ⟨hmissing, -⟩ | ⟨hstale, -⟩
      · cases hkind.symm.trans hmissing
      · cases hkind.symm.trans hstale
    · obtain ⟨hexpectedSubject, -, hfind⟩ := expectedSiteFinding_eq_some h
      have hid : expected = id := StrongId.ext (hexpectedSubject.symm.trans hsubject)
      subst hid
      exact ⟨hexpected, hordered.find_eq_none.mp hfind⟩
    · cases hkind.symm.trans (observedClusterFinding_eq_some h).2.1
  · rintro ⟨hexpected, habsent⟩
    have hfind : snapshot.find .site id = none := hordered.find_eq_none.mpr habsent
    have h : ∃ finding, expectedSiteFinding intended snapshot id = some finding ∧
        finding.kind = .siteMissing ∧ finding.subject = id.value := by
      unfold expectedSiteFinding
      rw [hfind]
      exact ⟨_, rfl, rfl, rfl⟩
    obtain ⟨finding, h, hkind, hsubject⟩ := h
    exact ⟨finding, mem_membershipFindings.mpr (.inr (.inl ⟨id, hexpected, h⟩)), hkind, hsubject⟩

theorem reports_unexpectedCluster (hexpected : intended.expectedClusters ≠ []) {id : ClusterId} :
    (∃ finding ∈ membershipFindings intended snapshot,
      finding.kind = .unexpectedCluster ∧ finding.subject = id.value) ↔
      (∃ cluster ∈ snapshot.records .cluster, cluster.id = id) ∧
        id ∉ intended.expectedClusters := by
  constructor
  · rintro ⟨finding, hmem, hkind, hsubject⟩
    rcases mem_membershipFindings.mp hmem with ⟨_, -, h⟩ | ⟨_, -, h⟩ | ⟨cluster, hcluster, h⟩
    · rcases (expectedClusterFinding_eq_some h).2 with ⟨hmissing, -⟩ | ⟨hstale, -⟩
      · cases hkind.symm.trans hmissing
      · cases hkind.symm.trans hstale
    · cases hkind.symm.trans (expectedSiteFinding_eq_some h).2.1
    · obtain ⟨hclusterSubject, -, hunlisted⟩ := observedClusterFinding_eq_some h
      have hid : cluster.id = id := StrongId.ext (hclusterSubject.symm.trans hsubject)
      subst hid
      exact ⟨⟨cluster, hcluster, rfl⟩, hunlisted⟩
  · rintro ⟨⟨cluster, hcluster, rfl⟩, hunlisted⟩
    have h : ∃ finding, observedClusterFinding intended cluster = some finding ∧
        finding.kind = .unexpectedCluster ∧ finding.subject = cluster.id.value := by
      unfold observedClusterFinding
      rw [if_pos ⟨hunlisted, hexpected⟩]
      exact ⟨_, rfl, rfl, rfl⟩
    obtain ⟨finding, h, hkind, hsubject⟩ := h
    exact ⟨finding, mem_membershipFindings.mpr (.inr (.inr ⟨cluster, hcluster, h⟩)), hkind,
      hsubject⟩

/-- No loop looks for a site that is not listed. -/
theorem kind_ne_unexpectedSite {finding : DriftFinding}
    (h : finding ∈ membershipFindings intended snapshot) : finding.kind ≠ .unexpectedSite := by
  intro hkind
  rcases mem_membershipFindings.mp h with ⟨_, -, h⟩ | ⟨_, -, h⟩ | ⟨_, -, h⟩
  · rcases (expectedClusterFinding_eq_some h).2 with ⟨hmissing, -⟩ | ⟨hstale, -⟩
    · cases hkind.symm.trans hmissing
    · cases hkind.symm.trans hstale
  · cases hkind.symm.trans (expectedSiteFinding_eq_some h).2.1
  · cases hkind.symm.trans (observedClusterFinding_eq_some h).2.1

/-! ### Each once -/

theorem map_filterMap_sublist {α β γ : Type} {f : α → Option β} {g : β → γ} {h : α → γ}
    (hfg : ∀ a b, f a = some b → g b = h a) (l : List α) :
    ((l.filterMap f).map g).Sublist (l.map h) := by
  induction l with
  | nil => exact List.Sublist.slnil
  | cons a l ih =>
    rcases Option.eq_none_or_eq_some (f a) with ha | ⟨b, ha⟩
    · rw [List.filterMap_cons_none ha, List.map_cons]
      exact ih.cons (h a)
    · rw [List.filterMap_cons_some ha, List.map_cons, List.map_cons, hfg a b ha]
      exact ih.cons_cons (h a)

/-- A loop over members that differ has no two findings with one subject. -/
theorem nodup_subjects {α : Type} {f : α → Option DriftFinding} {subject : α → Text}
    (hsubject : ∀ a finding, f a = some finding → finding.subject = subject a) {l : List α}
    (hl : (l.map subject).Nodup) (kind : DriftKind) :
    (((l.filterMap f).filter (·.kind = kind)).map DriftFinding.subject).Nodup :=
  (hl.sublist (map_filterMap_sublist hsubject l)).sublist (List.filter_sublist.map _)

theorem nodup_values {tag : IdTag} {ids : List (StrongId tag)} (h : ids.Nodup) :
    (ids.map StrongId.value).Nodup :=
  h.map fun _ _ => StrongId.ext

theorem filter_clusterLoop {kind : DriftKind} (hmissing : kind ≠ .clusterMissing)
    (hstale : kind ≠ .staleCluster) :
    (intended.expectedClusters.filterMap (expectedClusterFinding intended snapshot)).filter
      (·.kind = kind) = [] := by
  refine filter_kind_eq_nil fun finding hmem heq => ?_
  obtain ⟨expected, -, h⟩ := List.mem_filterMap.mp hmem
  rcases (expectedClusterFinding_eq_some h).2 with ⟨hkind, -⟩ | ⟨hkind, -⟩
  · exact hmissing (heq.symm.trans hkind)
  · exact hstale (heq.symm.trans hkind)

theorem filter_siteLoop {kind : DriftKind} (hkind : kind ≠ .siteMissing) :
    (intended.expectedSites.filterMap (expectedSiteFinding intended snapshot)).filter
      (·.kind = kind) = [] := by
  refine filter_kind_eq_nil fun finding hmem heq => ?_
  obtain ⟨expected, -, h⟩ := List.mem_filterMap.mp hmem
  exact hkind (heq.symm.trans (expectedSiteFinding_eq_some h).2.1)

theorem filter_observedLoop {kind : DriftKind} (hkind : kind ≠ .unexpectedCluster) :
    ((snapshot.records .cluster).filterMap (observedClusterFinding intended)).filter
      (·.kind = kind) = [] := by
  refine filter_kind_eq_nil fun finding hmem heq => ?_
  obtain ⟨cluster, -, h⟩ := List.mem_filterMap.mp hmem
  exact hkind (heq.symm.trans (observedClusterFinding_eq_some h).2.1)

theorem nodup_membershipFindings (hordered : snapshot.Ordered)
    (hclusters : intended.expectedClusters.Nodup) (hsites : intended.expectedSites.Nodup)
    {kind : DriftKind} (hkind : kind.isMembership = true) :
    (((membershipFindings intended snapshot).filter (·.kind = kind)).map
      DriftFinding.subject).Nodup := by
  have hclusterLoop := nodup_subjects (f := expectedClusterFinding intended snapshot)
    (fun _ _ h => (expectedClusterFinding_eq_some h).1) (nodup_values hclusters) kind
  have hsiteLoop := nodup_subjects (f := expectedSiteFinding intended snapshot)
    (fun _ _ h => (expectedSiteFinding_eq_some h).1) (nodup_values hsites) kind
  have hids : ((snapshot.records .cluster).map fun cluster => cluster.id.value).Nodup := by
    refine List.pairwise_map.mpr ((hordered .cluster).imp ?_)
    intro a b hlt heq
    have hkey : (key a : ClusterId) = key b := StrongId.ext heq
    rw [hkey, Sorting.less_self] at hlt
    cases hlt
  have hobservedLoop := nodup_subjects (f := observedClusterFinding intended)
    (fun _ _ h => (observedClusterFinding_eq_some h).1) hids kind
  unfold membershipFindings
  rw [List.filter_append, List.filter_append]
  by_cases hcluster : kind = .clusterMissing ∨ kind = .staleCluster
  · rw [filter_siteLoop (by rcases hcluster with rfl | rfl <;> decide),
      filter_observedLoop (by rcases hcluster with rfl | rfl <;> decide), List.append_nil,
      List.append_nil]
    exact hclusterLoop
  · rw [not_or] at hcluster
    rw [filter_clusterLoop hcluster.1 hcluster.2, List.nil_append]
    by_cases hsite : kind = .siteMissing
    · rw [filter_observedLoop (by rw [hsite]; decide), List.append_nil]
      exact hsiteLoop
    · rw [filter_siteLoop hsite, List.nil_append]
      exact hobservedLoop

theorem perm_findings (kind : DriftKind) :
    ((driftReport formatDouble snapshot request).findings.filter (·.kind = kind)).Perm
      ((driftFindings formatDouble snapshot request).filter (·.kind = kind)) :=
  (perm_stableSort _ _).filter _

end Findings

/-! ## The report -/

theorem nodup_of_validate {intended : IntendedFederationState} (h : intended.validate = .ok ()) :
    intended.expectedSites.Nodup ∧ intended.expectedClusters.Nodup := by
  simp only [IntendedFederationState.validate, bind_eq_ok, failIf_eq_ok] at h
  obtain ⟨_, -, _, -, _, hsites, _, hclusters, -⟩ := h
  exact ⟨hasDuplicates_eq_false.mp hsites, hasDuplicates_eq_false.mp hclusters⟩

/-- The report names exactly the members that differ when every site of the snapshot is listed. -/
theorem membership_drift_iff {formatDouble : Double → Text} {s : Impl} {restrictTo : FederationId}
    {request : DriftRequest} {intended : IntendedFederationState} {report : DriftReport}
    (hreachable : Reachable s) (hintended : request.intended = some intended)
    (hclusters : intended.expectedClusters ≠ [])
    (hreport : analyzeDrift formatDouble (buildSnapshot s restrictTo) request = .ok report) :
    report.ReportsMembership intended (buildSnapshot s restrictTo) ↔
      ∀ site ∈ (buildSnapshot s restrictTo).records .site, site.id ∈ intended.expectedSites := by
  have hordered := hreachable.ordered restrictTo
  obtain ⟨rfl, hvalid⟩ := analyzeDrift_eq_ok hreport
  obtain ⟨hsitesNodup, hclustersNodup⟩ := nodup_of_validate (hvalid intended hintended)
  generalize buildSnapshot s restrictTo = snapshot at *
  have hreports : ∀ kind : DriftKind, kind.isMembership = true → ∀ subject : Text,
      ((driftReport formatDouble snapshot request).Reports kind subject ↔
        ∃ finding ∈ membershipFindings intended snapshot,
          finding.kind = kind ∧ finding.subject = subject) := fun kind hkind subject =>
    reports_membership hintended hkind
  constructor
  · intro h site hsite
    by_contra hunlisted
    obtain ⟨finding, hfinding, hkind, -⟩ := (hreports .unexpectedSite rfl _).mp
      ((h.unexpectedSite site.id).mpr ⟨⟨site, hsite, rfl⟩, hunlisted⟩)
    exact kind_ne_unexpectedSite hfinding hkind
  · intro hlisted
    refine ⟨?_, ?_, ?_, ?_, ?_, ?_⟩
    · exact fun id => (hreports .clusterMissing rfl _).trans (reports_clusterMissing hordered)
    · exact fun id => (hreports .siteMissing rfl _).trans (reports_siteMissing hordered)
    · exact fun id => (hreports .unexpectedCluster rfl _).trans
        (reports_unexpectedCluster hclusters)
    · intro id
      rw [hreports .unexpectedSite rfl]
      constructor
      · rintro ⟨finding, hfinding, hkind, -⟩
        exact absurd hkind (kind_ne_unexpectedSite hfinding)
      · rintro ⟨⟨site, hsite, rfl⟩, hunlisted⟩
        exact absurd (hlisted site hsite) hunlisted
    · exact fun id => (hreports .staleCluster rfl _).trans (reports_staleCluster hordered)
    · intro kind hkind
      rw [((perm_findings kind).map DriftFinding.subject).nodup_iff,
        filter_driftFindings hintended hkind]
      exact nodup_membershipFindings hordered hclustersNodup hsitesNodup hkind

namespace Deployment

/-- An intended state with the clusters of the deployment and these sites. -/
def intendedState (sites : List SiteId) : IntendedFederationState where
  federation := federation.id
  generation := ⟨1⟩
  expectedSites := sites
  expectedClusters := [cluster.id, standby.id]

end Deployment

theorem membership_drift_deployment :
    (driftReport (fun _ => []) (buildSnapshot Deployment.loaded {})
      { intended := some (Deployment.intendedState [Deployment.site.id]) }).ReportsMembership
        (Deployment.intendedState [Deployment.site.id]) (buildSnapshot Deployment.loaded {}) := by
  have hsites : ((buildSnapshot Deployment.loaded {}).records .site).map (·.id) =
      [Deployment.site.id] := by
    decide +kernel
  have hvalid : (Deployment.intendedState [Deployment.site.id]).validate = .ok () := by
    decide +kernel
  have hreport : analyzeDrift (fun _ => []) (buildSnapshot Deployment.loaded {})
      { intended := some (Deployment.intendedState [Deployment.site.id]) } = .ok
        (driftReport (fun _ => []) (buildSnapshot Deployment.loaded {})
          { intended := some (Deployment.intendedState [Deployment.site.id]) }) := by
    unfold analyzeDrift
    dsimp only
    rw [hvalid]
    rfl
  refine (membership_drift_iff Deployment.reachable_loaded rfl (by decide) hreport).mpr ?_
  intro site hsite
  have hid := List.mem_map_of_mem (f := fun site : SiteRecord => site.id) hsite
  rwa [hsites] at hid

/-- An intended state with another site: the one of the deployment is not called unexpected. -/
theorem unexpected_site_unreported :
    (Deployment.intendedState [⟨.ofString "other"⟩]).validate = .ok () ∧
      ¬(driftReport (fun _ => []) (buildSnapshot Deployment.loaded {})
        { intended := some (Deployment.intendedState [⟨.ofString "other"⟩]) }).ReportsMembership
          (Deployment.intendedState [⟨.ofString "other"⟩])
          (buildSnapshot Deployment.loaded {}) := by
  refine ⟨by decide +kernel, ?_⟩
  intro h
  have hsites : ((buildSnapshot Deployment.loaded {}).records .site).map (·.id) =
      [Deployment.site.id] := by
    decide +kernel
  have hmem : Deployment.site.id ∈
      ((buildSnapshot Deployment.loaded {}).records .site).map (·.id) := by
    rw [hsites]
    exact List.mem_singleton_self _
  obtain ⟨site, hsite, hid⟩ := List.mem_map.mp hmem
  obtain ⟨finding, hfinding, hkind, -⟩ := (reports_membership rfl rfl).mp
    ((h.unexpectedSite Deployment.site.id).mpr ⟨⟨site, hsite, hid⟩, by decide⟩)
  exact kind_ne_unexpectedSite hfinding hkind

end FederationObservatory
