import FederationObservatory.Analysis.Proofs.Fragmentation
import FederationObservatory.Observatory.Proofs.Clusters
import FederationObservatory.Observatory.Proofs.Snapshots

/-!
# Domain rows and their clusters

A row counts the findings of the clusters whose placement domain it is. It lists these, and the
clusters that the registered domain of its identifier lists.
-/

namespace FederationObservatory

open Grouping
open StoredRecord (key)

/-! ## Snapshots of a reachable state -/

/-- The records are in the order of their keys, each key once. -/
def FederationSnapshot.Ordered (snapshot : FederationSnapshot) : Prop :=
  ∀ k : RecordKind, (snapshot.records k).Pairwise fun a b => Sorting.less (key a) (key b) = true

theorem Reachable.ordered {s : Impl} (h : Reachable s) (restrictTo : FederationId) :
    (buildSnapshot s restrictTo).Ordered :=
  fun k => pairwise_includedRecords h.filed restrictTo k

theorem Reachable.ledgersClose {s : Impl} (h : Reachable s) (restrictTo : FederationId) :
    LedgersClose (buildSnapshot s restrictTo) := by
  intro cluster hcluster
  have hmem : cluster ∈ s.includedRecords restrictTo .cluster := hcluster
  rw [includedRecords_eq h.filed] at hmem
  obtain ⟨⟨id, hstored⟩, -⟩ := mem_belonging.mp (List.mem_of_mem_take hmem)
  exact h.ledgersValid id cluster hstored

theorem FederationSnapshot.Ordered.find_eq_some {snapshot : FederationSnapshot}
    (h : snapshot.Ordered) {k : RecordKind} [DecidableEq k.Key] {id : k.Key} {record : k.Record} :
    snapshot.find k id = some record ↔ record ∈ snapshot.records k ∧ key record = id :=
  Sorting.find?_filter_eq_some (h k)

theorem FederationSnapshot.Ordered.eq_of_key {snapshot : FederationSnapshot} (h : snapshot.Ordered)
    {k : RecordKind} [DecidableEq k.Key] {a b : k.Record} (ha : a ∈ snapshot.records k)
    (hb : b ∈ snapshot.records k) (hkey : key a = key b) : a = b :=
  Option.some.inj ((h.find_eq_some.mpr ⟨ha, hkey⟩).symm.trans (h.find_eq_some.mpr ⟨hb, rfl⟩))

/-! ## Placement domains -/

/-- The domain a cluster names. A cluster that names none is its own. -/
def ClusterRecord.placementDomain (cluster : ClusterRecord) : DomainId :=
  if cluster.domain.empty then ⟨cluster.id.value⟩ else cluster.domain

theorem groupOf_congr {snapshot : FederationSnapshot} {row row' : StrandedCapacityFinding}
    (h : row.cluster = row'.cluster) : groupOf snapshot row = groupOf snapshot row' := by
  unfold groupOf domainChoice
  rw [h]

theorem groupOf_eq {snapshot : FederationSnapshot} (h : snapshot.Ordered) {cluster : ClusterRecord}
    (hcluster : cluster ∈ snapshot.records .cluster) {row : StrandedCapacityFinding}
    (hrow : row.cluster = cluster.id) : groupOf snapshot row = cluster.placementDomain := by
  have hfind : snapshot.find .cluster row.cluster = some cluster :=
    h.find_eq_some.mpr ⟨hcluster, hrow.symm⟩
  unfold groupOf domainChoice ClusterRecord.placementDomain
  rw [hfind, hrow]
  cases hempty : cluster.domain.empty <;> simp [Option.filter, hempty]

/-- A registered domain is in the map the analysis starts with. -/
theorem getElem?_of_registered {snapshot : FederationSnapshot} (h : snapshot.Ordered)
    {federation : FederationId} {record : DomainRecord}
    (hrecord : Registered snapshot federation record) :
    (registeredDomains snapshot federation)[record.id]? = some record.capacity := by
  have hsome : ∃ c, (registeredDomains snapshot federation)[record.id]? = some c := by
    obtain ⟨hmem, hfederation⟩ := hrecord
    unfold registeredDomains
    generalize (snapshot.records .domain : List DomainRecord) = records at hmem
    clear h
    induction records using List.reverseRecOn with
    | nil => cases hmem
    | append_singleton records last ih =>
      rw [List.foldl_append, List.foldl_cons, List.foldl_nil]
      rcases List.mem_append.mp hmem with hmem | hmem
      · split
        · exact ih hmem
        · rw [Std.TreeMap.getElem?_insert]
          split
          · exact ⟨_, rfl⟩
          · exact ih hmem
      · obtain rfl := List.mem_singleton.mp hmem
        have hkeeps : ¬(!federation.empty && record.federation != federation) = true := by
          rcases hfederation with hempty | rfl
          · simp [hempty]
          · simp
        rw [if_neg hkeeps, Std.TreeMap.getElem?_insert_self]
        exact ⟨_, rfl⟩
  obtain ⟨c, hc⟩ := hsome
  obtain ⟨found, hfound, hid, rfl⟩ := getElem?_registeredDomains hc
  have heq : found = record := h.eq_of_key (k := .domain) hfound.1 hrecord.1 hid
  rw [hc, heq]

/-! ## Membership -/

/-- A cluster with a pool that is counted. -/
structure Contributes (snapshot : FederationSnapshot) (request : StrandedCapacityRequest)
    (cluster : ClusterRecord) : Prop where
  mem : cluster ∈ snapshot.records .cluster
  selected : request.selects cluster = true
  pools : request.pools cluster ≠ []

/-- A registered domain lists no cluster that contributes to another. -/
def DomainsAgree (snapshot : FederationSnapshot) (request : StrandedCapacityRequest) : Prop :=
  ∀ record, Registered snapshot request.federation record →
    ∀ cluster, Contributes snapshot request cluster → cluster.id ∈ record.clusters →
      cluster.placementDomain = record.id

/-- Every cluster that contributes is listed in exactly one row, and a row has the amounts of the
    clusters it lists. -/
structure FragmentationFinding.Accounts (finding : FragmentationFinding)
    (report : StrandedCapacityReport) : Prop where
  listed : ∀ row ∈ report.findings,
    (finding.domains.countP fun c => decide (row.cluster ∈ c.clusters)) = 1
  amounts : ∀ c ∈ finding.domains, ∀ field, (c.get field).toNat =
    ((report.findings.filter fun row => row.cluster ∈ c.clusters).map (amountOf field)).sum

section Accounts

variable {formatDouble : Double → Text} {snapshot : FederationSnapshot} {federation : FederationId}
  {workloadClass : WorkloadClassId} {kind : ResourceKind} {workload : WorkloadRecord}
  {report : StrandedCapacityReport} {state : GroupingState} {finding : FragmentationFinding}

/-- The findings are about the clusters that contribute. -/
theorem exists_contributes {request : StrandedCapacityRequest}
    (hperm : report.findings.Perm (selectedFindings formatDouble snapshot request))
    {row : StrandedCapacityFinding} (h : row ∈ report.findings) :
    ∃ cluster, Contributes snapshot request cluster ∧ row.cluster = cluster.id := by
  obtain ⟨selected, hselected, rfl⟩ := List.mem_map.mp (hperm.mem_iff.mp h)
  obtain ⟨cluster, hcluster, hpair⟩ := List.mem_flatMap.mp hselected
  obtain ⟨hmem, hselects⟩ := List.mem_filter.mp hcluster
  obtain ⟨pool, hpool, rfl⟩ := List.mem_map.mp hpair
  refine ⟨cluster, ⟨hmem, hselects, List.ne_nil_of_mem hpool⟩, ?_⟩
  exact (findingOf_poolFinding formatDouble snapshot request (requestSubject snapshot request)
    cluster pool).cluster_eq

theorem Contributes.exists_finding {request : StrandedCapacityRequest}
    (hperm : report.findings.Perm (selectedFindings formatDouble snapshot request))
    {cluster : ClusterRecord} (h : Contributes snapshot request cluster) :
    ∃ row ∈ report.findings, row.cluster = cluster.id := by
  obtain ⟨pool, hpool⟩ := List.exists_mem_of_ne_nil _ h.pools
  have hselected : (cluster, pool) ∈ selectedPools snapshot request :=
    List.mem_flatMap.mpr ⟨cluster, List.mem_filter.mpr ⟨h.mem, h.selected⟩,
      List.mem_map_of_mem hpool⟩
  refine ⟨selectedFinding formatDouble snapshot request (cluster, pool),
    hperm.mem_iff.mpr (List.mem_map_of_mem hselected), ?_⟩
  exact (findingOf_poolFinding formatDouble snapshot request (requestSubject snapshot request)
    cluster pool).cluster_eq

/-- The rows of the finding are those of the map, each once. -/
theorem Analyzed.perm_domains
    (h : Analyzed formatDouble snapshot federation workloadClass kind workload report state
      finding) :
    finding.domains.Perm state.domains.values := by
  obtain ⟨total, hfinishes, hscans⟩ := h.scans
  exact hscans.domains ▸ hfinishes.domains

/-- The clusters that a row lists. -/
theorem Analyzed.mem_clusters_iff
    (h : Analyzed formatDouble snapshot federation workloadClass kind workload report state finding)
    (hordered : snapshot.Ordered) {d : DomainId}
    {c : DomainCapacity} (hc : state.domains[d]? = some c) {cluster : ClusterId} :
    cluster ∈ c.clusters ↔
      (∃ record, Registered snapshot (fragmentationFederation snapshot federation) record ∧
        record.id = d ∧ cluster ∈ record.clusters) ∨
        ∃ row ∈ report.findings, groupOf snapshot row = d ∧ row.cluster = cluster := by
  rw [h.groups.clusters d c hc]
  refine or_congr_left ?_
  constructor
  · rintro ⟨c₀, hc₀, hmem⟩
    obtain ⟨record, hrecord, hid, rfl⟩ := getElem?_registeredDomains hc₀
    exact ⟨record, hrecord, hid, hmem⟩
  · rintro ⟨record, hrecord, rfl, hmem⟩
    exact ⟨_, getElem?_of_registered hordered hrecord, hmem⟩

/-- Where the domains agree, a row lists the cluster of a finding exactly if it counts the finding. -/
theorem Analyzed.mem_clusters_iff_of_agree
    (h : Analyzed formatDouble snapshot federation workloadClass kind workload report state finding)
    (hledgers : LedgersClose snapshot) (hordered : snapshot.Ordered)
    (hagree : DomainsAgree snapshot (fragmentationRequest snapshot federation workloadClass kind))
    {d : DomainId} {c : DomainCapacity} (hc : state.domains[d]? = some c)
    {row : StrandedCapacityFinding} (hrow : row ∈ report.findings) :
    row.cluster ∈ c.clusters ↔ groupOf snapshot row = d := by
  rw [h.mem_clusters_iff hordered hc]
  constructor
  · rintro (⟨record, hrecord, rfl, hmem⟩ | ⟨row', -, rfl, hcluster⟩)
    · obtain ⟨cluster, hcontributes, hcluster⟩ :=
        exists_contributes (h.sum_lt hledgers).1.perm hrow
      rw [groupOf_eq hordered hcontributes.mem hcluster]
      exact hagree record hrecord cluster hcontributes (hcluster ▸ hmem)
    · exact groupOf_congr hcluster.symm
  · intro hgroup
    exact .inr ⟨row, hrow, hgroup, rfl⟩

theorem Analyzed.nodup_values
    (h : Analyzed formatDouble snapshot federation workloadClass kind workload report state
      finding) :
    state.domains.values.Nodup := by
  refine List.Nodup.of_map DomainCapacity.domain ?_
  rw [Tables.map_values_eq_keys h.groups.keyed]
  exact Std.TreeMap.nodup_keys

theorem Analyzed.accounts_of_agree
    (h : Analyzed formatDouble snapshot federation workloadClass kind workload report state finding)
    (hledgers : LedgersClose snapshot) (hordered : snapshot.Ordered)
    (hagree : DomainsAgree snapshot
      (fragmentationRequest snapshot federation workloadClass kind)) :
    finding.Accounts report := by
  have hgroups := h.groups
  have hperm := h.perm_domains
  have hlists := @Analyzed.mem_clusters_iff_of_agree _ _ _ _ _ _ _ _ _ h hledgers hordered hagree
  constructor
  case listed =>
    intro row hrow
    rw [hperm.countP_eq, countP_eq_one_iff (h.nodup_values)]
    obtain ⟨c, hc⟩ := hgroups.covers row hrow
    refine ⟨c, ⟨Tables.mem_values_iff.mpr ⟨_, hc⟩, decide_eq_true ((hlists hc hrow).mpr rfl)⟩, ?_⟩
    rintro c' ⟨hmem, hlisted⟩
    obtain ⟨d, hd⟩ := Tables.mem_values_iff.mp hmem
    obtain rfl := (hlists hd hrow).mp (of_decide_eq_true hlisted)
    exact Option.some.inj (hd.symm.trans hc)
  case amounts =>
    intro c hc field
    obtain ⟨d, hd⟩ := Tables.mem_values_iff.mp (hperm.mem_iff.mp hc)
    rw [hgroups.exact ((h.sum_lt hledgers).2 field) hd, weight]
    congr 2
    refine List.filter_congr fun row hrow => ?_
    exact decide_eq_decide.mpr (hlists hd hrow).symm

theorem Analyzed.agree_of_accounts
    (h : Analyzed formatDouble snapshot federation workloadClass kind workload report state finding)
    (hledgers : LedgersClose snapshot) (hordered : snapshot.Ordered)
    (haccounts : finding.Accounts report) :
    DomainsAgree snapshot (fragmentationRequest snapshot federation workloadClass kind) := by
  have hgroups := h.groups
  have hperm := h.perm_domains
  intro record hrecord cluster hcontributes hlisted
  obtain ⟨row, hrow, hcluster⟩ := hcontributes.exists_finding (h.sum_lt hledgers).1.perm
  -- one row counts the finding, and the row of the record lists its cluster
  obtain ⟨c, hc⟩ := hgroups.covers row hrow
  obtain ⟨c', hc'⟩ := hgroups.kept _ _ (getElem?_of_registered hordered hrecord)
  have hmem : row.cluster ∈ c.clusters :=
    (h.mem_clusters_iff hordered hc).mpr (.inr ⟨row, hrow, rfl, rfl⟩)
  have hmem' : row.cluster ∈ c'.clusters :=
    (h.mem_clusters_iff hordered hc').mpr (.inl ⟨record, hrecord, rfl, hcluster ▸ hlisted⟩)
  have honce := haccounts.listed row hrow
  rw [hperm.countP_eq, countP_eq_one_iff (h.nodup_values)] at honce
  have heq : c = c' := honce.unique
    ⟨Tables.mem_values_iff.mpr ⟨_, hc⟩, decide_eq_true hmem⟩
    ⟨Tables.mem_values_iff.mpr ⟨_, hc'⟩, decide_eq_true hmem'⟩
  rw [← groupOf_eq hordered hcontributes.mem hcluster, ← hgroups.keyed _ _ hc, heq,
    hgroups.keyed _ _ hc']

end Accounts

/-- In every reachable state, the rows of a finding account for their own clusters exactly if no
    registered domain lists a cluster that contributes to another. -/
theorem rows_account_iff {formatDouble : Double → Text} {s : Impl} {federation : FederationId}
    {workloadClass : WorkloadClassId} {kind : ResourceKind} (hs : Reachable s)
    {finding : FragmentationFinding}
    (h : analyzeFragmentation formatDouble (buildSnapshot s federation) federation workloadClass
      kind = .ok finding) :
    ∃ report,
      analyzeStrandedCapacity formatDouble (buildSnapshot s federation)
        (fragmentationRequest (buildSnapshot s federation) federation workloadClass kind) =
          .ok report ∧
      (finding.Accounts report ↔
        DomainsAgree (buildSnapshot s federation)
          (fragmentationRequest (buildSnapshot s federation) federation workloadClass kind)) := by
  have hledgers := hs.ledgersClose federation
  have hordered := hs.ordered federation
  obtain ⟨workload, report, state, hanalyzed⟩ := exists_analyzed h
  exact ⟨report, hanalyzed.reported, hanalyzed.agree_of_accounts hledgers hordered,
    hanalyzed.accounts_of_agree hledgers hordered⟩

namespace Deployment

def accelerator : AcceleratorClassRecord :=
  { id := ⟨.ofString "accelerator"⟩, capabilityGeneration := ⟨1⟩ }

/-- The deployment once its cluster has published a pool of eight idle accelerators. -/
def stocked : Impl :=
  loaded.run
    [publish 8 (.registerAcceleratorClass accelerator),
     publish 9 (.publishCapacity cluster.id ⟨1⟩ ⟨1⟩
      [{ poolId := ⟨.ofString "pool"⟩
         acceleratorClass := accelerator.id
         ledger := { nominal := 8, idle := 8 } }])]

theorem reachable_stocked : Reachable stocked := reachable_loaded.run _

/-- A domain that lists the cluster, which names no domain. -/
def listing : DomainRecord :=
  { id := ⟨.ofString "domain"⟩, kind := .cluster, federation := federation.id,
    clusters := [cluster.id] }

/-- The deployment once the domain is registered. -/
def listed : Impl := stocked.run [publish 10 (.registerDomain listing)]

theorem reachable_listed : Reachable listed := reachable_stocked.run _

end Deployment

theorem rows_account_deployment :
    ∃ finding report,
      analyzeFragmentation (fun _ => []) (buildSnapshot Deployment.stocked {}) {}
        Deployment.workloadClass.id .accelerator = .ok finding ∧
      analyzeStrandedCapacity (fun _ => []) (buildSnapshot Deployment.stocked {})
        (fragmentationRequest (buildSnapshot Deployment.stocked {}) {} Deployment.workloadClass.id
          .accelerator) = .ok report ∧
      finding.Accounts report := by
  have hrun : (analyzeFragmentation (fun _ => []) (buildSnapshot Deployment.stocked {}) {}
      Deployment.workloadClass.id .accelerator).isOk = true := by
    decide +kernel
  have hdomains : (buildSnapshot Deployment.stocked {}).records .domain = [] := by decide +kernel
  cases hfinding : analyzeFragmentation (fun _ => []) (buildSnapshot Deployment.stocked {}) {}
      Deployment.workloadClass.id .accelerator with
  | error e =>
    rw [hfinding] at hrun
    cases hrun
  | ok finding =>
    obtain ⟨report, hreport, hiff⟩ := rows_account_iff Deployment.reachable_stocked hfinding
    refine ⟨finding, report, rfl, hreport, hiff.mpr ?_⟩
    intro record hrecord
    have hmem := hrecord.1
    rw [hdomains] at hmem
    cases hmem

/-- The cluster is listed in its own row, and in the row of the domain, which counts none of it. -/
theorem cluster_listed_twice :
    ¬∀ (formatDouble : Double → Text) (s : Impl) (federation : FederationId)
      (workloadClass : WorkloadClassId) (kind : ResourceKind) (finding : FragmentationFinding)
      (report : StrandedCapacityReport), Reachable s →
      analyzeFragmentation formatDouble (buildSnapshot s federation) federation workloadClass kind =
        .ok finding →
      analyzeStrandedCapacity formatDouble (buildSnapshot s federation)
        (fragmentationRequest (buildSnapshot s federation) federation workloadClass kind) =
          .ok report →
      finding.Accounts report := by
  intro h
  have hrows : ((analyzeFragmentation (fun _ => []) (buildSnapshot Deployment.listed {}) {}
      Deployment.workloadClass.id .accelerator).toOption.map fun finding =>
        finding.domains.map DomainCapacity.clusters) =
      some [[Deployment.cluster.id], [Deployment.cluster.id]] := by
    decide +kernel
  cases hfinding : analyzeFragmentation (fun _ => []) (buildSnapshot Deployment.listed {}) {}
      Deployment.workloadClass.id .accelerator with
  | error e =>
    rw [hfinding] at hrows
    cases hrows
  | ok finding =>
    rw [hfinding] at hrows
    have hfound : ((analyzeStrandedCapacity (fun _ => []) (buildSnapshot Deployment.listed {})
        (fragmentationRequest (buildSnapshot Deployment.listed {}) {} Deployment.workloadClass.id
          .accelerator)).toOption.map fun report =>
            report.findings.map StrandedCapacityFinding.cluster) =
        some [Deployment.cluster.id] := by
      decide +kernel
    obtain ⟨workload, report, state, hanalyzed⟩ := exists_analyzed hfinding
    rw [hanalyzed.reported] at hfound
    have hrows : finding.domains.map DomainCapacity.clusters =
        [[Deployment.cluster.id], [Deployment.cluster.id]] := Option.some.inj hrows
    have hfound : report.findings.map StrandedCapacityFinding.cluster = [Deployment.cluster.id] :=
      Option.some.inj hfound
    have hmem : Deployment.cluster.id ∈ report.findings.map StrandedCapacityFinding.cluster :=
      hfound ▸ List.mem_singleton_self _
    obtain ⟨row, hrow, hcluster⟩ := List.mem_map.mp hmem
    have hlisted := (h _ _ _ _ _ finding report Deployment.reachable_listed hfinding
      hanalyzed.reported).listed row hrow
    rw [hcluster] at hlisted
    have hcount : (finding.domains.countP fun c => decide (Deployment.cluster.id ∈ c.clusters)) =
        (finding.domains.map DomainCapacity.clusters).countP fun clusters =>
          decide (Deployment.cluster.id ∈ clusters) := by
      rw [List.countP_map]
      rfl
    rw [hcount, hrows] at hlisted
    exact absurd hlisted (by decide)

end FederationObservatory
