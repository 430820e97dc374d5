import FederationObservatory.Observatory.Proofs.Records
import FederationObservatory.Observatory.Proofs.Restore

/-!
# References between records

Every identifier a stored record refers to should name a stored record. The checks that are to
ensure it stand in the registrations, in the publications and, once more, in the validation of a
durable state. They do not cover the same references: `register_cluster` does not look at the pools
a record comes with, and the validation of a durable state leaves out five references that the
registrations check.
-/

namespace FederationObservatory

open StoredRecord (key)

/-! ## References -/

/-- A collection and a key that should be in it. -/
abbrev Reference := (k : RecordKind) × k.Key

/-- A reference that is only made when the identifier is set. -/
def optionalReference {tag : IdTag} (id : StrongId tag) (reference : Reference) : List Reference :=
  if id.empty then [] else [reference]

/-- The identifiers a record refers to. -/
def RecordKind.references : (k : RecordKind) → k.Record → List Reference
  | .site, r => [⟨.federation, r.federation⟩]
  | .cluster, r =>
    [⟨.federation, r.federation⟩, ⟨.site, r.site⟩] ++
      optionalReference r.domain ⟨.domain, r.domain⟩ ++
      r.acceleratorClasses.map (⟨.acceleratorClass, ·⟩) ++ r.runtimes.map (⟨.runtime, ·⟩) ++
      r.backends.map (⟨.backend, ·⟩) ++
      r.capacityPools.flatMap fun pool =>
        optionalReference pool.acceleratorClass ⟨.acceleratorClass, pool.acceleratorClass⟩
  | .backend, r => [⟨.runtime, r.runtime⟩]
  | .domain, r => ⟨.federation, r.federation⟩ :: r.clusters.map (⟨.cluster, ·⟩)
  | .workload, r =>
    ⟨.workloadClass, r.workloadClass⟩ :: optionalReference r.artifact ⟨.artifact, r.artifact⟩ ++
      optionalReference r.policy ⟨.policy, r.policy⟩ ++
      r.acceptableAcceleratorClasses.map (⟨.acceleratorClass, ·⟩)
  | .placement, r =>
    [⟨.workload, r.workload⟩, ⟨.cluster, r.selected⟩] ++
      r.candidates.map fun candidate => ⟨.cluster, candidate.cluster⟩
  | .migration, r => [⟨.workload, r.workload⟩, ⟨.cluster, r.source⟩, ⟨.cluster, r.destination⟩]
  | .portability, r => [⟨.workload, r.workload⟩, ⟨.cluster, r.destination⟩]
  | .federation, _ | .acceleratorClass, _ | .runtime, _ | .policy, _ | .artifact, _
  | .workloadClass, _ => []

/-- The reference names a stored record. -/
def Collections.Resolves (c : Collections) (reference : Reference) : Prop :=
  reference.2 ∈ c.table reference.1

/-- Every reference of a record names a stored record. -/
def Collections.ResolvesAll (c : Collections) (k : RecordKind) (record : k.Record) : Prop :=
  ∀ reference ∈ k.references record, c.Resolves reference

/-- Every reference of every record of a collection names a stored record. -/
def Collections.LinkedAt (c : Collections) (k : RecordKind) : Prop :=
  ∀ (at' : k.Key) (record : k.Record), (c.table k)[at']? = some record → c.ResolvesAll k record

/-- Every reference of every stored record names a stored record. -/
def Collections.Linked (c : Collections) : Prop := ∀ k : RecordKind, c.LinkedAt k

theorem mem_optionalReference {tag : IdTag} {id : StrongId tag} {reference r : Reference} :
    r ∈ optionalReference id reference ↔ id.empty = false ∧ r = reference := by
  unfold optionalReference
  cases id.empty <;> simp

/-! ## What a call does to the references -/

theorem references_withCurrentness (k : RecordKind) (c : Currentness) (record : k.Record) :
    k.references (StoredRecord.withCurrentness c record) = k.references record := by
  cases k <;> rfl

theorem references_accepted (k : RecordKind) (clock : Clock) (ctx : PublicationContext)
    (record : k.Record) : k.references (accepted clock ctx record) = k.references record := by
  cases k <;> rfl

theorem references_sweep (k : RecordKind) (at' : PublisherKey) (record : k.Record) :
    k.references (sweep at' record) = k.references record := by
  unfold sweep
  split
  · exact references_withCurrentness k _ record
  · rfl

theorem references_advanceTo (record : ClusterRecord) (generation : ClusterGeneration) :
    RecordKind.references .cluster (record.advanceTo generation) =
      RecordKind.references .cluster record := by
  unfold ClusterRecord.advanceTo
  split <;> rfl

theorem references_superseded (record : MigrationRecord) :
    RecordKind.references .migration record.superseded =
      RecordKind.references .migration record := by
  unfold MigrationRecord.superseded
  split <;> rfl

theorem references_append (record : MigrationRecord) (clock : Clock) (ctx : PublicationContext)
    (event : MigrationStageEvent) :
    RecordKind.references .migration (record.append clock ctx event) =
      RecordKind.references .migration record := by
  unfold MigrationRecord.append
  cases event.stage <;> rfl

/-- A cluster that loses its pools keeps its other references. -/
theorem references_of_noPools {r r' : ClusterRecord}
    (h : r' = { r with
      capacityPools := []
      readiness := r'.readiness
      currentness := r'.currentness
      evidence := r'.evidence }) :
    RecordKind.references .cluster r' ⊆ RecordKind.references .cluster r := by
  rw [h]
  intro reference hreference
  simp only [RecordKind.references, List.flatMap_nil, List.append_nil] at hreference
  exact List.mem_append_left _ hreference

variable {s : Impl} {clock : Clock} {ctx : PublicationContext}

/-! ## The checks of the registrations -/

theorem resolves_site {r : SiteRecord} (h : checkSite s r = .ok ()) : s.ResolvesAll .site r := by
  intro reference hreference
  rw [List.mem_singleton.mp hreference]
  exact checkRegistered_eq_ok.mp h

theorem resolves_backend {r : BackendRecord} (h : checkBackend s r = .ok ()) :
    s.ResolvesAll .backend r := by
  intro reference hreference
  rw [List.mem_singleton.mp hreference]
  exact checkRegistered_eq_ok.mp h

theorem resolves_domain {r : DomainRecord} (h : checkDomain s r = .ok ()) :
    s.ResolvesAll .domain r := by
  simp only [checkDomain, bind_eq_ok, checkRegistered_eq_ok, exists_const, forM_eq_ok] at h
  intro reference hreference
  simp only [RecordKind.references, List.mem_cons, List.mem_map] at hreference
  rcases hreference with rfl | ⟨id, hid, rfl⟩
  · exact h.1
  · exact h.2 id hid

theorem resolves_workload {r : WorkloadRecord} (h : checkWorkload s r = .ok ()) :
    s.ResolvesAll .workload r := by
  simp only [checkWorkload, bind_eq_ok, checkRegistered_eq_ok, exists_const, forM_eq_ok,
    Bool.or_eq_true] at h
  obtain ⟨hclass, hartifact, hpolicy, haccelerators⟩ := h
  intro reference hreference
  simp only [RecordKind.references, List.cons_append, List.mem_cons, List.mem_append, List.mem_map,
    mem_optionalReference] at hreference
  rcases hreference with rfl | (⟨hset, rfl⟩ | ⟨hset, rfl⟩) | ⟨id, hid, rfl⟩
  · exact hclass
  · rcases hartifact with hempty | hregistered
    · rw [hset] at hempty
      cases hempty
    · exact hregistered
  · rcases hpolicy with hempty | hregistered
    · rw [hset] at hempty
      cases hempty
    · exact hregistered
  · exact haccelerators id hid

/-- The pools of a cluster are of registered accelerator classes. -/
def Impl.PoolsResolve (s : Impl) (pools : List CapacityPool) : Prop :=
  ∀ pool ∈ pools, pool.acceleratorClass.empty = false →
    pool.acceleratorClass ∈ s.acceleratorClasses

/-- The references of a cluster resolve if those that are not its pools' do, and its pools' do. -/
theorem resolves_cluster_iff {r : ClusterRecord} :
    s.ResolvesAll .cluster r ↔
      s.ResolvesAll .cluster { r with capacityPools := [] } ∧ s.PoolsResolve r.capacityPools := by
  constructor
  · intro h
    refine ⟨?_, ?_⟩
    · intro reference hreference
      exact h reference (references_of_noPools (r := r) rfl hreference)
    · intro pool hpool hset
      refine h ⟨.acceleratorClass, pool.acceleratorClass⟩ (List.mem_append_right _ ?_)
      exact List.mem_flatMap.mpr ⟨pool, hpool, mem_optionalReference.mpr ⟨hset, rfl⟩⟩
  · intro ⟨hrest, hpools⟩ reference hreference
    rcases List.mem_append.mp hreference with hstructural | hpool
    · refine hrest reference ?_
      simpa only [RecordKind.references, List.flatMap_nil, List.append_nil] using hstructural
    · obtain ⟨pool, hmem, hclass⟩ := List.mem_flatMap.mp hpool
      obtain ⟨hset, rfl⟩ := mem_optionalReference.mp hclass
      exact hpools pool hmem hset

theorem resolves_cluster {r : ClusterRecord} (h : checkCluster s r = .ok ()) :
    s.ResolvesAll .cluster { r with capacityPools := [] } := by
  simp only [checkCluster, bind_eq_ok, checkRegistered_eq_ok, exists_const, forM_eq_ok,
    Bool.or_eq_true] at h
  obtain ⟨hfederation, hsite, hclasses, hruntimes, hbackends, hdomain⟩ := h
  intro reference hreference
  simp only [RecordKind.references, List.flatMap_nil, List.append_nil, List.mem_append,
    List.mem_cons, List.not_mem_nil, or_false, List.mem_map, mem_optionalReference] at hreference
  rcases hreference with
    ((((rfl | rfl) | ⟨hset, rfl⟩) | ⟨id, hid, rfl⟩) | ⟨id, hid, rfl⟩) | ⟨id, hid, rfl⟩
  · exact hfederation
  · exact hsite
  · rcases hdomain with hempty | hregistered
    · rw [hset] at hempty
      cases hempty
    · exact hregistered
  · exact hclasses id hid
  · exact hruntimes id hid
  · exact hbackends id hid

/-! ## The checks of the publications -/

theorem poolsResolve_of_checkPool {pools : List CapacityPool}
    (h : pools.forM (checkPool s) = .ok ()) : s.PoolsResolve pools := by
  intro pool hpool hset
  have hcheck := forM_eq_ok.mp h pool hpool
  simp only [checkPool, bind_eq_ok] at hcheck
  obtain ⟨-, -, -, -, hclass⟩ := hcheck
  split at hclass
  · cases hclass
  · have hregistered := failIf_eq_ok.mp hclass
    simp only [hset, Bool.not_false, Bool.true_and, Bool.not_eq_false'] at hregistered
    exact hregistered

theorem resolves_placement {r : PlacementRecord} (h : checkPlacement s ctx r = .ok ()) :
    s.ResolvesAll .placement r := by
  unfold checkPlacement at h
  split at h
  · cases h
  · simp only [bind_eq_ok, failIf_eq_ok, forM_eq_ok, exists_const, Bool.not_eq_false'] at h
    obtain ⟨hworkload, hselected, hcandidates⟩ := h
    intro reference hreference
    simp only [RecordKind.references, List.cons_append, List.nil_append, List.mem_cons,
      List.mem_map] at hreference
    rcases hreference with rfl | rfl | ⟨candidate, hcandidate, rfl⟩
    · exact hworkload
    · exact hselected
    · exact hcandidates candidate hcandidate

theorem resolves_migration {r : MigrationRecord} (h : checkMigration s ctx r = .ok ()) :
    s.ResolvesAll .migration r := by
  simp only [checkMigration, bind_eq_ok, failIf_eq_ok, exists_const, Bool.not_eq_false',
    Bool.or_eq_false_iff] at h
  obtain ⟨-, hworkload, hsource, hdestination⟩ := h
  intro reference hreference
  simp only [RecordKind.references, List.mem_cons, List.not_mem_nil, or_false] at hreference
  rcases hreference with rfl | rfl | rfl
  · exact hworkload
  · exact hsource
  · exact hdestination

/-! ## One call -/

/-- A call that does not restore takes no record out. -/
theorem resolves_next {operation : Operation} (hrestores : operation.restores s = none)
    {reference : Reference} (h : s.Resolves reference) :
    (operation.next s).Resolves reference := by
  obtain ⟨k, at'⟩ := reference
  have hmem : at' ∈ s.table k := h
  rw [Std.TreeMap.mem_iff_isSome_getElem?] at hmem
  obtain ⟨record, hrecord⟩ := Option.isSome_iff_exists.mp hmem
  have hstep := Operation.recordStep hrestores k at'
  change at' ∈ (operation.next s).table k
  rw [Std.TreeMap.mem_iff_isSome_getElem?]
  rw [hrecord] at hstep
  generalize ((operation.next s).table k)[at']? = after at hstep
  cases hstep <;> rfl

/-- A store of a record whose references resolve if those of its collection do. -/
theorem resolves_store {k k' : RecordKind} (hlinked : s.LinkedAt k') {at' : k.Key}
    {r : k.Record} (hrecord : s.LinkedAt k → s.ResolvesAll k r) {key' : k'.Key}
    {record' : k'.Record} (h : ((s.store k at' r).table k')[key']? = some record') :
    s.ResolvesAll k' record' := by
  rcases s.lookup_store k at' r k' key' with hsame | ⟨rfl, -, hnew⟩
  · rw [hsame] at h
    exact hlinked key' record' h
  · rw [hnew] at h
    obtain rfl := Option.some.inj h
    exact hrecord hlinked

theorem resolves_register {k k' : RecordKind} (hlinked : s.LinkedAt k') {record : k.Record}
    (hrecord : s.ResolvesAll k record) {key' : k'.Key} {record' : k'.Record}
    (h : ((s.register clock ctx k record).table k')[key']? = some record') :
    s.ResolvesAll k' record' := by
  refine resolves_store (r := accepted clock ctx record) hlinked ?_ h
  intro _ reference hreference
  rw [references_accepted] at hreference
  exact hrecord reference hreference

/-- The publication registers a cluster, in the generation it has, with a pool of an accelerator
    class that is not registered. -/
def Publication.AddsUnknownPool (s : Impl) : Publication → Prop
  | .registerCluster record =>
    s.advancesCluster record = false ∧ ¬s.PoolsResolve record.capacityPools
  | _ => False

theorem resolves_registerCluster {k : RecordKind} (hlinked : s.LinkedAt k)
    {record : ClusterRecord} (hcheck : checkCluster s record = .ok ())
    (hpools : k = .cluster → ¬(Publication.registerCluster record).AddsUnknownPool s)
    {key' : k.Key} {record' : k.Record}
    (h : ((s.registerCluster clock ctx record).table k)[key']? = some record') :
    s.ResolvesAll k record' := by
  have hrest := resolves_cluster hcheck
  unfold Impl.registerCluster at h
  cases hadvances : s.advancesCluster record with
  | true =>
    rw [hadvances] at h
    have hlookup := s.lookup_store_store .cluster record.id
      (accepted (k := .cluster) clock ctx record)
      (ClusterRecord.advanced (accepted (k := .cluster) clock ctx record)
        (s.clusterGeneration record.id) record.generation) k key'
    refine resolves_store hlinked ?_ (hlookup.symm.trans h)
    exact fun _ => hrest
  | false =>
    rw [hadvances] at h
    by_cases hk : k = .cluster
    · subst hk
      have hresolve : s.PoolsResolve record.capacityPools := by
        by_contra hunresolved
        exact hpools rfl ⟨hadvances, hunresolved⟩
      exact resolves_register hlinked (resolves_cluster_iff.mpr ⟨hrest, hresolve⟩) h
    · rcases s.lookup_store .cluster record.id (accepted (k := .cluster) clock ctx record) k key'
        with hsame | ⟨hcluster, -, -⟩
      · exact hlinked key' record' (hsame.symm.trans h)
      · exact absurd hcluster hk

theorem mem_capacityPools_accept {pools : List CapacityPool} {bounds : Bounds}
    {generation : CapacityGeneration} (h : s.PoolsResolve pools) :
    s.PoolsResolve (Sorting.stableSort CapacityPool.lt
      (pools.map fun pool => pool.accept bounds ctx generation)) := by
  intro pool hpool
  obtain ⟨published, hmem, rfl⟩ :=
    List.mem_map.mp ((Sorting.perm_stableSort CapacityPool.lt _).mem_iff.mp hpool)
  exact h published hmem

/-- Whatever is stored after an accepted publication refers to records that were stored before. -/
theorem Publication.resolves_written {k : RecordKind} (hlinked : s.LinkedAt k) {p : Publication}
    {duplicate : Bool} (haccepts : p.Accepts s ctx duplicate)
    (hpools : k = .cluster → ¬p.AddsUnknownPool s) {key' : k.Key} {record' : k.Record}
    (h : ((p.written s clock ctx).table k)[key']? = some record') : s.ResolvesAll k record' := by
  have hnone : ∀ (k : RecordKind) (record : k.Record), k.references record = [] →
      s.ResolvesAll k record := by
    intro k record hempty reference hreference
    rw [hempty] at hreference
    cases hreference
  cases p with
  | registerFederation r => exact resolves_register hlinked (hnone .federation r rfl) h
  | registerSite r => exact resolves_register hlinked (resolves_site haccepts.2.1) h
  | registerCluster r => exact resolves_registerCluster hlinked haccepts.2.1 hpools h
  | registerAcceleratorClass r =>
    exact resolves_register hlinked (hnone .acceleratorClass r rfl) h
  | registerRuntime r => exact resolves_register hlinked (hnone .runtime r rfl) h
  | registerBackend r => exact resolves_register hlinked (resolves_backend haccepts.2.1) h
  | registerDomain r => exact resolves_register hlinked (resolves_domain haccepts.2.1) h
  | registerPolicy r => exact resolves_register hlinked (hnone .policy r rfl) h
  | registerArtifact r => exact resolves_register hlinked (hnone .artifact r rfl) h
  | registerWorkloadClass r => exact resolves_register hlinked (hnone .workloadClass r rfl) h
  | registerWorkload r => exact resolves_register hlinked (resolves_workload haccepts.2.1) h
  | retireCluster cluster generation reason =>
    obtain ⟨record, hcluster, -⟩ := haccepts
    simp only [written, hcluster] at h
    have hresolves : s.LinkedAt .cluster →
        s.ResolvesAll .cluster (record.retire clock ctx generation reason) :=
      fun hclusters => hclusters cluster record hcluster
    exact resolves_store hlinked hresolves h
  | publishCapability cluster clusterGeneration generation capabilities =>
    obtain ⟨-, record, hcluster, -⟩ := haccepts
    simp only [written, hcluster] at h
    have hresolves : s.LinkedAt .cluster → s.ResolvesAll .cluster
        ((record.advanceTo clusterGeneration).withCapabilities clock ctx generation
          capabilities) := by
      intro hclusters reference hreference
      refine hclusters cluster record hcluster reference ?_
      rw [← references_advanceTo record clusterGeneration]
      exact hreference
    unfold Impl.storeAdvanced at h
    split at h
    · have hlookup := s.lookup_store_store .cluster cluster (record.advanceTo clusterGeneration)
        ((record.advanceTo clusterGeneration).withCapabilities clock ctx generation capabilities)
        k key'
      exact resolves_store hlinked hresolves (hlookup.symm.trans h)
    · exact resolves_store hlinked hresolves h
  | publishCapacity cluster clusterGeneration generation pools =>
    obtain ⟨-, record, hcluster, -, -, -, -, -, hchecked, -⟩ := haccepts
    simp only [written, hcluster] at h
    refine resolves_store hlinked ?_ h
    intro hclusters
    have hstored : s.ResolvesAll .cluster (record.advanceTo clusterGeneration) := by
      intro reference hreference
      rw [references_advanceTo] at hreference
      exact hclusters cluster record hcluster reference hreference
    exact resolves_cluster_iff.mpr ⟨(resolves_cluster_iff.mp hstored).1,
      mem_capacityPools_accept (poolsResolve_of_checkPool hchecked)⟩
  | publishPlacement record =>
    have hresolves := resolves_placement haccepts.2.2.1
    exact resolves_store (k := .placement)
      (r := record.accept clock ctx (s.latestPlacementIsNewer record)) hlinked
      (fun _ => hresolves) h
  | publishMigration record =>
    have hresolves : s.ResolvesAll .migration record := resolves_migration haccepts.2.2.1
    by_cases hk : k = .migration
    · subst hk
      have hlookup := (lookup_recordMigration s clock ctx record key').symm.trans h
      simp only at hlookup
      have hstored : ∀ {r : MigrationRecord},
          (if record.id = key' then some (record.accept clock ctx) else s.migrations[key']?) =
            some r → s.ResolvesAll .migration r := by
        intro r hr
        split at hr
        · obtain rfl := Option.some.inj hr
          exact hresolves
        · exact hlinked key' r hr
      split at hlookup
      · obtain ⟨r, hr, rfl⟩ := Option.map_eq_some_iff.mp hlookup
        intro reference hreference
        rw [references_superseded] at hreference
        exact hstored hr reference hreference
      · exact hstored hlookup
    · simp only [written, table_recordMigration s clock ctx record hk] at h
      exact hlinked key' record' h
  | publishMigrationStage migration generation stage detail =>
    obtain ⟨record, hmigration, -⟩ := haccepts
    simp only [written, hmigration] at h
    refine resolves_store hlinked ?_ h
    intro hmigrations reference hreference
    rw [references_append] at hreference
    exact hmigrations migration record hmigration reference hreference
  | publishPortability record =>
    refine resolves_store (k := .portability) (r := record.accept clock ctx) hlinked ?_ h
    intro _ reference hreference
    change reference ∈ [(⟨.workload, record.workload⟩ : Reference), ⟨.cluster, record.destination⟩]
      at hreference
    simp only [List.mem_cons, List.not_mem_nil, or_false] at hreference
    rcases hreference with rfl | rfl
    · exact haccepts.2.1
    · exact haccepts.2.2.1

/-- The call is an accepted registration that adds a pool of an unknown accelerator class. -/
def Operation.AddsUnknownPool (s : Impl) : Operation → Prop
  | .submit _ ctx (.publish p) =>
    (∃ check, Admitted s ctx check ∧ p.Accepts s ctx check.duplicateSequence) ∧
      p.AddsUnknownPool s
  | _ => False

theorem linkedAt_next {operation : Operation} {k : RecordKind} (hlinked : s.LinkedAt k)
    (hrestores : operation.restores s = none)
    (hpools : k = .cluster → ¬operation.AddsUnknownPool s) : (operation.next s).LinkedAt k := by
  intro at' record hrecord reference hreference
  refine resolves_next hrestores ?_
  have hstep := Operation.recordStep hrestores k at'
  generalize hfound : (s.table k)[at']? = found at hstep
  rw [hrecord] at hstep
  cases hstep with
  | unchanged => exact hlinked at' record hfound reference hreference
  | written hsubmit hadmitted haccepts hwritten =>
    subst hsubmit
    rw [collections_of_accepts hadmitted haccepts] at hrecord
    refine Publication.resolves_written hlinked haccepts ?_ hrecord reference hreference
    intro hk hadds
    exact hpools hk ⟨⟨_, hadmitted, haccepts⟩, hadds⟩
  | swept key' old =>
    rw [references_sweep] at hreference
    exact hlinked at' old hfound reference hreference
  | invalidated reason old =>
    exact hlinked at' old hfound reference (references_of_noPools rfl hreference)

theorem not_linked_of_addsUnknownPool {operation : Operation} (h : operation.AddsUnknownPool s) :
    ¬(operation.next s).Linked := by
  intro hlinked
  cases operation with
  | submit clock ctx request =>
    cases request with
    | registerPublisher => exact h
    | publish p =>
      obtain ⟨⟨check, hadmitted, haccepts⟩, hadds⟩ := h
      have hcollections := @collections_of_accepts s clock ctx _ _ hadmitted haccepts
      cases p with
      | registerCluster record =>
        obtain ⟨hadvances, hpools⟩ := hadds
        have hlookup := lookup_registerCluster s clock ctx record record.id
        rw [if_pos rfl, hadvances] at hlookup
        have hclasses : (s.registerCluster clock ctx record).acceleratorClasses =
            s.acceleratorClasses := by
          simp only [Impl.registerCluster, hadvances]
          rfl
        rw [hcollections] at hlinked
        have hresolves := hlinked .cluster record.id (accepted (k := .cluster) clock ctx record)
          hlookup
        have hstored := (@resolves_cluster_iff (s.registerCluster clock ctx record) _).mp hresolves
        refine hpools fun pool hpool hset => ?_
        rw [← hclasses]
        exact hstored.2 pool hpool hset
      | _ => exact hadds
  | _ => exact h

/-! ## Restores -/

/-- The references of a durable state that its validation does not look at. -/
structure DurableState.ResolvesRest (d : DurableState) : Prop where
  clusters : ∀ r ∈ d.clusters, (r.domain.empty = false → d.Names .domain r.domain) ∧
    ∀ id ∈ r.backends, d.Names .backend id
  backends : ∀ r ∈ d.backends, d.Names .runtime r.runtime
  domains : ∀ r ∈ d.domains, d.Names .federation r.federation ∧
    ∀ id ∈ r.clusters, d.Names .cluster id
  workloads : ∀ r ∈ d.workloads, ∀ id ∈ r.acceptableAcceleratorClasses,
    d.Names .acceleratorClass id
  portability : ∀ r ∈ d.portability, d.Names .cluster r.destination

theorem resolves_restored_iff {d : DurableState} {k : RecordKind} {id : k.Key} :
    (restoredState s d).Resolves ⟨k, id⟩ ↔ d.Names k id := by
  change id ∈ (restoredState s d).table k ↔ _
  rw [Std.TreeMap.mem_iff_isSome_getElem?, Option.isSome_iff_exists]
  constructor
  · intro ⟨record, hrecord⟩
    obtain ⟨r, hr, hkey, -⟩ := exists_of_restored hrecord
    exact ⟨r, hr, hkey⟩
  · intro ⟨r, hr, hkey⟩
    rw [show (restoredState s d).toCollections = restoredCollections d from rfl,
      restoredCollections_table, ← hkey]
    exact Tables.exists_emplaceAll_of_mem key (restoredRecord k) hr

/-- The references of a record that outlive a restart resolve. -/
def DurableState.LinksOf (d : DurableState) (k : RecordKind) (record : k.Record) : Prop :=
  ∀ reference ∈ k.references (restoredRecord k record), d.Names reference.1 reference.2

theorem references_demote {k : RecordKind} (record : k.Record) :
    k.references (DurableState.demote record) = k.references record := by
  unfold DurableState.demote
  split
  · exact references_withCurrentness k _ _
  · rfl

/-- For every record of the state there is a stored one that makes the same references. -/
theorem exists_restored_references {d : DurableState} {bounds : Bounds} (hvalid : d.Valid bounds)
    {k : RecordKind} {r : k.Record} (hr : r ∈ d.collection k) :
    ∃ record, ((restoredState s d).table k)[key r]? = some record ∧
      k.references record = k.references (restoredRecord k r) := by
  by_cases hk : k = .portability
  · subst hk
    obtain ⟨b, -, hkey, hlookup⟩ := @lookup_restored_portability s d r hr
    have hkeys := PortabilityKey.mk.injEq .. |>.mp hkey
    refine ⟨_, hlookup, ?_⟩
    change [(⟨.workload, b.workload⟩ : Reference), ⟨.cluster, b.destination⟩] =
      [⟨.workload, r.workload⟩, ⟨.cluster, r.destination⟩]
    rw [hkeys.1, hkeys.2]
  · exact ⟨_, lookup_restored (hvalid.unique k hk) hr, rfl⟩

theorem linked_restored_iff {d : DurableState} {bounds : Bounds} (hvalid : d.Valid bounds) :
    (restoredState s d).Linked ↔ ∀ (k : RecordKind), ∀ r ∈ d.collection k, d.LinksOf k r := by
  constructor
  · intro h k r hr reference hreference
    obtain ⟨record, hrecord, hreferences⟩ := @exists_restored_references s d bounds hvalid k r hr
    rw [← hreferences] at hreference
    exact resolves_restored_iff.mp (h k (key r) record hrecord reference hreference)
  · intro h k at' record hrecord reference hreference
    obtain ⟨r, hr, -, rfl⟩ := exists_of_restored hrecord
    exact resolves_restored_iff.mpr (h k r hr reference hreference)

theorem linksOf_cluster {d : DurableState} {bounds : Bounds} (hvalid : d.Valid bounds)
    (hrest : d.ResolvesRest) {r : ClusterRecord} (hr : r ∈ d.clusters) : d.LinksOf .cluster r := by
  obtain ⟨-, hfederation, hsite⟩ := hvalid.clusters r hr
  obtain ⟨hclasses, hruntimes⟩ := hvalid.clusterReferences r hr
  obtain ⟨hdomain, hbackends⟩ := hrest.clusters r hr
  intro reference hreference
  simp only [RecordKind.references, restoredRecord, DurableState.normalizeCluster,
    List.flatMap_nil, List.append_nil, List.mem_append, List.mem_cons, List.not_mem_nil, or_false,
    List.mem_map, mem_optionalReference] at hreference
  rcases hreference with
    ((((rfl | rfl) | ⟨hset, rfl⟩) | ⟨id, hid, rfl⟩) | ⟨id, hid, rfl⟩) | ⟨id, hid, rfl⟩
  · exact hfederation
  · exact hsite
  · exact hdomain hset
  · exact hclasses id hid
  · exact hruntimes id hid
  · exact hbackends id hid

theorem linksOf_workload {d : DurableState} {bounds : Bounds} (hvalid : d.Valid bounds)
    (hrest : d.ResolvesRest) {r : WorkloadRecord} (hr : r ∈ d.workloads) :
    d.LinksOf .workload r := by
  obtain ⟨-, hclass, hartifact, hpolicy⟩ := hvalid.workloads r hr
  intro reference hreference
  rw [show restoredRecord .workload r = DurableState.demote r from rfl,
    references_demote (k := .workload)] at hreference
  simp only [RecordKind.references, List.cons_append, List.mem_cons, List.mem_append, List.mem_map,
    mem_optionalReference] at hreference
  rcases hreference with rfl | (⟨hset, rfl⟩ | ⟨hset, rfl⟩) | ⟨id, hid, rfl⟩
  · exact hclass
  · exact hartifact hset
  · exact hpolicy hset
  · exact hrest.workloads r hr id hid

/-- A valid durable state keeps every reference exactly when those resolve that its validation
    does not look at. -/
theorem linksOf_iff {d : DurableState} {bounds : Bounds} (hvalid : d.Valid bounds) :
    (∀ (k : RecordKind), ∀ r ∈ d.collection k, d.LinksOf k r) ↔ d.ResolvesRest := by
  constructor
  · intro h
    constructor
    case clusters =>
      intro r hr
      refine ⟨fun hset => h .cluster r hr ⟨.domain, r.domain⟩ ?_, fun id hid =>
        h .cluster r hr ⟨.backend, id⟩ ?_⟩
      · simp [RecordKind.references, restoredRecord, DurableState.normalizeCluster,
          mem_optionalReference, hset]
      · simp [RecordKind.references, restoredRecord, DurableState.normalizeCluster,
          mem_optionalReference, hid]
    case backends =>
      intro r hr
      refine h .backend r hr ⟨.runtime, r.runtime⟩ ?_
      rw [show restoredRecord .backend r = DurableState.demote r from rfl,
        references_demote (k := .backend)]
      exact List.mem_singleton.mpr rfl
    case domains =>
      intro r hr
      have hsame : RecordKind.references .domain (restoredRecord .domain r) =
          ⟨.federation, r.federation⟩ :: r.clusters.map (⟨.cluster, ·⟩) :=
        references_demote (k := .domain) r
      refine ⟨h .domain r hr ⟨.federation, r.federation⟩ ?_, fun id hid =>
        h .domain r hr ⟨.cluster, id⟩ ?_⟩
      · rw [hsame]
        exact List.mem_cons_self
      · rw [hsame]
        exact List.mem_cons_of_mem _ (List.mem_map.mpr ⟨id, hid, rfl⟩)
    case workloads =>
      intro r hr id hid
      refine h .workload r hr ⟨.acceleratorClass, id⟩ ?_
      rw [show restoredRecord .workload r = DurableState.demote r from rfl,
        references_demote (k := .workload)]
      exact List.mem_append_right _ (List.mem_map.mpr ⟨id, hid, rfl⟩)
    case portability =>
      intro r hr
      exact h .portability r hr ⟨.cluster, r.destination⟩
        (List.mem_cons_of_mem _ (List.mem_singleton.mpr rfl))
  · intro hrest k r hr
    have hnone : k.references (restoredRecord k r) = [] → d.LinksOf k r := by
      intro hempty reference hreference
      rw [hempty] at hreference
      cases hreference
    cases k with
    | federation => exact hnone (references_demote (k := .federation) r)
    | acceleratorClass => exact hnone (references_demote (k := .acceleratorClass) r)
    | runtime => exact hnone (references_demote (k := .runtime) r)
    | policy => exact hnone (references_demote (k := .policy) r)
    | artifact => exact hnone (references_demote (k := .artifact) r)
    | workloadClass => exact hnone (references_demote (k := .workloadClass) r)
    | cluster => exact linksOf_cluster hvalid hrest hr
    | workload => exact linksOf_workload hvalid hrest hr
    | site =>
      intro reference hreference
      rw [show restoredRecord .site r = DurableState.demote r from rfl,
        references_demote (k := .site)] at hreference
      rw [List.mem_singleton.mp hreference]
      exact (hvalid.sites r hr).2
    | backend =>
      intro reference hreference
      rw [show restoredRecord .backend r = DurableState.demote r from rfl,
        references_demote (k := .backend)] at hreference
      rw [List.mem_singleton.mp hreference]
      exact hrest.backends r hr
    | domain =>
      intro reference hreference
      rw [show restoredRecord .domain r = DurableState.demote r from rfl,
        references_demote (k := .domain)] at hreference
      simp only [RecordKind.references, List.mem_cons, List.mem_map] at hreference
      rcases hreference with rfl | ⟨id, hid, rfl⟩
      · exact (hrest.domains r hr).1
      · exact (hrest.domains r hr).2 id hid
    | placement =>
      obtain ⟨-, hworkload, hselected, hcandidates⟩ := hvalid.placements r hr
      intro reference hreference
      change reference ∈ [(⟨.workload, r.workload⟩ : Reference), ⟨.cluster, r.selected⟩] ++
        r.candidates.map fun candidate => ⟨.cluster, candidate.cluster⟩ at hreference
      simp only [List.cons_append, List.nil_append, List.mem_cons, List.mem_map] at hreference
      rcases hreference with rfl | rfl | ⟨candidate, hcandidate, rfl⟩
      · exact hworkload
      · exact hselected
      · exact hcandidates candidate hcandidate
    | migration =>
      obtain ⟨-, hworkload, hsource, hdestination⟩ := hvalid.migrations r hr
      intro reference hreference
      change reference ∈ [(⟨.workload, r.workload⟩ : Reference), ⟨.cluster, r.source⟩,
        ⟨.cluster, r.destination⟩] at hreference
      simp only [List.mem_cons, List.not_mem_nil, or_false] at hreference
      rcases hreference with rfl | rfl | rfl
      · exact hworkload
      · exact hsource
      · exact hdestination
    | portability =>
      intro reference hreference
      change reference ∈ [(⟨.workload, r.workload⟩ : Reference), ⟨.cluster, r.destination⟩]
        at hreference
      simp only [List.mem_cons, List.not_mem_nil, or_false] at hreference
      rcases hreference with rfl | rfl
      · exact (hvalid.portability r hr).2
      · exact hrest.portability r hr

/-! ## Runs -/

/-- The call keeps references: it adds no pool of an unknown accelerator class, and what it
    restores resolves the references that are not validated. -/
def Operation.KeepsReferences (s : Impl) (operation : Operation) : Prop :=
  ¬operation.AddsUnknownPool s ∧ ∀ d, operation.restores s = some d → d.ResolvesRest

theorem linked_next_iff {operation : Operation} (hlinked : s.Linked) :
    (operation.next s).Linked ↔ operation.KeepsReferences s := by
  cases hrestores : operation.restores s with
  | none =>
    constructor
    · intro h
      refine ⟨fun hadds => not_linked_of_addsUnknownPool hadds h, ?_⟩
      intro d hd
      rw [hrestores] at hd
      cases hd
    · intro h
      exact fun k => linkedAt_next (hlinked k) hrestores fun _ => h.1
  | some d =>
    have hvalid := valid_of_restores hrestores
    rw [next_of_restores hrestores, linked_restored_iff hvalid, linksOf_iff hvalid]
    constructor
    · intro h
      refine ⟨?_, ?_⟩
      · intro hadds
        cases operation with
        | submit clock ctx request => cases hrestores
        | _ => exact hadds
      · intro d' hd'
        obtain rfl := Option.some.inj (hrestores.symm.trans hd')
        exact h
    · intro h
      exact h.2 d hrestores

/-- Referential integrity holds in every state of a run exactly when every call of the run keeps
    references. -/
theorem references_resolve_iff (bounds : Bounds) (operations : List Operation) :
    (∀ before, before <+: operations → ((Impl.new bounds).run before).Linked) ↔
      (Impl.new bounds).Along (fun s operation => operation.KeepsReferences s) operations := by
  have hstart : (Impl.new bounds).Linked := by
    intro k at' record hrecord
    have hempty : (Impl.new bounds).table k = ∅ := by cases k <;> rfl
    rw [hempty, Std.TreeMap.getElem?_emptyc] at hrecord
    cases hrecord
  generalize Impl.new bounds = start at hstart
  constructor
  · intro h
    refine Runs.along_iff_before.mpr fun before operation hstart => ?_
    have hbefore := h before ((List.prefix_append before [operation]).trans hstart)
    have hafter := h (before ++ [operation]) hstart
    rw [Impl.run, Runs.run_concat] at hafter
    exact (linked_next_iff hbefore).mp hafter
  · intro h before hstart
    obtain ⟨rest, rfl⟩ := hstart
    refine Runs.invariant (I := fun t : Impl => t.Linked) ?_ ((Runs.along_append _ _).mp h).1 hstart
    intro t operation hkeeps ht
    exact (linked_next_iff ht).mpr hkeeps

/-- A cluster that comes with a pool of an accelerator class nobody registered. -/
def Deployment.pooled : ClusterRecord :=
  { Deployment.standby with
    capacityPools := [{ poolId := ⟨.ofString "pool"⟩, acceleratorClass := ⟨.ofString "missing"⟩ }] }

/-- A backend whose runtime is not in the state passes the validation. -/
example :
    let backend : BackendRecord :=
      { id := ⟨.ofString "backend"⟩, generation := ⟨1⟩, runtime := ⟨.ofString "missing"⟩ }
    DurableState.validate { backends := [backend] } .default = .ok () := by decide +kernel

/-- Not every reachable state is linked: a cluster may be registered with a pool of an unknown
    accelerator class. -/
theorem registerCluster_not_linked : ¬∀ s : Impl, Reachable s → s.Linked := by
  intro h
  let s := Deployment.state.run [Deployment.publish 5 (.registerCluster Deployment.pooled)]
  have hlinked := h s (Deployment.reachable_state.run _)
  have hcluster : ((s.clusters[Deployment.pooled.id]?).map (·.capacityPools)) =
      some Deployment.pooled.capacityPools := by decide +kernel
  obtain ⟨record, hrecord, hpools⟩ := Option.map_eq_some_iff.mp hcluster
  have hresolves := (resolves_cluster_iff.mp (hlinked .cluster Deployment.pooled.id record
    hrecord)).2
  rw [hpools] at hresolves
  have hmissing := hresolves _ List.mem_cons_self (by decide +kernel)
  revert hmissing
  decide +kernel

end FederationObservatory
