import FederationObservatory.Observatory.Durable

/-!
# What a durable state that validates satisfies

`DurableState::validate` is a long chain of checks. `DurableState.Valid` lists what they come to:
sizes within the bounds, keys without repetitions (except those of the portability assessments,
which are not looked at), the references of sites, clusters, workloads, placements, migrations and
assessments, and nothing that is marked current.
-/

namespace FederationObservatory

open Sorting StoredRecord

namespace DurableState

variable {d : DurableState} {bounds : Bounds}

/-- A record of the collection has this key. -/
def Names (d : DurableState) (k : RecordKind) (id : k.Key) : Prop :=
  ∃ record ∈ d.collection k, key record = id

/-- What `DurableState::validate` checks. -/
structure Valid (d : DurableState) (bounds : Bounds) : Prop where
  formatVersion : d.formatVersion = stateFormatVersion
  counts : ∀ count ∈ d.counts bounds, count.1 ≤ count.2.1
  unique : ∀ k : RecordKind, k ≠ .portability → ((d.collection k).map key).Nodup
  uniqueWatermarks : (d.publisherWatermarks.map PublisherWatermark.key).Nodup
  federations : ∀ r ∈ d.federations, r.validate = .ok ()
  sites : ∀ r ∈ d.sites, r.validate = .ok () ∧ d.Names .federation r.federation
  clusters : ∀ r ∈ d.clusters, r.validate = .ok () ∧ d.Names .federation r.federation ∧
    d.Names .site r.site
  clusterReferences : ∀ r ∈ d.clusters,
    (∀ id ∈ r.acceleratorClasses, d.Names .acceleratorClass id) ∧
      ∀ id ∈ r.runtimes, d.Names .runtime id
  workloads : ∀ r ∈ d.workloads, r.validate = .ok () ∧ d.Names .workloadClass r.workloadClass ∧
    (r.artifact.empty = false → d.Names .artifact r.artifact) ∧
    (r.policy.empty = false → d.Names .policy r.policy)
  placements : ∀ r ∈ d.placements, r.validate = .ok () ∧ d.Names .workload r.workload ∧
    d.Names .cluster r.selected ∧ ∀ candidate ∈ r.candidates, d.Names .cluster candidate.cluster
  migrations : ∀ r ∈ d.migrations, r.validate = .ok () ∧ d.Names .workload r.workload ∧
    d.Names .cluster r.source ∧ d.Names .cluster r.destination
  portability : ∀ r ∈ d.portability, r.validate = .ok () ∧ d.Names .workload r.workload
  normalized : d.isNormalized = .ok ()

/-! ## One check at a time -/

theorem checkRecord_eq_ok {status : Status} {message : String} {u : Unit} :
    checkRecord status message = .ok u ↔ status = .ok () := by
  cases status <;> simp [checkRecord, Except.mapError]

theorem checkReference_eq_ok {tag : IdTag} {ids : List (StrongId tag)} {id : StrongId tag}
    {message : String} {detail : Text} {u : Unit} :
    checkReference ids id message detail = .ok u ↔ id ∈ ids := by
  simp [checkReference, failIf_eq_ok]

theorem validateCounts_eq_ok {u : Unit} :
    d.validateCounts bounds = .ok u ↔ ∀ count ∈ d.counts bounds, count.1 ≤ count.2.1 := by
  simp only [validateCounts, forM_eq_ok, failIf_eq_ok, decide_eq_false_iff_not, Nat.not_lt]

theorem uniqueIds_eq_ok {tag : IdTag} {ids : List (StrongId tag)} {what : String} {u : Unit} :
    uniqueIds ids what = .ok u ↔ ids.Nodup := by
  have hinjective : Function.Injective fun id : StrongId tag => id.value := by
    intro a b h
    exact StrongId.ext h
  simp only [uniqueIds, failIf_eq_ok, hasDuplicates_eq_false]
  exact List.nodup_map_iff hinjective

theorem lt_eq_less_key (a b : PublisherWatermark) : less a.key b.key = PublisherWatermark.lt a b := by
  unfold PublisherWatermark.lt less
  change ((compare a.publisher b.publisher).then (compare a.boot b.boot) == .lt) = _
  by_cases h : a.publisher = b.publisher
  · simp [h]
  · have hne : compare a.publisher b.publisher ≠ .eq := fun heq => h (Std.LawfulEqOrd.eq_of_compare heq)
    simp only [ne_eq, h, not_false_eq_true, if_true]
    cases hcmp : compare a.publisher b.publisher with
    | eq => exact absurd hcmp hne
    | lt => rfl
    | gt => rfl

theorem repeatedWatermark_eq_none (watermarks : List PublisherWatermark) :
    repeatedWatermark watermarks = none ↔
      adjacentFind (watermarks.map PublisherWatermark.key) = false := by
  fun_induction repeatedWatermark watermarks with
  | case1 a b rest h => simp [adjacentFind, PublisherWatermark.key, h.1, h.2]
  | case2 a b rest h ih =>
    have hkey : a.key ≠ b.key := by
      intro heq
      exact h (PublisherKey.mk.injEq .. |>.mp heq)
    simp [adjacentFind, hkey, ih]
  | case3 watermarks h =>
    rcases watermarks with _ | ⟨a, _ | ⟨b, rest⟩⟩
    · simp [adjacentFind]
    · simp [adjacentFind]
    · exact absurd rfl (h a b rest)

theorem repeatedWatermark_sorted_eq_none :
    repeatedWatermark (stableSort PublisherWatermark.lt d.publisherWatermarks) = none ↔
      (d.publisherWatermarks.map PublisherWatermark.key).Nodup := by
  rw [repeatedWatermark_eq_none, ← stableSort_map _ less _ lt_eq_less_key]
  exact hasDuplicates_eq_false

theorem validateUnique_eq_ok {u : Unit} :
    d.validateUnique = .ok u ↔
      (∀ k : RecordKind, k ≠ .portability → ((d.collection k).map key).Nodup) ∧
        (d.publisherWatermarks.map PublisherWatermark.key).Nodup := by
  rw [← repeatedWatermark_sorted_eq_none]
  simp only [validateUnique, bind_eq_ok, uniqueIds_eq_ok, exists_const]
  cases hrepeated : repeatedWatermark
      (stableSort PublisherWatermark.lt d.publisherWatermarks) with
  | some publisher => simp [fail]
  | none =>
    simp only [pure, Except.pure, and_true]
    constructor
    · rintro ⟨hfederation, hsite, hcluster, hclass, hruntime, hbackend, hdomain, hpolicy,
        hartifact, hworkloadClass, hworkload, hplacement, hmigration⟩
      intro k hk
      cases k with
      | federation => exact hfederation
      | site => exact hsite
      | cluster => exact hcluster
      | acceleratorClass => exact hclass
      | runtime => exact hruntime
      | backend => exact hbackend
      | domain => exact hdomain
      | policy => exact hpolicy
      | artifact => exact hartifact
      | workloadClass => exact hworkloadClass
      | workload => exact hworkload
      | placement => exact hplacement
      | migration => exact hmigration
      | portability => exact absurd rfl hk
    · intro h
      exact ⟨h .federation (by decide), h .site (by decide), h .cluster (by decide),
        h .acceleratorClass (by decide), h .runtime (by decide), h .backend (by decide),
        h .domain (by decide), h .policy (by decide), h .artifact (by decide),
        h .workloadClass (by decide), h .workload (by decide), h .placement (by decide),
        h .migration (by decide)⟩

/-! ## The whole chain -/

theorem validateSite_eq_ok {r : SiteRecord} :
    d.validateSite r = .ok () ↔ r.validate = .ok () ∧ d.Names .federation r.federation := by
  simp only [validateSite, bind_eq_ok, checkRecord_eq_ok, checkReference_eq_ok, exists_const,
    List.mem_map]
  rfl

theorem validateCluster_eq_ok {r : ClusterRecord} :
    d.validateCluster r = .ok () ↔
      r.validate = .ok () ∧ d.Names .federation r.federation ∧ d.Names .site r.site := by
  simp only [validateCluster, bind_eq_ok, checkRecord_eq_ok, checkReference_eq_ok, exists_const,
    List.mem_map]
  rfl

theorem validateClusterReferences_eq_ok {r : ClusterRecord} :
    d.validateClusterReferences r = .ok () ↔
      (∀ id ∈ r.acceleratorClasses, d.Names .acceleratorClass id) ∧
        ∀ id ∈ r.runtimes, d.Names .runtime id := by
  simp only [validateClusterReferences, bind_eq_ok, forM_eq_ok, checkReference_eq_ok, exists_const,
    List.mem_map]
  rfl

theorem validateWorkload_eq_ok {r : WorkloadRecord} :
    d.validateWorkload r = .ok () ↔
      r.validate = .ok () ∧ d.Names .workloadClass r.workloadClass ∧
        (r.artifact.empty = false → d.Names .artifact r.artifact) ∧
        (r.policy.empty = false → d.Names .policy r.policy) := by
  simp only [validateWorkload, bind_eq_ok, checkRecord_eq_ok, checkReference_eq_ok, failIf_eq_ok,
    exists_const, List.mem_map, Bool.and_eq_false_imp, Bool.not_eq_true', Bool.not_eq_false',
    List.contains_iff_mem]
  rfl

theorem validatePlacement_eq_ok {r : PlacementRecord} :
    d.validatePlacement r = .ok () ↔
      r.validate = .ok () ∧ d.Names .workload r.workload ∧ d.Names .cluster r.selected ∧
        ∀ candidate ∈ r.candidates, d.Names .cluster candidate.cluster := by
  simp only [validatePlacement, bind_eq_ok, forM_eq_ok, checkRecord_eq_ok, checkReference_eq_ok,
    exists_const, List.mem_map]
  rfl

theorem validateMigration_eq_ok {r : MigrationRecord} :
    d.validateMigration r = .ok () ↔
      r.validate = .ok () ∧ d.Names .workload r.workload ∧ d.Names .cluster r.source ∧
        d.Names .cluster r.destination := by
  simp only [validateMigration, bind_eq_ok, checkRecord_eq_ok, checkReference_eq_ok, failIf_eq_ok,
    exists_const, List.mem_map, Bool.or_eq_false_iff, Bool.not_eq_false', List.contains_iff_mem]
  rfl

theorem validatePortability_eq_ok {r : PortabilityAssessment} :
    d.validatePortability r = .ok () ↔ r.validate = .ok () ∧ d.Names .workload r.workload := by
  simp only [validatePortability, bind_eq_ok, checkRecord_eq_ok, checkReference_eq_ok,
    exists_const, List.mem_map]
  rfl

/-- The state validates exactly when it is valid. -/
theorem validate_eq_ok : d.validate bounds = .ok () ↔ d.Valid bounds := by
  simp only [validate, bind_eq_ok, failIf_eq_ok, bne_eq_false_iff_eq, exists_const,
    validateCounts_eq_ok, validateUnique_eq_ok, forM_eq_ok, checkRecord_eq_ok, validateSite_eq_ok,
    validateCluster_eq_ok, validateClusterReferences_eq_ok, validateWorkload_eq_ok,
    validatePlacement_eq_ok, validateMigration_eq_ok, validatePortability_eq_ok]
  constructor
  · intro ⟨hversion, hcounts, ⟨hunique, hwatermarks⟩, hfederations, hsites, hclusters, hreferences,
      hworkloads, hplacements, hmigrations, hportability, hnormalized⟩
    exact ⟨hversion, hcounts, hunique, hwatermarks, hfederations, hsites, hclusters, hreferences,
      hworkloads, hplacements, hmigrations, hportability, hnormalized⟩
  · intro h
    exact ⟨h.formatVersion, h.counts, ⟨h.unique, h.uniqueWatermarks⟩, h.federations, h.sites,
      h.clusters, h.clusterReferences, h.workloads, h.placements, h.migrations, h.portability,
      h.normalized⟩

end DurableState

end FederationObservatory
