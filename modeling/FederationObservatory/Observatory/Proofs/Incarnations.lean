import FederationObservatory.Observatory.Proofs.Clusters
import FederationObservatory.Observatory.Proofs.Generations
import FederationObservatory.Observatory.Proofs.Keys

/-!
# Incarnations of a cluster

A newer generation of a cluster is a new incarnation of it, and what was observed of the previous
one is no evidence about the new one. `register_cluster` clears the pools and the readiness when it
advances the generation. `publish_capability` and `publish_capacity` advance it too: the first keeps
both, the second replaces the pools and keeps the readiness.
-/

namespace FederationObservatory

variable {s : Impl} {clock : Clock} {ctx : PublicationContext}

/-! ## Stored clusters have a generation -/

/-- Every stored cluster has a generation. -/
def Impl.ClustersGenerated (s : Impl) : Prop :=
  ∀ (cluster : ClusterId) (record : ClusterRecord), s.clusters[cluster]? = some record →
    record.generation.isSet = true

theorem isSet_of_validate {record : ClusterRecord} (h : record.validate = .ok ()) :
    record.generation.isSet = true := by
  simp only [ClusterRecord.validate, bind_eq_ok, failIf_eq_ok, exists_const] at h
  simpa using h.2.1

theorem clustersGenerated_next (h : s.ClustersGenerated) (operation : Operation) :
    (operation.next s).ClustersGenerated := by
  intro cluster record hrecord
  cases hrestores : operation.restores s with
  | some d =>
    rw [next_of_restores hrestores] at hrecord
    obtain ⟨r, hr, -, hrestored⟩ := exists_of_restored (k := .cluster) hrecord
    have hvalid := ((valid_of_restores hrestores).clusters r hr).1
    have hgeneration : (restoredRecord .cluster r).generation = r.generation := rfl
    rw [← hrestored, hgeneration]
    exact isSet_of_validate hvalid
  | none =>
    cases hold : s.clusters[cluster]? with
    | some old =>
      obtain ⟨record', hrecord', hle⟩ := generation_le_next (k := .cluster) hrestores hold
      obtain rfl := Option.some.inj (hrecord'.symm.trans hrecord)
      exact isSet_of_le (h cluster old hold) hle
    | none =>
      have hstep := Operation.recordStep hrestores .cluster cluster
      rw [show (s.table .cluster)[cluster]? = none from hold,
        show ((operation.next s).table .cluster)[cluster]? = some record from hrecord] at hstep
      -- only a registration writes where there was no cluster
      generalize hfound : (none : Option ClusterRecord) = found at hstep
      cases hstep with
      | unchanged => cases hfound
      | written hsubmit hadmitted haccepts hwritten =>
        cases hwritten with
        | registered _ hk => exact absurd rfl hk
        | registeredCluster record =>
          have hvalid : record.validate = .ok () := haccepts.1
          change record.generation.isSet = true
          exact isSet_of_validate hvalid
        | advancedCluster record =>
          have hvalid : record.validate = .ok () := haccepts.1
          change record.generation.isSet = true
          exact isSet_of_validate hvalid
        | _ => cases hfound
      | _ => cases hfound

theorem Reachable.clustersGenerated (h : Reachable s) : s.ClustersGenerated := by
  induction h with
  | new bounds =>
    intro cluster record hrecord
    rw [show (Impl.new bounds).clusters = ∅ from rfl, Std.TreeMap.getElem?_emptyc] at hrecord
    cases hrecord
  | next _ operation ih => exact clustersGenerated_next ih operation

/-! ## One call -/

/-- The publications that can advance the generation of a cluster, a retirement apart. -/
def Publication.observesCluster : Publication → Bool
  | .registerCluster _ | .publishCapability .. | .publishCapacity .. => true
  | _ => false

/-- The pools are those the publication carries. `publish_capacity` annotates and sorts them. -/
def Publication.CarriesPools (bounds : Bounds) (ctx : PublicationContext)
    (pools : List CapacityPool) : Publication → Prop
  | .registerCluster record => pools = record.capacityPools
  | .publishCapacity _ _ generation carried =>
    pools.Perm (carried.map fun pool => pool.accept bounds ctx generation)
  | _ => False

/-- Where the call advances the generation of a cluster, no pools and no readiness of the previous
    incarnation are left. -/
def Operation.DropsEvidence (s : Impl) : Operation → Prop
  | .submit clock ctx (.publish p) =>
    p.observesCluster = true →
      ∀ (cluster : ClusterId) (old record : ClusterRecord), s.clusters[cluster]? = some old →
        ((Operation.submit clock ctx (.publish p)).next s).clusters[cluster]? = some record →
        old.generation < record.generation →
        (record.capacityPools = [] ∨ p.CarriesPools s.bounds ctx record.capacityPools) ∧
          record.readiness = .unknown
  | _ => True

/-- The call is a capability or capacity publication under a newer generation of a cluster that has
    a readiness, or, for a capability publication, pools; and it is accepted. -/
def Operation.RetainsEvidence (s : Impl) : Operation → Prop
  | .submit _ ctx (.publish (.publishCapability cluster generation capabilityGeneration
      capabilities)) =>
    ∃ check old, Admitted s ctx check ∧
      (Publication.publishCapability cluster generation capabilityGeneration capabilities).Accepts s
        ctx check.duplicateSequence ∧
      s.clusters[cluster]? = some old ∧ old.generation < generation ∧
      (old.capacityPools ≠ [] ∨ old.readiness ≠ .unknown)
  | .submit _ ctx (.publish (.publishCapacity cluster generation capacityGeneration pools)) =>
    ∃ check old, Admitted s ctx check ∧
      (Publication.publishCapacity cluster generation capacityGeneration pools).Accepts s ctx
        check.duplicateSequence ∧
      s.clusters[cluster]? = some old ∧ old.generation < generation ∧ old.readiness ≠ .unknown
  | _ => False

/-- A call that leaves the clusters as they are drops evidence trivially. -/
theorem dropsEvidence_of_clusters {p : Publication}
    (h : ((Operation.submit clock ctx (.publish p)).next s).toCollections = s.toCollections) :
    Operation.DropsEvidence s (.submit clock ctx (.publish p)) := by
  intro _ cluster old record hold hrecord hlt
  rw [h, hold] at hrecord
  obtain rfl := Option.some.inj hrecord
  exact absurd hlt (UInt64.lt_irrefl _)

/-- A registration that advances the generation clears what is stored, and one that does not
    advance it has nothing to clear. -/
theorem dropsEvidence_registerCluster (hgenerated : s.ClustersGenerated) {record : ClusterRecord}
    {check : AuthorityCheck} (hadmitted : Admitted s ctx check)
    (haccepts : (Publication.registerCluster record).Accepts s ctx check.duplicateSequence) :
    Operation.DropsEvidence s (.submit clock ctx (.publish (.registerCluster record))) := by
  intro _ cluster old stored hold hstored hlt
  rw [collections_of_accepts hadmitted haccepts] at hstored
  have hlookup := (lookup_registerCluster s clock ctx record cluster).symm.trans hstored
  by_cases hid : record.id = cluster
  · subst hid
    rw [if_pos rfl] at hlookup
    have hprevious : s.clusterGeneration record.id = old.generation := by
      rw [Impl.clusterGeneration, hold]
    have hgeneration : stored.generation = record.generation := by
      rw [← Option.some.inj hlookup]
      split <;> rfl
    have hadvances : s.advancesCluster record = true := by
      rw [Impl.advancesCluster, hprevious, Bool.and_eq_true, Generation.newerThan_eq_true]
      exact ⟨hgenerated record.id old hold, hgeneration ▸ hlt⟩
    rw [if_pos hadvances] at hlookup
    obtain rfl := Option.some.inj hlookup
    exact ⟨.inl rfl, rfl⟩
  · rw [if_neg hid, hold] at hlookup
    obtain rfl := Option.some.inj hlookup
    exact absurd hlt (UInt64.lt_irrefl _)

theorem clusters_next {p : Publication} {check : AuthorityCheck} (hadmitted : Admitted s ctx check)
    (haccepts : p.Accepts s ctx check.duplicateSequence) (at' : ClusterId) :
    ((Operation.submit clock ctx (.publish p)).next s).clusters[at']? =
      (p.written s clock ctx).clusters[at']? := by
  rw [collections_of_accepts hadmitted haccepts]

/-- A generation is advanced exactly to a newer one, and the rest of the record stays. -/
theorem advanceTo_eq (record : ClusterRecord) (generation : ClusterGeneration) :
    record.advanceTo generation =
      if record.generation < generation then { record with generation } else record := by
  unfold ClusterRecord.advanceTo
  by_cases hlt : record.generation < generation
  · have hset : generation.isSet = true := by
      simp only [Generation.isSet, bne_iff_ne, ne_eq]
      intro hzero
      rw [Generation.lt_def, hzero] at hlt
      exact UInt64.not_lt_zero hlt
    rw [if_pos hlt, if_pos]
    rw [hset, Bool.true_and]
    exact Generation.newerThan_eq_true.mpr hlt
  · rw [if_neg hlt, if_neg]
    rw [Bool.and_eq_true, Generation.newerThan_eq_true]
    exact fun h => hlt h.2

theorem capacityPools_advanceTo (record : ClusterRecord) (generation : ClusterGeneration) :
    (record.advanceTo generation).capacityPools = record.capacityPools := by
  rw [advanceTo_eq]
  split <;> rfl

theorem readiness_advanceTo (record : ClusterRecord) (generation : ClusterGeneration) :
    (record.advanceTo generation).readiness = record.readiness := by
  rw [advanceTo_eq]
  split <;> rfl

theorem lt_generation_advanceTo_iff (record : ClusterRecord) (generation : ClusterGeneration) :
    record.generation < (record.advanceTo generation).generation ↔
      record.generation < generation := by
  rw [advanceTo_eq]
  by_cases hlt : record.generation < generation
  · rw [if_pos hlt]
  · rw [if_neg hlt]
    exact iff_of_false (UInt64.lt_irrefl _) hlt

/-- A capability publication keeps the pools and the readiness. -/
theorem dropsEvidence_publishCapability_iff {cluster : ClusterId} {generation : ClusterGeneration}
    {capabilityGeneration : AcceleratorCapabilityGeneration} {capabilities : CapabilitySet}
    {check : AuthorityCheck} (hadmitted : Admitted s ctx check)
    (haccepts : (Publication.publishCapability cluster generation capabilityGeneration
      capabilities).Accepts s ctx check.duplicateSequence) :
    Operation.DropsEvidence s (.submit clock ctx (.publish (.publishCapability cluster generation
        capabilityGeneration capabilities))) ↔
      ¬Operation.RetainsEvidence s (.submit clock ctx (.publish (.publishCapability cluster
        generation capabilityGeneration capabilities))) := by
  obtain ⟨-, old, hold, -⟩ := id haccepts
  have hlookup := fun at' : ClusterId =>
    (@clusters_next s clock ctx _ _ hadmitted haccepts at').trans
      (lookup_publishCapability hold at')
  constructor
  · intro hdrops ⟨_, old', _, _, hold', hlt, hretained⟩
    obtain rfl := Option.some.inj (hold.symm.trans hold')
    obtain ⟨hpools, hreadiness⟩ := hdrops rfl cluster old _ hold
      ((hlookup cluster).trans (if_pos rfl)) ((lt_generation_advanceTo_iff old generation).mpr hlt)
    rcases hretained with hne | hne
    · rcases hpools with hempty | hcarries
      · exact hne ((capacityPools_advanceTo old generation).symm.trans hempty)
      · exact hcarries
    · exact hne ((readiness_advanceTo old generation).symm.trans hreadiness)
  · intro hretains _ at' old' record hold' hrecord hlt
    rw [hlookup] at hrecord
    by_cases hat : cluster = at'
    · subst hat
      obtain rfl := Option.some.inj (hold.symm.trans hold')
      rw [if_pos rfl] at hrecord
      obtain rfl := Option.some.inj hrecord
      have hnewer := (lt_generation_advanceTo_iff old generation).mp hlt
      constructor
      · refine .inl ((capacityPools_advanceTo old generation).trans ?_)
        by_contra hne
        exact hretains ⟨check, old, hadmitted, haccepts, hold, hnewer, .inl hne⟩
      · refine (readiness_advanceTo old generation).trans ?_
        by_contra hne
        exact hretains ⟨check, old, hadmitted, haccepts, hold, hnewer, .inr hne⟩
    · rw [if_neg hat, hold'] at hrecord
      obtain rfl := Option.some.inj hrecord
      exact absurd hlt (UInt64.lt_irrefl _)

/-- A capacity publication brings its own pools and keeps the readiness. -/
theorem dropsEvidence_publishCapacity_iff {cluster : ClusterId} {generation : ClusterGeneration}
    {capacityGeneration : CapacityGeneration} {pools : List CapacityPool}
    {check : AuthorityCheck} (hadmitted : Admitted s ctx check)
    (haccepts : (Publication.publishCapacity cluster generation capacityGeneration pools).Accepts s
      ctx check.duplicateSequence) :
    Operation.DropsEvidence s (.submit clock ctx (.publish (.publishCapacity cluster generation
        capacityGeneration pools))) ↔
      ¬Operation.RetainsEvidence s (.submit clock ctx (.publish (.publishCapacity cluster
        generation capacityGeneration pools))) := by
  obtain ⟨-, old, hold, -⟩ := id haccepts
  have hlookup := fun at' : ClusterId =>
    (@clusters_next s clock ctx _ _ hadmitted haccepts at').trans (lookup_publishCapacity hold at')
  constructor
  · intro hdrops ⟨_, old', _, _, hold', hlt, hne⟩
    obtain rfl := Option.some.inj (hold.symm.trans hold')
    obtain ⟨-, hreadiness⟩ := hdrops rfl cluster old _ hold
      ((hlookup cluster).trans (if_pos rfl)) ((lt_generation_advanceTo_iff old generation).mpr hlt)
    exact hne ((readiness_advanceTo old generation).symm.trans hreadiness)
  · intro hretains _ at' old' record hold' hrecord hlt
    rw [hlookup] at hrecord
    by_cases hat : cluster = at'
    · subst hat
      obtain rfl := Option.some.inj (hold.symm.trans hold')
      rw [if_pos rfl] at hrecord
      obtain rfl := Option.some.inj hrecord
      have hnewer := (lt_generation_advanceTo_iff old generation).mp hlt
      constructor
      · exact .inr (Sorting.perm_stableSort _ _)
      · refine (readiness_advanceTo old generation).trans ?_
        by_contra hne
        exact hretains ⟨check, old, hadmitted, haccepts, hold, hnewer, hne⟩
    · rw [if_neg hat, hold'] at hrecord
      obtain rfl := Option.some.inj hrecord
      exact absurd hlt (UInt64.lt_irrefl _)

/-- A call drops the evidence of the previous incarnation exactly when it does not retain it. -/
theorem dropsEvidence_iff (hgenerated : s.ClustersGenerated) (operation : Operation) :
    operation.DropsEvidence s ↔ ¬operation.RetainsEvidence s := by
  cases operation with
  | submit clock ctx request =>
    cases request with
    | registerPublisher => exact iff_of_true trivial id
    | publish p =>
      by_cases haccepted : ∃ check, Admitted s ctx check ∧ p.Accepts s ctx check.duplicateSequence
      · obtain ⟨check, hadmitted, haccepts⟩ := haccepted
        cases p with
        | registerCluster record =>
          exact iff_of_true (dropsEvidence_registerCluster hgenerated hadmitted haccepts) id
        | publishCapability => exact dropsEvidence_publishCapability_iff hadmitted haccepts
        | publishCapacity => exact dropsEvidence_publishCapacity_iff hadmitted haccepts
        | _ => exact iff_of_true (fun hobserves => absurd hobserves Bool.false_ne_true) id
      · have hdrops : Operation.DropsEvidence s (.submit clock ctx (.publish p)) :=
          dropsEvidence_of_clusters (@Publication.collections_of_not_accepts s clock ctx p
            fun check hadmitted haccepts => haccepted ⟨check, hadmitted, haccepts⟩)
        refine iff_of_true hdrops ?_
        intro hretains
        cases p with
        | publishCapability =>
          obtain ⟨check, -, hadmitted, haccepts, -⟩ := hretains
          exact haccepted ⟨check, hadmitted, haccepts⟩
        | publishCapacity =>
          obtain ⟨check, -, hadmitted, haccepts, -⟩ := hretains
          exact haccepted ⟨check, hadmitted, haccepts⟩
        | _ => exact hretains
  | _ => exact iff_of_true trivial id

/-! ## Runs -/

/-- No pools and no readiness cross from one incarnation of a cluster to the next along a run,
    exactly when no accepted capability or capacity publication of the run names a newer generation
    of a cluster of which they are stored. -/
theorem evidence_dropped_iff (hreachable : Reachable s) (operations : List Operation) :
    s.Along (fun s operation => operation.DropsEvidence s) operations ↔
      s.Along (fun s operation => ¬operation.RetainsEvidence s) operations :=
  Runs.along_congr (fun _ operation h => dropsEvidence_iff h.clustersGenerated operation)
    (hreachable.along operations)

namespace Deployment

/-- The cluster as its agent reports it. -/
def readyCluster : ClusterRecord := { cluster with readiness := .ready }

/-- The deployment after its cluster was registered again, ready. -/
def ready : Impl := state.run [publish 5 (.registerCluster readyCluster)]

/-- Capabilities of the cluster's second generation. -/
def newIncarnation : Publication := .publishCapability cluster.id ⟨2⟩ ⟨1⟩ {}

end Deployment

/-- In the deployment nothing was observed of the cluster's first generation, and a capability
    publication of its second one retains nothing. -/
theorem evidence_dropped_deployment :
    Deployment.state.Along (fun s operation => operation.DropsEvidence s)
      [Deployment.publish 5 Deployment.newIncarnation] := by
  refine (evidence_dropped_iff Deployment.reachable_state _).mpr ⟨?_, trivial⟩
  intro ⟨_, old, _, _, hold, _, hretained⟩
  have hstored : (Deployment.state.clusters[Deployment.cluster.id]?).map
      (fun r => (r.capacityPools, r.readiness)) = some ([], .unknown) := by decide +kernel
  rw [hold, Option.map_some, Option.some_inj, Prod.mk.injEq] at hstored
  rcases hretained with hpools | hreadiness
  · exact hpools hstored.1
  · exact hreadiness hstored.2

/-- A capability publication under the cluster's second generation keeps the readiness that was
    observed of the first. -/
theorem publishCapability_retains_readiness :
    ¬∀ (s : Impl) (operation : Operation), Reachable s → operation.DropsEvidence s := by
  intro h
  have hdrops := h Deployment.ready
    (.submit {} (Deployment.context 6) (.publish Deployment.newIncarnation))
    (Deployment.reachable_state.run _)
  simp only [Operation.DropsEvidence] at hdrops
  have hbefore : (Deployment.ready.clusters[Deployment.cluster.id]?).map (·.generation) =
      some ⟨1⟩ := by decide +kernel
  have hafter : (((Operation.submit {} (Deployment.context 6)
      (.publish Deployment.newIncarnation)).next Deployment.ready).clusters[Deployment.cluster.id]?).map
      (fun r => (r.generation, r.readiness)) = some (⟨2⟩, .ready) := by decide +kernel
  obtain ⟨old, hold, hgeneration⟩ := Option.map_eq_some_iff.mp hbefore
  obtain ⟨record, hrecord, hfields⟩ := Option.map_eq_some_iff.mp hafter
  rw [Prod.mk.injEq] at hfields
  have hlt : old.generation < record.generation := by
    rw [hgeneration, hfields.1]
    decide
  obtain ⟨-, hunknown⟩ := hdrops rfl Deployment.cluster.id old record hold hrecord hlt
  rw [hfields.2] at hunknown
  cases hunknown

end FederationObservatory
