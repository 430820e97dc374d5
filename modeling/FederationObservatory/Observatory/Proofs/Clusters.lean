import FederationObservatory.Observatory.Proofs.Generations
import FederationObservatory.Observatory.Proofs.Restore

/-!
# Stored clusters

What a call does to a stored cluster, and what `ClusterRecord::validate` asks of it.
`publish_capacity` checks the pools it accepts by itself; it leaves out that a pool of a custom
resource names the resource, so it can leave a cluster that `register_cluster` would refuse.
-/

namespace FederationObservatory

open StoredRecord (key)

variable {s : Impl} {clock : Clock} {ctx : PublicationContext}

/-! ## Lookups -/

theorem isSet_of_le {tag : GenerationTag} {g g' : Generation tag} (h : g.isSet = true)
    (hle : g ≤ g') : g'.isSet = true := by
  simp only [Generation.isSet, bne_iff_ne, ne_eq] at h ⊢
  intro hzero
  apply h
  have hvalue : g.value ≤ g'.value := hle
  rw [hzero] at hvalue
  exact UInt64.le_antisymm hvalue (UInt64.zero_le)

/-- The clusters after one was stored. -/
theorem clusters_store (cluster at' : ClusterId) (record : ClusterRecord) :
    (s.store .cluster cluster record).clusters[at']? =
      if cluster = at' then some record else s.clusters[at']? := by
  exact Std.TreeMap.getElem?_insert.trans (by simp only [Std.LawfulEqOrd.compare_eq_iff_eq]; rfl)

/-- The clusters after a capability publication was accepted. -/
theorem lookup_publishCapability {cluster : ClusterId} {generation : ClusterGeneration}
    {capabilityGeneration : AcceleratorCapabilityGeneration} {capabilities : CapabilitySet}
    {old : ClusterRecord} (hold : s.clusters[cluster]? = some old) (at' : ClusterId) :
    ((Publication.publishCapability cluster generation capabilityGeneration capabilities).written s
        clock ctx).clusters[at']? =
      if cluster = at' then
        some ((old.advanceTo generation).withCapabilities clock ctx capabilityGeneration
          capabilities)
      else s.clusters[at']? := by
  simp only [Publication.written, hold]
  refine (clusters_store cluster at' _).trans ?_
  by_cases hat : cluster = at'
  · rw [if_pos hat, if_pos hat]
  · rw [if_neg hat, if_neg hat]
    unfold Impl.storeAdvanced
    split
    · exact (clusters_store cluster at' _).trans (if_neg hat)
    · rfl

/-- The clusters after a capacity publication was accepted. -/
theorem lookup_publishCapacity {cluster : ClusterId} {generation : ClusterGeneration}
    {capacityGeneration : CapacityGeneration} {pools : List CapacityPool}
    {old : ClusterRecord} (hold : s.clusters[cluster]? = some old) (at' : ClusterId) :
    ((Publication.publishCapacity cluster generation capacityGeneration pools).written s
        clock ctx).clusters[at']? =
      if cluster = at' then
        some ((old.advanceTo generation).withCapacity clock ctx capacityGeneration
          (Sorting.stableSort CapacityPool.lt
            (pools.map fun pool => pool.accept s.bounds ctx capacityGeneration)))
      else s.clusters[at']? := by
  simp only [Publication.written, hold]
  exact clusters_store cluster at' _

/-- The clusters after one was retired. -/
theorem lookup_retireCluster {cluster : ClusterId} {generation : ClusterGeneration} {reason : Text}
    {old : ClusterRecord} (hold : s.clusters[cluster]? = some old) (at' : ClusterId) :
    ((Publication.retireCluster cluster generation reason).written s clock ctx).clusters[at']? =
      if cluster = at' then some (old.retire clock ctx generation reason)
      else s.clusters[at']? := by
  simp only [Publication.written, hold]
  exact clusters_store cluster at' _

/-- The record a registration of a cluster leaves. -/
def Impl.registered (s : Impl) (clock : Clock) (ctx : PublicationContext) (record : ClusterRecord) :
    ClusterRecord :=
  if s.advancesCluster record then
    ClusterRecord.advanced (accepted (k := .cluster) clock ctx record)
      (s.clusterGeneration record.id) record.generation
  else accepted (k := .cluster) clock ctx record

/-! ## One call -/

/-- Where a stored cluster comes from. A sweep makes a current one stale. -/
inductive ClusterStep (s : Impl) (operation : Operation) (id : ClusterId) :
    ClusterRecord → Prop where
  | kept {r : ClusterRecord} (hstored : s.clusters[id]? = some r) : ClusterStep s operation id r
  | swept {r : ClusterRecord} (hstored : s.clusters[id]? = some r)
      (hcurrent : r.currentness = .current) :
    ClusterStep s operation id { r with currentness := .stale }
  | registered {clock : Clock} {ctx : PublicationContext} {check : AuthorityCheck}
      {record : ClusterRecord}
      (hsubmit : operation = .submit clock ctx (.publish (.registerCluster record)))
      (hadmitted : Admitted s ctx check)
      (haccepts : (Publication.registerCluster record).Accepts s ctx check.duplicateSequence)
      (hid : record.id = id) : ClusterStep s operation id (s.registered clock ctx record)
  | retired {clock : Clock} {ctx : PublicationContext} {check : AuthorityCheck}
      {generation : ClusterGeneration} {reason : Text} {r : ClusterRecord}
      (hsubmit : operation = .submit clock ctx (.publish (.retireCluster id generation reason)))
      (hadmitted : Admitted s ctx check) (haccepts : AcceptsRetirement s id generation)
      (hstored : s.clusters[id]? = some r) :
    ClusterStep s operation id (r.retire clock ctx generation reason)
  | capabilities {clock : Clock} {ctx : PublicationContext} {check : AuthorityCheck}
      {clusterGeneration : ClusterGeneration} {generation : AcceleratorCapabilityGeneration}
      {capabilities : CapabilitySet} {r : ClusterRecord}
      (hsubmit : operation = .submit clock ctx
        (.publish (.publishCapability id clusterGeneration generation capabilities)))
      (hadmitted : Admitted s ctx check)
      (haccepts : AcceptsCapability s ctx id clusterGeneration generation)
      (hstored : s.clusters[id]? = some r) :
    ClusterStep s operation id
      ((r.advanceTo clusterGeneration).withCapabilities clock ctx generation capabilities)
  | capacity {clock : Clock} {ctx : PublicationContext} {check : AuthorityCheck}
      {clusterGeneration : ClusterGeneration} {generation : CapacityGeneration}
      {pools : List CapacityPool} {r : ClusterRecord}
      (hsubmit : operation = .submit clock ctx
        (.publish (.publishCapacity id clusterGeneration generation pools)))
      (hadmitted : Admitted s ctx check)
      (haccepts : AcceptsCapacity s ctx id clusterGeneration generation pools)
      (hstored : s.clusters[id]? = some r) :
    ClusterStep s operation id
      ((r.advanceTo clusterGeneration).withCapacity clock ctx generation
        (Sorting.stableSort CapacityPool.lt
          (pools.map fun pool => pool.accept s.bounds ctx generation)))
  | invalidated {r : ClusterRecord} (hstored : s.clusters[id]? = some r) (reason : Text) :
    ClusterStep s operation id (r.invalidated reason)
  | restored {d : DurableState} {r : ClusterRecord} (hrestores : operation.restores s = some d)
      (hr : r ∈ d.clusters) (hid : r.id = id) :
    ClusterStep s operation id (DurableState.normalizeCluster r)

/-- What an accepted publication leaves of a cluster. -/
theorem ClusterStep.of_accepts {p : Publication} {check : AuthorityCheck} {id : ClusterId}
    {record : ClusterRecord} (hadmitted : Admitted s ctx check)
    (haccepts : p.Accepts s ctx check.duplicateSequence)
    (h : (p.written s clock ctx).clusters[id]? = some record) :
    ClusterStep s (.submit clock ctx (.publish p)) id record := by
  by_cases hkind : RecordKind.cluster ≠ p.kind
  · have hsame := Publication.table_written s clock ctx p hkind
    exact .kept ((congrArg (·[id]?) hsame).symm.trans h)
  cases p with
  | registerCluster registered =>
    change (s.registerCluster clock ctx registered).clusters[id]? = some record at h
    rw [lookup_registerCluster] at h
    split at h
    · rename_i hid
      obtain rfl := Option.some.inj h
      exact .registered rfl hadmitted haccepts hid
    · exact .kept h
  | retireCluster cluster generation reason =>
    have ⟨stored, hstored, _⟩ : AcceptsRetirement s cluster generation := haccepts
    rw [lookup_retireCluster hstored] at h
    split at h
    · rename_i hid
      subst hid
      obtain rfl := Option.some.inj h
      exact .retired rfl hadmitted haccepts hstored
    · exact .kept h
  | publishCapability cluster clusterGeneration generation capabilities =>
    have ⟨_, stored, hstored, _⟩ : AcceptsCapability s ctx cluster clusterGeneration generation :=
      haccepts
    rw [lookup_publishCapability hstored] at h
    split at h
    · rename_i hid
      subst hid
      obtain rfl := Option.some.inj h
      exact .capabilities rfl hadmitted haccepts hstored
    · exact .kept h
  | publishCapacity cluster clusterGeneration generation pools =>
    have ⟨_, stored, hstored, _⟩ : AcceptsCapacity s ctx cluster clusterGeneration generation pools :=
      haccepts
    rw [lookup_publishCapacity hstored] at h
    split at h
    · rename_i hid
      subst hid
      obtain rfl := Option.some.inj h
      exact .capacity rfl hadmitted haccepts hstored
    · exact .kept h
  | _ => exact absurd (by intro heq; cases heq) hkind

/-- What a call does to a stored cluster. -/
theorem Operation.clusterStep {operation : Operation} {id : ClusterId} {record : ClusterRecord}
    (h : (operation.next s).clusters[id]? = some record) : ClusterStep s operation id record := by
  cases hrestores : operation.restores s with
  | some d =>
    rw [next_of_restores hrestores] at h
    obtain ⟨r, hr, hid, rfl⟩ := exists_of_restored (k := .cluster) h
    exact .restored hrestores hr hid
  | none =>
    have hstep := Operation.recordStep hrestores .cluster id
    generalize hfound : (s.table .cluster)[id]? = found at hstep
    rw [show ((operation.next s).table .cluster)[id]? = some record from h] at hstep
    cases hstep with
    | unchanged => exact .kept hfound
    | swept key' old =>
      unfold sweep
      split
      · rename_i hswept
        exact .swept hfound hswept.2.2
      · exact .kept hfound
    | @written clock ctx p check hsubmit hadmitted haccepts _ _ _ _ =>
      subst hsubmit
      rw [collections_of_accepts hadmitted haccepts] at h
      exact .of_accepts hadmitted haccepts h
    | invalidated reason old => exact .invalidated hfound reason

/-! ## Validation -/

/-- What `ClusterRecord::validate` asks of a pool. -/
structure CapacityPool.Sound (pool : CapacityPool) : Prop where
  poolId : pool.poolId.empty = false
  ledger : pool.ledger.validate = .ok ()
  accelerator : pool.kind = .accelerator → pool.acceleratorClass.empty = false
  custom : pool.kind = .custom → pool.customName ≠ []

/-- What `ClusterRecord::validate` asks of the pools. -/
structure PoolsSound (pools : List CapacityPool) : Prop where
  count : pools.length ≤ maxPoolsPerCluster
  each : ∀ pool ∈ pools, pool.Sound
  distinct : (pools.map (·.poolId)).Nodup

/-- What `ClusterRecord::validate` asks, but for the keys of the capabilities, which a
    `CapabilitySet` has checked. -/
structure ClusterRecord.Valid (r : ClusterRecord) : Prop where
  id : r.id.empty = false
  generation : r.generation.isSet = true
  epoch : r.epoch.isSet = true
  federation : r.federation.empty = false
  site : r.site.empty = false
  acceleratorClasses : r.acceleratorClasses.Nodup
  runtimes : r.runtimes.Nodup
  backends : r.backends.Nodup
  pools : PoolsSound r.capacityPools

theorem ClusterRecord.validatePool_eq_ok {r : ClusterRecord} {pool : CapacityPool} {u : Unit} :
    r.validatePool pool = .ok u ↔ pool.Sound := by
  simp only [ClusterRecord.validatePool, bind_eq_ok, failIf_eq_ok, mapError_eq_ok, exists_const,
    Bool.and_eq_false_imp, beq_iff_eq, List.isEmpty_eq_false_iff]
  constructor
  · rintro ⟨hid, _, hledger, haccelerator, hcustom⟩
    exact ⟨hid, hledger, haccelerator, hcustom⟩
  · rintro ⟨hid, hledger, haccelerator, hcustom⟩
    exact ⟨hid, (), hledger, haccelerator, hcustom⟩

/-- The record validates exactly when it is valid. -/
theorem ClusterRecord.validate_eq_ok {r : ClusterRecord} : r.validate = .ok () ↔ r.Valid := by
  simp only [ClusterRecord.validate, bind_eq_ok, failIf_eq_ok, forM_eq_ok, exists_const,
    ClusterRecord.validatePool_eq_ok, Sorting.hasDuplicates_eq_false, decide_eq_false_iff_not,
    Bool.not_eq_false', Nat.not_lt]
  constructor
  · rintro ⟨hid, hgeneration, hepoch, hfederation, hsite, hclasses, hruntimes, hbackends, hcount,
      heach, hdistinct, -⟩
    exact ⟨hid, hgeneration, hepoch, hfederation, hsite, hclasses, hruntimes, hbackends,
      hcount, heach, hdistinct⟩
  · rintro ⟨hid, hgeneration, hepoch, hfederation, hsite, hclasses, hruntimes, hbackends,
      hcount, heach, hdistinct⟩
    exact ⟨hid, hgeneration, hepoch, hfederation, hsite, hclasses, hruntimes, hbackends, hcount,
      heach, hdistinct, r.capabilities.valid⟩

/-- What only a registration writes to a cluster. -/
def ClusterRecord.frame (r : ClusterRecord) :=
  (r.id, r.epoch, r.federation, r.site, r.acceleratorClasses, r.runtimes, r.backends)

/-- A record that differs in its generation and its pools. -/
theorem ClusterRecord.Valid.of_frame {r r' : ClusterRecord} (h : r.Valid)
    (hframe : r'.frame = r.frame) (hgeneration : r'.generation.isSet = true)
    (hpools : PoolsSound r'.capacityPools) : r'.Valid := by
  simp only [ClusterRecord.frame, Prod.mk.injEq] at hframe
  obtain ⟨hid, hepoch, hfederation, hsite, hclasses, hruntimes, hbackends⟩ := hframe
  exact ⟨hid ▸ h.id, hgeneration, hepoch ▸ h.epoch, hfederation ▸ h.federation, hsite ▸ h.site,
    hclasses ▸ h.acceleratorClasses, hruntimes ▸ h.runtimes, hbackends ▸ h.backends, hpools⟩

theorem frame_advanceTo (r : ClusterRecord) (generation : ClusterGeneration) :
    (r.advanceTo generation).frame = r.frame ∧
      (r.advanceTo generation).capacityPools = r.capacityPools := by
  unfold ClusterRecord.advanceTo
  split <;> exact ⟨rfl, rfl⟩

theorem poolsSound_nil : PoolsSound [] := ⟨Nat.zero_le _, by simp, by simp⟩

theorem checkPool_eq_ok {pool : CapacityPool} {u : Unit} :
    checkPool s pool = .ok u ↔
      pool.poolId.empty = false ∧ pool.ledger.validate = .ok () ∧
        ¬(pool.kind = .accelerator ∧ pool.acceleratorClass.empty = true) ∧
        (pool.acceleratorClass.empty = false →
          s.acceleratorClasses.contains pool.acceleratorClass = true) := by
  simp only [checkPool, bind_eq_ok, failIf_eq_ok, mapError_eq_ok, exists_const]
  constructor
  · rintro ⟨hid, _, hledger, hrest⟩
    split at hrest
    · cases hrest
    · rename_i haccelerator
      simp only [failIf_eq_ok, Bool.and_eq_false_imp, Bool.not_eq_true', Bool.not_eq_false'] at hrest
      exact ⟨hid, hledger, haccelerator, hrest⟩
  · rintro ⟨hid, hledger, haccelerator, hregistered⟩
    refine ⟨hid, (), hledger, ?_⟩
    rw [if_neg haccelerator]
    simp only [failIf_eq_ok, Bool.and_eq_false_imp, Bool.not_eq_true', Bool.not_eq_false']
    exact hregistered

/-- The pools that a capacity publication stores are sound exactly when those of custom resources
    name them. -/
theorem poolsSound_accept_iff {pools : List CapacityPool} {bounds : Bounds}
    {generation : CapacityGeneration} (hcount : pools.length ≤ maxPoolsPerCluster)
    (hcheck : pools.forM (checkPool s) = .ok ())
    (hdistinct : Sorting.hasDuplicates (pools.map (·.poolId)) = false) :
    PoolsSound (Sorting.stableSort CapacityPool.lt
        (pools.map fun pool => pool.accept bounds ctx generation)) ↔
      ∀ pool ∈ pools, pool.kind = .custom → pool.customName ≠ [] := by
  have hperm := Sorting.perm_stableSort CapacityPool.lt
    (pools.map fun pool => pool.accept bounds ctx generation)
  constructor
  · intro hsound pool hpool
    exact (hsound.each _ (hperm.mem_iff.mpr (List.mem_map_of_mem hpool))).custom
  · intro hnamed
    refine ⟨?_, ?_, ?_⟩
    · rw [hperm.length_eq, List.length_map]
      exact hcount
    · intro stored hstored
      obtain ⟨pool, hpool, rfl⟩ := List.mem_map.mp (hperm.mem_iff.mp hstored)
      obtain ⟨hid, hledger, haccelerator, -⟩ := checkPool_eq_ok.mp (forM_eq_ok.mp hcheck pool hpool)
      refine ⟨hid, hledger, ?_, hnamed pool hpool⟩
      intro hkind
      exact Bool.eq_false_iff.mpr fun hempty => haccelerator ⟨hkind, hempty⟩
    · rw [(hperm.map _).nodup_iff, List.map_map]
      exact Sorting.hasDuplicates_eq_false.mp hdistinct

/-- Every stored cluster passes the check of a registration. -/
def Impl.ClustersValid (s : Impl) : Prop :=
  ∀ (id : ClusterId) (r : ClusterRecord), s.clusters[id]? = some r → r.validate = .ok ()

/-- The call is a capacity publication that is accepted with a pool of a custom resource without a
    name. -/
def Operation.AddsNamelessPool (s : Impl) : Operation → Prop
  | .submit _ ctx (.publish (.publishCapacity cluster clusterGeneration generation pools)) =>
    (∃ check, Admitted s ctx check) ∧
      AcceptsCapacity s ctx cluster clusterGeneration generation pools ∧
      ∃ pool ∈ pools, pool.kind = .custom ∧ pool.customName = []
  | _ => False

theorem valid_registered {record : ClusterRecord} (h : record.validate = .ok ()) :
    (s.registered clock ctx record).Valid := by
  have hvalid := ClusterRecord.validate_eq_ok.mp h
  unfold Impl.registered
  split
  · exact hvalid.of_frame rfl hvalid.generation poolsSound_nil
  · exact hvalid.of_frame rfl hvalid.generation hvalid.pools

theorem clustersValid_next {operation : Operation} (h : s.ClustersValid)
    (hnamed : ¬operation.AddsNamelessPool s) : (operation.next s).ClustersValid := by
  intro id record hrecord
  refine ClusterRecord.validate_eq_ok.mpr ?_
  have hold : ∀ r, s.clusters[id]? = some r → r.Valid :=
    fun r hr => ClusterRecord.validate_eq_ok.mp (h id r hr)
  cases Operation.clusterStep hrecord with
  | kept hstored => exact hold _ hstored
  | swept hstored _ =>
    have hvalid := hold _ hstored
    exact hvalid.of_frame rfl hvalid.generation hvalid.pools
  | registered _ _ haccepts _ => exact valid_registered haccepts.1
  | @retired _ _ _ generation _ r _ _ _ hstored =>
    have hvalid := hold _ hstored
    refine hvalid.of_frame rfl ?_ hvalid.pools
    change (if generation.isSet then generation else r.generation.next).isSet = true
    split
    · assumption
    · exact isSet_of_le hvalid.generation (Generation.le_next _)
  | @capabilities _ _ _ clusterGeneration _ _ r _ _ _ hstored =>
    have hvalid := hold _ hstored
    have ⟨hframe, hpools⟩ := frame_advanceTo r clusterGeneration
    refine hvalid.of_frame hframe ?_ (hpools ▸ hvalid.pools)
    exact isSet_of_le hvalid.generation (generation_le_advanceTo r clusterGeneration)
  | @capacity _ ctx check clusterGeneration generation pools r hsubmit hadmitted haccepts hstored =>
    have hvalid := hold _ hstored
    have ⟨hframe, _⟩ := frame_advanceTo r clusterGeneration
    have ⟨_, _, _, _, _, hcount, _, _, hcheck, hdistinct, _⟩ := haccepts
    refine hvalid.of_frame hframe ?_ ((poolsSound_accept_iff hcount hcheck hdistinct).mpr ?_)
    · exact isSet_of_le hvalid.generation (generation_le_advanceTo r clusterGeneration)
    · intro pool hpool hkind hname
      subst hsubmit
      exact hnamed ⟨⟨check, hadmitted⟩, haccepts, pool, hpool, hkind, hname⟩
  | invalidated hstored _ =>
    have hvalid := hold _ hstored
    exact hvalid.of_frame rfl hvalid.generation poolsSound_nil
  | restored hrestores hr _ =>
    have hvalid := ClusterRecord.validate_eq_ok.mp ((valid_of_restores hrestores).clusters _ hr).1
    exact hvalid.of_frame rfl hvalid.generation poolsSound_nil

/-- A pool without its name stays on the cluster. -/
theorem not_clustersValid_of_nameless {operation : Operation} (h : operation.AddsNamelessPool s) :
    ¬(operation.next s).ClustersValid := by
  intro hvalid
  unfold Operation.AddsNamelessPool at h
  split at h
  · rename_i clock ctx cluster clusterGeneration generation pools
    obtain ⟨⟨check, hadmitted⟩, haccepts, pool, hpool, hkind, hname⟩ := h
    have ⟨_, r, hstored, _, _, hcount, _, _, hcheck, hdistinct, _⟩ := haccepts
    have hlookup := @lookup_publishCapacity s clock ctx cluster clusterGeneration generation pools r
      hstored cluster
    rw [if_pos rfl] at hlookup
    have hcollections := @collections_of_accepts s clock ctx
      (.publishCapacity cluster clusterGeneration generation pools) check hadmitted haccepts
    have hafter := ClusterRecord.validate_eq_ok.mp
      (hvalid cluster _ ((congrArg (·.clusters[cluster]?) hcollections).trans hlookup))
    exact (poolsSound_accept_iff hcount hcheck hdistinct).mp hafter.pools pool hpool hkind hname
  · exact h

/-- Every stored cluster passes the check of a registration, in every state of a run, exactly when
    no capacity publication of the run is accepted with a pool of a custom resource without a
    name. -/
theorem clusters_validate_iff (bounds : Bounds) (operations : List Operation) :
    (∀ before, before <+: operations → ((Impl.new bounds).run before).ClustersValid) ↔
      (Impl.new bounds).Along (fun s operation => ¬operation.AddsNamelessPool s) operations := by
  have hempty : (Impl.new bounds).ClustersValid := by
    intro id r hr
    rw [show (Impl.new bounds).clusters = ∅ from rfl, Std.TreeMap.getElem?_emptyc] at hr
    cases hr
  exact Runs.invariant_iff (Q := fun _ _ => True) hempty (Runs.along_of_forall fun _ _ => trivial)
    (fun _ _ _ hvalid hnamed => clustersValid_next hvalid hnamed)
    (fun _ _ _ _ hnameless => not_clustersValid_of_nameless hnameless)

/-- Every stored pool has a ledger that closes. -/
def Impl.LedgersValid (s : Impl) : Prop :=
  ∀ (id : ClusterId) (r : ClusterRecord), s.clusters[id]? = some r →
    ∀ pool ∈ r.capacityPools, pool.ledger.validate = .ok ()

theorem ledgersValid_next {operation : Operation} (h : s.LedgersValid) :
    (operation.next s).LedgersValid := by
  intro id record hrecord
  cases Operation.clusterStep hrecord with
  | kept hstored => exact h _ _ hstored
  | swept hstored _ =>
    intro pool hpool
    exact h _ _ hstored pool hpool
  | registered _ _ haccepts _ =>
    intro pool hpool
    exact ((valid_registered haccepts.1).pools.each pool hpool).ledger
  | retired _ _ _ hstored =>
    intro pool hpool
    exact h _ _ hstored pool hpool
  | @capabilities _ _ _ clusterGeneration _ _ r _ _ _ hstored =>
    intro pool hpool
    exact h _ _ hstored pool ((frame_advanceTo r clusterGeneration).2 ▸ hpool)
  | capacity _ _ haccepts _ =>
    have ⟨_, _, _, _, _, _, _, _, hcheck, _, _⟩ := haccepts
    intro pool hpool
    obtain ⟨published, hpublished, rfl⟩ :=
      List.mem_map.mp ((Sorting.perm_stableSort _ _).mem_iff.mp hpool)
    exact (checkPool_eq_ok.mp (forM_eq_ok.mp hcheck published hpublished)).2.1
  | invalidated _ _ =>
    intro pool hpool
    cases hpool
  | restored _ _ _ =>
    intro pool hpool
    cases hpool

theorem Reachable.ledgersValid (h : Reachable s) : s.LedgersValid := by
  induction h with
  | new bounds =>
    intro id r hr
    rw [show (Impl.new bounds).clusters = ∅ from rfl, Std.TreeMap.getElem?_emptyc] at hr
    cases hr
  | next _ operation ih => exact ledgersValid_next ih

namespace Deployment

/-- The deployment after a capacity publication with a pool of a custom resource without a name. -/
def nameless : Impl :=
  state.run [publish 5 (.publishCapacity cluster.id ⟨1⟩ ⟨1⟩
    [{ poolId := ⟨.ofString "pool"⟩, kind := .custom }])]

theorem reachable_nameless : Reachable nameless := reachable_state.run _

end Deployment

/-- The publication is accepted, and the cluster no longer passes the check of a registration. -/
theorem nameless_pool_stored : ¬∀ s : Impl, Reachable s → s.ClustersValid := by
  intro h
  have hvalid := h Deployment.nameless Deployment.reachable_nameless
  have hstored : (Deployment.nameless.clusters[Deployment.cluster.id]?).map
      (fun r => decide (r.validate = .ok ())) = some false := by
    decide +kernel
  obtain ⟨r, hr, hinvalid⟩ := Option.map_eq_some_iff.mp hstored
  exact of_decide_eq_false hinvalid (hvalid _ r hr)

end FederationObservatory
