import FederationObservatory.Observatory.Proofs.Clusters

/-!
# Retirement of a cluster

A retirement moves the cluster to a newer generation, so that what is late about the previous
incarnation is refused. A registration under a still newer generation brings the cluster back, and
from then on a publication that names no generation is about the new incarnation.
-/

namespace FederationObservatory

variable {s : Impl} {clock : Clock} {ctx : PublicationContext}

/-- The generation under which a registration or publication is about a cluster. -/
def Publication.carries (cluster : ClusterId) : Publication → Option ClusterGeneration
  | .registerCluster record => if record.id = cluster then some record.generation else none
  | .publishCapability id generation _ _ => if id = cluster then some generation else none
  | .publishCapacity id generation _ _ => if id = cluster then some generation else none
  | _ => none

/-- The call registers the cluster under a generation newer than this one, and is applied. -/
def Operation.RegistersNewer (cluster : ClusterId) (generation : ClusterGeneration) (s : Impl) :
    Operation → Prop
  | .submit clock ctx (.publish (.registerCluster record)) =>
    record.id = cluster ∧ generation < record.generation ∧
      (registerCluster s clock ctx record).Applied
  | _ => False

/-- Between the two states the cluster does not come back from its retirement, and its capabilities,
    pools and capacity generation stay. -/
def Impl.LeavesCluster (s t : Impl) (cluster : ClusterId) : Prop :=
  ∀ r r' : ClusterRecord, s.clusters[cluster]? = some r → t.clusters[cluster]? = some r' →
    (r.currentness = .retired → r'.currentness = .retired) ∧ r'.capabilities = r.capabilities ∧
      r'.capacityPools = r.capacityPools ∧ r'.capacityGeneration = r.capacityGeneration

theorem leavesCluster_of_collections {t : Impl} (h : t.toCollections = s.toCollections)
    (cluster : ClusterId) : s.LeavesCluster t cluster := by
  intro r r' hr hr'
  rw [h, hr] at hr'
  obtain rfl := Option.some.inj hr'
  exact ⟨id, rfl, rfl, rfl⟩

/-! ## The retirement -/

/-- The retirement moves the cluster off its generation: it names a newer one, or the one that
    follows is not the same. -/
def ClusterRecord.MovedBy (r : ClusterRecord) (generation : ClusterGeneration) : Prop :=
  if generation.isSet then r.generation < generation
  else r.generation.value ≠ 0xFFFFFFFFFFFFFFFF
  deriving Decidable

/-- The cluster is retired under a newer generation. -/
theorem retired_of_applied {cluster : ClusterId} {generation : ClusterGeneration} {reason : Text}
    {old : ClusterRecord} (hold : s.clusters[cluster]? = some old)
    (hmoved : old.MovedBy generation)
    (happlied : (retireCluster s clock ctx cluster generation reason).Applied) :
    ∃ r, ((Operation.submit clock ctx
        (.publish (.retireCluster cluster generation reason))).next s).clusters[cluster]? = some r ∧
      r.currentness = .retired ∧ old.generation < r.generation := by
  obtain ⟨check, _, hadmitted, haccepts, -⟩ :=
    Publication.accepted_of_applied (p := .retireCluster cluster generation reason) happlied
  have hlookup := (congrArg (·.clusters[cluster]?)
    (@collections_of_accepts s clock ctx (.retireCluster cluster generation reason) check hadmitted
      haccepts)).trans (lookup_retireCluster hold cluster)
  rw [if_pos rfl] at hlookup
  refine ⟨_, hlookup, rfl, ?_⟩
  change old.generation < if generation.isSet then generation else old.generation.next
  unfold ClusterRecord.MovedBy at hmoved
  split
  · rename_i hset
    rwa [if_pos hset] at hmoved
  · rename_i hset
    rw [if_neg hset] at hmoved
    exact (Generation.lt_next_iff _).mpr hmoved

/-! ## Later calls -/

/-- A retired cluster stays retired until it is registered under a newer generation. -/
theorem retired_next {operation : Operation} {cluster : ClusterId} {generation : ClusterGeneration}
    {r : ClusterRecord} (hstored : s.clusters[cluster]? = some r)
    (hretired : r.currentness = .retired) (hnewer : generation < r.generation)
    (hrestores : operation.restores s = none)
    (hnot : ¬operation.RegistersNewer cluster generation s) :
    ∃ r', (operation.next s).clusters[cluster]? = some r' ∧ r'.currentness = .retired ∧
      generation < r'.generation := by
  obtain ⟨r', hr', hle⟩ := generation_le_next (k := .cluster) hrestores hstored
  have hnewer' : generation < r'.generation := UInt64.lt_of_lt_of_le hnewer hle
  refine ⟨r', hr', ?_, hnewer'⟩
  have hsame : ∀ old, s.clusters[cluster]? = some old → old.currentness = .retired := by
    intro old hold
    obtain rfl := Option.some.inj (hstored.symm.trans hold)
    exact hretired
  cases Operation.clusterStep hr' with
  | kept hold => exact hsame _ hold
  | swept hold hcurrent =>
    rw [hsame _ hold] at hcurrent
    cases hcurrent
  | @registered clock ctx check record hsubmit hadmitted haccepts hid =>
    -- an accepted registration is not older than what is stored
    have hgeneration : generation < record.generation := by
      have hold : generation < (s.registered clock ctx record).generation := hnewer'
      unfold Impl.registered at hold
      split at hold <;> exact hold
    obtain ⟨_, hrun⟩ := @Publication.run_of_accepts s clock ctx (.registerCluster record) check
      hadmitted haccepts
    subst hsubmit
    refine absurd ⟨hid, hgeneration, ?_⟩ hnot
    change (Publication.run s clock ctx (.registerCluster record)).Applied
    rw [hrun]
    exact ⟨_, rfl, rfl⟩
  | retired => rfl
  | capabilities _ _ haccepts _ =>
    obtain ⟨-, old, hold, hcurrent, -⟩ := haccepts
    exact absurd (hsame old hold) hcurrent
  | capacity _ _ haccepts _ =>
    obtain ⟨-, old, hold, hcurrent, -⟩ := haccepts
    exact absurd (hsame old hold) hcurrent
  | invalidated hold reason =>
    change (if _ then _ else _) = _
    rw [if_pos (hsame _ hold)]
  | restored hsome => rw [hrestores] at hsome; cases hsome

/-- Over a run. -/
theorem retired_run {operations : List Operation} {cluster : ClusterId}
    {generation : ClusterGeneration} {r : ClusterRecord} (hstored : s.clusters[cluster]? = some r)
    (hretired : r.currentness = .retired) (hnewer : generation < r.generation)
    (hrestores : s.Along (fun t operation => operation.restores t = none) operations)
    (hnot : s.Along (fun t operation => ¬operation.RegistersNewer cluster generation t) operations) :
    ∃ r', (s.run operations).clusters[cluster]? = some r' ∧ r'.currentness = .retired := by
  induction operations generalizing s r with
  | nil => exact ⟨r, hstored, hretired⟩
  | cons operation operations ih =>
    obtain ⟨r', hr', hretired', hnewer'⟩ :=
      retired_next hstored hretired hnewer hrestores.1 hnot.1
    exact ih hr' hretired' hnewer' hrestores.2 hnot.2

/-- What is about a generation that is not newer than one the cluster has left changes nothing, nor
    does what names no generation while the cluster is retired. -/
theorem collections_of_carries {p : Publication} {cluster : ClusterId}
    {generation carried : ClusterGeneration} {r : ClusterRecord}
    (hstored : s.clusters[cluster]? = some r) (hnewer : generation < r.generation)
    (hcarries : p.carries cluster = some carried)
    (hold : carried.isSet = true → carried ≤ generation)
    (hunset : carried.isSet = false → r.currentness = .retired) :
    ((Operation.submit clock ctx (.publish p)).next s).toCollections = s.toCollections := by
  refine Publication.collections_of_not_accepts fun check _ haccepts => ?_
  have hpast : carried.isSet = true → ¬r.generation ≤ carried := by
    intro hset hle
    exact UInt64.not_le.mpr hnewer (UInt64.le_trans hle (hold hset))
  -- a dynamic publication is refused for the generation it names, or for the retirement
  have hdynamic : ∀ stored, s.clusters[cluster]? = some stored → stored.currentness ≠ .retired →
      (carried.isSet = true → stored.generation ≤ carried) → False := by
    intro stored hstored' hcurrent hgeneration
    obtain rfl := Option.some.inj (hstored.symm.trans hstored')
    cases hset : carried.isSet with
    | true => exact hpast hset (hgeneration hset)
    | false => exact hcurrent (hunset hset)
  cases p with
  | registerCluster record =>
    simp only [Publication.carries] at hcarries
    split at hcarries
    · rename_i hid
      subst hid
      obtain rfl := Option.some.inj hcarries
      have haccepts' : AcceptsStructural .cluster s record (checkCluster s record)
        s.bounds.maxClusters (fun r : ClusterRecord => r.generation) check.duplicateSequence :=
        haccepts
      obtain ⟨hvalid, -, -, hmatch⟩ := haccepts'
      rw [show (s.table .cluster)[StoredRecord.key (ρ := RecordKind.Record .cluster) record]? =
        some r from hstored] at hmatch
      exact hpast (ClusterRecord.validate_eq_ok.mp hvalid).generation hmatch.2
    · cases hcarries
  | publishCapability id clusterGeneration capabilityGeneration capabilities =>
    simp only [Publication.carries] at hcarries
    split at hcarries
    · rename_i hid
      subst hid
      obtain rfl := Option.some.inj hcarries
      obtain ⟨-, stored, hstored', hcurrent, -, hgeneration, -⟩ := haccepts
      exact hdynamic stored hstored' hcurrent hgeneration
    · cases hcarries
  | publishCapacity id clusterGeneration capacityGeneration pools =>
    simp only [Publication.carries] at hcarries
    split at hcarries
    · rename_i hid
      subst hid
      obtain rfl := Option.some.inj hcarries
      obtain ⟨-, stored, hstored', hcurrent, -, -, hgeneration, -⟩ := haccepts
      exact hdynamic stored hstored' hcurrent hgeneration
    · cases hcarries
  | _ => cases hcarries

/-- Once a cluster was retired under a newer generation, no registration or publication about it
    under a generation that is not newer than the one it had brings it back or changes what is known
    of it, whatever is called in between; and as long as it was not registered under a newer
    generation, neither does one that names no generation. -/
theorem retirement_final {cluster : ClusterId} {generation : ClusterGeneration} {reason : Text}
    {old : ClusterRecord} (hold : s.clusters[cluster]? = some old)
    (hmoved : old.MovedBy generation)
    (happlied : (retireCluster s clock ctx cluster generation reason).Applied)
    {operations : List Operation}
    (hrestores : ((Operation.submit clock ctx
        (.publish (.retireCluster cluster generation reason))).next s).Along
      (fun t operation => operation.restores t = none) operations)
    (clock' : Clock) (ctx' : PublicationContext) {p : Publication} {carried : ClusterGeneration}
    (hcarries : p.carries cluster = some carried)
    (hcarried : carried.isSet = true → carried ≤ old.generation)
    (hunset : carried.isSet = false → ((Operation.submit clock ctx
        (.publish (.retireCluster cluster generation reason))).next s).Along
      (fun t operation => ¬operation.RegistersNewer cluster old.generation t) operations) :
    let t := ((Operation.submit clock ctx
      (.publish (.retireCluster cluster generation reason))).next s).run operations
    t.LeavesCluster ((Operation.submit clock' ctx' (.publish p)).next t) cluster := by
  intro t
  obtain ⟨r, hr, hretired, hnewer⟩ := retired_of_applied hold hmoved happlied
  obtain ⟨r', hr', hle⟩ := generation_le_run (k := .cluster) hrestores hr
  refine leavesCluster_of_collections (collections_of_carries hr'
    (UInt64.lt_of_lt_of_le hnewer hle) hcarries hcarried ?_) cluster
  intro hunset'
  obtain ⟨r'', hr'', hretired''⟩ := retired_run hr hretired hnewer hrestores (hunset hunset')
  obtain rfl := Option.some.inj (hr''.symm.trans hr')
  exact hretired''

namespace Deployment

/-- The retirement of the deployment's cluster. -/
def retirement : Operation := publish 5 (.retireCluster cluster.id {} [])

/-- The cluster is registered again, as a newer incarnation. -/
def reincarnation : Operation := publish 6 (.registerCluster { cluster with generation := ⟨3⟩ })

/-- A capacity publication for the cluster. -/
def capacity (generation : ClusterGeneration) : Publication :=
  .publishCapacity cluster.id generation ⟨1⟩ [{ poolId := ⟨.ofString "pool"⟩, kind := .memoryBytes }]

theorem along_reincarnation (t : Impl) :
    t.Along (fun t operation => operation.restores t = none) [reincarnation] := ⟨rfl, trivial⟩

theorem lookup_cluster : state.clusters[cluster.id]? = some ((state.clusters[cluster.id]?).getD {}) := by
  decide +kernel

end Deployment

/-- The deployment's cluster had generation 1: a publication under that generation changes nothing,
    also of the next incarnation, and one without a generation changes nothing before. -/
theorem retirement_final_deployment :
    ((Deployment.retirement.next Deployment.state).run [Deployment.reincarnation]).LeavesCluster
        ((Deployment.publish 7 (Deployment.capacity ⟨1⟩)).next
          ((Deployment.retirement.next Deployment.state).run [Deployment.reincarnation]))
        Deployment.cluster.id ∧
      (Deployment.retirement.next Deployment.state).LeavesCluster
        ((Deployment.publish 6 (Deployment.capacity {})).next
          (Deployment.retirement.next Deployment.state)) Deployment.cluster.id := by
  have happlied : (retireCluster Deployment.state {} (Deployment.context 5) Deployment.cluster.id {}
      []).Applied := by
    decide +kernel
  have hmoved : ((Deployment.state.clusters[Deployment.cluster.id]?).getD {}).MovedBy {} := by
    decide +kernel
  have hold : (⟨1⟩ : ClusterGeneration) ≤
      ((Deployment.state.clusters[Deployment.cluster.id]?).getD {}).generation := by
    decide +kernel
  constructor
  · exact @retirement_final Deployment.state {} (Deployment.context 5) Deployment.cluster.id {} []
      _ Deployment.lookup_cluster hmoved happlied [Deployment.reincarnation]
      (Deployment.along_reincarnation _) {} (Deployment.context 7) (Deployment.capacity ⟨1⟩) ⟨1⟩ rfl
      (fun _ => hold) (fun h => by cases h)
  · exact @retirement_final Deployment.state {} (Deployment.context 5) Deployment.cluster.id {} []
      _ Deployment.lookup_cluster hmoved happlied [] trivial {} (Deployment.context 6)
      (Deployment.capacity {}) {} rfl (fun h => by cases h) (fun _ => trivial)

/-- A publication without a generation is not refused for good: it changes the next incarnation. -/
theorem retirement_not_final :
    ¬∀ (s : Impl) (clock : Clock) (ctx : PublicationContext) (cluster : ClusterId)
      (generation : ClusterGeneration) (reason : Text) (old : ClusterRecord)
      (operations : List Operation) (clock' : Clock) (ctx' : PublicationContext) (p : Publication)
      (carried : ClusterGeneration),
      Reachable s → s.clusters[cluster]? = some old →
      (retireCluster s clock ctx cluster generation reason).Applied →
      ((Operation.submit clock ctx
          (.publish (.retireCluster cluster generation reason))).next s).Along
        (fun t operation => operation.restores t = none) operations →
      p.carries cluster = some carried → (carried.isSet = true → carried ≤ old.generation) →
      (((Operation.submit clock ctx
          (.publish (.retireCluster cluster generation reason))).next s).run
            operations).LeavesCluster
        ((Operation.submit clock' ctx' (.publish p)).next
          (((Operation.submit clock ctx
            (.publish (.retireCluster cluster generation reason))).next s).run operations))
        cluster := by
  intro h
  have hleaves : ((Deployment.retirement.next Deployment.state).run
      [Deployment.reincarnation]).LeavesCluster
        ((Deployment.publish 7 (Deployment.capacity {})).next
          ((Deployment.retirement.next Deployment.state).run [Deployment.reincarnation]))
        Deployment.cluster.id :=
    h Deployment.state {} (Deployment.context 5) Deployment.cluster.id {} []
      ((Deployment.state.clusters[Deployment.cluster.id]?).getD {}) [Deployment.reincarnation] {}
      (Deployment.context 7) (Deployment.capacity {}) {} Deployment.reachable_state
      Deployment.lookup_cluster (by decide +kernel) (Deployment.along_reincarnation _) rfl
      (fun h => by cases h)
  have hbefore : (((Deployment.retirement.next Deployment.state).run
      [Deployment.reincarnation]).clusters[Deployment.cluster.id]?).map (·.capacityPools.length) =
      some 0 := by
    decide +kernel
  have hafter : (((Deployment.publish 7 (Deployment.capacity {})).next
      ((Deployment.retirement.next Deployment.state).run
        [Deployment.reincarnation])).clusters[Deployment.cluster.id]?).map
      (·.capacityPools.length) = some 1 := by
    decide +kernel
  obtain ⟨r, hr, hempty⟩ := Option.map_eq_some_iff.mp hbefore
  obtain ⟨r', hr', hpool⟩ := Option.map_eq_some_iff.mp hafter
  obtain ⟨-, -, hpools, -⟩ := hleaves r r' hr hr'
  rw [hpools, hempty] at hpool
  cases hpool

end FederationObservatory
