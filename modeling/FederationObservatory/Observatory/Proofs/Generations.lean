import FederationObservatory.Observatory.Proofs.Records

/-!
# Generations

While nothing is restored the generation of a stored record never decreases. Inside one generation
of a cluster its capability and capacity generations do not decrease either, unless the cluster is
registered again: `register_cluster` compares the cluster generation only.
-/

namespace FederationObservatory

variable {s : Impl}

/-! ## Generations of stored records -/

theorem generation_le_advanceTo (record : ClusterRecord) (generation : ClusterGeneration) :
    record.generation ≤ (record.advanceTo generation).generation := by
  unfold ClusterRecord.advanceTo
  split
  · rename_i h
    rw [Bool.and_eq_true, Generation.newerThan_eq_true] at h
    exact Generation.le_of_lt h.2
  · exact Generation.le_refl _

theorem generation_le_retire {record : ClusterRecord} {clock : Clock} {ctx : PublicationContext}
    {generation : ClusterGeneration} {reason : Text}
    (h : generation.isSet = true → record.generation ≤ generation) :
    record.generation ≤ (record.retire clock ctx generation reason).generation := by
  simp only [ClusterRecord.retire]
  split
  · rename_i hset
    exact h hset
  · exact Generation.le_next _

theorem generation_superseded (record : MigrationRecord) :
    record.superseded.generation = record.generation := by
  unfold MigrationRecord.superseded
  split <;> rfl

theorem generation_enter (record : MigrationRecord) (stage : MigrationStage) :
    (record.enter stage).generation = record.generation := by
  cases stage <;> rfl

theorem RecordKind.generation_sweep (k : RecordKind) (key : PublisherKey) (record : k.Record) :
    k.generation (sweep key record) = k.generation record := by
  unfold sweep
  split
  · cases k <;> rfl
  · rfl

/-- What a publication writes is not older than what was there. -/
theorem generation_le_written {clock : Clock} {ctx : PublicationContext} {p : Publication}
    {k : RecordKind} {old record : k.Record} (h : Written s clock ctx p k (some old) record) :
    k.generation old ≤ k.generation record := by
  generalize hfound : some old = found at h
  cases h with
  | registered record hk hold =>
    rw [RecordKind.generation_accepted]
    exact hold old hfound.symm
  | registeredCluster record hold => exact hold old hfound.symm
  | advancedCluster record previous hold => exact UInt64.le_of_lt (hold old hfound.symm)
  | retired record cluster generation reason hgeneration =>
    obtain rfl := Option.some.inj hfound
    exact generation_le_retire hgeneration
  | capabilities record cluster clusterGeneration generation capabilities hgeneration =>
    obtain rfl := Option.some.inj hfound
    exact generation_le_advanceTo _ clusterGeneration
  | capacity record cluster clusterGeneration generation pools accepted hgeneration =>
    obtain rfl := Option.some.inj hfound
    exact generation_le_advanceTo _ clusterGeneration
  | placement record supersedesLatest hold => exact UInt64.le_of_lt (hold old hfound.symm)
  | migration record hold final hfinal =>
    have hgeneration : final.generation = record.generation := by
      rcases hfinal with rfl | rfl
      · rfl
      · exact generation_superseded _
    change old.generation ≤ final.generation
    rw [hgeneration]
    exact Generation.le_of_lt (hold old hfound.symm)
  | superseded record previous =>
    obtain rfl := Option.some.inj hfound
    exact UInt64.le_of_eq (congrArg Generation.value (generation_superseded _)).symm
  | stage record migration generation stage detail event =>
    obtain rfl := Option.some.inj hfound
    refine UInt64.le_of_eq (congrArg Generation.value ?_).symm
    exact generation_enter { old with stageEvents := old.stageEvents ++ [event] } event.stage
  | portability record => exact UInt64.le_refl _

/-- A call that does not restore keeps every record at its generation or above. -/
theorem generation_le_next {operation : Operation} (hrestores : operation.restores s = none)
    {k : RecordKind} {at' : k.Key} {record : k.Record} (h : (s.table k)[at']? = some record) :
    ∃ record', ((operation.next s).table k)[at']? = some record' ∧
      k.generation record ≤ k.generation record' := by
  have hstep := Operation.recordStep hrestores k at'
  rw [h] at hstep
  generalize hafter : ((operation.next s).table k)[at']? = after at hstep ⊢
  generalize hbefore : some record = before at hstep
  cases hstep with
  | unchanged => exact ⟨record, hbefore.symm, UInt64.le_refl _⟩
  | @written _ _ _ _ _ _ _ _ _ record' hwritten =>
    subst hbefore
    exact ⟨record', rfl, generation_le_written hwritten⟩
  | swept key old =>
    obtain rfl := Option.some.inj hbefore
    exact ⟨_, rfl, UInt64.le_of_eq (k.generation_sweep key record).symm⟩
  | invalidated reason old =>
    obtain rfl := Option.some.inj hbefore
    exact ⟨_, rfl, UInt64.le_refl _⟩

/-! ## Capabilities and capacity of a cluster -/

/-- What is published about a cluster under a generation of its own. -/
inductive DynamicEvidence where
  | capability | capacity
  deriving DecidableEq, Repr

/-- The generation of the stored evidence, as its 64-bit value. -/
def ClusterRecord.published (record : ClusterRecord) : DynamicEvidence → UInt64
  | .capability => record.capabilityGeneration.value
  | .capacity => record.capacityGeneration.value

/-- The cluster, the kind and the generation of a capability or capacity publication. -/
def Publication.publishes : Publication → Option (ClusterId × DynamicEvidence × UInt64)
  | .publishCapability cluster _ generation _ => some (cluster, .capability, generation.value)
  | .publishCapacity cluster _ generation _ => some (cluster, .capacity, generation.value)
  | _ => none

/-- The call registers a cluster again, under the generation it has, with an older capability or
    capacity generation than the stored one, and is accepted. -/
def Operation.RegressesCluster (s : Impl) : Operation → Prop
  | .submit _ ctx (.publish (.registerCluster record)) =>
    ∃ check old, Admitted s ctx check ∧
      (Publication.registerCluster record).Accepts s ctx check.duplicateSequence ∧
      s.clusters[record.id]? = some old ∧ record.generation = old.generation ∧
      ∃ evidence, record.published evidence < old.published evidence
  | _ => False

/-- The call does not lower the capability or capacity generation of a cluster whose generation it
    leaves unchanged. -/
def Operation.KeepsPublished (s : Impl) (operation : Operation) : Prop :=
  ∀ (cluster : ClusterId) (old record : ClusterRecord), s.clusters[cluster]? = some old →
    (operation.next s).clusters[cluster]? = some record → record.generation = old.generation →
    ∀ evidence, old.published evidence ≤ record.published evidence

theorem published_advanceTo (record : ClusterRecord) (generation : ClusterGeneration)
    (evidence : DynamicEvidence) :
    (record.advanceTo generation).published evidence = record.published evidence := by
  unfold ClusterRecord.advanceTo
  split <;> cases evidence <;> rfl

theorem published_sweep (key : PublisherKey) (record : ClusterRecord)
    (evidence : DynamicEvidence) :
    (sweep key record).published evidence = record.published evidence := by
  unfold sweep
  split <;> cases evidence <;> rfl

/-- A publication that writes lowers neither generation, unless it registers the cluster. -/
theorem published_le_written {clock : Clock} {ctx : PublicationContext} {p : Publication}
    {old record : ClusterRecord} (h : Written s clock ctx p .cluster (some old) record)
    (hregister : ∀ r, p ≠ .registerCluster r) (evidence : DynamicEvidence) :
    old.published evidence ≤ record.published evidence := by
  generalize hfound : some old = found at h
  cases h with
  | registered record hk => exact absurd rfl hk
  | registeredCluster record => exact absurd rfl (hregister record)
  | advancedCluster record previous hold => exact absurd rfl (hregister record)
  | retired record cluster generation reason =>
    obtain rfl := Option.some.inj hfound
    cases evidence with
    | capability => exact UInt64.le_refl _
    | capacity => exact Generation.le_next _
  | capabilities record cluster clusterGeneration generation capabilities hgeneration =>
    obtain rfl := Option.some.inj hfound
    cases evidence with
    | capability => exact hgeneration
    | capacity => exact UInt64.le_of_eq (published_advanceTo old clusterGeneration .capacity).symm
  | capacity record cluster clusterGeneration generation pools accepted hgeneration =>
    obtain rfl := Option.some.inj hfound
    cases evidence with
    | capability =>
      exact UInt64.le_of_eq (published_advanceTo old clusterGeneration .capability).symm
    | capacity => exact hgeneration

/-- Every call but a registration of a cluster keeps the capability and capacity generations. -/
theorem keepsPublished_of_ne {operation : Operation} (hrestores : operation.restores s = none)
    (hregister : ∀ clock ctx r, operation ≠ .submit clock ctx (.publish (.registerCluster r))) :
    operation.KeepsPublished s := by
  intro cluster old record hold hrecord _ evidence
  have hstep := Operation.recordStep hrestores .cluster cluster
  rw [show (s.table .cluster)[cluster]? = some old from hold,
    show ((operation.next s).table .cluster)[cluster]? = some record from hrecord] at hstep
  generalize hbefore : some old = before at hstep
  cases hstep with
  | unchanged =>
    obtain rfl := Option.some.inj hbefore
    exact UInt64.le_refl _
  | written hsubmit hadmitted haccepts hwritten =>
    subst hbefore
    refine published_le_written hwritten ?_ evidence
    rintro r rfl
    exact hregister _ _ r hsubmit
  | swept key old' =>
    obtain rfl := Option.some.inj hbefore
    exact UInt64.le_of_eq (published_sweep key old evidence).symm
  | invalidated reason old' =>
    obtain rfl := Option.some.inj hbefore
    cases evidence <;> exact UInt64.le_refl _

theorem published_accepted (clock : Clock) (ctx : PublicationContext) (record : ClusterRecord)
    (evidence : DynamicEvidence) :
    (accepted (k := .cluster) clock ctx record : ClusterRecord).published evidence =
      record.published evidence := by
  cases evidence <;> rfl

/-- A registration under the generation the cluster has replaces the record as it came. -/
theorem not_advancesCluster {record old : ClusterRecord} (hold : s.clusters[record.id]? = some old)
    (hsame : record.generation = old.generation) : s.advancesCluster record = false := by
  have hgeneration : s.clusterGeneration record.id = old.generation := by
    rw [Impl.clusterGeneration, hold]
  simp [Impl.advancesCluster, hgeneration, hsame, Generation.newerThan]

/-- The generation a registration leaves is the one that was registered. -/
theorem keepsPublished_registerCluster_iff (clock : Clock) (ctx : PublicationContext)
    (record : ClusterRecord) :
    Operation.KeepsPublished s (.submit clock ctx (.publish (.registerCluster record))) ↔
      ¬Operation.RegressesCluster s (.submit clock ctx (.publish (.registerCluster record))) := by
  by_cases haccepted : ∃ check, Admitted s ctx check ∧
      (Publication.registerCluster record).Accepts s ctx check.duplicateSequence
  · obtain ⟨check, hadmitted, haccepts⟩ := haccepted
    obtain ⟨detail, hrun⟩ := @Publication.run_of_accepts s clock ctx _ _ hadmitted haccepts
    have hlookup : ∀ cluster : ClusterId,
        ((Operation.submit clock ctx (.publish (.registerCluster record))).next s).clusters[cluster]? =
          (s.registerCluster clock ctx record).clusters[cluster]? := by
      intro cluster
      rw [Operation.next, Request.run, hrun]
      rfl
    constructor
    · rintro hkeeps ⟨-, old, -, -, hold, hsame, evidence, hlt⟩
      have hle := hkeeps record.id old (accepted (k := .cluster) clock ctx record) hold
        (by rw [hlookup, lookup_registerCluster, if_pos rfl,
          not_advancesCluster hold hsame]; rfl) hsame evidence
      rw [published_accepted] at hle
      exact UInt64.not_le.mpr hlt hle
    · intro hnot cluster old stored hold hstored hsame evidence
      rw [hlookup, lookup_registerCluster] at hstored
      split at hstored
      · rename_i hid
        subst hid
        -- whether the generation advanced or not, the generations are the registered ones
        have hregistered : stored.generation = record.generation ∧
            stored.published evidence = record.published evidence := by
          rw [← Option.some.inj hstored]
          split <;> cases evidence <;> exact ⟨rfl, rfl⟩
        by_contra hlt
        rw [hregistered.2] at hlt
        exact hnot ⟨check, old, hadmitted, haccepts, hold, hregistered.1.symm.trans hsame, evidence,
          UInt64.not_le.mp hlt⟩
      · obtain rfl := Option.some.inj (hold.symm.trans hstored)
        exact UInt64.le_refl _
  · have hcollections := @Publication.collections_of_not_accepts s clock ctx
      (.registerCluster record) fun check hadmitted haccepts =>
        haccepted ⟨check, hadmitted, haccepts⟩
    constructor
    · rintro - ⟨check, -, hadmitted, haccepts, -⟩
      exact haccepted ⟨check, hadmitted, haccepts⟩
    · intro _ cluster old stored hold hstored _ evidence
      rw [Operation.next, Request.run, hcollections, hold] at hstored
      obtain rfl := Option.some.inj hstored
      exact UInt64.le_refl _

/-- A call that does not restore keeps the capability and capacity generations exactly when it does
    not register a cluster again with an older one. -/
theorem keepsPublished_iff {operation : Operation} (hrestores : operation.restores s = none) :
    operation.KeepsPublished s ↔ ¬operation.RegressesCluster s := by
  by_cases hregister : ∃ clock ctx r,
      operation = .submit clock ctx (.publish (.registerCluster r))
  · obtain ⟨clock, ctx, r, rfl⟩ := hregister
    exact keepsPublished_registerCluster_iff clock ctx r
  · have hne : ∀ clock ctx r, operation ≠ .submit clock ctx (.publish (.registerCluster r)) :=
      fun clock ctx r h => hregister ⟨clock, ctx, r, h⟩
    refine ⟨fun _ hregresses => ?_, fun _ => keepsPublished_of_ne hrestores hne⟩
    unfold Operation.RegressesCluster at hregresses
    split at hregresses
    · exact hne _ _ _ rfl
    · exact hregresses

/-! ## Accepted publications -/

/-- A capability publication that is recognised as a duplicate has the stored generation. -/
theorem capabilityGeneration_of_kept {clock : Clock} {ctx : PublicationContext}
    {cluster : ClusterId} {clusterGeneration : ClusterGeneration}
    {generation : AcceleratorCapabilityGeneration} {capabilities : CapabilitySet}
    {r : IngestResult} {t : Impl}
    (hrun : publishCapability s clock ctx cluster clusterGeneration generation capabilities =
      .ok (r, t)) (hr : r.disposition ≠ .applied) :
    ∃ record, s.clusters[cluster]? = some record ∧ record.capabilityGeneration = generation := by
  unfold publishCapability at hrun
  simp only [bind, Except.bind] at hrun
  iterate 2
    split at hrun
    · cases hrun
  split at hrun
  · cases hrun
  rename_i record hrecord
  iterate 4
    split at hrun
    · cases hrun
  split at hrun
  · rename_i hsame
    exact ⟨record, hrecord, hsame.1.symm⟩
  split at hrun
  · cases hrun
  · exact absurd (congrArg (fun q => q.1.disposition) (Except.ok.inj hrun)) hr.symm

theorem capacityGeneration_of_kept {clock : Clock} {ctx : PublicationContext}
    {cluster : ClusterId} {clusterGeneration : ClusterGeneration}
    {generation : CapacityGeneration} {pools : List CapacityPool}
    {r : IngestResult} {t : Impl}
    (hrun : publishCapacity s clock ctx cluster clusterGeneration generation pools =
      .ok (r, t)) (hr : r.disposition ≠ .applied) :
    ∃ record, s.clusters[cluster]? = some record ∧ record.capacityGeneration = generation := by
  unfold publishCapacity at hrun
  simp only [bind, Except.bind] at hrun
  iterate 2
    split at hrun
    · cases hrun
  split at hrun
  · cases hrun
  rename_i record hrecord
  iterate 5
    split at hrun
    · cases hrun
  split at hrun
  · cases hrun
  iterate 2
    split at hrun
    · cases hrun
  split at hrun
  · rename_i hsame
    exact ⟨record, hrecord, hsame.1.symm⟩
  · exact absurd (congrArg (fun q => q.1.disposition) (Except.ok.inj hrun)) hr.symm

/-- After a capability or capacity publication that was not refused the cluster is at its
    generation. -/
theorem published_of_ok {clock : Clock} {ctx : PublicationContext} {p : Publication}
    {r : IngestResult} (h : (p.run s clock ctx).result = .ok r) {cluster : ClusterId}
    {evidence : DynamicEvidence} {generation : UInt64}
    (hp : p.publishes = some (cluster, evidence, generation)) :
    ∃ record, (p.run s clock ctx).state.clusters[cluster]? = some record ∧
      record.published evidence = generation := by
  rcases p.run_cases s clock ctx with
    ⟨_, hrun, -⟩ | ⟨check, disposition, detail, -, hd, hrun⟩ | ⟨check, detail, -, haccepts, hrun⟩
  · rw [hrun] at h
    cases h
  · rw [hrun]
    cases p with
    | publishCapability c clusterGeneration g capabilities =>
      cases hp
      obtain ⟨record, hrecord, hgeneration⟩ := capabilityGeneration_of_kept hrun hd
      exact ⟨record, hrecord, congrArg Generation.value hgeneration⟩
    | publishCapacity c clusterGeneration g pools =>
      cases hp
      obtain ⟨record, hrecord, hgeneration⟩ := capacityGeneration_of_kept hrun hd
      exact ⟨record, hrecord, congrArg Generation.value hgeneration⟩
    | _ => cases hp
  · rw [hrun]
    change ∃ record, (p.written s clock ctx).clusters[cluster]? = some record ∧ _
    cases p with
    | publishCapability c clusterGeneration g capabilities =>
      cases hp
      obtain ⟨-, record, hrecord, -⟩ := haccepts
      simp only [Publication.written, hrecord]
      exact ⟨_, Impl.lookup_store_self _ .cluster cluster _, rfl⟩
    | publishCapacity c clusterGeneration g pools =>
      cases hp
      obtain ⟨-, record, hrecord, -⟩ := haccepts
      simp only [Publication.written, hrecord]
      exact ⟨_, Impl.lookup_store_self _ .cluster cluster _, rfl⟩
    | _ => cases hp

/-- A capability or capacity publication that is applied is not older than the stored evidence. -/
theorem published_le_of_applied {clock : Clock} {ctx : PublicationContext} {p : Publication}
    (h : (p.run s clock ctx).Applied) {cluster : ClusterId} {evidence : DynamicEvidence}
    {generation : UInt64} (hp : p.publishes = some (cluster, evidence, generation))
    {record : ClusterRecord} (hrecord : s.clusters[cluster]? = some record) :
    record.published evidence ≤ generation := by
  obtain ⟨check, -, -, haccepts, -⟩ := p.accepted_of_applied h
  cases p with
  | publishCapability c clusterGeneration g capabilities =>
    cases hp
    obtain ⟨-, stored, hstored, -, -, -, hle, -⟩ := haccepts
    obtain rfl := Option.some.inj (hrecord.symm.trans hstored)
    exact hle
  | publishCapacity c clusterGeneration g pools =>
    cases hp
    obtain ⟨-, stored, hstored, -, -, -, -, hle, -⟩ := haccepts
    obtain rfl := Option.some.inj (hrecord.symm.trans hstored)
    exact hle
  | _ => cases hp

/-! ## Runs -/

/-- Along a run without a restore every record stays, at its generation or above. -/
theorem generation_le_run {operations : List Operation}
    (h : s.Along (fun s operation => operation.restores s = none) operations) {k : RecordKind}
    {at' : k.Key} {record : k.Record} (hrecord : (s.table k)[at']? = some record) :
    ∃ record', ((s.run operations).table k)[at']? = some record' ∧
      k.generation record ≤ k.generation record' := by
  refine Runs.invariant (I := fun t : Impl => ∃ record', (t.table k)[at']? = some record' ∧
    k.generation record ≤ k.generation record') ?_ h ⟨record, hrecord, UInt64.le_refl _⟩
  rintro t operation hrestores ⟨record', hrecord', hle⟩
  obtain ⟨record'', hrecord'', hle'⟩ := generation_le_next hrestores hrecord'
  exact ⟨record'', hrecord'', UInt64.le_trans hle hle'⟩

/-- The call neither restores nor registers a cluster again with older evidence. -/
def Operation.KeepsGenerations (s : Impl) (operation : Operation) : Prop :=
  operation.restores s = none ∧ ¬operation.RegressesCluster s

/-- Along such a run a cluster that stays in its generation keeps its capability and capacity
    generations or advances them. -/
theorem published_le_run {operations : List Operation}
    (h : s.Along (fun s operation => operation.KeepsGenerations s) operations)
    {cluster : ClusterId} {record record' : ClusterRecord}
    (hrecord : s.clusters[cluster]? = some record)
    (hrecord' : (s.run operations).clusters[cluster]? = some record')
    (hsame : record'.generation = record.generation) (evidence : DynamicEvidence) :
    record.published evidence ≤ record'.published evidence := by
  -- the generation cannot come back once it has advanced, so each step stayed in the generation
  obtain ⟨final, hfinal, hcases⟩ := Runs.invariant
    (I := fun t : Impl => ∃ r, t.clusters[cluster]? = some r ∧ (record.generation < r.generation ∨
      (r.generation = record.generation ∧ record.published evidence ≤ r.published evidence)))
    (by
      rintro t operation ⟨hrestores, hregresses⟩ ⟨r, hr, hcases⟩
      obtain ⟨r', hr', hle⟩ := generation_le_next (k := .cluster) hrestores hr
      refine ⟨r', hr', ?_⟩
      rcases hcases with hlt | ⟨heq, hpublished⟩
      · exact .inl (UInt64.lt_of_lt_of_le hlt hle)
      · rcases UInt64.lt_or_eq_of_le hle with hlt | hgeneration
        · exact .inl (heq ▸ hlt)
        · have hstay : r'.generation = r.generation := Generation.ext hgeneration.symm
          have hkeeps := (keepsPublished_iff hrestores).mpr hregresses cluster r r' hr hr' hstay
          exact .inr ⟨hstay.trans heq, UInt64.le_trans hpublished (hkeeps evidence)⟩)
    h ⟨record, hrecord, .inr ⟨rfl, UInt64.le_refl _⟩⟩
  obtain rfl := Option.some.inj (hfinal.symm.trans hrecord')
  rcases hcases with hlt | ⟨-, hpublished⟩
  · rw [hsame] at hlt
    exact absurd hlt (UInt64.lt_irrefl _)
  · exact hpublished

/-- Generations do not decrease. Along a run without a restore every record stays, at its generation
    or above. Along such a run every call keeps the capability and capacity generations of a cluster
    whose generation it keeps exactly when none registers a cluster again with an older one. And
    after a run without such calls, a publication older than one that was accepted in the same
    generation of the cluster is not applied. -/
theorem generations_never_decrease (s : Impl) :
    (∀ (operations : List Operation),
      s.Along (fun s operation => operation.restores s = none) operations →
      ∀ (k : RecordKind) (at' : k.Key) (record : k.Record), (s.table k)[at']? = some record →
        ∃ record', ((s.run operations).table k)[at']? = some record' ∧
          k.generation record ≤ k.generation record') ∧
    (∀ (operations : List Operation),
      s.Along (fun s operation => operation.restores s = none) operations →
      (s.Along (fun s operation => operation.KeepsPublished s) operations ↔
        s.Along (fun s operation => ¬operation.RegressesCluster s) operations)) ∧
    ∀ (clock : Clock) (ctx : PublicationContext) (p : Publication) (r : IngestResult)
      (cluster : ClusterId) (evidence : DynamicEvidence) (generation : UInt64),
      (p.run s clock ctx).result = .ok r →
      p.publishes = some (cluster, evidence, generation) →
      ∀ (operations : List Operation),
        (p.run s clock ctx).state.Along (fun s operation => operation.KeepsGenerations s)
          operations →
        ∀ (record record' : ClusterRecord),
          (p.run s clock ctx).state.clusters[cluster]? = some record →
          ((p.run s clock ctx).state.run operations).clusters[cluster]? = some record' →
          record'.generation = record.generation →
          ∀ (clock' : Clock) (ctx' : PublicationContext) (p' : Publication) (generation' : UInt64),
            p'.publishes = some (cluster, evidence, generation') → generation' < generation →
            ¬(p'.run ((p.run s clock ctx).state.run operations) clock' ctx').Applied := by
  refine ⟨fun operations h k at' record hrecord => generation_le_run h hrecord,
    fun operations h => Runs.along_congr (fun _ _ => keepsPublished_iff) h, ?_⟩
  intro clock ctx p r cluster evidence generation hresult hp operations halong record record'
    hrecord hrecord' hsame clock' ctx' p' generation' hp' hlt happlied
  obtain ⟨stored, hstored, rfl⟩ := published_of_ok hresult hp
  obtain rfl := Option.some.inj (hrecord.symm.trans hstored)
  have hle := published_le_run halong hrecord hrecord' hsame evidence
  have hnew := published_le_of_applied happlied hp' hrecord'
  exact UInt64.not_le.mpr hlt (UInt64.le_trans hle hnew)

namespace Deployment

/-- A capability publication for the deployment's cluster. -/
def capability (generation : UInt64) : Publication :=
  .publishCapability cluster.id {} ⟨generation⟩ {}

/-- The deployment after its capabilities were published under generation 5. -/
def capable : Impl := state.run [publish 5 (capability 5)]

end Deployment

/-- In the deployment: the cluster keeps its generation over a capability publication, which
    registers no cluster; and once generation 5 was accepted, generation 4 is not applied. -/
theorem generations_never_decrease_deployment :
    (∃ record, Deployment.capable.clusters[Deployment.cluster.id]? = some record ∧
      1 ≤ record.generation.value) ∧
    Deployment.state.Along (fun s operation => operation.KeepsPublished s)
      [Deployment.publish 5 (Deployment.capability 5)] ∧
    ¬((Deployment.capability 4).run Deployment.capable {} (Deployment.context 6)).Applied := by
  have hlookup : (Deployment.state.clusters[Deployment.cluster.id]?).map (·.generation) =
      some ⟨1⟩ := by decide +kernel
  obtain ⟨record, hrecord, hgeneration⟩ := Option.map_eq_some_iff.mp hlookup
  have hcapable : (Deployment.capable.clusters[Deployment.cluster.id]?).isSome := by
    decide +kernel
  obtain ⟨stored, hstored⟩ := Option.isSome_iff_exists.mp hcapable
  have hok : ((Deployment.capability 5).run Deployment.state {}
      (Deployment.context 5)).result.toOption.isSome := by decide +kernel
  refine ⟨?_, ?_, ?_⟩
  · obtain ⟨record', hrecord', hle⟩ := (generations_never_decrease Deployment.state).1
      [Deployment.publish 5 (Deployment.capability 5)] ⟨rfl, trivial⟩ .cluster
      Deployment.cluster.id record hrecord
    refine ⟨record', hrecord', ?_⟩
    change record.generation.value ≤ record'.generation.value at hle
    rwa [hgeneration] at hle
  · exact ((generations_never_decrease Deployment.state).2.1
      [Deployment.publish 5 (Deployment.capability 5)] ⟨rfl, trivial⟩).mpr ⟨id, trivial⟩
  · cases hresult : ((Deployment.capability 5).run Deployment.state {}
      (Deployment.context 5)).result with
    | error e =>
      rw [hresult] at hok
      cases hok
    | ok r =>
      exact (generations_never_decrease Deployment.state).2.2 {} (Deployment.context 5)
        (Deployment.capability 5) r Deployment.cluster.id .capability 5 hresult rfl [] trivial
        stored stored hstored hstored rfl {} (Deployment.context 6) (Deployment.capability 4) 4 rfl
        (by decide)

/-- Registering the cluster again takes its capability generation back, from 5 to unset, under the
    same cluster generation. -/
theorem registerCluster_regresses :
    ¬∀ (s : Impl) (operation : Operation), Reachable s → operation.restores s = none →
      operation.KeepsPublished s := by
  intro h
  have hkeeps := h Deployment.capable
    (Deployment.publish 6 (.registerCluster Deployment.cluster))
    (Deployment.reachable_state.run _) rfl
  have hbefore : (Deployment.capable.clusters[Deployment.cluster.id]?).map
      (fun r => (r.generation, r.capabilityGeneration)) = some (⟨1⟩, ⟨5⟩) := by decide +kernel
  have hafter : (((Deployment.publish 6 (.registerCluster Deployment.cluster)).next
      Deployment.capable).clusters[Deployment.cluster.id]?).map
      (fun r => (r.generation, r.capabilityGeneration)) = some (⟨1⟩, ⟨0⟩) := by decide +kernel
  obtain ⟨old, hold, hold'⟩ := Option.map_eq_some_iff.mp hbefore
  obtain ⟨record, hrecord, hrecord'⟩ := Option.map_eq_some_iff.mp hafter
  rw [Prod.mk.injEq] at hold' hrecord'
  have hle := hkeeps Deployment.cluster.id old record hold hrecord
    (hrecord'.1.trans hold'.1.symm) .capability
  change old.capabilityGeneration.value ≤ record.capabilityGeneration.value at hle
  rw [hold'.2, hrecord'.2] at hle
  exact absurd hle (by decide)

end FederationObservatory
