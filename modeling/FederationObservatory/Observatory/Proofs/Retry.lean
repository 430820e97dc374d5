import FederationObservatory.Observatory.Proofs.Records

/-!
# Retries

A publisher that did not see the answer to a request sends it again. The stored record is not the
submitted one: stamps, evidence, pool annotations and stage events are written into it, and each
operation's test for a duplicate has to see through what it wrote itself. This module says for
which requests it does.
-/

namespace FederationObservatory

open StoredRecord (key publishedDigest)

/-! ## Retries and suppression -/

/-- The request was answered as a duplicate and changed no record. -/
def Outcome.Suppressed (t : Impl) (o : Outcome) : Prop :=
  (∃ r, o.result = .ok r ∧ r.disposition = .duplicate) ∧ o.state.toCollections = t.toCollections

/-- A publication is recognised when it is sent again. -/
def Publication.Repeatable (s : Impl) (ctx : PublicationContext) : Publication → Prop
  -- a cluster that advances its generation is stored without its dynamic evidence
  | .registerCluster record =>
    s.advancesCluster record = true →
      publishedDigest { record with capacityPools := [], readiness := .unknown } =
        publishedDigest record
  | .publishCapability _ _ _ capabilities =>
    capabilities.entries ≠ [] ∧ capabilities.holdsNaN = false
  -- the pools are stored with the precision and class of the context, and with a generation
  | .publishCapacity _ _ _ pools =>
    pools ≠ [] ∧ ∀ pool ∈ pools, pool.generation.isSet = true ∧ pool.precision = ctx.precision ∧
      pool.evidenceClass = ctx.evidenceClass
  -- the event that was appended has the sequence of the context
  | .publishMigrationStage _ _ _ _ => False
  -- the currentness is part of the digest of an assessment
  | .publishPortability record =>
    PortabilityAssessment.digest { record with currentness := .current } = record.digest
  | _ => True

/-- A request is recognised when it is sent again. -/
def Request.Repeatable (s : Impl) (ctx : PublicationContext) : Request → Prop
  | .registerPublisher => ctx.coordinatorEpoch = s.coordinatorEpoch
  | .publish p => p.Repeatable s ctx

variable {s t : Impl} {clock clock' : Clock} {ctx : PublicationContext} {check : AuthorityCheck}

theorem suppressed_finish (authority : PublisherAuthority) (detail : Text) :
    Outcome.Suppressed t (.ok (finish t clock ctx authority .duplicate detail)) :=
  ⟨⟨_, rfl, rfl⟩, rfl⟩

theorem not_suppressed_error {r : Error × Impl} : ¬Outcome.Suppressed t (.error r) := by
  rintro ⟨⟨_, h, -⟩, -⟩
  cases h

theorem not_suppressed_finish {w : Impl} {authority : PublisherAuthority}
    {disposition : IngestDisposition} (detail : Text) (h : disposition ≠ .duplicate) :
    ¬Outcome.Suppressed t (.ok (finish w clock ctx authority disposition detail)) := by
  rintro ⟨⟨r, hr, hduplicate⟩, -⟩
  obtain rfl := Except.ok.inj hr
  exact h hduplicate

/-! ## The state a retry meets -/

/-- A retry passes the gate, as a repeated sequence. -/
theorem admitted_retry {w : Impl} (hadmitted : Admitted s ctx check)
    (hcontrol : s.SameControl w) (disposition : IngestDisposition) (detail : Text) :
    Admitted (finish w clock ctx check.authority disposition detail).2 ctx
      ⟨check.authority.settle clock ctx disposition, true⟩ := by
  have hwatermark := settle_watermark clock ctx check.authority disposition hadmitted.sequence
  refine ⟨hadmitted.valid, ?_, hadmitted.notFenced, ?_, ?_, ?_⟩
  · rw [finish_publishers, if_pos rfl]
  · exact hadmitted.epoch.trans hcontrol.coordinatorEpoch.symm
  · rw [hwatermark]
    exact UInt64.le_refl _
  · have hpos := UInt64.pos_iff_ne_zero.mp (sequence_pos_of_validate hadmitted.valid)
    rw [hwatermark]
    simpa [Sequence.isZero] using hpos

/-- Nothing that was registered is gone. -/
def Impl.Grows (s t : Impl) : Prop :=
  ∀ (k : RecordKind) (at' : k.Key), (s.table k).contains at' = true →
    (t.table k).contains at' = true

theorem grows_written {p : Publication} {duplicate : Bool} (h : p.Accepts s ctx duplicate) :
    s.Grows (p.written s clock ctx) := by
  intro k at' hcontains
  rw [Std.TreeMap.contains_eq_isSome_getElem?] at hcontains ⊢
  rcases @Publication.lookup_written s clock ctx _ p h k at' with hsame | ⟨r, hr, -⟩
  · rw [hsame]
    exact hcontains
  · rw [hr]
    rfl

/-! ## Checks that stay passed -/

section Grows

variable (hgrows : s.Grows t)
include hgrows

theorem checkSite_mono {record : SiteRecord} (h : checkSite s record = .ok ()) :
    checkSite t record = .ok () := by
  simp only [checkSite, checkRegistered_eq_ok] at h ⊢
  exact hgrows .federation _ h

theorem checkBackend_mono {record : BackendRecord} (h : checkBackend s record = .ok ()) :
    checkBackend t record = .ok () := by
  simp only [checkBackend, checkRegistered_eq_ok] at h ⊢
  exact hgrows .runtime _ h

theorem checkDomain_mono {record : DomainRecord} (h : checkDomain s record = .ok ()) :
    checkDomain t record = .ok () := by
  simp only [checkDomain, bind_eq_ok, checkRegistered_eq_ok, forM_eq_ok] at h ⊢
  obtain ⟨u, hfederation, hclusters⟩ := h
  exact ⟨u, hgrows .federation _ hfederation, fun id hid => hgrows .cluster _ (hclusters id hid)⟩

theorem contains_or_mono {k : RecordKind} {empty : Bool} {at' : k.Key}
    (h : (empty || (s.table k).contains at') = true) :
    (empty || (t.table k).contains at') = true := by
  rw [Bool.or_eq_true] at h ⊢
  exact h.imp_right (hgrows k at')

theorem checkWorkload_mono {record : WorkloadRecord} (h : checkWorkload s record = .ok ()) :
    checkWorkload t record = .ok () := by
  simp only [checkWorkload, bind_eq_ok, checkRegistered_eq_ok, forM_eq_ok] at h ⊢
  obtain ⟨u, hclass, u', hartifact, u'', hpolicy, hclasses⟩ := h
  exact ⟨u, hgrows .workloadClass _ hclass, u', contains_or_mono (k := .artifact) hgrows hartifact,
    u'', contains_or_mono (k := .policy) hgrows hpolicy,
    fun id hid => hgrows .acceleratorClass _ (hclasses id hid)⟩

theorem checkCluster_mono {record : ClusterRecord} (h : checkCluster s record = .ok ()) :
    checkCluster t record = .ok () := by
  simp only [checkCluster, bind_eq_ok, checkRegistered_eq_ok, forM_eq_ok] at h ⊢
  obtain ⟨u₁, hfederation, u₂, hsite, u₃, hclasses, u₄, hruntimes, u₅, hbackends, hdomain⟩ := h
  exact ⟨u₁, hgrows .federation _ hfederation, u₂, hgrows .site _ hsite,
    u₃, fun id hid => hgrows .acceleratorClass _ (hclasses id hid),
    u₄, fun id hid => hgrows .runtime _ (hruntimes id hid),
    u₅, fun id hid => hgrows .backend _ (hbackends id hid),
    contains_or_mono (k := .domain) hgrows hdomain⟩

end Grows

/-! ## Pools -/

theorem totalNominal_perm {pools pools' : List CapacityPool}
    (h : (pools.map (·.ledger.nominal)).Perm (pools'.map (·.ledger.nominal))) :
    totalNominal pools = totalNominal pools' :=
  checkedSumFrom_perm 0 h

/-- An accepted pool is the submitted one exactly when that was annotated like the publication. -/
theorem eq_accept_iff {bounds : Bounds} {generation : CapacityGeneration}
    (hset : generation.isSet = true) (pool : CapacityPool) :
    pool.eq (pool.accept bounds ctx generation) = true ↔
      pool.generation.isSet = true ∧ pool.precision = ctx.precision ∧
        pool.evidenceClass = ctx.evidenceClass := by
  have hgeneration : pool.generation = (if pool.generation.isSet then pool.generation
      else generation) ↔ pool.generation.isSet = true := by
    cases hpool : pool.generation.isSet with
    | true => simp
    | false =>
      refine iff_of_false ?_ (by decide)
      rintro heq
      rw [if_neg (by decide)] at heq
      rw [heq, hset] at hpool
      cases hpool
  simp only [CapacityPool.eq, CapacityPool.accept, beq_self_eq_true, Bool.true_and, Bool.and_eq_true,
    beq_iff_eq, hgeneration, and_assoc]

/-- The accepted pools are the submitted ones exactly when each was annotated like the
    publication. -/
theorem identicalPools_accept_iff {bounds : Bounds} {generation : CapacityGeneration}
    {pools : List CapacityPool} (hset : generation.isSet = true) (htotal : totalNominal pools ≠ none) :
    identicalPools (Sorting.stableSort CapacityPool.lt
        (pools.map fun pool => pool.accept bounds ctx generation)) pools = true ↔
      ∀ pool ∈ pools, pool.generation.isSet = true ∧ pool.precision = ctx.precision ∧
        pool.evidenceClass = ctx.evidenceClass := by
  let sorted := Sorting.stableSort CapacityPool.lt pools
  have hsorted : sorted.Perm pools := Sorting.perm_stableSort _ _
  have hstored : Sorting.stableSort CapacityPool.lt
      (pools.map fun pool => pool.accept bounds ctx generation) =
        sorted.map fun pool => pool.accept bounds ctx generation :=
    Sorting.stableSort_map CapacityPool.lt CapacityPool.lt
      (fun pool => pool.accept bounds ctx generation) (fun _ _ => rfl) pools
  obtain ⟨total, hpools⟩ := Option.ne_none_iff_exists'.mp htotal
  have hstoredTotal : totalNominal (sorted.map fun pool => pool.accept bounds ctx generation) =
      some total := by
    rw [← hpools]
    refine totalNominal_perm ?_
    rw [List.map_map]
    exact hsorted.map _
  have hresort : Sorting.stableSort CapacityPool.lt
      (sorted.map fun pool => pool.accept bounds ctx generation) =
        sorted.map fun pool => pool.accept bounds ctx generation := by
    rw [← hstored, CapacityPool.stableSort_idem]
  have hzip : ∀ l : List CapacityPool,
      l.zip (l.map fun pool => pool.accept bounds ctx generation) =
        l.map fun pool => (pool, pool.accept bounds ctx generation) := by
    intro l
    induction l with
    | nil => rfl
    | cons pool l ih => simp [ih]
  have hlength : sorted.length = pools.length := hsorted.length_eq
  rw [hstored, identicalPools, hstoredTotal, hpools, hresort, hzip]
  simp only [beq_self_eq_true, List.length_map, hlength, Bool.true_and, List.all_map,
    List.all_eq_true, Function.comp, eq_accept_iff hset]
  exact forall_congr' fun pool => by rw [hsorted.mem_iff]

/-! ## Operations that recognise a retry -/

section Recognised

variable (hgate : checkAuthority t ctx = .ok check)
include hgate

theorem registerStructural_of_same (k : RecordKind) {tag : GenerationTag} {record old : k.Record}
    {label : String} {extra : k.Record → Status} {limit : Nat}
    {generationOf : k.Record → Generation tag} (hvalid : StoredRecord.validate record = .ok ())
    (hextra : extra record = .ok ()) (hold : (t.table k)[key record]? = some old)
    (hdigest : publishedDigest old = publishedDigest record) :
    (registerStructural k t clock ctx record label extra limit generationOf).Suppressed t := by
  simp only [registerStructural, hgate, bind, Except.bind, hvalid, hextra, hold, hdigest,
    Option.any_some, decide_true, if_true]
  exact suppressed_finish _ _

theorem retireCluster_of_retired {cluster : ClusterId} {generation : ClusterGeneration}
    {reason : Text} {record : ClusterRecord} (hrecord : t.clusters[cluster]? = some record)
    (hgeneration : (generation.isSet && generation.olderThan record.generation) = false)
    (hretired : record.currentness = .retired) :
    (retireCluster t clock ctx cluster generation reason).Suppressed t := by
  simp only [retireCluster, hgate, bind, Except.bind, hrecord, hgeneration, hretired, if_true,
    Bool.false_eq_true, if_false]
  exact suppressed_finish _ _

theorem publishPlacement_of_same {record old : PlacementRecord}
    (hfederation : checkFederation t ctx = .ok ()) (hvalid : record.validate = .ok ())
    (hplacement : checkPlacement t ctx record = .ok ())
    (hold : t.placements[record.id]? = some old)
    (hdigest : publishedDigest old = publishedDigest record) :
    (publishPlacement t clock ctx record).Suppressed t := by
  simp only [publishPlacement, hgate, bind, Except.bind, hfederation, hvalid, hplacement, hold,
    hdigest, Option.any_some, decide_true, if_true]
  exact suppressed_finish _ _

theorem publishMigration_of_same {record old : MigrationRecord}
    (hfederation : checkFederation t ctx = .ok ()) (hvalid : record.validate = .ok ())
    (hmigration : checkMigration t ctx record = .ok ())
    (hold : t.migrations[record.id]? = some old)
    (hdigest : publishedDigest old = publishedDigest record) :
    (publishMigration t clock ctx record).Suppressed t := by
  simp only [publishMigration, hgate, bind, Except.bind, hfederation, hvalid, hmigration, hold,
    hdigest, Option.any_some, decide_true, if_true]
  exact suppressed_finish _ _

end Recognised

/-! ## Operations that may not -/

section Unrecognised

variable (hgate : checkAuthority t ctx = .ok check)
include hgate

/-- A repeated sequence with other content is a conflict. -/
theorem registerStructural_of_other (k : RecordKind) {tag : GenerationTag} {record old : k.Record}
    {label : String} {extra : k.Record → Status} {limit : Nat}
    {generationOf : k.Record → Generation tag} (hduplicate : check.duplicateSequence = true)
    (hvalid : StoredRecord.validate record = .ok ()) (hextra : extra record = .ok ())
    (hold : (t.table k)[key record]? = some old)
    (hdigest : publishedDigest old ≠ publishedDigest record) :
    ∃ r, registerStructural k t clock ctx record label extra limit generationOf = .error r := by
  simp only [registerStructural, hgate, bind, Except.bind, hvalid, hextra, hold, hdigest,
    Option.any_some, decide_false, Bool.false_eq_true, if_false, hduplicate, if_true]
  exact ⟨_, rfl⟩

/-- The registration of a cluster is recognised exactly when the stored cluster has its digest. -/
theorem registerCluster_suppressed_iff {record old : ClusterRecord}
    (hduplicate : check.duplicateSequence = true) (hvalid : record.validate = .ok ())
    (hextra : checkCluster t record = .ok ()) (hold : t.clusters[record.id]? = some old) :
    (registerCluster t clock ctx record).Suppressed t ↔
      publishedDigest old = publishedDigest record := by
  by_cases hdigest : publishedDigest old = publishedDigest record
  · refine iff_of_true ?_ hdigest
    have hsame : (t.table .cluster)[key (ρ := ClusterRecord) record]? = some old := hold
    simp only [registerCluster, registerStructural, hgate, bind, Except.bind]
    rw [show StoredRecord.validate (ρ := RecordKind.Record .cluster) record = .ok () from hvalid]
    simp only [hextra, hsame, Option.any_some]
    rw [show decide (publishedDigest old = publishedDigest record) = true from
      decide_eq_true hdigest]
    simp only [if_true, finish_disposition, reduceCtorEq, false_and, if_false]
    exact suppressed_finish _ _
  · refine iff_of_false ?_ hdigest
    obtain ⟨r, hr⟩ : ∃ r, registerStructural .cluster t clock ctx record "cluster" (checkCluster t)
        t.bounds.maxClusters (fun r : ClusterRecord => r.generation) = .error r :=
      registerStructural_of_other hgate .cluster hduplicate hvalid hextra hold hdigest
    have herror : registerCluster t clock ctx record = .error r := by
      simp only [registerCluster, hr, bind, Except.bind]
    rw [herror]
    exact not_suppressed_error

/-- A capability publication is recognised exactly when it has entries and none of them is a
    NaN. -/
theorem publishCapability_suppressed_iff {cluster : ClusterId}
    {clusterGeneration : ClusterGeneration} {generation : AcceleratorCapabilityGeneration}
    {capabilities : CapabilitySet} {record : ClusterRecord}
    (hfederation : checkFederation t ctx = .ok ()) (hrecord : t.clusters[cluster]? = some record)
    (hcurrent : record.currentness ≠ .retired) (hset : generation.isSet = true)
    (hcluster : (clusterGeneration.isSet && clusterGeneration.olderThan record.generation) = false)
    (hgeneration : record.capabilityGeneration = generation)
    (hcapabilities : record.capabilities = capabilities) :
    (publishCapability t clock ctx cluster clusterGeneration generation capabilities).Suppressed
        t ↔ capabilities.entries ≠ [] ∧ capabilities.holdsNaN = false := by
  have holder : generation.olderThan generation = false :=
    Generation.olderThan_eq_false.mpr (Generation.le_refl _)
  simp only [publishCapability, hgate, bind, Except.bind, hfederation, hrecord, hcurrent, if_false,
    hset, Bool.not_true, Bool.false_eq_true, hcluster, holder, hgeneration, hcapabilities, true_and,
    CapabilitySet.identical_self]
  by_cases hentries : capabilities.entries = []
  · -- nothing tells an empty set from none: it is written again
    simp only [hentries, ne_eq, not_true_eq_false, if_false, List.any_nil, Bool.false_eq_true,
      false_and, iff_false]
    exact not_suppressed_finish _ (by decide)
  · simp only [ne_eq, hentries, not_false_eq_true, if_true, true_and]
    cases hnan : capabilities.holdsNaN with
    | false => exact iff_of_true (suppressed_finish _ _) rfl
    | true => exact iff_of_false not_suppressed_error (by decide)

/-- A capacity publication is recognised exactly when it has pools, each annotated like the
    publication. -/
theorem publishCapacity_suppressed_iff {cluster : ClusterId}
    {clusterGeneration : ClusterGeneration} {generation : CapacityGeneration}
    {pools : List CapacityPool} {bounds : Bounds} {record : ClusterRecord}
    (hfederation : checkFederation t ctx = .ok ()) (hrecord : t.clusters[cluster]? = some record)
    (hcurrent : record.currentness ≠ .retired) (hset : generation.isSet = true)
    (hlength : pools.length ≤ maxPoolsPerCluster)
    (hcluster : (clusterGeneration.isSet && clusterGeneration.olderThan record.generation) = false)
    (hgeneration : record.capacityGeneration = generation)
    (hpools : pools.forM (checkPool t) = .ok ())
    (hdistinct : Sorting.hasDuplicates (pools.map (·.poolId)) = false)
    (htotal : totalNominal pools ≠ none)
    (hstored : record.capacityPools = Sorting.stableSort CapacityPool.lt
      (pools.map fun pool => pool.accept bounds ctx generation)) :
    (publishCapacity t clock ctx cluster clusterGeneration generation pools).Suppressed t ↔
      pools ≠ [] ∧ ∀ pool ∈ pools, pool.generation.isSet = true ∧
        pool.precision = ctx.precision ∧ pool.evidenceClass = ctx.evidenceClass := by
  have holder : generation.olderThan generation = false :=
    Generation.olderThan_eq_false.mpr (Generation.le_refl _)
  have hempty : record.capacityPools = [] ↔ pools = [] := by
    rw [hstored, ← List.length_eq_zero_iff, ← List.length_eq_zero_iff, Sorting.length_stableSort,
      List.length_map]
  simp only [publishCapacity, hgate, bind, Except.bind, hfederation, hrecord, hcurrent, if_false,
    hset, Bool.not_true, Bool.false_eq_true, Nat.not_lt.mpr hlength, hcluster, hgeneration, holder,
    hpools, hdistinct, htotal, true_and, ne_eq, hempty]
  by_cases hnone : pools = []
  · simp only [hnone, not_true_eq_false, if_false, false_and, iff_false]
    exact not_suppressed_finish _ (by decide)
  · simp only [hnone, not_false_eq_true, if_true, true_and]
    rw [← identicalPools_accept_iff hset htotal, ← hstored]
    cases hidentical : identicalPools record.capacityPools pools with
    | true => exact iff_of_true (suppressed_finish _ _) rfl
    | false => exact iff_of_false not_suppressed_error (by decide)

/-- A stage event is not recognised: the event it appended has its sequence. -/
theorem publishMigrationStage_not_suppressed {migration : MigrationId}
    {generation : MigrationGeneration} {stage : MigrationStage} {detail : Text}
    {record : MigrationRecord} (hrecord : t.migrations[migration]? = some record)
    (hregresses : record.sequenceRegresses ctx.sequence = true) :
    ¬(publishMigrationStage t clock ctx migration generation stage detail).Suppressed t := by
  simp only [publishMigrationStage, hgate, bind, Except.bind, hrecord, hregresses, if_true]
  iterate 5
    split
    · exact not_suppressed_error
  exact not_suppressed_error

/-- An assessment is recognised exactly when the stored one has its digest. -/
theorem publishPortability_suppressed_iff {record old : PortabilityAssessment}
    (hvalid : record.validate = .ok ()) (hworkload : t.workloads.contains record.workload = true)
    (hdestination : t.clusters.contains record.destination = true)
    (hold : t.portability[(⟨record.workload, record.destination⟩ : PortabilityKey)]? = some old) :
    (publishPortability t clock ctx record).Suppressed t ↔ old.digest = record.digest := by
  simp only [publishPortability, hgate, bind, Except.bind, hvalid, hworkload, hdestination,
    Bool.not_true, Bool.false_eq_true, if_false, hold, Option.any_some, reduceCtorEq, and_false,
    decide_eq_true_eq]
  by_cases hdigest : old.digest = record.digest
  · rw [if_pos hdigest]
    exact iff_of_true (suppressed_finish _ _) hdigest
  · rw [if_neg hdigest]
    refine iff_of_false ?_ hdigest
    split
    · exact not_suppressed_finish _ (by decide)
    · exact not_suppressed_finish _ (by decide)

end Unrecognised

/-! ## Retries of applied publications -/

theorem checkFederation_congr (h : t.federations = s.federations) :
    checkFederation t ctx = checkFederation s ctx := by
  unfold checkFederation
  rw [h]

theorem not_older_advanceTo {record : ClusterRecord} {generation : ClusterGeneration}
    (h : generation.isSet = true → record.generation ≤ generation) :
    (generation.isSet && generation.olderThan (record.advanceTo generation).generation) = false := by
  cases hset : generation.isSet with
  | false => rfl
  | true =>
    rw [Bool.true_and, Generation.olderThan_eq_false]
    unfold ClusterRecord.advanceTo
    split
    · exact Generation.le_refl _
    · exact h hset

theorem publishedDigest_superseded (record : MigrationRecord) :
    publishedDigest record.superseded = publishedDigest record := by
  unfold MigrationRecord.superseded
  split
  · exact (StoredRecord.publishedDigest_annotated Currentness.stale record.stamp record)
  · rfl

theorem lastEvent_append (record : MigrationRecord) (event : MigrationStageEvent) :
    (record.append clock ctx event).lastEvent = some event := by
  have hevents : ∀ r : MigrationRecord, (r.enter event.stage).stageEvents = r.stageEvents := by
    intro r
    cases event.stage <;> rfl
  change ((MigrationRecord.enter _ event.stage).stageEvents).getLast? = some event
  rw [hevents]
  exact List.getLast?_concat

section Retry

variable (hadmitted : Admitted s ctx check) (detail : Text)
include hadmitted

/-- The gate of a retry of an accepted publication. -/
theorem gate_retry (p : Publication) (disposition : IngestDisposition) :
    checkAuthority (finish (p.written s clock ctx) clock ctx check.authority disposition detail).2
        ctx = .ok ⟨check.authority.settle clock ctx disposition, true⟩ :=
  checkAuthority_eq_ok.mpr (admitted_retry hadmitted (p.written_control s clock ctx) _ _)

theorem retry_structural (k : RecordKind) {p : Publication} {tag : GenerationTag}
    {record : k.Record} {extra : Status} (extra' : k.Record → Status) {limit limit' : Nat}
    {label : String} {generationOf : k.Record → Generation tag} {duplicate : Bool}
    (hwritten : p.written s clock ctx = s.register clock ctx k record)
    (haccepts : AcceptsStructural k s record extra limit generationOf duplicate)
    (hextra : extra' record = .ok ()) :
    (registerStructural k
        (finish (p.written s clock ctx) clock ctx check.authority .applied detail).2 clock' ctx
        record label extra' limit' generationOf).Suppressed
      (finish (p.written s clock ctx) clock ctx check.authority .applied detail).2 := by
  refine registerStructural_of_same (gate_retry hadmitted detail p .applied) k haccepts.1 hextra ?_
    (StoredRecord.publishedDigest_annotated .current (stampFor clock ctx) record)
  rw [hwritten]
  exact s.lookup_store_self k (key record) (accepted clock ctx record)

theorem retry_retireCluster {cluster : ClusterId} {generation : ClusterGeneration} {reason : Text}
    (haccepts : AcceptsRetirement s cluster generation) :
    let p := Publication.retireCluster cluster generation reason
    let t := (finish (p.written s clock ctx) clock ctx check.authority .applied detail).2
    (p.run t clock' ctx).Suppressed t := by
  intro p t
  obtain ⟨record, hrecord, -, -⟩ := haccepts
  have hstored : t.clusters[cluster]? = some (record.retire clock ctx generation reason) := by
    change (p.written s clock ctx).clusters[cluster]? = _
    simp only [p, Publication.written, hrecord]
    exact s.lookup_store_self .cluster cluster _
  refine retireCluster_of_retired (gate_retry hadmitted detail p .applied) hstored ?_ rfl
  cases hset : generation.isSet with
  | false => rfl
  | true =>
    rw [Bool.true_and, Generation.olderThan_eq_false, ClusterRecord.retire, if_pos hset]
    exact Generation.le_refl _

theorem retry_publishCapability {cluster : ClusterId} {clusterGeneration : ClusterGeneration}
    {generation : AcceleratorCapabilityGeneration} {capabilities : CapabilitySet}
    (haccepts : AcceptsCapability s ctx cluster clusterGeneration generation) :
    let p := Publication.publishCapability cluster clusterGeneration generation capabilities
    let t := (finish (p.written s clock ctx) clock ctx check.authority .applied detail).2
    (p.run t clock' ctx).Suppressed t ↔ p.Repeatable s ctx := by
  intro p t
  obtain ⟨hfederation, record, hrecord, -, hset, hcluster, -, -⟩ := haccepts
  have hwritten : p.written s clock ctx =
      ((s.storeAdvanced cluster record clusterGeneration).store .cluster cluster
        ((record.advanceTo clusterGeneration).withCapabilities clock ctx generation
          capabilities)).advanceSnapshot := by
    simp only [p, Publication.written, hrecord]
  have hfederations : t.federations = s.federations := by
    change (p.written s clock ctx).federations = _
    rw [hwritten]
    unfold Impl.storeAdvanced
    split <;> rfl
  have hstored : t.clusters[cluster]? = some ((record.advanceTo clusterGeneration).withCapabilities
      clock ctx generation capabilities) := by
    change (p.written s clock ctx).clusters[cluster]? = _
    rw [hwritten]
    exact Impl.lookup_store_self _ .cluster cluster _
  exact publishCapability_suppressed_iff (gate_retry hadmitted detail p .applied)
    ((checkFederation_congr hfederations).trans hfederation) hstored
    (by decide : Currentness.current ≠ .retired) hset
    (not_older_advanceTo hcluster) rfl rfl

theorem retry_publishCapacity {cluster : ClusterId} {clusterGeneration : ClusterGeneration}
    {generation : CapacityGeneration} {pools : List CapacityPool}
    (haccepts : AcceptsCapacity s ctx cluster clusterGeneration generation pools) :
    let p := Publication.publishCapacity cluster clusterGeneration generation pools
    let t := (finish (p.written s clock ctx) clock ctx check.authority .applied detail).2
    (p.run t clock' ctx).Suppressed t ↔ p.Repeatable s ctx := by
  intro p t
  obtain ⟨hfederation, record, hrecord, -, hset, hlength, hcluster, -, hpools, hdistinct, htotal,
    -⟩ := haccepts
  have hwritten : p.written s clock ctx =
      (s.store .cluster cluster ((record.advanceTo clusterGeneration).withCapacity clock ctx
        generation (Sorting.stableSort CapacityPool.lt
          (pools.map fun pool => pool.accept s.bounds ctx generation)))).advanceSnapshot := by
    simp only [p, Publication.written, hrecord]
  have hfederations : t.federations = s.federations := by
    change (p.written s clock ctx).federations = _
    rw [hwritten]
    rfl
  have hclasses : t.acceleratorClasses = s.acceleratorClasses := by
    change (p.written s clock ctx).acceleratorClasses = _
    rw [hwritten]
    rfl
  have hcheckPool : checkPool t = checkPool s := by
    funext pool
    unfold checkPool
    rw [hclasses]
  have hstored : t.clusters[cluster]? = some ((record.advanceTo clusterGeneration).withCapacity
      clock ctx generation (Sorting.stableSort CapacityPool.lt
        (pools.map fun pool => pool.accept s.bounds ctx generation))) := by
    change (p.written s clock ctx).clusters[cluster]? = _
    rw [hwritten]
    exact s.lookup_store_self .cluster cluster _
  exact publishCapacity_suppressed_iff (gate_retry hadmitted detail p .applied)
    ((checkFederation_congr hfederations).trans hfederation) hstored
    (by decide : Currentness.current ≠ .retired) hset hlength
    (not_older_advanceTo hcluster) rfl (by rw [hcheckPool, hpools]) hdistinct htotal rfl

theorem retry_publishPlacement {record : PlacementRecord} {duplicate : Bool}
    (haccepts : AcceptsPlacement s ctx record duplicate) :
    let p := Publication.publishPlacement record
    let t := (finish (p.written s clock ctx) clock ctx check.authority .applied detail).2
    (p.run t clock' ctx).Suppressed t := by
  intro p t
  obtain ⟨hfederation, hvalid, hplacement, -⟩ := haccepts
  have hdigest : publishedDigest (record.accept clock ctx (s.latestPlacementIsNewer record)) =
      publishedDigest record := by
    unfold publishedDigest
    rfl
  exact publishPlacement_of_same (gate_retry hadmitted detail p .applied) hfederation hvalid
    hplacement (s.lookup_store_self .placement record.id _) hdigest

theorem retry_publishMigration {record : MigrationRecord} {duplicate : Bool}
    (haccepts : AcceptsMigration s ctx record duplicate) :
    let p := Publication.publishMigration record
    let t := (finish (p.written s clock ctx) clock ctx check.authority .applied detail).2
    (p.run t clock' ctx).Suppressed t := by
  intro p t
  obtain ⟨hfederation, hvalid, hmigration, -⟩ := haccepts
  have htables : t.federations = s.federations ∧ t.workloads = s.workloads ∧
      t.clusters = s.clusters := by
    change (s.recordMigration clock ctx record).federations = _ ∧
      (s.recordMigration clock ctx record).workloads = _ ∧
      (s.recordMigration clock ctx record).clusters = _
    unfold Impl.recordMigration
    split <;> exact ⟨rfl, rfl, rfl⟩
  have hcheck : checkMigration t ctx record = .ok () := by
    rw [← hmigration, checkMigration, checkMigration, htables.2.1, htables.2.2]
  have hdigest : publishedDigest (record.accept clock ctx) = publishedDigest record :=
    StoredRecord.publishedDigest_annotated Currentness.current (stampFor clock ctx) record
  -- a migration that supersedes itself is stored as superseded
  have hstored : ∃ old, t.migrations[record.id]? = some old ∧
      publishedDigest old = publishedDigest record := by
    change ∃ old, (s.recordMigration clock ctx record).migrations[record.id]? = some old ∧ _
    rw [lookup_recordMigration]
    simp only [if_true]
    split
    · exact ⟨_, rfl, (publishedDigest_superseded _).trans hdigest⟩
    · exact ⟨_, rfl, hdigest⟩
  obtain ⟨old, hold, hsame⟩ := hstored
  exact publishMigration_of_same (gate_retry hadmitted detail p .applied)
    ((checkFederation_congr htables.1).trans hfederation) hvalid hcheck hold hsame

theorem retry_publishMigrationStage {migration : MigrationId} {generation : MigrationGeneration}
    {stage : MigrationStage} {text : Text}
    (haccepts : AcceptsStage s ctx migration generation stage) :
    let p := Publication.publishMigrationStage migration generation stage text
    let t := (finish (p.written s clock ctx) clock ctx check.authority .applied detail).2
    ¬(p.run t clock' ctx).Suppressed t := by
  intro p t
  obtain ⟨record, hrecord, -⟩ := haccepts
  have hstored : t.migrations[migration]? = some (record.append clock ctx
      (.ofPublication clock ctx generation stage text)) := by
    change (p.written s clock ctx).migrations[migration]? = _
    simp only [p, Publication.written, hrecord]
    exact s.lookup_store_self .migration migration _
  refine publishMigrationStage_not_suppressed (gate_retry hadmitted detail p .applied) hstored ?_
  unfold MigrationRecord.sequenceRegresses
  rw [lastEvent_append]
  exact decide_eq_true (UInt64.le_refl _)

theorem retry_publishPortability {record : PortabilityAssessment}
    (haccepts : AcceptsPortability s ctx record) :
    let p := Publication.publishPortability record
    let t := (finish (p.written s clock ctx) clock ctx check.authority .applied detail).2
    (p.run t clock' ctx).Suppressed t ↔ p.Repeatable s ctx := by
  intro p t
  obtain ⟨hvalid, hworkload, hdestination, -⟩ := haccepts
  have hstored := s.lookup_store_self .portability ⟨record.workload, record.destination⟩
    (record.accept clock ctx)
  exact (publishPortability_suppressed_iff (gate_retry hadmitted detail p .applied) hvalid hworkload
    hdestination hstored).trans Iff.rfl

theorem retry_registerCluster {record : ClusterRecord} {duplicate : Bool}
    (haccepts : (Publication.registerCluster record).Accepts s ctx duplicate) :
    let p := Publication.registerCluster record
    let t := (finish (p.written s clock ctx) clock ctx check.authority .applied detail).2
    (p.run t clock' ctx).Suppressed t ↔ p.Repeatable s ctx := by
  intro p t
  have hgrows : s.Grows t := grows_written haccepts
  have hstored : t.clusters[record.id]? = _ :=
    (lookup_registerCluster s clock ctx record record.id).trans (if_pos rfl)
  rw [show p.run t clock' ctx = registerCluster t clock' ctx record from rfl,
    registerCluster_suppressed_iff (gate_retry hadmitted detail p .applied) rfl haccepts.1
      (checkCluster_mono hgrows haccepts.2.1) hstored]
  cases hadvances : s.advancesCluster record with
  | false =>
    refine iff_of_true ?_ (fun h => by rw [hadvances] at h; cases h)
    exact StoredRecord.publishedDigest_annotated Currentness.current (stampFor clock ctx) record
  | true =>
    have hdigest : publishedDigest (ClusterRecord.advanced
        (accepted (k := .cluster) clock ctx record) (s.clusterGeneration record.id)
        record.generation) =
        publishedDigest { record with capacityPools := [], readiness := .unknown } := by
      unfold publishedDigest
      rfl
    rw [if_pos rfl, hdigest]
    exact ⟨fun h _ => h, fun h => h hadvances⟩

end Retry

/-- A publication that was applied and is sent again is answered as a duplicate, without an effect,
    exactly when it is repeatable. -/
theorem publication_suppressed_iff {p : Publication} (h : (p.run s clock ctx).Applied) :
    (p.run (p.run s clock ctx).state clock' ctx).Suppressed (p.run s clock ctx).state ↔
      p.Repeatable s ctx := by
  obtain ⟨check, detail, hadmitted, haccepts, hrun⟩ := p.accepted_of_applied h
  have hdisposition : p.disposition s = .applied := by
    obtain ⟨r, hr, happlied⟩ := h
    rw [hrun] at hr
    rwa [← Except.ok.inj hr] at happlied
  rw [hrun, hdisposition]
  simp only [Outcome.state]
  have hgrows : s.Grows (p.written s clock ctx) := grows_written haccepts
  cases p with
  | registerFederation r =>
    exact iff_of_true
      (retry_structural hadmitted detail .federation (fun _ => .ok ()) rfl haccepts rfl) trivial
  | registerSite r =>
    exact iff_of_true (retry_structural hadmitted detail .site (checkSite _) rfl haccepts
      (checkSite_mono hgrows haccepts.2.1)) trivial
  | registerCluster r => exact retry_registerCluster hadmitted detail haccepts
  | registerAcceleratorClass r =>
    exact iff_of_true
      (retry_structural hadmitted detail .acceleratorClass (fun _ => .ok ()) rfl haccepts rfl) trivial
  | registerRuntime r =>
    exact iff_of_true
      (retry_structural hadmitted detail .runtime (fun _ => .ok ()) rfl haccepts rfl) trivial
  | registerBackend r =>
    exact iff_of_true (retry_structural hadmitted detail .backend (checkBackend _) rfl haccepts
      (checkBackend_mono hgrows haccepts.2.1)) trivial
  | registerDomain r =>
    exact iff_of_true (retry_structural hadmitted detail .domain (checkDomain _) rfl haccepts
      (checkDomain_mono hgrows haccepts.2.1)) trivial
  | registerPolicy r =>
    exact iff_of_true
      (retry_structural hadmitted detail .policy (fun _ => .ok ()) rfl haccepts rfl) trivial
  | registerArtifact r =>
    exact iff_of_true
      (retry_structural hadmitted detail .artifact (fun _ => .ok ()) rfl haccepts rfl) trivial
  | registerWorkloadClass r =>
    exact iff_of_true
      (retry_structural hadmitted detail .workloadClass (fun _ => .ok ()) rfl haccepts rfl) trivial
  | registerWorkload r =>
    exact iff_of_true (retry_structural hadmitted detail .workload (checkWorkload _) rfl haccepts
      (checkWorkload_mono hgrows haccepts.2.1)) trivial
  | retireCluster cluster generation reason =>
    exact iff_of_true (retry_retireCluster hadmitted detail haccepts) trivial
  | publishCapability cluster clusterGeneration generation capabilities =>
    exact retry_publishCapability hadmitted detail haccepts
  | publishCapacity cluster clusterGeneration generation pools =>
    exact retry_publishCapacity hadmitted detail haccepts
  | publishPlacement r =>
    exact iff_of_true (retry_publishPlacement hadmitted detail haccepts) trivial
  | publishMigration r =>
    exact iff_of_true (retry_publishMigration hadmitted detail haccepts) trivial
  | publishMigrationStage migration generation stage text =>
    exact iff_of_false (retry_publishMigrationStage hadmitted detail haccepts) id
  | publishPortability r => exact retry_publishPortability hadmitted detail haccepts

/-- The registration of a boot identity is recognised exactly when it carried the coordinator's
    epoch: a known boot identity is held to it, an unknown one was not. -/
theorem registerPublisher_suppressed_iff (h : (registerPublisher s clock ctx).Applied) :
    (registerPublisher (registerPublisher s clock ctx).state clock' ctx).Suppressed
        (registerPublisher s clock ctx).state ↔ ctx.coordinatorEpoch = s.coordinatorEpoch := by
  rcases registerPublisher_cases s clock ctx with
    ⟨r, hrun, -⟩ | ⟨check, detail, -, hrun⟩ | ⟨r, hvalid, -, -, -, hrun⟩
  · obtain ⟨_, hresult, -⟩ := h
    rw [hrun] at hresult
    cases hresult
  · obtain ⟨r, hresult, happlied⟩ := h
    rw [hrun] at hresult
    rw [← Except.ok.inj hresult] at happlied
    cases happlied
  · rw [hrun]
    have hlookup : (s.withPublisher clock ctx).publishers[ctx.key]? =
        some (.register clock ctx) := Std.TreeMap.getElem?_insert_self
    have hsequence : ¬ctx.sequence < (PublisherAuthority.register clock ctx).watermark := by
      simp only [PublisherAuthority.register, sequence_pos_of_validate hvalid, if_true]
      exact UInt64.lt_irrefl _
    have hfenced : (PublisherAuthority.register clock ctx).fenced = false := rfl
    have hcoordinator : (s.withPublisher clock ctx).coordinatorEpoch = s.coordinatorEpoch := rfl
    simp only [Outcome.state, registerPublisher, hvalid, hlookup, hfenced, hcoordinator,
      hsequence, Bool.false_eq_true, if_false]
    by_cases hepoch : ctx.coordinatorEpoch = s.coordinatorEpoch
    · rw [if_neg (not_not.mpr hepoch)]
      exact iff_of_true (suppressed_finish _ _) hepoch
    · rw [if_pos hepoch]
      exact iff_of_false not_suppressed_error hepoch

/-- A request that was applied and is sent again is answered as a duplicate, without an effect,
    exactly when it is repeatable. -/
theorem retry_suppressed_iff (s : Impl) (clock clock' : Clock) (ctx : PublicationContext)
    (request : Request) (h : (request.run s clock ctx).Applied) :
    (request.run (request.run s clock ctx).state clock' ctx).Suppressed
        (request.run s clock ctx).state ↔ request.Repeatable s ctx := by
  cases request with
  | registerPublisher => exact registerPublisher_suppressed_iff h
  | publish p => exact publication_suppressed_iff h

/-- The registration of a runtime in the deployment is recognised when it is sent again. -/
theorem retry_suppressed_deployment :
    ((Request.publish (.registerRuntime Deployment.runtime)).run
        ((Request.publish (.registerRuntime Deployment.runtime)).run Deployment.state {}
          (Deployment.context 5)).state {} (Deployment.context 5)).Suppressed
      ((Request.publish (.registerRuntime Deployment.runtime)).run Deployment.state {}
        (Deployment.context 5)).state :=
  (retry_suppressed_iff Deployment.state {} {} (Deployment.context 5) _ (by decide +kernel)).mpr
    trivial

/-- A pool as a publisher fills it in, without a generation of its own. -/
def Deployment.pool : CapacityPool :=
  { poolId := ⟨.ofString "pool"⟩, kind := .memoryBytes, ledger := { nominal := 8, idle := 8 } }

/-- A capacity publication whose pool has no generation is applied, and refused when it is sent
    again. -/
theorem retry_not_suppressed :
    ¬∀ (s : Impl) (clock clock' : Clock) (ctx : PublicationContext) (request : Request),
      Reachable s → (request.run s clock ctx).Applied →
      (request.run (request.run s clock ctx).state clock' ctx).Suppressed
        (request.run s clock ctx).state := by
  intro h
  let request : Request := .publish (.publishCapacity Deployment.cluster.id {} ⟨1⟩ [Deployment.pool])
  obtain ⟨⟨r, hr, -⟩, -⟩ := h Deployment.state {} {} (Deployment.context 5) request
    Deployment.reachable_state (by decide +kernel)
  have herror : (request.run (request.run Deployment.state {} (Deployment.context 5)).state {}
      (Deployment.context 5)).result.toOption.isNone := by decide +kernel
  rw [hr] at herror
  cases herror

end FederationObservatory
