import FederationObservatory.Observatory.Proofs.Records
import FederationObservatory.Observatory.Proofs.Restore

/-!
# Bounds

Every collection stays within its bound, and a bound turns away new keys only. The exceptions are
exact: a fence of an unknown boot identity is recorded whatever the number of publishers, a
registration moves a known boot identity into a federation whatever their number there, and a full
placement or migration history turns away newer generations of what it holds.
-/

namespace FederationObservatory

open StoredRecord (key publishedDigest)

variable {s : Impl} {clock : Clock} {ctx : PublicationContext}

/-! ## Collections -/

/-- The configured bound of a collection. -/
def RecordKind.limit (bounds : Bounds) : RecordKind → Nat
  | .federation => bounds.maxFederations
  | .site => bounds.maxSites
  | .cluster => bounds.maxClusters
  | .acceleratorClass => bounds.maxAcceleratorClasses
  | .runtime => bounds.maxRuntimes
  | .backend => bounds.maxBackends
  | .domain => bounds.maxDomains
  | .policy => bounds.maxPolicies
  | .artifact => bounds.maxArtifacts
  | .workloadClass => bounds.maxWorkloadClasses
  | .workload => bounds.maxWorkloads
  | .placement => bounds.maxPlacementHistory
  | .migration => bounds.maxMigrationHistory
  | .portability => bounds.maxPortabilityRecords

/-- The size of a collection after a store. -/
theorem size_store (k : RecordKind) (at' : k.Key) (record : k.Record) :
    ((s.store k at' record).table k).size =
      if (s.table k)[at']? = none then (s.table k).size + 1 else (s.table k).size := by
  simp only [Impl.store, Collections.table_setTable_self, Std.TreeMap.size_insert,
    Std.TreeMap.contains_eq_isSome_getElem?]
  cases (s.table k)[at']? with
  | none => rfl
  | some old => rfl

theorem size_store_of_some {k : RecordKind} {at' : k.Key} {old : k.Record}
    (h : (s.table k)[at']? = some old) (record : k.Record) :
    ((s.store k at' record).table k).size = (s.table k).size := by
  rw [size_store, h, if_neg (by simp)]

theorem size_store_le (k : RecordKind) (at' : k.Key) (record : k.Record) :
    ((s.store k at' record).table k).size ≤ (s.table k).size + 1 := by
  rw [size_store]
  split <;> omega

/-- A registered record is within the limit of its collection. -/
theorem size_register_le {k : RecordKind} {tag : GenerationTag} {record : k.Record} {extra : Status}
    {limit : Nat} {generationOf : k.Record → Generation tag} {duplicate : Bool}
    (haccepts : AcceptsStructural k s record extra limit generationOf duplicate)
    (hsize : (s.table k).size ≤ limit) (record' : k.Record) :
    ((s.store k (key record) record').table k).size ≤ limit := by
  cases hold : (s.table k)[key record]? with
  | none =>
    have hroom := ((acceptsStructural_of_none hold).mp haccepts).2.2.2
    have hle := @size_store_le s k (key record) record'
    omega
  | some old =>
    rw [size_store_of_some hold]
    exact hsize

theorem size_recordMigration_le (record : MigrationRecord) :
    (s.recordMigration clock ctx record).migrations.size ≤ s.migrations.size + 1 := by
  have hstore := @size_store_le s .migration record.id (record.accept clock ctx)
  unfold Impl.recordMigration
  simp only
  split
  · exact hstore
  · rw [Std.TreeMap.size_modify]
    exact hstore

/-- An accepted publication leaves its collection within the limit. -/
theorem size_written_le {p : Publication} {duplicate : Bool} (haccepts : p.Accepts s ctx duplicate)
    {k : RecordKind} (hsize : (s.table k).size ≤ k.limit s.bounds) :
    ((p.written s clock ctx).table k).size ≤ k.limit s.bounds := by
  by_cases hkind : k = p.kind
  · subst hkind
    cases p with
    | registerFederation r => exact size_register_le (k := .federation) haccepts hsize _
    | registerSite r => exact size_register_le (k := .site) haccepts hsize _
    | registerAcceleratorClass r => exact size_register_le (k := .acceleratorClass) haccepts hsize _
    | registerRuntime r => exact size_register_le (k := .runtime) haccepts hsize _
    | registerBackend r => exact size_register_le (k := .backend) haccepts hsize _
    | registerDomain r => exact size_register_le (k := .domain) haccepts hsize _
    | registerPolicy r => exact size_register_le (k := .policy) haccepts hsize _
    | registerArtifact r => exact size_register_le (k := .artifact) haccepts hsize _
    | registerWorkloadClass r => exact size_register_le (k := .workloadClass) haccepts hsize _
    | registerWorkload r => exact size_register_le (k := .workload) haccepts hsize _
    | registerCluster r =>
      have hregister := size_register_le (k := .cluster) haccepts hsize
        (accepted (k := .cluster) clock ctx r)
      simp only [Publication.written, Impl.registerCluster]
      split
      · -- the second store is under the key of the first
        have hself := Impl.lookup_store_self s .cluster r.id (accepted (k := .cluster) clock ctx r)
        have hsame :=
          size_store_of_some (s := s.register clock ctx .cluster r) (k := .cluster) hself
        exact le_of_eq_of_le (hsame _) hregister
      · exact hregister
    | retireCluster cluster generation reason =>
      obtain ⟨record, hrecord, -⟩ := haccepts
      simp only [Publication.written, hrecord]
      exact le_of_eq_of_le (size_store_of_some (k := .cluster) hrecord _) hsize
    | publishCapability cluster clusterGeneration generation capabilities =>
      obtain ⟨-, record, hrecord, -⟩ := haccepts
      simp only [Publication.written, hrecord, Impl.storeAdvanced]
      split
      · refine le_of_eq_of_le (size_store_of_some (k := .cluster)
          (Impl.lookup_store_self s .cluster cluster _) _) ?_
        exact le_of_eq_of_le (size_store_of_some (k := .cluster) hrecord _) hsize
      · exact le_of_eq_of_le (size_store_of_some (k := .cluster) hrecord _) hsize
    | publishCapacity cluster clusterGeneration generation pools =>
      obtain ⟨-, record, hrecord, -⟩ := haccepts
      simp only [Publication.written, hrecord]
      exact le_of_eq_of_le (size_store_of_some (k := .cluster) hrecord _) hsize
    | publishPlacement record =>
      have hroom : s.placements.size < s.bounds.maxPlacementHistory := haccepts.2.2.2.2.2
      exact (size_store_le .placement record.id _).trans hroom
    | publishMigration record =>
      have hroom : s.migrations.size < s.bounds.maxMigrationHistory := haccepts.2.2.2.2.2
      exact (size_recordMigration_le record).trans hroom
    | publishMigrationStage migration generation stage detail =>
      obtain ⟨record, hrecord, -⟩ := haccepts
      simp only [Publication.written, hrecord]
      exact le_of_eq_of_le (size_store_of_some (k := .migration) hrecord _) hsize
    | publishPortability record =>
      obtain ⟨-, -, -, hroom⟩ := haccepts
      let pair : PortabilityKey := ⟨record.workload, record.destination⟩
      cases hold : s.portability[pair]? with
      | none =>
        rw [hold] at hroom
        exact (size_store_le .portability pair _).trans hroom
      | some old =>
        exact le_of_eq_of_le (size_store_of_some (k := .portability) hold _) hsize
  · rw [p.table_written s clock ctx hkind]
    exact hsize

/-- Every call that does not restore leaves every collection within its limit. -/
theorem size_table_next {operation : Operation} (hrestores : operation.restores s = none)
    {k : RecordKind} (hsize : (s.table k).size ≤ k.limit s.bounds) :
    ((operation.next s).table k).size ≤ k.limit s.bounds := by
  cases operation with
  | submit clock ctx request =>
    change ((request.run s clock ctx).state.table k).size ≤ _
    rcases request.model_run clock ctx with ⟨hsame, -⟩ | ⟨p, _, rfl, -, haccepts, hwritten, -⟩
    · rw [hsame]
      exact hsize
    · rw [hwritten]
      exact size_written_le haccepts hsize
  | fencePublisher publisher boot reason =>
    change ((fencePublisher s publisher boot reason).2.table k).size ≤ _
    rcases fencePublisher_cases s publisher boot reason with ⟨e, hrun⟩ | ⟨-, hrun⟩ | ⟨a, -, hrun⟩
    · rw [hrun]
      exact hsize
    · rw [hrun]
      exact hsize
    · rw [hrun]
      cases k with
      | cluster => exact le_of_eq_of_le Std.TreeMap.size_map hsize
      | federation => exact le_of_eq_of_le Std.TreeMap.size_map hsize
      | site => exact le_of_eq_of_le Std.TreeMap.size_map hsize
      | domain => exact le_of_eq_of_le Std.TreeMap.size_map hsize
      | _ => exact hsize
  | invalidateDynamicEvidence reason =>
    cases k with
    | cluster => exact le_of_eq_of_le Std.TreeMap.size_map hsize
    | _ => exact hsize
  | saveState now => exact hsize
  | loadState file =>
    rw [loadState_next_of_none hrestores]
    exact hsize
  | restore d =>
    rw [restore_next_of_none hrestores]
    exact hsize

/-! ## Publishers -/

/-- The federation of a boot identity. -/
def Impl.federationOf (s : Impl) (key : PublisherKey) : Option FederationId :=
  (s.publishers[key]?).map (·.federation)

/-- The numbers of publishers depend on the federations of the boot identities only. -/
theorem publishers_of_federationOf {t : Impl} (h : ∀ key, t.federationOf key = s.federationOf key) :
    t.publishers.size = s.publishers.size ∧
      ∀ f, t.publishersInFederation f = s.publishersInFederation f := by
  have hvalues := Tables.map_values_eq_of_lookup (f := fun a : PublisherAuthority => a.federation) h
  constructor
  · have hlength := congrArg List.length hvalues
    rwa [List.length_map, List.length_map, Tables.values_eq_map_toList, Tables.values_eq_map_toList,
      List.length_map, List.length_map, Std.TreeMap.length_toList, Std.TreeMap.length_toList]
      at hlength
  · intro f
    have hcount := congrArg (List.countP fun g => decide (g = f)) hvalues
    rwa [List.countP_map, List.countP_map] at hcount

/-- A boot identity that was not there. -/
theorem publishers_insert_new {t : Impl} {i : PublisherKey} {a : PublisherAuthority}
    (hnone : s.publishers[i]? = none) (ht : t.publishers = s.publishers.insert i a) :
    t.publishers.size = s.publishers.size + 1 ∧
      ∀ f, t.publishersInFederation f =
        s.publishersInFederation f + if a.federation = f then 1 else 0 := by
  constructor
  · rw [ht, Std.TreeMap.size_insert, Std.TreeMap.contains_eq_isSome_getElem?, hnone]
    rfl
  · intro f
    have hcount := Tables.countP_values_insert s.publishers
      (fun authority => decide (authority.federation = f)) i a
    rw [hnone] at hcount
    simp only [Impl.publishersInFederation, ht]
    simpa using hcount

/-- A boot identity that was there. -/
theorem publishers_insert_old {t : Impl} {i : PublisherKey} {a old : PublisherAuthority}
    (hold : s.publishers[i]? = some old) (ht : t.publishers = s.publishers.insert i a) :
    t.publishers.size = s.publishers.size ∧
      ∀ f, t.publishersInFederation f + (if old.federation = f then 1 else 0) =
        s.publishersInFederation f + if a.federation = f then 1 else 0 := by
  constructor
  · rw [ht, Std.TreeMap.size_insert, Std.TreeMap.contains_eq_isSome_getElem?, hold]
    rfl
  · intro f
    have hcount := Tables.countP_values_insert s.publishers
      (fun authority => decide (authority.federation = f)) i a
    rw [hold] at hcount
    simp only [Impl.publishersInFederation, ht]
    simpa using hcount

/-- A publication keeps the federation of every boot identity. -/
theorem federationOf_publish (p : Publication) (key : PublisherKey) :
    (p.run s clock ctx).state.federationOf key = s.federationOf key := by
  have hfinish : ∀ (w : Impl) (check : AuthorityCheck) (disposition : IngestDisposition)
      (detail : Text), Admitted s ctx check → w.publishers = s.publishers →
      (finish w clock ctx check.authority disposition detail).2.federationOf key =
        s.federationOf key := by
    intro w check disposition detail hadmitted hw
    unfold Impl.federationOf
    rw [finish_publishers]
    split
    · rename_i hkey
      rw [← hkey, hadmitted.registered]
      rfl
    · rw [hw]
  rcases p.run_cases s clock ctx with
    ⟨r, hrun, hr⟩ | ⟨check, disposition, detail, hadmitted, -, hrun⟩ |
      ⟨check, detail, hadmitted, -, hrun⟩
  · rw [hrun]
    exact hr.lookup (fun a => a.federation) (fun _ => rfl) key
  · rw [hrun]
    exact hfinish s check disposition detail hadmitted rfl
  · rw [hrun]
    exact hfinish _ check _ detail hadmitted (p.written_control s clock ctx).publishers

/-- The call exceeds a bound on publishers: it records a fence of an unknown boot identity when
    there are as many as allowed, or it moves a known one into a federation that has as many as
    allowed. -/
def Operation.ExceedsPublishers (s : Impl) : Operation → Prop
  | .fencePublisher publisher boot _ =>
    publisher.empty = false ∧ boot.isSet = true ∧
      s.publishers[(⟨publisher, boot⟩ : PublisherKey)]? = none ∧
      s.bounds.maxPublishers ≤ s.publishers.size
  | .submit _ ctx .registerPublisher =>
    ∃ check, Admitted s ctx check ∧ check.authority.federation ≠ ctx.federation ∧
      s.bounds.maxPublishersPerFederation ≤ s.publishersInFederation ctx.federation
  | _ => False

/-- The publishers are within their bounds. Boot identities that no federation is known of, which
    come from fences and restores, count towards the total only. -/
structure Impl.PublishersWithin (s : Impl) : Prop where
  total : s.publishers.size ≤ s.bounds.maxPublishers
  perFederation : ∀ f : FederationId, f.empty = false →
    s.publishersInFederation f ≤ s.bounds.maxPublishersPerFederation

theorem Impl.PublishersWithin.of_federationOf {t : Impl} (h : s.PublishersWithin)
    (hbounds : t.bounds = s.bounds) (hsame : ∀ key, t.federationOf key = s.federationOf key) :
    t.PublishersWithin := by
  obtain ⟨hsize, hcount⟩ := publishers_of_federationOf hsame
  constructor
  · rw [hsize, hbounds]
    exact h.total
  · intro f hf
    rw [hcount, hbounds]
    exact h.perFederation f hf

theorem federation_of_validate (h : ctx.validate = .ok ()) : ctx.federation.empty = false := by
  simp only [PublicationContext.validate, bind_eq_ok, failIf_eq_ok] at h
  obtain ⟨-, -, -, -, -, -, -, hfederation, -⟩ := h
  exact hfederation

/-- A known boot identity that passes the gate is revived. -/
theorem registerPublisher_of_admitted {check : AuthorityCheck} (h : Admitted s ctx check)
    (clock : Clock) :
    ∃ detail, registerPublisher s clock ctx =
      .ok (finish s clock ctx (check.authority.revive ctx) .duplicate detail) := by
  have hepoch : ¬ctx.coordinatorEpoch ≠ s.coordinatorEpoch := not_not.mpr h.epoch
  have hsequence : ¬ctx.sequence < check.authority.watermark := UInt64.not_lt.mpr h.sequence
  simp only [registerPublisher, h.valid, h.registered, h.notFenced, hepoch, hsequence, if_false,
    Bool.false_eq_true]
  exact ⟨_, rfl⟩

/-- A registration leaves the publishers within their bounds unless it moves a boot identity into
    a federation that is full. -/
theorem publishersWithin_register_iff (h : s.PublishersWithin) (clock : Clock)
    (ctx : PublicationContext) :
    ((Operation.submit clock ctx .registerPublisher).next s).PublishersWithin ↔
      ¬Operation.ExceedsPublishers s (.submit clock ctx .registerPublisher) := by
  have hbounds := bounds_next s (.submit clock ctx .registerPublisher)
  change (registerPublisher s clock ctx).state.bounds = s.bounds at hbounds
  change (registerPublisher s clock ctx).state.PublishersWithin ↔ _
  rcases registerPublisher_cases s clock ctx with
    ⟨r, hrun, hr⟩ | ⟨check, detail, hadmitted, hrun⟩ | ⟨r, hvalid, hnone, hroom, -, hrun⟩
  · -- refused: nothing moves
    rw [hrun] at hbounds ⊢
    refine iff_of_true (h.of_federationOf hbounds fun key =>
      hr.lookup (fun a => a.federation) (fun _ => rfl) key) ?_
    intro ⟨check, hadmitted, _⟩
    obtain ⟨_, hok⟩ := registerPublisher_of_admitted hadmitted clock
    rw [hrun] at hok
    cases hok
  · -- a known boot identity now counts for the federation of the context
    have hfederation := federation_of_validate hadmitted.valid
    rw [hrun] at hbounds ⊢
    obtain ⟨hsize, hcount⟩ := publishers_insert_old (s := s) (i := ctx.key)
      (t := (finish s clock ctx (check.authority.revive ctx) .duplicate detail).2)
      (a := (check.authority.revive ctx).settle clock ctx .duplicate) hadmitted.registered rfl
    have hsettled : ((check.authority.revive ctx).settle clock ctx .duplicate).federation =
        ctx.federation := rfl
    rw [hsettled] at hcount
    constructor
    · intro hwithin ⟨check', hadmitted', hmoves, hfull⟩
      have hsame : check'.authority = check.authority :=
        Option.some.inj (hadmitted'.registered.symm.trans hadmitted.registered)
      have hafter := hwithin.perFederation ctx.federation hfederation
      have hmoved := hcount ctx.federation
      rw [hsame] at hmoves
      rw [if_neg hmoves, if_pos rfl] at hmoved
      rw [hbounds] at hafter
      have hstate : Outcome.state
          (.ok (finish s clock ctx (check.authority.revive ctx) .duplicate detail)) =
        (finish s clock ctx (check.authority.revive ctx) .duplicate detail).2 := rfl
      rw [hstate] at hafter
      omega
    · intro hmoves
      constructor
      · rw [hbounds]
        exact le_of_eq_of_le hsize h.total
      · intro f hf
        rw [hbounds]
        have hbefore := h.perFederation f hf
        have hmoved := hcount f
        by_cases hfed : ctx.federation = f
        · subst hfed
          by_cases hsame : check.authority.federation = ctx.federation
          · rw [if_pos hsame, if_pos rfl] at hmoved
            exact le_of_eq_of_le (Nat.add_right_cancel hmoved) hbefore
          · have hroom : s.publishersInFederation ctx.federation <
                s.bounds.maxPublishersPerFederation := by
              by_contra hfull
              exact hmoves ⟨check, hadmitted, hsame, Nat.not_lt.mp hfull⟩
            rw [if_neg hsame, if_pos rfl] at hmoved
            exact le_of_eq_of_le hmoved hroom
        · rw [if_neg hfed] at hmoved
          exact (Nat.le_of_add_right_le (le_of_eq hmoved)).trans hbefore
  · -- an unknown boot identity is let in when there is room only
    rw [hrun] at hbounds ⊢
    obtain ⟨hsize, hcount⟩ := publishers_insert_new (s := s) (t := s.withPublisher clock ctx)
      (a := .register clock ctx) hnone rfl
    refine iff_of_true ⟨?_, ?_⟩ ?_
    · rw [hbounds]
      exact le_of_eq_of_le hsize hroom.1
    · intro f hf
      rw [hbounds]
      have hmoved := hcount f
      have hregistered : (PublisherAuthority.register clock ctx).federation = ctx.federation := rfl
      rw [hregistered] at hmoved
      by_cases hfed : ctx.federation = f
      · subst hfed
        rw [if_pos rfl] at hmoved
        exact le_of_eq_of_le hmoved hroom.2
      · rw [if_neg hfed] at hmoved
        exact le_of_eq_of_le hmoved (h.perFederation f hf)
    · intro ⟨check, hadmitted, _⟩
      have hknown := hadmitted.registered
      rw [hnone] at hknown
      cases hknown

/-- A fence leaves the publishers within their bounds unless it records one more than allowed. -/
theorem publishersWithin_fence_iff (h : s.PublishersWithin) (publisher : PublisherId)
    (boot : BootGeneration) (reason : Text) :
    ((Operation.fencePublisher publisher boot reason).next s).PublishersWithin ↔
      ¬Operation.ExceedsPublishers s (.fencePublisher publisher boot reason) := by
  have hbounds := bounds_next s (.fencePublisher publisher boot reason)
  change (fencePublisher s publisher boot reason).2.bounds = s.bounds at hbounds
  change (fencePublisher s publisher boot reason).2.PublishersWithin ↔ _
  by_cases hnames : (publisher.empty || !boot.isSet) = true
  · rw [fencePublisher, if_pos hnames]
    refine iff_of_true h ?_
    intro ⟨hpublisher, hboot, _⟩
    rw [hpublisher, hboot] at hnames
    cases hnames
  · rw [fencePublisher, if_neg hnames] at hbounds ⊢
    have hpublisher : publisher.empty = false := by
      cases hempty : publisher.empty with
      | false => rfl
      | true => exact absurd (by simp [hempty]) hnames
    have hboot : boot.isSet = true := by
      cases hset : boot.isSet with
      | true => rfl
      | false => exact absurd (by simp [hset]) hnames
    cases hkey : s.publishers[(⟨publisher, boot⟩ : PublisherKey)]? with
    | some a =>
      simp only [hkey] at hbounds ⊢
      refine iff_of_true (h.of_federationOf hbounds fun key => ?_) ?_
      · change ((s.publishers.insert ⟨publisher, boot⟩ (a.fence reason))[key]?).map _ = _
        rw [Std.TreeMap.getElem?_insert]
        split
        · rename_i heq
          rw [Impl.federationOf, ← Std.LawfulEqOrd.eq_of_compare heq, hkey]
          unfold PublisherAuthority.fence
          split <;> rfl
        · rfl
      · intro ⟨_, _, hunknown, _⟩
        rw [hkey] at hunknown
        cases hunknown
    | none =>
      simp only [hkey] at hbounds ⊢
      obtain ⟨hsize, hcount⟩ := publishers_insert_new (s := s)
        (t := s.recordFence ⟨publisher, boot⟩ reason) hkey rfl
      have hnew : (s.recordFence ⟨publisher, boot⟩ reason).PublishersWithin ↔
          s.publishers.size < s.bounds.maxPublishers := by
        constructor
        · intro hwithin
          have htotal := hwithin.total
          rw [hsize] at htotal
          exact htotal
        · intro hroom
          refine ⟨le_of_eq_of_le hsize hroom, ?_⟩
          intro f hf
          have hmoved := hcount f
          have hother : ({} : FederationId) ≠ f := by
            intro heq
            rw [← heq] at hf
            cases hf
          rw [if_neg hother] at hmoved
          exact le_of_eq_of_le hmoved (h.perFederation f hf)
      rw [hnew]
      constructor
      · intro hroom ⟨_, _, _, hfull⟩
        omega
      · intro hfree
        by_contra hfull
        exact hfree ⟨hpublisher, hboot, hkey, Nat.not_lt.mp hfull⟩

/-! ## Every collection -/

/-- Every collection is within its configured bound. -/
structure Impl.WithinBounds (s : Impl) : Prop where
  tables : ∀ k : RecordKind, (s.table k).size ≤ k.limit s.bounds
  publishers : s.PublishersWithin
  findings : s.aggregateFindings.length ≤ s.bounds.maxAggregateFindings

theorem withinBounds_new (bounds : Bounds) : (Impl.new bounds).WithinBounds := by
  constructor
  case tables =>
    intro k
    cases k <;> exact Nat.zero_le _
  case publishers => exact ⟨Nat.zero_le _, fun _ _ => Nat.zero_le _⟩
  case findings => exact Nat.zero_le _

/-- A valid durable state has no more records than the bounds allow. -/
theorem DurableState.Valid.length_le {d : DurableState} {bounds : Bounds} (h : d.Valid bounds)
    (k : RecordKind) : (d.collection k).length ≤ k.limit bounds := by
  have hcounts := h.counts
  simp only [DurableState.counts, List.forall_mem_cons] at hcounts
  obtain ⟨hfederations, hsites, hclusters, hclasses, hruntimes, hbackends, hdomains, hpolicies,
    hartifacts, hworkloadClasses, hworkloads, hplacements, hmigrations, hportability, -⟩ := hcounts
  cases k with
  | federation => exact hfederations
  | site => exact hsites
  | cluster => exact hclusters
  | acceleratorClass => exact hclasses
  | runtime => exact hruntimes
  | backend => exact hbackends
  | domain => exact hdomains
  | policy => exact hpolicies
  | artifact => exact hartifacts
  | workloadClass => exact hworkloadClasses
  | workload => exact hworkloads
  | placement => exact hplacements
  | migration => exact hmigrations
  | portability => exact hportability

theorem DurableState.Valid.controls_le {d : DurableState} {bounds : Bounds} (h : d.Valid bounds) :
    d.publisherWatermarks.length ≤ bounds.maxPublishers ∧
      d.aggregateFindings.length ≤ bounds.maxAggregateFindings := by
  have hcounts := h.counts
  simp only [DurableState.counts, List.forall_mem_cons] at hcounts
  obtain ⟨-, -, -, -, -, -, -, -, -, -, -, -, -, -, hpublishers, hfindings, -⟩ := hcounts
  exact ⟨hpublishers, hfindings⟩

/-- A restore leaves every collection within its bound; no federation is known of what it brings
    back of the publishers. -/
theorem withinBounds_restored {d : DurableState} (h : d.Valid s.bounds) :
    (restoredState s d).WithinBounds := by
  constructor
  case tables =>
    intro k
    have hsize := Tables.size_emplaceAll_le key (restoredRecord k) ∅ (d.collection k)
    rw [Std.TreeMap.size_emptyc, Nat.zero_add] at hsize
    rw [show (restoredState s d).toCollections = restoredCollections d from rfl,
      restoredCollections_table]
    exact hsize.trans (h.length_le k)
  case publishers =>
    constructor
    · have hsize := Tables.size_emplaceAll_le PublisherWatermark.key
        (·.toAuthority d.writtenByEpoch) ∅ d.publisherWatermarks
      rw [Std.TreeMap.size_emptyc, Nat.zero_add] at hsize
      exact hsize.trans h.controls_le.1
    · intro f hf
      have hnone : (restoredState s d).publishersInFederation f = 0 := by
        refine List.countP_eq_zero.mpr ?_
        intro a ha
        obtain ⟨at', hlookup⟩ := Tables.mem_values_iff.mp ha
        obtain ⟨w, -, -, rfl⟩ := Tables.exists_of_emplaceAll hlookup
        intro heq
        have hempty : ({} : FederationId) = f := of_decide_eq_true heq
        rw [← hempty] at hf
        cases hf
      rw [hnone]
      exact Nat.zero_le _
  case findings => exact h.controls_le.2

/-- Only a restore touches the findings. -/
theorem aggregateFindings_next {operation : Operation} (hrestores : operation.restores s = none) :
    (operation.next s).aggregateFindings = s.aggregateFindings := by
  cases operation with
  | submit clock ctx request => exact (request.run_settings s clock ctx).aggregateFindings
  | fencePublisher publisher boot reason =>
    exact (fencePublisher_settings s publisher boot reason).aggregateFindings
  | invalidateDynamicEvidence reason => rfl
  | saveState now => rfl
  | loadState file => rw [loadState_next_of_none hrestores]
  | restore d => rw [restore_next_of_none hrestores]

/-- From within the bounds, a call leads out of them exactly when it exceeds a bound on
    publishers. -/
theorem withinBounds_next_iff (h : s.WithinBounds) (operation : Operation) :
    (operation.next s).WithinBounds ↔ ¬operation.ExceedsPublishers s := by
  cases hrestores : operation.restores s with
  | some d =>
    rw [next_of_restores hrestores]
    refine iff_of_true (withinBounds_restored (valid_of_restores hrestores)) ?_
    cases operation with
    | restore d' => exact id
    | loadState file => exact id
    | submit clock ctx request => cases hrestores
    | fencePublisher publisher boot reason => cases hrestores
    | invalidateDynamicEvidence reason => cases hrestores
    | saveState now => cases hrestores
  | none =>
    have hpublishers : (operation.next s).PublishersWithin ↔ ¬operation.ExceedsPublishers s := by
      have hsame : (∀ key, (operation.next s).federationOf key = s.federationOf key) →
          (operation.next s).PublishersWithin := fun hsame =>
        h.publishers.of_federationOf (bounds_next s operation) hsame
      cases operation with
      | submit clock ctx request =>
        cases request with
        | registerPublisher => exact publishersWithin_register_iff h.publishers clock ctx
        | publish p => exact iff_of_true (hsame (federationOf_publish p)) id
      | fencePublisher publisher boot reason =>
        exact publishersWithin_fence_iff h.publishers publisher boot reason
      | invalidateDynamicEvidence reason =>
        refine iff_of_true (hsame fun key => ?_) id
        change ((s.publishers.map fun _ authority => authority.invalidated)[key]?).map _ = _
        rw [Std.TreeMap.getElem?_map, Option.map_map]
        refine congrArg (fun f => Option.map f s.publishers[key]?) (funext fun a => ?_)
        simp only [Function.comp_apply, PublisherAuthority.invalidated]
        split <;> rfl
      | saveState now => exact iff_of_true (hsame fun _ => rfl) id
      | loadState file =>
        rw [loadState_next_of_none hrestores]
        exact iff_of_true h.publishers id
      | restore d =>
        rw [restore_next_of_none hrestores]
        exact iff_of_true h.publishers id
    rw [← hpublishers]
    constructor
    · intro hnext
      exact hnext.publishers
    · intro hnext
      constructor
      case tables =>
        intro k
        rw [bounds_next]
        exact size_table_next hrestores (h.tables k)
      case publishers => exact hnext
      case findings =>
        rw [aggregateFindings_next hrestores, bounds_next]
        exact h.findings

/-! ## Refusals -/

/-- The text of `register_structural` when the collection is full. -/
def structuralBoundText (label : String) : Text :=
  .ofString ("the " ++ label ++ " bound is exhausted")

/-- What a publication says when its collection is full. The others change what is stored: their
    bounds are on one cluster's pools and on one migration's events. -/
def Publication.boundText : Publication → Option Text
  | .registerFederation _ => some (structuralBoundText "federation")
  | .registerSite _ => some (structuralBoundText "site")
  | .registerCluster _ => some (structuralBoundText "cluster")
  | .registerAcceleratorClass _ => some (structuralBoundText "accelerator class")
  | .registerRuntime _ => some (structuralBoundText "runtime")
  | .registerBackend _ => some (structuralBoundText "backend")
  | .registerDomain _ => some (structuralBoundText "domain")
  | .registerPolicy _ => some (structuralBoundText "policy")
  | .registerArtifact _ => some (structuralBoundText "artifact")
  | .registerWorkloadClass _ => some (structuralBoundText "workload class")
  | .registerWorkload _ => some (structuralBoundText "workload")
  | .publishPlacement _ => some (.ofString "placement history bound is exhausted")
  | .publishMigration _ => some (.ofString "migration history bound is exhausted")
  | .publishPortability _ => some (.ofString "portability record bound is exhausted")
  | .retireCluster .. | .publishCapability .. | .publishCapacity .. => none
  | .publishMigrationStage .. => none

/-- The durable state has more entries of some collection than the observatory holds. -/
def DurableState.Outgrows (d : DurableState) (s : Impl) : Prop :=
  (∃ k : RecordKind, (s.table k).size < (d.collection k).length) ∨
    s.publishers.size < d.publisherWatermarks.length ∨
    s.aggregateFindings.length < d.aggregateFindings.length

/-- The call fails for the bound of a collection only if it would add to that collection. -/
def Operation.BoundsNewKeysOnly (s : Impl) : Operation → Prop
  | .submit clock ctx (.publish p) =>
    ∀ text, p.boundText = some text →
      (p.run s clock ctx).result = .error ⟨.boundExceeded, text, []⟩ →
      (s.table p.kind)[p.key]? = none
  | .submit clock ctx .registerPublisher =>
    ∀ e, (registerPublisher s clock ctx).result = .error e → e.code = .boundExceeded →
      s.publishers[ctx.key]? = none
  | .restore d =>
    ∀ e, (FederationObservatory.restore s d).1 = .error e → e.code = .boundExceeded → d.Outgrows s
  | .fencePublisher .. | .invalidateDynamicEvidence .. | .saveState .. | .loadState .. => True

/-- A check never fails for a bound. -/
def Unbounded (status : Status) : Prop := ∀ e, status = .error e → e.code ≠ .boundExceeded

theorem unbounded_ok : Unbounded (.ok ()) := fun _ h => by cases h

theorem unbounded_failIf {test : Bool} {code : ErrorCode} {message : String} {detail : Text}
    (hcode : code ≠ .boundExceeded) : Unbounded (failIf test code message detail) := by
  intro e he
  cases test with
  | false => cases he
  | true =>
    obtain rfl := Except.error.inj he
    exact hcode

theorem unbounded_bind {first : Status} {rest : Unit → Status} (hfirst : Unbounded first)
    (hrest : Unbounded (rest ())) : Unbounded (first >>= rest) := by
  intro e he
  cases hok : first with
  | error e' =>
    rw [hok] at he
    obtain rfl := Except.error.inj he
    exact hfirst e' hok
  | ok u =>
    rw [hok] at he
    exact hrest e he

theorem unbounded_forM {α : Type} {elements : List α} {check : α → Status}
    (h : ∀ x, Unbounded (check x)) : Unbounded (elements.forM check) := by
  induction elements with
  | nil => exact unbounded_ok
  | cons x elements ih => exact unbounded_bind (h x) ih

theorem unbounded_context : Unbounded ctx.validate := by
  unfold PublicationContext.validate
  refine unbounded_bind (unbounded_failIf (by decide)) ?_
  refine unbounded_bind (unbounded_failIf (by decide)) ?_
  refine unbounded_bind (unbounded_failIf (by decide)) ?_
  refine unbounded_bind (unbounded_failIf (by decide)) ?_
  refine unbounded_bind (unbounded_failIf (by decide)) ?_
  exact unbounded_failIf (by decide)

/-- The gate never refuses for a bound. -/
theorem unbounded_gate {r : Error × Impl} (h : checkAuthority s ctx = .error r) :
    r.1.code ≠ .boundExceeded := by
  unfold checkAuthority at h
  split at h
  · rename_i e hvalid
    obtain rfl := Except.error.inj h
    exact unbounded_context e hvalid
  · split at h
    · obtain rfl := Except.error.inj h
      exact (by decide : ErrorCode.staleBoot ≠ .boundExceeded)
    · split at h
      · obtain rfl := Except.error.inj h
        exact (by decide : ErrorCode.fencedPublisher ≠ .boundExceeded)
      · split at h
        · obtain rfl := Except.error.inj h
          exact (by decide : ErrorCode.staleEpoch ≠ .boundExceeded)
        · split at h
          · obtain rfl := Except.error.inj h
            exact (by decide : ErrorCode.sequenceRegression ≠ .boundExceeded)
          · cases h

theorem unbounded_checkFederation : Unbounded (checkFederation s ctx) := by
  intro e he
  unfold checkFederation at he
  split at he
  · obtain rfl := Except.error.inj he
    exact (by decide : ErrorCode.notFound ≠ .boundExceeded)
  · split at he
    · obtain rfl := Except.error.inj he
      exact (by decide : ErrorCode.staleGeneration ≠ .boundExceeded)
    · cases he

theorem unbounded_checkPlacement (record : PlacementRecord) :
    Unbounded (checkPlacement s ctx record) := by
  unfold checkPlacement
  split
  · intro e he
    obtain rfl := Except.error.inj he
    exact (by decide : ErrorCode.invalidArgument ≠ .boundExceeded)
  · refine unbounded_bind (unbounded_failIf (by decide)) ?_
    refine unbounded_bind (unbounded_failIf (by decide)) ?_
    exact unbounded_forM fun candidate => unbounded_failIf (by decide)

theorem unbounded_checkMigration (record : MigrationRecord) :
    Unbounded (checkMigration s ctx record) := by
  unfold checkMigration
  refine unbounded_bind (unbounded_failIf (by decide)) ?_
  refine unbounded_bind (unbounded_failIf (by decide)) ?_
  exact unbounded_failIf (by decide)

/-- What fails a check of a record ends in a bracket, and the bound of a collection does not. -/
theorem refuseStatus_ne {text : Text} (htext : text.getLast? = some 100) (e : Error) :
    Outcome.result (.error (refuseStatus s ctx e)) ≠ .error ⟨.boundExceeded, text, []⟩ := by
  intro heq
  have hmessage := congrArg (fun error : Error => error.message.getLast?) (Except.error.inj heq)
  have hbracket : (Text.ofString ")").getLast? = some 41 := by decide
  simp only [List.getLast?_append, hbracket, htext, Option.some_or] at hmessage
  exact absurd hmessage (by decide)

/-- `register_structural` fails for its bound only under a new key. -/
theorem registerStructural_bound {k : RecordKind} {tag : GenerationTag} {record : k.Record}
    (label : String) (extra : k.Record → Status) {text : Text} {limit : Nat}
    {generationOf : k.Record → Generation tag}
    (hlast : (structuralBoundText label).getLast? = some 100)
    (htext : some (structuralBoundText label) = some text)
    (h : (registerStructural k s clock ctx record label extra limit generationOf).result =
      .error ⟨.boundExceeded, text, []⟩) :
    (s.table k)[key record]? = none := by
  obtain rfl := Option.some.inj htext
  unfold registerStructural at h
  cases hgate : checkAuthority s ctx with
  | error r =>
    rw [hgate] at h
    have heq : r.1 = _ := Except.error.inj h
    exact absurd (congrArg Error.code heq) (unbounded_gate hgate)
  | ok check =>
    rw [hgate] at h
    simp only [bind, Except.bind] at h
    split at h
    · exact absurd h (refuseStatus_ne hlast _)
    split at h
    · exact absurd h (refuseStatus_ne hlast _)
    split at h
    · cases h
    split at h
    · have hcode := congrArg Error.code (Except.error.inj h)
      cases hcode
    split at h
    · assumption
    · split at h
      · cases h
      · cases h

/-- The second write of `register_cluster` fails never. -/
theorem registerCluster_bound {record : ClusterRecord} {text : Text}
    (htext : some (structuralBoundText "cluster") = some text)
    (h : (registerCluster s clock ctx record).result = .error ⟨.boundExceeded, text, []⟩) :
    s.clusters[record.id]? = none := by
  refine registerStructural_bound (k := .cluster) (s := s) "cluster" (checkCluster s)
    (by decide) htext (?_ : (registerStructural .cluster s clock ctx record "cluster"
      (checkCluster s) s.bounds.maxClusters fun r => r.generation).result = _)
  unfold registerCluster at h
  cases hregister : registerStructural .cluster s clock ctx record "cluster" (checkCluster s)
      s.bounds.maxClusters fun r => r.generation with
  | error r =>
    rw [hregister] at h
    exact h
  | ok r =>
    rw [hregister] at h
    simp only [bind, Except.bind] at h
    split at h
    · split at h
      · cases h
      · cases h
    · cases h

theorem publishPortability_bound {record : PortabilityAssessment} {text : Text}
    (htext : some (Text.ofString "portability record bound is exhausted") = some text)
    (h : (publishPortability s clock ctx record).result = .error ⟨.boundExceeded, text, []⟩) :
    s.portability[(⟨record.workload, record.destination⟩ : PortabilityKey)]? = none := by
  have hlast : (Text.ofString "portability record bound is exhausted").getLast? = some 100 := by
    decide
  obtain rfl := Option.some.inj htext
  unfold publishPortability at h
  cases hgate : checkAuthority s ctx with
  | error r =>
    rw [hgate] at h
    exact absurd (congrArg Error.code (Except.error.inj h)) (unbounded_gate hgate)
  | ok check =>
    rw [hgate] at h
    simp only [bind, Except.bind] at h
    split at h
    · exact absurd h (refuseStatus_ne hlast _)
    split at h
    · cases congrArg Error.code (Except.error.inj h)
    split at h
    · cases congrArg Error.code (Except.error.inj h)
    split at h
    · cases h
    split at h
    · cases h
    split at h
    · rename_i hfull
      exact hfull.2
    · cases h

/-- In the chain of `publish_placement` and `publish_migration`: a stored record is in the way of
    its own newer generation exactly when the history is full. -/
theorem history_bound_iff {κ ρ : Type} [StoredRecord κ ρ] {tag : GenerationTag}
    (generationOf : ρ → Generation tag) (old record : ρ) (check : AuthorityCheck) {size limit : Nat}
    {o : Outcome} {text : Text} (repeated reused newer same : Text)
    (ho : ∀ e, o.result ≠ .error e) :
    (if (some old).any fun old => publishedDigest old = publishedDigest record then
        .ok (finish s clock ctx check.authority .duplicate repeated)
      else if check.duplicateSequence then
        .error (refuse s .conflict reused (some ctx.key))
      else if (some old).any fun old => (generationOf old).newerThan (generationOf record) then
        .ok (finish s clock ctx check.authority .superseded newer)
      else if (some old).any fun old => generationOf old = generationOf record then
        .error (refuse s .conflict same (some ctx.key))
      else if limit ≤ size then
        .error (refuse s.countBoundsRejection .boundExceeded text (some ctx.key))
      else o).result = .error ⟨.boundExceeded, text, []⟩ ↔
      check.duplicateSequence = false ∧ publishedDigest old ≠ publishedDigest record ∧
        generationOf old < generationOf record ∧ limit ≤ size := by
  simp only [Option.any_some, decide_eq_true_eq]
  split
  · rename_i hdigest
    exact iff_of_false (fun h => by cases h) fun h => h.2.1 hdigest
  rename_i hdigest
  split
  · rename_i hdup
    refine iff_of_false (fun h => ?_) fun h => by simp [hdup] at h
    cases congrArg Error.code (Except.error.inj h)
  rename_i hdup
  split
  · rename_i hnewer
    refine iff_of_false (fun h => by cases h) fun h => ?_
    exact UInt64.lt_asymm (Generation.newerThan_eq_true.mp hnewer) h.2.2.1
  rename_i hnewer
  have hle : generationOf old ≤ generationOf record :=
    Generation.newerThan_eq_false.mp (Bool.not_eq_true _ ▸ hnewer)
  split
  · rename_i hequal
    refine iff_of_false (fun h => ?_) fun h => ?_
    · cases congrArg Error.code (Except.error.inj h)
    · have hlt := h.2.2.1
      rw [hequal] at hlt
      exact UInt64.lt_irrefl _ hlt
  rename_i hequal
  have hlt : generationOf old < generationOf record :=
    UInt64.lt_of_le_of_ne hle fun heq => hequal (Generation.ext heq)
  split
  · rename_i hfull
    exact iff_of_true rfl ⟨by simpa using hdup, hdigest, hlt, hfull⟩
  · rename_i hroom
    exact iff_of_false (ho _) fun h => hroom h.2.2.2

/-- The stored record is in the way of a newer generation of it: everything checks, but the history
    is full. -/
def Operation.BlocksUpdate (s : Impl) : Operation → Prop
  | .submit _ ctx (.publish (.publishPlacement record)) =>
    ∃ check old, Admitted s ctx check ∧ checkFederation s ctx = .ok () ∧ record.validate = .ok () ∧
      checkPlacement s ctx record = .ok () ∧ s.placements[record.id]? = some old ∧
      check.duplicateSequence = false ∧ publishedDigest old ≠ publishedDigest record ∧
      old.generation < record.generation ∧ s.bounds.maxPlacementHistory ≤ s.placements.size
  | .submit _ ctx (.publish (.publishMigration record)) =>
    ∃ check old, Admitted s ctx check ∧ checkFederation s ctx = .ok () ∧ record.validate = .ok () ∧
      checkMigration s ctx record = .ok () ∧ s.migrations[record.id]? = some old ∧
      check.duplicateSequence = false ∧ publishedDigest old ≠ publishedDigest record ∧
      old.generation < record.generation ∧ s.bounds.maxMigrationHistory ≤ s.migrations.size
  | _ => False

/-- A full collection is in the way of no update, in terms of what is stored. -/
theorem boundsNewKeysOnly_iff {p : Publication} {text : Text} (htext : p.boundText = some text) :
    Operation.BoundsNewKeysOnly s (.submit clock ctx (.publish p)) ↔
      ∀ old, (s.table p.kind)[p.key]? = some old →
        (p.run s clock ctx).result ≠ .error ⟨.boundExceeded, text, []⟩ := by
  constructor
  · intro hnew old hold hrun
    have hnone := hnew text htext hrun
    rw [hold] at hnone
    cases hnone
  · intro hstored text' htext' hrun
    obtain rfl := Option.some.inj (htext.symm.trans htext')
    cases hold : (s.table p.kind)[p.key]? with
    | none => rfl
    | some old => exact absurd hrun (hstored old hold)

theorem publishPlacement_full_iff {record old : PlacementRecord}
    (hold : s.placements[record.id]? = some old) :
    (publishPlacement s clock ctx record).result =
        .error ⟨.boundExceeded, .ofString "placement history bound is exhausted", []⟩ ↔
      ∃ check, Admitted s ctx check ∧ checkFederation s ctx = .ok () ∧ record.validate = .ok () ∧
        checkPlacement s ctx record = .ok () ∧ check.duplicateSequence = false ∧
        publishedDigest old ≠ publishedDigest record ∧ old.generation < record.generation ∧
        s.bounds.maxPlacementHistory ≤ s.placements.size := by
  have hlast : (Text.ofString "placement history bound is exhausted").getLast? = some 100 := by
    decide
  unfold publishPlacement
  rcases checkAuthority_cases s ctx with ⟨r, hgate, -, hnot⟩ | ⟨check, hgate, hadmitted⟩
  · rw [hgate]
    refine iff_of_false (fun h => ?_) fun ⟨check, hadmitted, _⟩ => hnot check hadmitted
    exact unbounded_gate hgate (congrArg Error.code (Except.error.inj h))
  rw [hgate]
  simp only [bind, Except.bind]
  cases hfederation : checkFederation s ctx with
  | error e =>
    refine iff_of_false (fun h => ?_) fun ⟨_, _, hok, _⟩ => by cases hok
    exact unbounded_checkFederation e hfederation (congrArg Error.code (Except.error.inj h))
  | ok u =>
  cases hvalid : record.validate with
  | error e => exact iff_of_false (refuseStatus_ne hlast e) fun ⟨_, _, _, hok, _⟩ => by cases hok
  | ok u =>
  cases hreferences : checkPlacement s ctx record with
  | error e =>
    refine iff_of_false (fun h => ?_) fun ⟨_, _, _, _, hok, _⟩ => by cases hok
    exact unbounded_checkPlacement record e hreferences (congrArg Error.code (Except.error.inj h))
  | ok u =>
    simp only [hold]
    rw [history_bound_iff (fun r : PlacementRecord => r.generation)]
    · constructor
      · intro h
        exact ⟨check, hadmitted, trivial, trivial, trivial, h⟩
      · intro ⟨check', hadmitted', _, _, _, h⟩
        have hsame := Except.ok.inj (hgate.symm.trans (checkAuthority_eq_ok.mpr hadmitted'))
        rw [hsame]
        exact h
    · intro e
      split
      · exact fun h => by cases h
      · exact fun h => by cases h

theorem publishMigration_full_iff {record old : MigrationRecord}
    (hold : s.migrations[record.id]? = some old) :
    (publishMigration s clock ctx record).result =
        .error ⟨.boundExceeded, .ofString "migration history bound is exhausted", []⟩ ↔
      ∃ check, Admitted s ctx check ∧ checkFederation s ctx = .ok () ∧ record.validate = .ok () ∧
        checkMigration s ctx record = .ok () ∧ check.duplicateSequence = false ∧
        publishedDigest old ≠ publishedDigest record ∧ old.generation < record.generation ∧
        s.bounds.maxMigrationHistory ≤ s.migrations.size := by
  have hlast : (Text.ofString "migration history bound is exhausted").getLast? = some 100 := by
    decide
  unfold publishMigration
  rcases checkAuthority_cases s ctx with ⟨r, hgate, -, hnot⟩ | ⟨check, hgate, hadmitted⟩
  · rw [hgate]
    refine iff_of_false (fun h => ?_) fun ⟨check, hadmitted, _⟩ => hnot check hadmitted
    exact unbounded_gate hgate (congrArg Error.code (Except.error.inj h))
  rw [hgate]
  simp only [bind, Except.bind]
  cases hfederation : checkFederation s ctx with
  | error e =>
    refine iff_of_false (fun h => ?_) fun ⟨_, _, hok, _⟩ => by cases hok
    exact unbounded_checkFederation e hfederation (congrArg Error.code (Except.error.inj h))
  | ok u =>
  cases hvalid : record.validate with
  | error e => exact iff_of_false (refuseStatus_ne hlast e) fun ⟨_, _, _, hok, _⟩ => by cases hok
  | ok u =>
  cases hreferences : checkMigration s ctx record with
  | error e =>
    refine iff_of_false (fun h => ?_) fun ⟨_, _, _, _, hok, _⟩ => by cases hok
    exact unbounded_checkMigration record e hreferences (congrArg Error.code (Except.error.inj h))
  | ok u =>
    simp only [hold]
    rw [history_bound_iff (fun r : MigrationRecord => r.generation)]
    · constructor
      · intro h
        exact ⟨check, hadmitted, trivial, trivial, trivial, h⟩
      · intro ⟨check', hadmitted', _, _, _, h⟩
        have hsame := Except.ok.inj (hgate.symm.trans (checkAuthority_eq_ok.mpr hadmitted'))
        rw [hsame]
        exact h
    · exact fun e h => by cases h

/-- A publication fails for the bound of its collection only under a new key, unless a stored
    placement or migration is in the way of its own newer generation. -/
theorem boundsNewKeysOnly_publish_iff (p : Publication) :
    Operation.BoundsNewKeysOnly s (.submit clock ctx (.publish p)) ↔
      ¬Operation.BlocksUpdate s (.submit clock ctx (.publish p)) := by
  cases p with
  | registerFederation r =>
    exact iff_of_true (fun _ => registerStructural_bound (k := .federation) "federation"
      (fun _ => .ok ()) (by decide)) id
  | registerSite r =>
    exact iff_of_true
      (fun _ => registerStructural_bound (k := .site) "site" (checkSite s) (by decide)) id
  | registerCluster r => exact iff_of_true (fun _ => registerCluster_bound) id
  | registerAcceleratorClass r =>
    exact iff_of_true (fun _ => registerStructural_bound (k := .acceleratorClass)
      "accelerator class" (fun _ => .ok ()) (by decide)) id
  | registerRuntime r =>
    exact iff_of_true (fun _ => registerStructural_bound (k := .runtime) "runtime"
      (fun _ => .ok ()) (by decide)) id
  | registerBackend r =>
    exact iff_of_true
      (fun _ => registerStructural_bound (k := .backend) "backend" (checkBackend s) (by decide)) id
  | registerDomain r =>
    exact iff_of_true
      (fun _ => registerStructural_bound (k := .domain) "domain" (checkDomain s) (by decide)) id
  | registerPolicy r =>
    exact iff_of_true (fun _ => registerStructural_bound (k := .policy) "policy"
      (fun _ => .ok ()) (by decide)) id
  | registerArtifact r =>
    exact iff_of_true (fun _ => registerStructural_bound (k := .artifact) "artifact"
      (fun _ => .ok ()) (by decide)) id
  | registerWorkloadClass r =>
    exact iff_of_true (fun _ => registerStructural_bound (k := .workloadClass) "workload class"
      (fun _ => .ok ()) (by decide)) id
  | registerWorkload r =>
    exact iff_of_true (fun _ => registerStructural_bound (k := .workload) "workload"
      (checkWorkload s) (by decide)) id
  | retireCluster cluster generation reason => exact iff_of_true (fun _ h => by cases h) id
  | publishCapability cluster clusterGeneration generation capabilities =>
    exact iff_of_true (fun _ h => by cases h) id
  | publishCapacity cluster clusterGeneration generation pools =>
    exact iff_of_true (fun _ h => by cases h) id
  | publishMigrationStage migration generation stage detail =>
    exact iff_of_true (fun _ h => by cases h) id
  | publishPortability r =>
    exact iff_of_true (fun _ => publishPortability_bound) id
  | publishPlacement r =>
    rw [boundsNewKeysOnly_iff rfl]
    constructor
    · intro hstored ⟨check, old, hadmitted, hfederation, hvalid, hreferences, hold, hrest⟩
      exact hstored old hold ((publishPlacement_full_iff hold).mpr
        ⟨check, hadmitted, hfederation, hvalid, hreferences, hrest⟩)
    · intro hblocks old hold hrun
      obtain ⟨check, hadmitted, hfederation, hvalid, hreferences, hrest⟩ :=
        (publishPlacement_full_iff hold).mp hrun
      exact hblocks ⟨check, old, hadmitted, hfederation, hvalid, hreferences, hold, hrest⟩
  | publishMigration r =>
    rw [boundsNewKeysOnly_iff rfl]
    constructor
    · intro hstored ⟨check, old, hadmitted, hfederation, hvalid, hreferences, hold, hrest⟩
      exact hstored old hold ((publishMigration_full_iff hold).mpr
        ⟨check, hadmitted, hfederation, hvalid, hreferences, hrest⟩)
    · intro hblocks old hold hrun
      obtain ⟨check, hadmitted, hfederation, hvalid, hreferences, hrest⟩ :=
        (publishMigration_full_iff hold).mp hrun
      exact hblocks ⟨check, old, hadmitted, hfederation, hvalid, hreferences, hold, hrest⟩

/-- A registration fails for a bound on publishers only under a new boot identity. -/
theorem registerPublisher_bound {e : Error}
    (h : (registerPublisher s clock ctx).result = .error e) (hcode : e.code = .boundExceeded) :
    s.publishers[ctx.key]? = none := by
  unfold registerPublisher at h
  split at h
  · rename_i e' hvalid
    obtain rfl := Except.error.inj h
    exact absurd hcode (unbounded_context e' hvalid)
  split at h
  · split at h
    · obtain rfl := Except.error.inj h
      cases hcode
    split at h
    · obtain rfl := Except.error.inj h
      cases hcode
    split at h
    · obtain rfl := Except.error.inj h
      cases hcode
    · cases h
  · assumption

theorem unbounded_checkRecord (status : Status) (message : String) :
    Unbounded (DurableState.checkRecord status message) := by
  intro e he
  cases status with
  | ok u => cases he
  | error e' =>
    obtain rfl := Except.error.inj he
    exact (by decide : ErrorCode.corruptState ≠ .boundExceeded)

theorem unbounded_carriesDynamicEvidence (why : Text) :
    Unbounded (DurableState.carriesDynamicEvidence why) := by
  intro e he
  obtain rfl := Except.error.inj he
  exact (by decide : ErrorCode.corruptState ≠ .boundExceeded)

theorem unbounded_isNormalized (d : DurableState) : Unbounded d.isNormalized := by
  have hrecord : ∀ {κ ρ : Type} [StoredRecord κ ρ] (what : String) (id : ρ → Text) (record : ρ),
      Unbounded (DurableState.recordIsNormalized what id record) := by
    intro κ ρ _ what id record
    unfold DurableState.recordIsNormalized
    split
    · exact unbounded_carriesDynamicEvidence _
    · exact unbounded_ok
  refine unbounded_bind (unbounded_forM fun cluster => ?_) ?_
  · unfold DurableState.clusterIsNormalized
    simp only
    split
    · exact unbounded_carriesDynamicEvidence _
    split
    · exact unbounded_carriesDynamicEvidence _
    split
    · exact unbounded_carriesDynamicEvidence _
    · exact unbounded_ok
  refine unbounded_bind (unbounded_forM (hrecord _ _)) ?_
  refine unbounded_bind (unbounded_forM (hrecord _ _)) ?_
  refine unbounded_bind (unbounded_forM (hrecord _ _)) ?_
  refine unbounded_bind (unbounded_forM (hrecord _ _)) ?_
  exact unbounded_forM (hrecord _ _)

theorem unbounded_validateUnique (d : DurableState) : Unbounded d.validateUnique := by
  unfold DurableState.validateUnique DurableState.uniqueIds
  iterate 13 refine unbounded_bind (unbounded_failIf (by decide)) ?_
  split
  · intro e he
    obtain rfl := Except.error.inj he
    exact (by decide : ErrorCode.corruptState ≠ .boundExceeded)
  · exact unbounded_ok

/-- A durable state whose collections are within the bounds does not fail for a bound. -/
theorem unbounded_validate {d : DurableState} {bounds : Bounds}
    (hcounts : ∀ count ∈ d.counts bounds, count.1 ≤ count.2.1) : Unbounded (d.validate bounds) := by
  have hreference : ∀ {tag : IdTag} (ids : List (StrongId tag)) (id : StrongId tag)
      (message : String) (detail : Text),
      Unbounded (DurableState.checkReference ids id message detail) :=
    fun _ _ _ _ => unbounded_failIf (by decide)
  unfold DurableState.validate
  refine unbounded_bind (unbounded_failIf (by decide)) ?_
  refine unbounded_bind ?_ ?_
  · rw [DurableState.validateCounts_eq_ok.mpr hcounts]
    exact unbounded_ok
  refine unbounded_bind (unbounded_validateUnique d) ?_
  refine unbounded_bind (unbounded_forM fun _ => unbounded_checkRecord _ _) ?_
  refine unbounded_bind (unbounded_forM fun _ =>
    unbounded_bind (unbounded_checkRecord _ _) (hreference _ _ _ _)) ?_
  refine unbounded_bind (unbounded_forM fun _ => unbounded_bind (unbounded_checkRecord _ _)
    (unbounded_bind (hreference _ _ _ _) (hreference _ _ _ _))) ?_
  refine unbounded_bind (unbounded_forM fun _ => unbounded_bind
    (unbounded_forM fun _ => hreference _ _ _ _) (unbounded_forM fun _ => hreference _ _ _ _)) ?_
  refine unbounded_bind (unbounded_forM fun _ => unbounded_bind (unbounded_checkRecord _ _)
    (unbounded_bind (hreference _ _ _ _)
      (unbounded_bind (unbounded_failIf (by decide)) (unbounded_failIf (by decide))))) ?_
  refine unbounded_bind (unbounded_forM fun _ => unbounded_bind (unbounded_checkRecord _ _)
    (unbounded_bind (hreference _ _ _ _) (unbounded_bind (hreference _ _ _ _)
      (unbounded_forM fun _ => hreference _ _ _ _)))) ?_
  refine unbounded_bind (unbounded_forM fun _ => unbounded_bind (unbounded_checkRecord _ _)
    (unbounded_bind (hreference _ _ _ _) (unbounded_failIf (by decide)))) ?_
  refine unbounded_bind (unbounded_forM fun _ =>
    unbounded_bind (unbounded_checkRecord _ _) (hreference _ _ _ _)) ?_
  exact unbounded_isNormalized d

/-- A restore that fails for a bound would have to add to a collection that is within it. -/
theorem restore_bound (h : s.WithinBounds) {d : DurableState} {e : Error}
    (he : (restore s d).1 = .error e) (hcode : e.code = .boundExceeded) : d.Outgrows s := by
  by_contra hfits
  simp only [DurableState.Outgrows, not_or, not_exists, Nat.not_lt] at hfits
  obtain ⟨htables, hpublishers, hfindings⟩ := hfits
  have hle : ∀ k : RecordKind, (d.collection k).length ≤ k.limit s.bounds :=
    fun k => (htables k).trans (h.tables k)
  have hcounts : ∀ count ∈ d.counts s.bounds, count.1 ≤ count.2.1 := by
    simp only [DurableState.counts, List.forall_mem_cons]
    exact ⟨hle .federation, hle .site, hle .cluster, hle .acceleratorClass, hle .runtime,
      hle .backend, hle .domain, hle .policy, hle .artifact, hle .workloadClass, hle .workload,
      hle .placement, hle .migration, hle .portability, hpublishers.trans h.publishers.total,
      hfindings.trans h.findings, fun _ hmem => by cases hmem⟩
  unfold restore at he
  split at he
  · rename_i e' hvalid
    obtain rfl := Except.error.inj he
    exact unbounded_validate hcounts e' hvalid hcode
  · cases he

/-- From within the bounds, a call fails for the bound of a collection only if it would add to it,
    unless a full history is in the way of an update. -/
theorem boundsNewKeysOnly_next_iff (h : s.WithinBounds) (operation : Operation) :
    operation.BoundsNewKeysOnly s ↔ ¬operation.BlocksUpdate s := by
  cases operation with
  | submit clock ctx request =>
    cases request with
    | publish p => exact boundsNewKeysOnly_publish_iff p
    | registerPublisher => exact iff_of_true (fun _ => registerPublisher_bound) id
  | restore d => exact iff_of_true (fun _ => restore_bound h) id
  | fencePublisher publisher boot reason => exact iff_of_true trivial id
  | invalidateDynamicEvidence reason => exact iff_of_true trivial id
  | saveState now => exact iff_of_true trivial id
  | loadState file => exact iff_of_true trivial id

/-! ## Runs -/

theorem bounds_along_iff (h : s.WithinBounds) (operations : List Operation) :
    ((∀ before, before <+: operations → (s.run before).WithinBounds) ∧
        ∀ before operation, before ++ [operation] <+: operations →
          operation.BoundsNewKeysOnly (s.run before)) ↔
      s.Along (fun s operation => ¬operation.ExceedsPublishers s ∧ ¬operation.BlocksUpdate s)
        operations := by
  -- the right-hand side at one call needs that the state before it is within the bounds
  induction operations generalizing s with
  | nil =>
    refine iff_of_true ⟨?_, ?_⟩ trivial
    · intro before hstart
      rw [List.prefix_nil.mp hstart]
      exact h
    · intro before operation hstart
      have hnil := List.prefix_nil.mp hstart
      simp at hnil
  | cons operation operations ih =>
    constructor
    · intro ⟨hstates, hcalls⟩
      have hnext : (operation.next s).WithinBounds :=
        hstates [operation] (List.cons_prefix_cons.mpr ⟨rfl, List.nil_prefix⟩)
      have hkeys : operation.BoundsNewKeysOnly s :=
        hcalls [] operation (List.cons_prefix_cons.mpr ⟨rfl, List.nil_prefix⟩)
      refine ⟨⟨(withinBounds_next_iff h operation).mp hnext,
        (boundsNewKeysOnly_next_iff h operation).mp hkeys⟩, (ih hnext).mp ⟨?_, ?_⟩⟩
      · intro before hstart
        exact hstates (operation :: before) (List.cons_prefix_cons.mpr ⟨rfl, hstart⟩)
      · intro before call hstart
        exact hcalls (operation :: before) call (List.cons_prefix_cons.mpr ⟨rfl, hstart⟩)
    · intro ⟨⟨hexceeds, hblocks⟩, hrest⟩
      have hnext := (withinBounds_next_iff h operation).mpr hexceeds
      obtain ⟨hstates, hcalls⟩ := (ih hnext).mpr hrest
      constructor
      · intro before hstart
        cases before with
        | nil => exact h
        | cons first before =>
          obtain ⟨rfl, hbefore⟩ := List.cons_prefix_cons.mp hstart
          exact hstates before hbefore
      · intro before call hstart
        cases before with
        | nil =>
          obtain ⟨rfl, -⟩ := List.cons_prefix_cons.mp hstart
          exact (boundsNewKeysOnly_next_iff h call).mpr hblocks
        | cons first before =>
          obtain ⟨rfl, hbefore⟩ := List.cons_prefix_cons.mp hstart
          exact hcalls before call hbefore

/-- In every run, every collection stays within its bound and a bound turns away new keys only,
    exactly when no call records a fence beyond the number of publishers, moves a boot identity
    into a full federation, or publishes a newer generation into a full history. -/
theorem bounds_hold_iff (bounds : Bounds) (operations : List Operation) :
    ((∀ before, before <+: operations → ((Impl.new bounds).run before).WithinBounds) ∧
        ∀ before operation, before ++ [operation] <+: operations →
          operation.BoundsNewKeysOnly ((Impl.new bounds).run before)) ↔
      (Impl.new bounds).Along
        (fun s operation => ¬operation.ExceedsPublishers s ∧ ¬operation.BlocksUpdate s)
        operations :=
  bounds_along_iff (withinBounds_new bounds) operations

/-- One publisher is allowed, and a fence of another boot identity makes two; a history of one
    migration is full, and the migration's second generation is refused. -/
theorem bounds_not_held :
    (¬∀ (bounds : Bounds) (operations before : List Operation), before <+: operations →
      ((Impl.new bounds).run before).WithinBounds) ∧
    ¬∀ (bounds : Bounds) (operations before : List Operation) (operation : Operation),
      before ++ [operation] <+: operations →
        operation.BoundsNewKeysOnly ((Impl.new bounds).run before) := by
  constructor
  · intro h
    let operations := [Deployment.register 1, .fencePublisher ⟨.ofString "agent"⟩ ⟨2⟩ []]
    have hwithin := h { maxPublishers := 1 } operations operations List.prefix_rfl
    have htotal := hwithin.publishers.total
    revert htotal
    decide +kernel
  · intro h
    let first := Deployment.operations ++ Deployment.workloadOperations ++
      [Deployment.publish 8 (.publishMigration (Deployment.migration "m"))]
    let second : MigrationRecord := { Deployment.migration "m" with generation := ⟨2⟩ }
    have hkeys := h { maxMigrationHistory := 1 } _ first
      (Deployment.publish 9 (.publishMigration second)) List.prefix_rfl _ rfl (by decide +kernel)
    revert hkeys
    decide +kernel

end FederationObservatory
