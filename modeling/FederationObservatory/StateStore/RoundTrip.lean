import FederationObservatory.RecordsCodec.RoundTrip
import FederationObservatory.StateStore.Image

/-!
# Reading back a state image

What `decode_durable_state` makes of an image that `encode_durable_state` wrote. The header always
passes; the size of the whole image, the counts, what each decoder asks of its records, and
`DurableState::validate` decide.
-/

namespace FederationObservatory

open ByteCodec Sorting

/-! ## Records by kind -/

namespace RecordKind

/-- The kinds, in the order of a payload. -/
def all : List RecordKind :=
  [.federation, .site, .cluster, .acceleratorClass, .runtime, .backend, .domain, .policy,
   .artifact, .workloadClass, .workload, .placement, .migration, .portability]

theorem mem_all (k : RecordKind) : k ∈ all := by cases k <;> decide

/-- What the decoder of a kind accepts. -/
def Storable : (k : RecordKind) → k.Record → Prop
  | .federation => FederationRecord.Storable
  | .site => SiteRecord.Storable
  | .cluster => ClusterRecord.Storable
  | .acceleratorClass => AcceleratorClassRecord.Storable
  | .runtime => RuntimeRecord.Storable
  | .backend => BackendRecord.Storable
  | .domain => DomainRecord.Storable
  | .policy => PolicyRecord.Storable
  | .artifact => ArtifactRecord.Storable
  | .workloadClass => WorkloadClassRecord.Storable
  | .workload => WorkloadRecord.Storable
  | .placement => PlacementRecord.Storable
  | .migration => MigrationRecord.Storable
  | .portability => PortabilityAssessment.Storable

instance : (k : RecordKind) → (r : k.Record) → Decidable (k.Storable r)
  | .federation, r => inferInstanceAs (Decidable (FederationRecord.Storable r))
  | .site, r => inferInstanceAs (Decidable (SiteRecord.Storable r))
  | .cluster, r => inferInstanceAs (Decidable (ClusterRecord.Storable r))
  | .acceleratorClass, r => inferInstanceAs (Decidable (AcceleratorClassRecord.Storable r))
  | .runtime, r => inferInstanceAs (Decidable (RuntimeRecord.Storable r))
  | .backend, r => inferInstanceAs (Decidable (BackendRecord.Storable r))
  | .domain, r => inferInstanceAs (Decidable (DomainRecord.Storable r))
  | .policy, r => inferInstanceAs (Decidable (PolicyRecord.Storable r))
  | .artifact, r => inferInstanceAs (Decidable (ArtifactRecord.Storable r))
  | .workloadClass, r => inferInstanceAs (Decidable (WorkloadClassRecord.Storable r))
  | .workload, r => inferInstanceAs (Decidable (WorkloadRecord.Storable r))
  | .placement, r => inferInstanceAs (Decidable (PlacementRecord.Storable r))
  | .migration, r => inferInstanceAs (Decidable (MigrationRecord.Storable r))
  | .portability, r => inferInstanceAs (Decidable (PortabilityAssessment.Storable r))

/-- What the decoder of a kind makes of a record. -/
def readBack : (k : RecordKind) → k.Record → k.Record
  | .federation => FederationRecord.readBack
  | .site => SiteRecord.readBack
  | .cluster => ClusterRecord.readBack
  | .acceleratorClass => AcceleratorClassRecord.readBack
  | .runtime => RuntimeRecord.readBack
  | .backend => BackendRecord.readBack
  | .domain => DomainRecord.readBack
  | .policy => PolicyRecord.readBack
  | .artifact => ArtifactRecord.readBack
  | .workloadClass => WorkloadClassRecord.readBack
  | .workload => WorkloadRecord.readBack
  | .placement => PlacementRecord.readBack
  | .migration => MigrationRecord.readBack
  | .portability => PortabilityAssessment.readBack

theorem key_readBack (k : RecordKind) (r : k.Record) :
    StoredRecord.key (k.readBack r) = StoredRecord.key r := by
  cases k <;> rfl

theorem currentness_readBack (k : RecordKind) (r : k.Record) :
    StoredRecord.currentness (k.readBack r) = StoredRecord.currentness r := by
  cases k <;> rfl

/-- A decoder ends with the record's own check. -/
theorem Storable.validate {k : RecordKind} {r : k.Record} (h : k.Storable r) :
    StoredRecord.validate (k.readBack r) = .ok () := by
  cases k with
  | federation =>
    obtain ⟨-, -, -, -, -, -, -, -, -, hvalidate⟩ := h
    exact hvalidate
  | site =>
    obtain ⟨-, -, -, -, -, -, hvalidate⟩ := h
    exact hvalidate
  | cluster =>
    obtain ⟨-, -, -, -, -, -, -, -, -, -, -, hvalidate⟩ := h
    exact hvalidate
  | acceleratorClass =>
    obtain ⟨-, -, -, -, hvalidate⟩ := h
    exact hvalidate
  | runtime =>
    obtain ⟨-, -, -, -, -, hvalidate⟩ := h
    exact hvalidate
  | backend =>
    obtain ⟨-, -, -, -, -, hvalidate⟩ := h
    exact hvalidate
  | domain =>
    obtain ⟨-, -, -, -, -, -, hvalidate⟩ := h
    exact hvalidate
  | policy =>
    obtain ⟨-, -, -, -, -, -, -, -, hvalidate⟩ := h
    exact hvalidate
  | artifact =>
    obtain ⟨-, -, -, -, -, hvalidate⟩ := h
    exact hvalidate
  | workloadClass =>
    obtain ⟨-, -, -, hvalidate⟩ := h
    exact hvalidate
  | workload =>
    obtain ⟨-, -, -, -, -, -, -, -, -, hvalidate⟩ := h
    exact hvalidate
  | placement =>
    obtain ⟨-, -, -, -, -, -, -, -, -, hvalidate⟩ := h
    exact hvalidate
  | migration =>
    obtain ⟨-, -, -, -, -, -, -, -, -, -, -, -, -, hvalidate⟩ := h
    exact hvalidate
  | portability =>
    obtain ⟨-, -, -, -, -, -, -, -, -, -, -, hvalidate⟩ := h
    exact hvalidate

end RecordKind

/-! ## Payload -/

instance (value : PublisherWatermark) :
    Readable (encodeWatermark value) decodeWatermark value.publisher.Storable value := by
  refine ⟨?_⟩
  unfold encodeWatermark decodeWatermark
  apply Reads.congr
  · apply Reads.field (Decoder.reads_str _)
    apply Reads.failIf
    repeat apply Reads.field Readable.reads
    exact Reads.pure _
  · simp [StrongId.Storable]

instance {E : Type} [WireEnum E] (e : E) (message : String) :
    Readable (encEnum e) (decFindingEnum E message) True e := by
  refine ⟨?_⟩
  rw [← List.append_nil (encEnum e)]
  refine ((Decoder.reads_u8 (WireEnum.code e)).bind (Q := True) ?_).congr (by simp)
  simp only [WireEnum.getElem?_code]
  exact Reads.pure e

instance (finding : AggregateFindingRecord) :
    Readable (encodeFinding finding) decodeFinding True finding := by
  refine ⟨?_⟩
  unfold encodeFinding decodeFinding
  apply Reads.congr
  · repeat apply Reads.field Readable.reads
    exact Reads.pure _
  · simp

/-- One collection. -/
instance {α : Type} (enc : α → Writer) (dec : Reader α) (limit : Nat) (what : String)
    (values : List α) (P : α → Prop) (g : α → α) [hne : ∀ x, NonemptyImage (enc x)]
    [hdec : ∀ x, Readable (enc x) dec (P x) (g x)] :
    Readable (encCounted enc values) (readRecords limit what dec)
      ((values.length ≤ limit ∧ values.length < 2 ^ 32) ∧ ∀ x ∈ values, P x) (values.map g) := by
  refine ⟨?_⟩
  rw [readRecords_eq]
  exact reads_fittingLoop limit _ (fun x => (hne x).nonempty)
    (Reads.loop_append (fun x => (hdec x).reads) values [])

namespace DurableState

/-- What the loader asks of what it reads, apart from `DurableState::validate`. -/
structure Storable (d : DurableState) : Prop where
  records : ∀ k, ∀ r ∈ d.collection k, k.Storable r
  watermarks : ∀ w ∈ d.publisherWatermarks, w.publisher.Storable

instance (d : DurableState) : Decidable d.Storable :=
  decidable_of_iff
    ((∀ k ∈ RecordKind.all, ∀ r ∈ d.collection k, k.Storable r) ∧
      ∀ w ∈ d.publisherWatermarks, w.publisher.Storable)
    ⟨fun h => ⟨fun k => h.1 k k.mem_all, h.2⟩, fun h => ⟨fun k _ => h.records k, h.watermarks⟩⟩

/-- What the loader makes of a payload. -/
def readBack (d : DurableState) : DurableState :=
  { d with
    formatVersion := stateFormatVersion
    federations := d.federations.map FederationRecord.readBack
    sites := d.sites.map SiteRecord.readBack
    clusters := d.clusters.map ClusterRecord.readBack
    acceleratorClasses := d.acceleratorClasses.map AcceleratorClassRecord.readBack
    runtimes := d.runtimes.map RuntimeRecord.readBack
    backends := d.backends.map BackendRecord.readBack
    domains := d.domains.map DomainRecord.readBack
    policies := d.policies.map PolicyRecord.readBack
    artifacts := d.artifacts.map ArtifactRecord.readBack
    workloadClasses := d.workloadClasses.map WorkloadClassRecord.readBack
    workloads := d.workloads.map WorkloadRecord.readBack
    placements := d.placements.map PlacementRecord.readBack
    migrations := d.migrations.map MigrationRecord.readBack
    portability := d.portability.map PortabilityAssessment.readBack }

theorem collection_readBack (d : DurableState) (k : RecordKind) :
    d.readBack.collection k = (d.collection k).map k.readBack := by
  cases k <;> rfl

end DurableState

theorem reads_payload (d : DurableState) (bounds : Bounds) :
    Reads (encodePayload d) (decodePayload bounds)
      ((∀ count ∈ d.counts bounds, count.1 ≤ count.2.1 ∧ count.1 < 2 ^ 32) ∧ d.Storable)
      d.readBack := by
  unfold encodePayload decodePayload
  apply Reads.congr
  · apply Reads.of_eq
    · apply Reads.field Readable.reads
      apply Reads.failIf
      repeat apply Reads.field Readable.reads
      exact Reads.pure _
    · intro _
      simp only [List.map_id']
      rfl
  · constructor
    · intro ⟨_, _, _, _, _, hfederations, hsites, hclusters, haccelerators, hruntimes, hbackends,
        hdomains, hpolicies, hartifacts, hclasses, hworkloads, hplacements, hmigrations,
        hportability, hwatermarks, hfindings, _⟩
      refine ⟨?_, ?_, hwatermarks.2⟩
      · simp only [DurableState.counts, List.forall_mem_cons]
        exact ⟨hfederations.1, hsites.1, hclusters.1, haccelerators.1, hruntimes.1, hbackends.1,
          hdomains.1, hpolicies.1, hartifacts.1, hclasses.1, hworkloads.1, hplacements.1,
          hmigrations.1, hportability.1, hwatermarks.1, hfindings.1, by simp⟩
      · intro k
        cases k with
        | federation => exact hfederations.2
        | site => exact hsites.2
        | cluster => exact hclusters.2
        | acceleratorClass => exact haccelerators.2
        | runtime => exact hruntimes.2
        | backend => exact hbackends.2
        | domain => exact hdomains.2
        | policy => exact hpolicies.2
        | artifact => exact hartifacts.2
        | workloadClass => exact hclasses.2
        | workload => exact hworkloads.2
        | placement => exact hplacements.2
        | migration => exact hmigrations.2
        | portability => exact hportability.2
    · intro ⟨hcounts, hrecords, hwatermarks⟩
      simp only [DurableState.counts, List.forall_mem_cons] at hcounts
      obtain ⟨hfederations, hsites, hclusters, haccelerators, hruntimes, hbackends, hdomains,
        hpolicies, hartifacts, hclasses, hworkloads, hplacements, hmigrations, hportability,
        hpublishers, hfindings, -⟩ := hcounts
      exact ⟨trivial, by simp, trivial, trivial, trivial, ⟨hfederations, hrecords .federation⟩,
        ⟨hsites, hrecords .site⟩, ⟨hclusters, hrecords .cluster⟩,
        ⟨haccelerators, hrecords .acceleratorClass⟩, ⟨hruntimes, hrecords .runtime⟩,
        ⟨hbackends, hrecords .backend⟩, ⟨hdomains, hrecords .domain⟩,
        ⟨hpolicies, hrecords .policy⟩, ⟨hartifacts, hrecords .artifact⟩,
        ⟨hclasses, hrecords .workloadClass⟩, ⟨hworkloads, hrecords .workload⟩,
        ⟨hplacements, hrecords .placement⟩, ⟨hmigrations, hrecords .migration⟩,
        ⟨hportability, hrecords .portability⟩, ⟨hpublishers, hwatermarks⟩,
        ⟨hfindings, fun _ _ => trivial⟩, trivial⟩

/-! ## Header -/

theorem length_stateMagic : stateMagic.length = 8 := by decide

section Header

variable (d : DurableState) (body : Bytes)

theorem take_magic : (encodeHeader d body ++ body).take 8 = stateMagic := by
  simp only [encodeHeader, List.append_assoc]
  exact List.take_left' length_stateMagic

theorem readWord_version :
    readWord 4 (encodeHeader d body ++ body) 8 = stateFormatVersion.toNat := by
  simp only [encodeHeader, List.append_assoc]
  rw [readWord_skip (i := 0) length_stateMagic, readWord_front (by decide)]

theorem readWord_flags : readWord 4 (encodeHeader d body ++ body) 12 = stateFlagsNone.toNat := by
  simp only [encodeHeader, List.append_assoc]
  rw [readWord_skip (i := 4) length_stateMagic,
    readWord_skip (i := 0) (length_leBytes 4 _), readWord_front (by decide)]

theorem readWord_length (hbody : body.length < 2 ^ 32) :
    readWord 8 (encodeHeader d body ++ body) 16 = body.length := by
  simp only [encodeHeader, List.append_assoc]
  rw [readWord_skip (i := 8) length_stateMagic,
    readWord_skip (i := 4) (length_leBytes 4 _),
    readWord_skip (i := 0) (length_leBytes 4 _), readWord_front (by omega)]

theorem readWord_checksum :
    readWord 4 (encodeHeader d body ++ body) 24 = (crc32 body).toNat := by
  simp only [encodeHeader, List.append_assoc]
  rw [readWord_skip (i := 16) length_stateMagic,
    readWord_skip (i := 12) (length_leBytes 4 _),
    readWord_skip (i := 8) (length_leBytes 4 _),
    readWord_skip (i := 0) (length_leBytes 8 _), readWord_front (crc32 body).toNat_lt]

theorem readWord_reserved : readWord 4 (encodeHeader d body ++ body) 28 = 0 := by
  simp only [encodeHeader, List.append_assoc]
  rw [readWord_skip (i := 20) length_stateMagic,
    readWord_skip (i := 16) (length_leBytes 4 _),
    readWord_skip (i := 12) (length_leBytes 4 _),
    readWord_skip (i := 4) (length_leBytes 8 _),
    readWord_skip (i := 0) (length_leBytes 4 _), readWord_front (by decide)]

end Header

/-- The collections of an image below 4 GiB have fewer than 2^32 elements. -/
theorem counts_lt_of_image {d : DurableState} (bounds : Bounds) {body : Bytes}
    (hbody : (encodePayload d).image = .ok body) (hlength : body.length < 2 ^ 32) :
    ∀ count ∈ d.counts bounds, count.1 < 2 ^ 32 := by
  have hfew : ∀ {α : Type} (enc : α → Writer) (values : List α) [∀ x, NonemptyImage (enc x)]
      (ps : List Writer), (Put.seq ps).image = .ok body → encCounted enc values ∈ ps →
      values.length < 2 ^ 32 := by
    intro α enc values hne ps himage hmem
    obtain ⟨before, after, rfl⟩ := List.append_of_mem hmem
    rw [Put.seq, List.flatten_append, List.flatten_cons] at himage
    obtain ⟨bbefore, brest, -, hrest, rfl⟩ := Put.image_append_eq_ok.mp himage
    obtain ⟨bvalues, bafter, hvalues, -, rfl⟩ := Put.image_append_eq_ok.mp hrest
    obtain ⟨bcount, bxs, -, hxs, rfl⟩ := Put.image_append_eq_ok.mp hvalues
    have hle := Put.length_le_of_flatMap values (fun x _ => (hne x).nonempty) hxs
    simp only [List.length_append] at hlength
    omega
  simp only [DurableState.counts, List.forall_mem_cons]
  unfold encodePayload at hbody
  exact ⟨hfew encodeFederation _ _ hbody (by simp), hfew encodeSite _ _ hbody (by simp),
    hfew encodeCluster _ _ hbody (by simp), hfew encodeAcceleratorClass _ _ hbody (by simp),
    hfew encodeRuntime _ _ hbody (by simp), hfew encodeBackend _ _ hbody (by simp),
    hfew encodeDomain _ _ hbody (by simp), hfew encodePolicy _ _ hbody (by simp),
    hfew encodeArtifact _ _ hbody (by simp), hfew encodeWorkloadClass _ _ hbody (by simp),
    hfew encodeWorkload _ _ hbody (by simp), hfew encodePlacement _ _ hbody (by simp),
    hfew encodeMigration _ _ hbody (by simp), hfew encodePortability _ _ hbody (by simp),
    hfew encodeWatermark _ _ hbody (by simp), hfew encodeFinding _ _ hbody (by simp), by simp⟩

/-- The loader on an image of the writer. -/
theorem decodeDurableState_image {d d' : DurableState} {bounds : Bounds} {body : Bytes}
    (hbody : (encodePayload d).image = .ok body) (hlength : body.length < 2 ^ 32) :
    decodeDurableState (encodeHeader d body ++ body) bounds = .ok d' ↔
      stateHeaderSize + body.length ≤ bounds.maxPersistenceBytes ∧
      (∀ count ∈ d.counts bounds, count.1 ≤ count.2.1) ∧ d.Storable ∧
      d.readBack.validate bounds = .ok () ∧ d' = d.readBack := by
  have htotal : (encodeHeader d body ++ body).length = stateHeaderSize + body.length := by
    rw [List.length_append, length_encodeHeader]
  have hdrop : (encodeHeader d body ++ body).drop stateHeaderSize = body := by
    rw [← length_encodeHeader d body, List.drop_left]
  have hpayload := reads_payload d bounds body hbody []
  rw [List.append_nil] at hpayload
  obtain ⟨hreads, honly⟩ := hpayload
  unfold decodeDurableState
  simp only [bind_eq_ok, failIf_eq_ok, htotal, hdrop, take_magic, readWord_version,
    readWord_flags, readWord_length d body hlength, readWord_checksum, readWord_reserved]
  have hnonempty : (encodeHeader d body ++ body).isEmpty = false := by
    rw [List.isEmpty_eq_false_iff, ← List.length_pos_iff_ne_nil, htotal]
    exact Nat.add_pos_left (by decide) _
  have hpayloadLength : stateHeaderSize + body.length - stateHeaderSize = body.length := by omega
  have hstart : stateHeaderSize + body.length ≤ bounds.maxPersistenceBytes →
      Decoder.start body bounds.maxPersistenceBytes = ⟨body, false⟩ := by
    intro hfits
    have htake : body.take bounds.maxPersistenceBytes = body := List.take_of_length_le (by omega)
    have hsize : ¬bounds.maxPersistenceBytes < body.length := by omega
    simp [Decoder.start, htake, hsize]
  simp only [hnonempty, hpayloadLength, bne_self_eq_false, decide_eq_false_iff_not, Nat.not_lt,
    Nat.le_add_right, true_and, exists_const]
  constructor
  · rintro ⟨hfits, ⟨state, cursor⟩, hrun, -, u, hvalid, hstate⟩
    rw [hstart hfits] at hrun
    have hstored := honly hlength state cursor hrun
    rw [hreads hstored] at hrun
    obtain ⟨rfl, rfl⟩ := Prod.mk.injEq .. |>.mp (Except.ok.inj hrun)
    exact ⟨hfits, fun count hcount => (hstored.1 count hcount).1, hstored.2, hvalid,
      (Except.ok.inj hstate).symm⟩
  · rintro ⟨hfits, hcounts, hstorable, hvalid, hstate⟩
    refine ⟨hfits, (d.readBack, ⟨[], false⟩), ?_, rfl, (), hvalid, ?_⟩
    · rw [hstart hfits]
      have hfew := counts_lt_of_image bounds hbody hlength
      exact hreads ⟨fun count hcount => ⟨hcounts count hcount, hfew count hcount⟩, hstorable⟩
    · rw [hstate]
      rfl

/-! ## Writing again what was read back -/

namespace DurableState

theorem demote_readBack {k : RecordKind} (r : k.Record) :
    demote (k.readBack r) = k.readBack (demote r) := by
  have hset : StoredRecord.withCurrentness .stale (k.readBack r) =
      k.readBack (StoredRecord.withCurrentness .stale r) := by
    cases k <;> rfl
  simp only [demote, RecordKind.currentness_readBack, hset]
  split <;> rfl

/-- The state that is written. -/
def written (d : DurableState) : DurableState := d.normalizeForPersistence.sorted

theorem normalizeForPersistence_readBack (d : DurableState) :
    d.readBack.normalizeForPersistence = d.normalizeForPersistence.readBack := by
  have hcluster : ∀ r : ClusterRecord,
      normalizeCluster r.readBack = (normalizeCluster r).readBack := fun _ => rfl
  have hdemote : ∀ k : RecordKind, ∀ records : List k.Record,
      (records.map k.readBack).map demote = (records.map demote).map k.readBack := by
    intro k records
    simp only [List.map_map, Function.comp_def, demote_readBack]
  simp only [normalizeForPersistence, readBack, DurableState.mk.injEq, true_and, and_true]
  refine ⟨hdemote .federation _, hdemote .site _, ?_, hdemote .placement _, hdemote .migration _,
    hdemote .portability _⟩
  simp only [List.map_map, Function.comp_def, hcluster]

theorem linear_time : Linear fun a b : TimestampNanos => decide (a < b) := by
  refine ⟨⟨?_, ?_⟩, ?_⟩
  · intro a b c
    simp only [decide_eq_false_iff_not, Int64.lt_iff_toInt_lt]
    omega
  · intro a b
    simp only [decide_eq_false_iff_not, Int64.lt_iff_toInt_lt]
    omega
  · intro a b
    simp only [decide_eq_false_iff_not, Int64.lt_iff_toInt_lt, ← Int64.toInt_inj]
    omega

theorem weak_historyLt {tag : IdTag} :
    Weak (historyLt : TimestampNanos × StrongId tag → TimestampNanos × StrongId tag → Bool) :=
  Weak.lex linear_time (weak_less.comap Prod.snd)

theorem linear_historyLt {tag : IdTag} :
    Linear (historyLt : TimestampNanos × StrongId tag → TimestampNanos × StrongId tag → Bool) := by
  refine ⟨weak_historyLt, ?_⟩
  intro a b hab hba
  unfold historyLt at hab hba
  by_cases htime : a.1 = b.1
  · rw [if_neg (not_not.mpr htime)] at hab
    rw [if_neg (not_not.mpr htime.symm)] at hba
    exact Prod.ext htime (linear_less.antisymm _ _ hab hba)
  · rw [if_pos htime] at hab
    rw [if_pos fun h => htime h.symm] at hba
    exact absurd (linear_time.antisymm _ _ hab hba) htime

theorem PublisherWatermark.weak_lt : Weak PublisherWatermark.lt :=
  Weak.lex linear_less (weak_less.comap PublisherWatermark.boot)

theorem AggregateFindingRecord.weak_lt : Weak AggregateFindingRecord.lt :=
  Weak.lex linear_less (Weak.lex linear_less (weak_less.comap AggregateFindingRecord.digest))

theorem sorted_readBack (d : DurableState) : d.readBack.sorted = d.sorted.readBack := by
  simp only [sorted, readBack, DurableState.mk.injEq, true_and, and_true]
  refine ⟨stableSort_map _ _ _ ?_ _, stableSort_map _ _ _ ?_ _⟩
  · intro a b
    rfl
  · intro a b
    rfl

theorem normalizeForPersistence_sorted (d : DurableState) :
    d.sorted.normalizeForPersistence = d.normalizeForPersistence.sorted := by
  simp only [sorted, normalizeForPersistence, DurableState.mk.injEq, true_and, and_true]
  refine ⟨(stableSort_map _ _ _ ?_ _).symm, (stableSort_map _ _ _ ?_ _).symm⟩
  · intro a b
    have hstamp : ∀ r : PlacementRecord, (demote r).stamp = r.stamp := stamp_demote
    have hid : ∀ r : PlacementRecord, (demote r).id = r.id := key_demote
    rw [hstamp, hstamp, hid, hid]
  · intro a b
    have hstamp : ∀ r : MigrationRecord, (demote r).stamp = r.stamp := stamp_demote
    have hid : ∀ r : MigrationRecord, (demote r).id = r.id := key_demote
    rw [hstamp, hstamp, hid, hid]

theorem sorted_sorted (d : DurableState) : d.sorted.sorted = d.sorted := by
  simp only [sorted, (weak_historyLt.comap _).idem, PublisherWatermark.weak_lt.idem,
    AggregateFindingRecord.weak_lt.idem]

theorem written_written (d : DurableState) : d.written.written = d.written := by
  rw [written, written, normalizeForPersistence_sorted, normalizeForPersistence_idem,
    sorted_sorted]

/-- What was read back is written as it stands. -/
theorem written_readBack (d : DurableState) : d.readBack.written = d.written.readBack := by
  rw [written, normalizeForPersistence_readBack, sorted_readBack]
  rfl

theorem normalizeForPersistence_written (d : DurableState) :
    d.normalizeForPersistence.written = d.written := by
  rw [written, normalizeForPersistence_idem]
  rfl

/-- The payload and its header do not see the difference. -/
theorem encodePayload_readBack (d : DurableState) : encodePayload d.readBack = encodePayload d := by
  simp only [encodePayload, readBack, encCounted_map encodeFederation_readBack,
    encCounted_map encodeSite_readBack, encCounted_map encodeCluster_readBack,
    encCounted_map encodeAcceleratorClass_readBack, encCounted_map encodeRuntime_readBack,
    encCounted_map encodeBackend_readBack, encCounted_map encodeDomain_readBack,
    encCounted_map encodePolicy_readBack, encCounted_map encodeArtifact_readBack,
    encCounted_map encodeWorkloadClass_readBack, encCounted_map encodeWorkload_readBack,
    encCounted_map encodePlacement_readBack, encCounted_map encodeMigration_readBack,
    encCounted_map encodePortability_readBack]

end DurableState

/-- `encode_durable_state` fails if the payload cannot be written or is too long. -/
theorem encodeDurableState_eq_ok {d : DurableState} {bounds : Bounds} {image : Bytes} :
    encodeDurableState d bounds = .ok image ↔
      ∃ body, (encodePayload d.written).image = .ok body ∧
        body.length ≤ bounds.maxPersistenceBytes ∧
        image = encodeHeader d.written body ++ body := by
  unfold encodeDurableState
  simp only [← DurableState.written.eq_1]
  cases hbody : (encodePayload d.written).image with
  | error e => simp
  | ok body =>
    by_cases hfits : body.length ≤ bounds.maxPersistenceBytes
    · simp [hfits, Nat.not_lt.mpr hfits, eq_comm]
    · simp [hfits, Nat.lt_of_not_le hfits, fail]

/-- Writing again what was read back gives the same bytes. -/
theorem encodeDurableState_readBack (d : DurableState) (bounds : Bounds) :
    encodeDurableState d.written.readBack bounds = encodeDurableState d bounds := by
  have hwritten : d.written.readBack.written = d.written.readBack := by
    rw [DurableState.written_readBack, DurableState.written_written]
  unfold encodeDurableState
  simp only [← DurableState.written.eq_1, hwritten, DurableState.encodePayload_readBack]
  rfl

end FederationObservatory
