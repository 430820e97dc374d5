import FederationObservatory.Observatory.Proofs.Publishers
import FederationObservatory.Observatory.Proofs.Validation
import FederationObservatory.StateStore.RoundTrip

/-!
# Loading what was saved

`save_state` checks the durable state and the size of its payload; `load_state` checks the size of
the file, which is larger by the header, and each decoder asks things of its records that nobody
asked before the file was written. A saved file loads exactly when it passes these checks too, and
then it is written again byte for byte.
-/

namespace FederationObservatory

open ByteCodec Sorting StoredRecord

namespace DurableState

variable {d : DurableState} {bounds : Bounds}

/-! ## Validation of what was read back -/

theorem perm_collection_sorted (d : DurableState) (k : RecordKind) :
    (d.sorted.collection k).Perm (d.collection k) := by
  cases k with
  | placement => exact perm_stableSort _ _
  | migration => exact perm_stableSort _ _
  | _ => exact List.Perm.refl _

theorem counts_sorted (d : DurableState) (bounds : Bounds) :
    d.sorted.counts bounds = d.counts bounds := by
  simp only [counts, sorted, length_stableSort]

theorem counts_readBack (d : DurableState) (bounds : Bounds) :
    d.readBack.counts bounds = d.counts bounds := by
  simp only [counts, readBack, List.length_map]

/-- A record that was read back comes from one that was there. -/
theorem mem_readBack_sorted {k : RecordKind} {r : k.Record}
    (h : r ∈ d.sorted.readBack.collection k) :
    ∃ r' ∈ d.collection k, k.readBack r' = r := by
  rw [collection_readBack] at h
  obtain ⟨r', hr', rfl⟩ := List.mem_map.mp h
  exact ⟨r', (d.perm_collection_sorted k).mem_iff.mp hr', rfl⟩

theorem keys_readBack_sorted (d : DurableState) (k : RecordKind) :
    ((d.sorted.readBack.collection k).map key).Perm ((d.collection k).map key) := by
  rw [collection_readBack, List.map_map]
  have hkey : (key ∘ k.readBack : k.Record → k.Key) = key := funext k.key_readBack
  rw [hkey]
  exact (d.perm_collection_sorted k).map key

theorem names_readBack_sorted {k : RecordKind} {id : k.Key} :
    d.sorted.readBack.Names k id ↔ d.Names k id := by
  have h := (d.keys_readBack_sorted k).mem_iff (a := id)
  simpa only [Names, List.mem_map] using h

/-- What `durable_state_is_normalized` says of a record other than a cluster. -/
theorem recordIsNormalized_readBack_sorted {k : RecordKind} {what : String} {id : k.Record → Text}
    (h : ∀ r ∈ d.collection k, recordIsNormalized what id r = .ok ()) :
    ∀ r ∈ d.sorted.readBack.collection k, recordIsNormalized what id r = .ok () := by
  have hcurrent : ∀ r : k.Record, recordIsNormalized what id r = .ok () ↔
      StoredRecord.currentness r ≠ .current := by
    intro r
    unfold recordIsNormalized
    split
    · simp [carriesDynamicEvidence, *]
    · simp [*]
  intro r hr
  obtain ⟨r', hr', rfl⟩ := mem_readBack_sorted hr
  rw [hcurrent, k.currentness_readBack]
  exact (hcurrent r').mp (h r' hr')

theorem clusterIsNormalized_readBack {r : ClusterRecord} (h : clusterIsNormalized r = .ok ()) :
    clusterIsNormalized r.readBack = .ok () := by
  have hpools : r.readBack.capacityPools.isEmpty = r.capacityPools.isEmpty := by
    have hlength : r.readBack.capacityPools.length = r.capacityPools.length := by
      rw [ClusterRecord.readBack, List.length_map, length_stableSort]
    rw [Bool.eq_iff_iff, List.isEmpty_iff_length_eq_zero, List.isEmpty_iff_length_eq_zero, hlength]
  unfold clusterIsNormalized at h ⊢
  rw [hpools]
  exact h

theorem isNormalized_readBack_sorted (h : d.isNormalized = .ok ()) :
    d.sorted.readBack.isNormalized = .ok () := by
  simp only [isNormalized, bind_eq_ok, forM_eq_ok, exists_const] at h ⊢
  obtain ⟨hclusters, hfederations, hsites, hplacements, hmigrations, hportability⟩ := h
  refine ⟨?_, recordIsNormalized_readBack_sorted (k := .federation) hfederations,
    recordIsNormalized_readBack_sorted (k := .site) hsites,
    recordIsNormalized_readBack_sorted (k := .placement) hplacements,
    recordIsNormalized_readBack_sorted (k := .migration) hmigrations,
    recordIsNormalized_readBack_sorted (k := .portability) hportability⟩
  intro r hr
  obtain ⟨r', hr', rfl⟩ := mem_readBack_sorted (k := .cluster) hr
  exact clusterIsNormalized_readBack (hclusters r' hr')

/-- A valid state is valid when it was read back, if its records were. -/
theorem Valid.readBack_sorted (h : d.Valid bounds) (hstorable : d.sorted.Storable) :
    d.sorted.readBack.Valid bounds := by
  have hvalidate : ∀ k, ∀ r ∈ d.sorted.readBack.collection k,
      StoredRecord.validate r = .ok () := by
    intro k r hr
    rw [collection_readBack] at hr
    obtain ⟨r', hr', rfl⟩ := List.mem_map.mp hr
    exact (hstorable.records k r' hr').validate
  refine
    { formatVersion := rfl
      counts := ?_
      unique := ?_
      uniqueWatermarks := ?_
      federations := hvalidate .federation
      sites := ?_
      clusters := ?_
      clusterReferences := ?_
      workloads := ?_
      placements := ?_
      migrations := ?_
      portability := ?_
      normalized := isNormalized_readBack_sorted h.normalized }
  · rw [counts_readBack, counts_sorted]
    exact h.counts
  · intro k hk
    exact (d.keys_readBack_sorted k).nodup_iff.mpr (h.unique k hk)
  · have hperm : (stableSort PublisherWatermark.lt d.publisherWatermarks).Perm
        d.publisherWatermarks := perm_stableSort _ _
    exact (hperm.map PublisherWatermark.key).nodup_iff.mpr h.uniqueWatermarks
  · intro r hr
    obtain ⟨r', hr', rfl⟩ := mem_readBack_sorted (k := .site) hr
    exact ⟨hvalidate .site _ hr, names_readBack_sorted.mpr (h.sites r' hr').2⟩
  · intro r hr
    obtain ⟨r', hr', rfl⟩ := mem_readBack_sorted (k := .cluster) hr
    obtain ⟨-, hfederation, hsite⟩ := h.clusters r' hr'
    exact ⟨hvalidate .cluster _ hr, names_readBack_sorted.mpr hfederation,
      names_readBack_sorted.mpr hsite⟩
  · intro r hr
    obtain ⟨r', hr', rfl⟩ := mem_readBack_sorted (k := .cluster) hr
    obtain ⟨haccelerators, hruntimes⟩ := h.clusterReferences r' hr'
    refine ⟨fun id hid => ?_, fun id hid => ?_⟩
    · exact names_readBack_sorted.mpr
        (haccelerators id ((perm_stableSort less r'.acceleratorClasses).mem_iff.mp hid))
    · exact names_readBack_sorted.mpr
        (hruntimes id ((perm_stableSort less r'.runtimes).mem_iff.mp hid))
  · intro r hr
    obtain ⟨r', hr', rfl⟩ := mem_readBack_sorted (k := .workload) hr
    obtain ⟨-, hclass, hartifact, hpolicy⟩ := h.workloads r' hr'
    exact ⟨hvalidate .workload _ hr, names_readBack_sorted.mpr hclass,
      fun hset => names_readBack_sorted.mpr (hartifact hset),
      fun hset => names_readBack_sorted.mpr (hpolicy hset)⟩
  · intro r hr
    obtain ⟨r', hr', rfl⟩ := mem_readBack_sorted (k := .placement) hr
    obtain ⟨-, hworkload, hselected, hcandidates⟩ := h.placements r' hr'
    refine ⟨hvalidate .placement _ hr, names_readBack_sorted.mpr hworkload,
      names_readBack_sorted.mpr hselected, ?_⟩
    intro candidate hcandidate
    obtain ⟨c, hc, rfl⟩ := List.mem_map.mp hcandidate
    exact names_readBack_sorted.mpr (hcandidates c ((perm_stableSort _ _).mem_iff.mp hc))
  · intro r hr
    obtain ⟨r', hr', rfl⟩ := mem_readBack_sorted (k := .migration) hr
    obtain ⟨-, hworkload, hsource, hdestination⟩ := h.migrations r' hr'
    exact ⟨hvalidate .migration _ hr, names_readBack_sorted.mpr hworkload,
      names_readBack_sorted.mpr hsource, names_readBack_sorted.mpr hdestination⟩
  · intro r hr
    obtain ⟨r', hr', rfl⟩ := mem_readBack_sorted (k := .portability) hr
    exact ⟨hvalidate .portability _ hr, names_readBack_sorted.mpr (h.portability r' hr').2⟩

end DurableState

/-! ## Files -/

section Files

variable {d d' : DurableState} {bounds : Bounds} {image : Bytes}

theorem saveDurableState_eq_ok :
    saveDurableState d bounds = .ok image ↔
      d.normalizeForPersistence.Valid bounds ∧
        ∃ body, (encodePayload d.written).image = .ok body ∧
          body.length ≤ bounds.maxPersistenceBytes ∧
          image = encodeHeader d.written body ++ body := by
  unfold saveDurableState
  simp only [bind_eq_ok, encodeDurableState_eq_ok, DurableState.normalizeForPersistence_written,
    ← DurableState.validate_eq_ok]
  exact ⟨fun ⟨_, h⟩ => h, fun h => ⟨(), h⟩⟩

/-- A file is saved where the state validates, nothing of it fails to be encoded, and the body is
    within the bound. The bytes themselves do not matter. -/
theorem exists_saved (d : DurableState) (bounds : Bounds)
    (hvalid : (d.normalizeForPersistence.validate bounds).toOption.isSome = true)
    (hclean : (encodePayload d.written).clean = true)
    (hsize : (encodePayload d.written).size ≤ bounds.maxPersistenceBytes) :
    ∃ image, saveDurableState d bounds = .ok image ∧
      image.length = stateHeaderSize + (encodePayload d.written).size := by
  obtain ⟨u, hu⟩ := eq_ok_of_isSome hvalid
  obtain ⟨body, hbody⟩ := Put.succeeds_of_clean hclean
  have hlength := Put.length_image hbody
  refine ⟨encodeHeader d.written body ++ body, saveDurableState_eq_ok.mpr
    ⟨DurableState.validate_eq_ok.mp hu, body, hbody, hlength.trans_le hsize, rfl⟩, ?_⟩
  rw [List.length_append, length_encodeHeader, hlength]

/-- An accepted body is below the persistence limit, and so describable by 32-bit counts. -/
theorem length_lt_of_saved {body : Bytes} (hbounds : bounds.validate = .ok ())
    (hsize : body.length ≤ bounds.maxPersistenceBytes) : body.length < 2 ^ 32 := by
  have hmax := Bounds.maxPersistenceBytes_le hbounds
  have : FederationObservatory.maxPersistenceBytes < 2 ^ 32 := by decide
  omega

/-- What loading a saved file gives, and when. -/
theorem load_of_save (hbounds : bounds.validate = .ok ())
    (hsave : saveDurableState d bounds = .ok image) :
    loadDurableState (some image) bounds = .ok d' ↔
      stateHeaderSize + (encodePayload d.written).size ≤ bounds.maxPersistenceBytes ∧
        d.written.Storable ∧ d' = d.written.readBack := by
  obtain ⟨hvalid, body, hbody, hsize, rfl⟩ := saveDurableState_eq_ok.mp hsave
  have hlength := length_lt_of_saved hbounds hsize
  have htotal : (encodeHeader d.written body ++ body).length = stateHeaderSize + body.length := by
    rw [List.length_append, length_encodeHeader]
  rw [loadDurableState_eq_ok, decodeDurableState_image hbody hlength, htotal,
    ← Put.length_image hbody, DurableState.validate_eq_ok]
  constructor
  · intro ⟨hfits, _, _, hstorable, _, heq⟩
    exact ⟨hfits, hstorable, heq⟩
  · intro ⟨hfits, hstorable, heq⟩
    refine ⟨hfits, hfits, ?_, hstorable, hvalid.readBack_sorted hstorable, heq⟩
    rw [DurableState.written, DurableState.counts_sorted]
    exact hvalid.counts

/-- What is loaded of a saved file does not depend on the bounds of the observatory that loads. -/
theorem eq_of_load (hbounds : bounds.validate = .ok ())
    (hsave : saveDurableState d bounds = .ok image) {bounds' : Bounds}
    (hload : loadDurableState (some image) bounds' = .ok d') : d' = d.written.readBack := by
  obtain ⟨-, body, hbody, hsize, rfl⟩ := saveDurableState_eq_ok.mp hsave
  obtain ⟨-, hdecode⟩ := loadDurableState_eq_ok.mp hload
  obtain ⟨-, -, -, -, heq⟩ :=
    (decodeDurableState_image hbody (length_lt_of_saved hbounds hsize)).mp hdecode
  exact heq

/-- What was loaded is written again byte for byte. -/
theorem encodeDurableState_of_load (hbounds : bounds.validate = .ok ())
    (hsave : saveDurableState d bounds = .ok image)
    (hload : loadDurableState (some image) bounds = .ok d') :
    encodeDurableState d' bounds = .ok image := by
  obtain ⟨-, -, rfl⟩ := (load_of_save hbounds hsave).mp hload
  obtain ⟨-, hencode⟩ := saveDurableState_eq_ok.mp hsave
  rw [encodeDurableState_readBack, encodeDurableState_eq_ok]
  exact hencode

end Files

/-- A saved file loads, and is written again byte for byte, exactly when the file fits the bound
    with its header and every decoder accepts what was written. -/
theorem saved_loads_iff {s : Impl} (hs : Reachable s) {now : TimestampNanos} {image : Bytes}
    (hsave : (saveState s now).1 = .ok image) :
    (∃ d, loadDurableState (some image) s.bounds = .ok d ∧
        encodeDurableState d s.bounds = .ok image) ↔
      stateHeaderSize + (encodePayload (captureDurableState s now).written).size ≤
          s.bounds.maxPersistenceBytes ∧
        (captureDurableState s now).written.Storable := by
  have hbounds := hs.validate_bounds
  have hsaved : saveDurableState (captureDurableState s now) s.bounds = .ok image := hsave
  constructor
  · intro ⟨d, hload, _⟩
    obtain ⟨hfits, hstorable, -⟩ := (load_of_save hbounds hsaved).mp hload
    exact ⟨hfits, hstorable⟩
  · intro ⟨hfits, hstorable⟩
    have hload := (load_of_save hbounds hsaved).mpr ⟨hfits, hstorable, rfl⟩
    exact ⟨_, hload, encodeDurableState_of_load hbounds hsaved hload⟩

/-- What a load of a saved file restores, in any observatory with the same bounds. -/
theorem restores_of_save {s t : Impl} (hs : Reachable s) (hsame : t.bounds = s.bounds)
    {now : TimestampNanos} {image : Bytes} (hsave : (saveState s now).1 = .ok image)
    (hfits : stateHeaderSize + (encodePayload (captureDurableState s now).written).size ≤
      s.bounds.maxPersistenceBytes)
    (hstorable : (captureDurableState s now).written.Storable) :
    (Operation.loadState (some image)).restores t =
      some (captureDurableState s now).written.readBack := by
  have hsaved : saveDurableState (captureDurableState s now) s.bounds = .ok image := hsave
  have hload := (load_of_save hs.validate_bounds hsaved).mpr ⟨hfits, hstorable, rfl⟩
  obtain ⟨hvalid, -⟩ := saveDurableState_eq_ok.mp hsaved
  have hagain : (captureDurableState s now).written.readBack.validate s.bounds = .ok () :=
    DurableState.validate_eq_ok.mpr (hvalid.readBack_sorted hstorable)
  simp only [Operation.restores, hsame, hload, hagain]

theorem saved_loads_deployment :
    ∃ image d, (saveState Deployment.state 0).1 = .ok image ∧
      loadDurableState (some image) Deployment.state.bounds = .ok d ∧
      encodeDurableState d Deployment.state.bounds = .ok image := by
  obtain ⟨image, hsave, -⟩ := exists_saved (captureDurableState Deployment.state 0)
    Deployment.state.bounds (by decide +kernel) (by decide +kernel) (by decide +kernel)
  obtain ⟨d, hload, hagain⟩ := (saved_loads_iff Deployment.reachable_state hsave).mpr
    ⟨by decide +kernel, by decide +kernel⟩
  exact ⟨image, d, hsave, hload, hagain⟩

/-- The deployment with a migration, under a bound that its payload just reaches. -/
def Deployment.tight : Impl :=
  (Impl.new { maxPersistenceBytes := 1241 }).run
    (operations ++ workloadOperations ++ [publish 8 (.publishMigration (migration "first"))])

theorem Deployment.reachable_tight : Reachable tight := (Reachable.new _).run _

theorem Deployment.bounds_tight : tight.bounds.maxPersistenceBytes = 1241 := by decide +kernel

theorem saved_does_not_load :
    ¬∀ (s : Impl) (now : TimestampNanos) (image : Bytes), Reachable s →
      (saveState s now).1 = .ok image →
        ∃ d, loadDurableState (some image) s.bounds = .ok d ∧
          encodeDurableState d s.bounds = .ok image := by
  intro h
  -- the payload is accepted at the bound, and the header makes the file too long
  have hsize : (encodePayload (captureDurableState Deployment.tight 0).written).size = 1241 := by
    decide +kernel
  obtain ⟨image, hsave, hlength⟩ := exists_saved (captureDurableState Deployment.tight 0)
    Deployment.tight.bounds (by decide +kernel) (by decide +kernel)
    (by rw [hsize, Deployment.bounds_tight])
  obtain ⟨d, hload, -⟩ := h Deployment.tight 0 image Deployment.reachable_tight hsave
  have hfits := (loadDurableState_eq_ok.mp hload).1
  rw [hlength, hsize, Deployment.bounds_tight] at hfits
  exact absurd hfits (by decide)

end FederationObservatory
