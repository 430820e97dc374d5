import FederationObservatory.Observatory.Proofs.Publishers
import FederationObservatory.Observatory.Proofs.Validation

/-!
# What a restore leaves

A restored observatory is structurally known and dynamically unknown: nothing is current, no
publisher is live, no cluster has capacity or readiness, and the rest of every record is the one of
the durable state. The one thing a durable state may lose on the way is a portability assessment:
two assessments of one workload and destination pass the validation, and the first one is kept.
-/

namespace FederationObservatory

open StoredRecord (key)

/-! ## Restored records -/

theorem currentness_restoredRecord (k : RecordKind) (record : k.Record) :
    StoredRecord.currentness (restoredRecord k record) ≠ .current := by
  cases k with
  | cluster =>
    change (if record.currentness = .retired then Currentness.retired else _) ≠ .current
    split <;> decide
  | placement => exact (by decide : Currentness.stale ≠ .current)
  | migration => exact (by decide : Currentness.stale ≠ .current)
  | portability => exact (by decide : Currentness.stale ≠ .current)
  | federation => exact DurableState.currentness_demote (ρ := RecordKind.Record .federation) record
  | site => exact DurableState.currentness_demote (ρ := RecordKind.Record .site) record
  | acceleratorClass => exact DurableState.currentness_demote (ρ := RecordKind.Record .acceleratorClass) record
  | runtime => exact DurableState.currentness_demote (ρ := RecordKind.Record .runtime) record
  | backend => exact DurableState.currentness_demote (ρ := RecordKind.Record .backend) record
  | domain => exact DurableState.currentness_demote (ρ := RecordKind.Record .domain) record
  | policy => exact DurableState.currentness_demote (ρ := RecordKind.Record .policy) record
  | artifact => exact DurableState.currentness_demote (ρ := RecordKind.Record .artifact) record
  | workloadClass => exact DurableState.currentness_demote (ρ := RecordKind.Record .workloadClass) record
  | workload => exact DurableState.currentness_demote (ρ := RecordKind.Record .workload) record

/-- The placement loop fills its table like the other loops do. -/
theorem placements_restorePlacement (placements : List PlacementRecord)
    (index : Std.TreeMap WorkloadId PlacementId × RecordKind.Table .placement) :
    (placements.foldl restorePlacement index).2 =
      Tables.emplaceAll StoredRecord.key (restoredRecord .placement) index.2 placements := by
  induction placements generalizing index with
  | nil => rfl
  | cons record placements ih => exact ih (restorePlacement index record)

theorem restoredCollections_table (d : DurableState) (k : RecordKind) :
    (restoredCollections d).table k = restoredTable k (d.collection k) := by
  cases k with
  | placement => exact placements_restorePlacement d.placements (∅, ∅)
  | _ => rfl

theorem key_restoredRecord (k : RecordKind) (record : k.Record) :
    key (restoredRecord k record) = key record := by
  cases k with
  | cluster => rfl
  | placement => rfl
  | migration => rfl
  | portability => rfl
  | federation => exact DurableState.key_demote (ρ := RecordKind.Record .federation) record
  | site => exact DurableState.key_demote (ρ := RecordKind.Record .site) record
  | acceleratorClass => exact DurableState.key_demote (ρ := RecordKind.Record .acceleratorClass) record
  | runtime => exact DurableState.key_demote (ρ := RecordKind.Record .runtime) record
  | backend => exact DurableState.key_demote (ρ := RecordKind.Record .backend) record
  | domain => exact DurableState.key_demote (ρ := RecordKind.Record .domain) record
  | policy => exact DurableState.key_demote (ρ := RecordKind.Record .policy) record
  | artifact => exact DurableState.key_demote (ρ := RecordKind.Record .artifact) record
  | workloadClass => exact DurableState.key_demote (ρ := RecordKind.Record .workloadClass) record
  | workload => exact DurableState.key_demote (ρ := RecordKind.Record .workload) record

/-! ## Published content -/

/-- A record without what is not published with it or does not outlive a restart: the currentness,
    and the capacity pools and readiness of a cluster. -/
def RecordKind.content : (k : RecordKind) → k.Record → k.Record
  | .cluster, r => { r with capacityPools := [], readiness := .unknown, currentness := .unknown }
  | .federation, r => { r with currentness := .unknown }
  | .site, r => { r with currentness := .unknown }
  | .acceleratorClass, r => { r with currentness := .unknown }
  | .runtime, r => { r with currentness := .unknown }
  | .backend, r => { r with currentness := .unknown }
  | .domain, r => { r with currentness := .unknown }
  | .policy, r => { r with currentness := .unknown }
  | .artifact, r => { r with currentness := .unknown }
  | .workloadClass, r => { r with currentness := .unknown }
  | .workload, r => { r with currentness := .unknown }
  | .placement, r => { r with currentness := .unknown }
  | .migration, r => { r with currentness := .unknown }
  | .portability, r => { r with currentness := .unknown }

theorem content_withCurrentness (k : RecordKind) (c : Currentness) (record : k.Record) :
    k.content (StoredRecord.withCurrentness c record) = k.content record := by
  cases k <;> rfl

theorem content_demote {k : RecordKind} (record : k.Record) :
    k.content (DurableState.demote record) = k.content record := by
  unfold DurableState.demote
  split
  · exact content_withCurrentness k _ _
  · rfl

theorem content_restoredRecord (k : RecordKind) (record : k.Record) :
    k.content (restoredRecord k record) = k.content record := by
  cases k with
  | cluster => rfl
  | placement => rfl
  | migration => rfl
  | portability => rfl
  | federation => exact content_demote (k := .federation) record
  | site => exact content_demote (k := .site) record
  | acceleratorClass => exact content_demote (k := .acceleratorClass) record
  | runtime => exact content_demote (k := .runtime) record
  | backend => exact content_demote (k := .backend) record
  | domain => exact content_demote (k := .domain) record
  | policy => exact content_demote (k := .policy) record
  | artifact => exact content_demote (k := .artifact) record
  | workloadClass => exact content_demote (k := .workloadClass) record
  | workload => exact content_demote (k := .workload) record

/-! ## The restored observatory -/

/-- The observatory holds the durable state, structurally known and dynamically unknown. -/
structure Impl.RestoredFrom (t : Impl) (d : DurableState) : Prop where
  notCurrent : ∀ (k : RecordKind) (at' : k.Key) (record : k.Record),
    (t.table k)[at']? = some record → StoredRecord.currentness record ≠ .current
  clusters : ∀ (id : ClusterId) (record : ClusterRecord), t.clusters[id]? = some record →
    record.capacityPools = [] ∧ record.readiness = .unknown
  retired : ∀ r ∈ d.clusters, (t.clusters[r.id]?).map (·.currentness) =
    some (if r.currentness = .retired then .retired else .revalidationRequired)
  notLive : ∀ (key : PublisherKey) (a : PublisherAuthority), t.publishers[key]? = some a →
    a.live = false
  watermarks : ∀ w ∈ d.publisherWatermarks,
    (t.publishers[w.key]?).map (fun a => (a.watermark, a.fenced, a.fencedReason)) =
      some (w.watermark, w.fenced, w.fencedReason)
  noOtherPublisher : ∀ (key : PublisherKey) (a : PublisherAuthority),
    t.publishers[key]? = some a → ∃ w ∈ d.publisherWatermarks, w.key = key
  content : ∀ (k : RecordKind), ∀ r ∈ d.collection k,
    ((t.table k)[key r]?).map k.content = some (k.content r)
  noOtherRecord : ∀ (k : RecordKind) (at' : k.Key) (record : k.Record),
    (t.table k)[at']? = some record → ∃ r ∈ d.collection k, key r = at'

variable {s : Impl} {d : DurableState} {bounds : Bounds}

/-- What a call restores is valid. -/
theorem valid_of_restores {operation : Operation} {d : DurableState}
    (h : operation.restores s = some d) : d.Valid s.bounds := by
  refine DurableState.validate_eq_ok.mp ?_
  cases operation with
  | restore d' =>
    simp only [Operation.restores] at h
    split at h
    · rename_i hvalid
      obtain rfl := Option.some.inj h
      exact hvalid
    · cases h
  | loadState file =>
    simp only [Operation.restores] at h
    split at h
    · split at h
      · rename_i hvalid
        obtain rfl := Option.some.inj h
        exact hvalid
      · cases h
    · cases h
  | submit clock ctx request => cases h
  | fencePublisher publisher boot reason => cases h
  | invalidateDynamicEvidence reason => cases h
  | saveState now => cases h

/-- What is stored after a restore is a restored record of the durable state. -/
theorem exists_of_restored {k : RecordKind} {at' : k.Key} {record : k.Record}
    (h : ((restoredState s d).table k)[at']? = some record) :
    ∃ r ∈ d.collection k, key r = at' ∧ restoredRecord k r = record := by
  rw [show (restoredState s d).toCollections = restoredCollections d from rfl,
    restoredCollections_table] at h
  exact Tables.exists_of_emplaceAll h

/-- A record whose key is not repeated is stored. -/
theorem lookup_restored {k : RecordKind} (hnodup : ((d.collection k).map key).Nodup) {r : k.Record}
    (hr : r ∈ d.collection k) :
    ((restoredState s d).table k)[key r]? = some (restoredRecord k r) := by
  rw [show (restoredState s d).toCollections = restoredCollections d from rfl,
    restoredCollections_table]
  exact Tables.getElem?_emplaceAll_of_nodup hnodup hr

theorem lookup_restored_publisher (hvalid : d.Valid bounds) {w : PublisherWatermark}
    (hw : w ∈ d.publisherWatermarks) :
    (restoredState s d).publishers[w.key]? = some (w.toAuthority d.writtenByEpoch) :=
  Tables.getElem?_emplaceAll_of_nodup (f := PublisherWatermark.key) hvalid.uniqueWatermarks hw

/-- Two assessments of one workload and destination have the same content. -/
def DurableState.AssessmentsAgree (d : DurableState) : Prop :=
  ∀ a ∈ d.portability, ∀ b ∈ d.portability, a.workload = b.workload →
    a.destination = b.destination →
    RecordKind.content .portability a = RecordKind.content .portability b

/-- Under the key of an assessment there is one of the assessments with this key. -/
theorem lookup_restored_portability {a : PortabilityAssessment} (ha : a ∈ d.portability) :
    ∃ b ∈ d.portability, key b = key a ∧
      ((restoredState s d).table .portability)[key a]? = some (restoredRecord .portability b) := by
  obtain ⟨record, hrecord⟩ := Tables.exists_emplaceAll_of_mem
    (key (ρ := PortabilityAssessment)) (restoredRecord .portability) ha
  obtain ⟨b, hb, hkey, rfl⟩ := Tables.exists_of_emplaceAll hrecord
  exact ⟨b, hb, hkey, hrecord⟩

theorem content_restored (hvalid : d.Valid bounds) {k : RecordKind} (hk : k ≠ .portability)
    {r : k.Record} (hr : r ∈ d.collection k) :
    (((restoredState s d).table k)[key r]?).map k.content = some (k.content r) := by
  rw [lookup_restored (hvalid.unique k hk) hr, Option.map_some, content_restoredRecord]

theorem content_restored_portability_iff :
    (∀ r ∈ d.portability, (((restoredState s d).table .portability)[key r]?).map
        (RecordKind.content .portability) = some (RecordKind.content .portability r)) ↔
      d.AssessmentsAgree := by
  constructor
  · intro h a ha b hb hworkload hdestination
    have hkey : key a = key b := PortabilityKey.ext hworkload hdestination
    have hcontent := h a ha
    rw [hkey, h b hb] at hcontent
    exact (Option.some.inj hcontent).symm
  · intro h r hr
    obtain ⟨b, hb, hkey, hlookup⟩ := @lookup_restored_portability s d r hr
    have hkeys := PortabilityKey.mk.injEq .. |>.mp hkey
    rw [hlookup, Option.map_some, content_restoredRecord]
    exact congrArg some (h b hb r hr hkeys.1 hkeys.2)

theorem restoredFrom_iff (hvalid : d.Valid bounds) :
    (restoredState s d).RestoredFrom d ↔ d.AssessmentsAgree := by
  constructor
  · intro h
    exact content_restored_portability_iff.mp (h.content .portability)
  · intro h
    constructor
    case notCurrent =>
      intro k at' record hrecord
      obtain ⟨r, -, -, rfl⟩ := exists_of_restored hrecord
      exact currentness_restoredRecord k r
    case clusters =>
      intro id record hrecord
      obtain ⟨r, -, -, rfl⟩ := exists_of_restored (k := .cluster) hrecord
      exact ⟨rfl, rfl⟩
    case retired =>
      intro r hr
      have hlookup := @lookup_restored s d .cluster (hvalid.unique .cluster (by decide)) r hr
      exact congrArg (Option.map fun record : ClusterRecord => record.currentness) hlookup
    case notLive =>
      intro at' a ha
      obtain ⟨w, -, -, rfl⟩ := Tables.exists_of_emplaceAll ha
      rfl
    case watermarks =>
      intro w hw
      rw [lookup_restored_publisher hvalid hw]
      rfl
    case noOtherPublisher =>
      intro at' a ha
      obtain ⟨w, hw, hkey, -⟩ := Tables.exists_of_emplaceAll ha
      exact ⟨w, hw, hkey⟩
    case content =>
      intro k r hr
      by_cases hk : k = .portability
      · subst hk
        exact content_restored_portability_iff.mpr h r hr
      · exact content_restored hvalid hk hr
    case noOtherRecord =>
      intro k at' record hrecord
      obtain ⟨r, hr, hkey, -⟩ := exists_of_restored hrecord
      exact ⟨r, hr, hkey⟩

/-- A restore that fails changes nothing. One that succeeds leaves the durable state structurally
    known and dynamically unknown, exactly when the state's assessments of one workload and
    destination agree. -/
theorem restore_restoredFrom_iff (s : Impl) (d : DurableState) :
    (∀ e, (restore s d).1 = .error e → (restore s d).2 = s) ∧
      ((restore s d).1 = .ok () → ((restore s d).2.RestoredFrom d ↔ d.AssessmentsAgree)) := by
  refine ⟨fun e he => restore_of_error he, ?_⟩
  intro hok
  cases hvalid : d.validate s.bounds with
  | error e =>
    rw [restore, hvalid] at hok
    cases hok
  | ok u =>
    rw [restore, hvalid]
    exact restoredFrom_iff (DurableState.validate_eq_ok.mp hvalid)

namespace Deployment

/-- What is kept of the deployment with its workload, with some assessments. -/
def durable (assessments : List PortabilityAssessment) : DurableState :=
  { (captureDurableState loaded 2000).normalizeForPersistence with portability := assessments }

end Deployment

/-- A deployment with one assessment is restored; a state of another format changes nothing. -/
theorem restore_deployment :
    (restore (Impl.new {}) (Deployment.durable [Deployment.assessment .portableDirect])).2.RestoredFrom
        (Deployment.durable [Deployment.assessment .portableDirect]) ∧
      (restore Deployment.loaded { formatVersion := 2 }).2 = Deployment.loaded := by
  have hok : (restore (Impl.new {})
      (Deployment.durable [Deployment.assessment .portableDirect])).1 = .ok () := by decide +kernel
  refine ⟨((restore_restoredFrom_iff _ _).2 hok).mpr ?_,
    (restore_restoredFrom_iff _ _).1
      ⟨.unsupportedVersion, .ofString "unsupported durable state format version", .ofNat 2⟩
      (by decide +kernel)⟩
  intro a ha b hb _ _
  obtain rfl := List.mem_singleton.mp ha
  obtain rfl := List.mem_singleton.mp hb
  rfl

/-- Of two assessments of one move the second one is lost. -/
theorem restore_loses_assessment :
    ¬∀ (s : Impl) (d : DurableState), (restore s d).1 = .ok () →
      (restore s d).2.RestoredFrom d := by
  intro h
  let d := Deployment.durable
    [Deployment.assessment .portableDirect, Deployment.assessment .notPortablePolicy]
  have hrestored := h (Impl.new {}) d (by decide +kernel)
  have hcontent := hrestored.content .portability (Deployment.assessment .notPortablePolicy)
    (List.mem_cons_of_mem _ List.mem_cons_self)
  revert hcontent
  decide +kernel

end FederationObservatory
