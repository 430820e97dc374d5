import FederationObservatory.RecordsCodec.Capabilities
import FederationObservatory.StateStore.RoundTrip

/-!
# Records through their codecs

Every record kind has an encoder and a decoder that list the same fields. What comes back is the
record with its set-like vectors sorted, unless its decoder asks for more than its `validate` does.
-/

namespace FederationObservatory

open ByteCodec Sorting

/-! ## What a record is sent with -/

/-- Identifiers empty or valid, and evidence within the limit of the decoder. -/
def CapacityPool.Sendable (pool : CapacityPool) : Prop :=
  pool.poolId.Storable ∧ pool.acceleratorClass.Storable ∧ pool.evidence.Storable

def CandidateObservation.Sendable (candidate : CandidateObservation) : Prop :=
  candidate.cluster.Storable ∧ candidate.acceleratorClass.Storable ∧ candidate.evidence.Storable

/-- The bits of the mask are `RejectionReason`s. -/
def CandidateObservation.KnownReasons (candidate : CandidateObservation) : Prop :=
  candidate.reasons &&& ~~~validRejectionMask = 0

namespace RecordKind

/-- The decoder of a kind. -/
def decode : (k : RecordKind) → Reader k.Record
  | .federation => decodeFederation
  | .site => decodeSite
  | .cluster => decodeCluster
  | .acceleratorClass => decodeAcceleratorClass
  | .runtime => decodeRuntime
  | .backend => decodeBackend
  | .domain => decodeDomain
  | .policy => decodePolicy
  | .artifact => decodeArtifact
  | .workloadClass => decodeWorkloadClass
  | .workload => decodeWorkload
  | .placement => decodePlacement
  | .migration => decodeMigration
  | .portability => decodePortability

/-- The capability values of a record. -/
def values : (k : RecordKind) → k.Record → List CapabilityValue
  | .cluster, r => r.capabilities.entries.map CapabilityEntry.value
  | .acceleratorClass, r => r.capabilities.entries.map CapabilityEntry.value
  | .runtime, r => r.capabilities.entries.map CapabilityEntry.value
  | .backend, r => r.capabilities.entries.map CapabilityEntry.value
  | .policy, r => r.capabilities.entries.map CapabilityEntry.value
  | .artifact, r => r.capabilities.entries.map CapabilityEntry.value
  | .workload, r => r.requirements.map CapabilityRequirement.value
  | _, _ => []

/-- The identifiers of a record are empty or valid, and its collections are within the limits of its
    decoder. -/
def Sendable : (k : RecordKind) → k.Record → Prop
  | .federation, r =>
    r.id.Storable ∧ StorableIds r.sites ∧ StorableIds r.clusters ∧
      StorableIds r.acceleratorClasses ∧ StorableIds r.runtimes ∧ StorableIds r.workloadClasses ∧
      r.policy.Storable ∧ r.stamp.Storable ∧ r.evidence.Storable
  | .site, r =>
    r.id.Storable ∧ r.federation.Storable ∧ StorableIds r.clusters ∧ StorableIds r.policies ∧
      r.stamp.Storable ∧ r.evidence.Storable
  | .cluster, r =>
    r.id.Storable ∧ r.federation.Storable ∧ r.site.Storable ∧ r.domain.Storable ∧
      StorableIds r.acceleratorClasses ∧ StorableIds r.runtimes ∧ StorableIds r.backends ∧
      (∀ pool ∈ r.capacityPools, pool.Sendable) ∧ r.capabilities.Sendable ∧ r.stamp.Storable ∧
      r.evidence.Storable
  | .acceleratorClass, r =>
    r.id.Storable ∧ r.capabilities.Sendable ∧ r.stamp.Storable ∧ r.evidence.Storable
  | .runtime, r =>
    r.id.Storable ∧ r.backend.Storable ∧ r.capabilities.Sendable ∧ r.stamp.Storable ∧
      r.evidence.Storable
  | .backend, r =>
    r.id.Storable ∧ r.runtime.Storable ∧ r.capabilities.Sendable ∧ r.stamp.Storable ∧
      r.evidence.Storable
  | .domain, r =>
    r.id.Storable ∧ r.federation.Storable ∧ r.site.Storable ∧ StorableIds r.clusters ∧
      r.stamp.Storable ∧ r.evidence.Storable
  | .policy, r =>
    r.id.Storable ∧ StorableIds r.allowedSites ∧ StorableIds r.deniedSites ∧
      StorableIds r.allowedClusters ∧ StorableIds r.deniedClusters ∧ r.capabilities.Sendable ∧
      r.stamp.Storable ∧ r.evidence.Storable
  | .artifact, r =>
    r.id.Storable ∧ r.targetArchitectures.length ≤ 64 ∧ r.capabilities.Sendable ∧
      r.stamp.Storable ∧ r.evidence.Storable
  | .workloadClass, r => r.id.Storable ∧ r.stamp.Storable ∧ r.evidence.Storable
  | .workload, r =>
    r.id.Storable ∧ r.workloadClass.Storable ∧ r.artifact.Storable ∧
      StorableIds r.acceptableAcceleratorClasses ∧
      (∀ requirement ∈ r.requirements, requirement.key.custom.Storable) ∧ r.policy.Storable ∧
      r.requiredDomain.Storable ∧ r.stamp.Storable ∧ r.evidence.Storable
  | .placement, r =>
    r.id.Storable ∧ r.workload.Storable ∧ r.federation.Storable ∧ r.workloadClass.Storable ∧
      r.selected.Storable ∧ r.selectedAcceleratorClass.Storable ∧
      (∀ candidate ∈ r.candidates, candidate.Sendable) ∧ r.stamp.Storable ∧ r.evidence.Storable
  | .migration, r =>
    r.id.Storable ∧ r.workload.Storable ∧ r.federation.Storable ∧ r.workloadClass.Storable ∧
      r.supersedes.Storable ∧ r.source.Storable ∧ r.destination.Storable ∧ r.artifact.Storable ∧
      r.sourceRuntime.Storable ∧ r.destinationRuntime.Storable ∧
      r.stageEvents.length ≤ maxStageEventsPerMigration ∧ r.stamp.Storable ∧ r.evidence.Storable
  | .portability, r =>
    r.workload.Storable ∧ r.artifact.Storable ∧ r.workloadClass.Storable ∧ r.source.Storable ∧
      r.destination.Storable ∧ r.sourceRuntime.Storable ∧ r.destinationRuntime.Storable ∧
      r.federation.Storable ∧ r.dimensions.length ≤ portabilityDimensionCount ∧
      (∀ dimension ∈ r.dimensions, dimension.evidence.Storable) ∧ r.stamp.Storable ∧
      r.evidence.Storable

/-- A candidate's mask is the one field a decoder checks and no `validate` does. -/
def KnownReasons : (k : RecordKind) → k.Record → Prop
  | .placement, r => ∀ candidate ∈ r.candidates, candidate.KnownReasons
  | _, _ => True

/-- The record with its set-like vectors sorted, and with no text twice in a set of texts. A decoder
    builds its sets and lists of evidence with the default limits. -/
def arrange : (k : RecordKind) → k.Record → k.Record
  | .federation, r =>
    { r with
      sites := stableSort less r.sites
      clusters := stableSort less r.clusters
      acceleratorClasses := stableSort less r.acceleratorClasses
      runtimes := stableSort less r.runtimes
      workloadClasses := stableSort less r.workloadClasses
      evidence := r.evidence.setLimit defaultEvidencePerFinding }
  | .site, r =>
    { r with
      clusters := stableSort less r.clusters
      policies := stableSort less r.policies
      evidence := r.evidence.setLimit defaultEvidencePerFinding }
  | .cluster, r =>
    { r with
      acceleratorClasses := stableSort less r.acceleratorClasses
      runtimes := stableSort less r.runtimes
      backends := stableSort less r.backends
      capacityPools := (stableSort CapacityPool.lt r.capacityPools).map fun pool =>
        { pool with evidence := pool.evidence.setLimit defaultEvidencePerFinding }
      capabilities := { r.capabilities with limit := maxCapabilityEntriesPerPublication }
      evidence := r.evidence.setLimit defaultEvidencePerFinding }
  | .acceleratorClass, r =>
    { r with
      capabilities := { r.capabilities with limit := maxCapabilityEntriesPerPublication }
      evidence := r.evidence.setLimit defaultEvidencePerFinding }
  | .runtime, r =>
    { r with
      capabilities := { r.capabilities with limit := maxCapabilityEntriesPerPublication }
      evidence := r.evidence.setLimit defaultEvidencePerFinding }
  | .backend, r =>
    { r with
      capabilities := { r.capabilities with limit := maxCapabilityEntriesPerPublication }
      evidence := r.evidence.setLimit defaultEvidencePerFinding }
  | .domain, r =>
    { r with
      clusters := stableSort less r.clusters
      evidence := r.evidence.setLimit defaultEvidencePerFinding }
  | .policy, r =>
    { r with
      allowedSites := stableSort less r.allowedSites
      deniedSites := stableSort less r.deniedSites
      allowedClusters := stableSort less r.allowedClusters
      deniedClusters := stableSort less r.deniedClusters
      capabilities := { r.capabilities with limit := maxCapabilityEntriesPerPublication }
      evidence := r.evidence.setLimit defaultEvidencePerFinding }
  | .artifact, r =>
    { r with
      targetArchitectures := unique (stableSort less r.targetArchitectures)
      capabilities := { r.capabilities with limit := maxCapabilityEntriesPerPublication }
      evidence := r.evidence.setLimit defaultEvidencePerFinding }
  | .workloadClass, r => { r with evidence := r.evidence.setLimit defaultEvidencePerFinding }
  | .workload, r =>
    { r with
      acceptableAcceleratorClasses := stableSort less r.acceptableAcceleratorClasses
      evidence := r.evidence.setLimit defaultEvidencePerFinding }
  | .placement, r =>
    { r with
      candidates := (stableSort CandidateObservation.lt r.candidates).map fun candidate =>
        { candidate with evidence := candidate.evidence.setLimit defaultEvidencePerFinding }
      evidence := r.evidence.setLimit defaultEvidencePerFinding }
  | .migration, r => { r with evidence := r.evidence.setLimit defaultEvidencePerFinding }
  | .portability, r =>
    { r with
      dimensions := r.dimensions.map fun dimension =>
        { dimension with evidence := dimension.evidence.setLimit defaultEvidencePerFinding }
      evidence := r.evidence.setLimit defaultEvidencePerFinding }

end RecordKind

/-! ## What is checked survives the sorting -/

section Checks

variable {α : Type} [Ord α] [DecidableEq α] [Std.TransOrd α] [Std.LawfulEqOrd α]

theorem hasDuplicates_of_perm {a b : List α} (h : a.Perm b) : hasDuplicates a = hasDuplicates b := by
  rw [Bool.eq_iff_iff, ← not_iff_not, Bool.not_eq_true, Bool.not_eq_true, hasDuplicates_eq_false,
    hasDuplicates_eq_false]
  exact h.nodup_iff

@[simp] theorem hasDuplicates_stableSort (lt : α → α → Bool) (l : List α) :
    hasDuplicates (stableSort lt l) = hasDuplicates l :=
  hasDuplicates_of_perm (perm_stableSort lt l)

end Checks

theorem FederationRecord.validate_readBack (r : FederationRecord) :
    r.readBack.validate = r.validate := by
  simp only [FederationRecord.validate, FederationRecord.readBack, hasDuplicates_stableSort]

theorem SiteRecord.validate_readBack (r : SiteRecord) : r.readBack.validate = r.validate := by
  simp only [SiteRecord.validate, SiteRecord.readBack, hasDuplicates_stableSort, length_stableSort]

theorem DomainRecord.validate_readBack (r : DomainRecord) : r.readBack.validate = r.validate := by
  have hempty : (stableSort less r.clusters).isEmpty = r.clusters.isEmpty := by
    rw [Bool.eq_iff_iff, List.isEmpty_iff, List.isEmpty_iff, ← List.length_eq_zero_iff,
      length_stableSort, List.length_eq_zero_iff]
  simp only [DomainRecord.validate, DomainRecord.readBack, hasDuplicates_stableSort, hempty]

/-- The keys of a set are read back as they were. -/
theorem CapabilitySet.forM_readBack (set : CapabilitySet) (check : CapabilityRef → Status) :
    (set.readBack.entries.forM fun entry => check entry.key) =
      set.entries.forM fun entry => check entry.key := by
  simp only [CapabilitySet.readBack, List.forM_eq_forM, List.forM_map]
  rfl

theorem AcceleratorClassRecord.validate_readBack (r : AcceleratorClassRecord) :
    r.readBack.validate = r.validate := by
  have hkeys := r.capabilities.forM_readBack fun key => failIf (!key.valid) .invalidArgument
    "invalid capability key on accelerator class" (r.id.value ++ .ofString " " ++ key.toText)
  simp only [AcceleratorClassRecord.validate, AcceleratorClassRecord.readBack, hkeys]

theorem ClusterRecord.validate_readBack {r : ClusterRecord} (h : r.validate = .ok ()) :
    r.readBack.validate = .ok () := by
  have hperm := perm_stableSort CapacityPool.lt r.capacityPools
  have hids : ((r.readBack.capacityPools).map (·.poolId)).Perm (r.capacityPools.map (·.poolId)) := by
    simp only [ClusterRecord.readBack, List.map_map]
    exact hperm.map _
  have hlength : r.readBack.capacityPools.length = r.capacityPools.length := by
    simp only [ClusterRecord.readBack, List.length_map, length_stableSort]
  simp only [ClusterRecord.validate, bind_eq_ok, failIf_eq_ok, forM_eq_ok, exists_and_left,
    exists_const] at h ⊢
  simp only [hlength, hasDuplicates_of_perm hids]
  simp only [ClusterRecord.readBack, hasDuplicates_stableSort]
  obtain ⟨hid, hgeneration, hepoch, hfederation, hsite, hclasses, hruntimes, hbackends, hcount,
    hpools, hdistinct, -⟩ := h
  refine ⟨hid, hgeneration, hepoch, hfederation, hsite, hclasses, hruntimes, hbackends, hcount,
    ?_, hdistinct, ?_⟩
  · intro pool hpool
    obtain ⟨pool', hmem, rfl⟩ := List.mem_map.mp hpool
    exact hpools pool' (hperm.mem_iff.mp hmem)
  · intro entry hentry
    rw [r.capabilities.readBack.valid entry hentry]
    rfl

theorem PolicyRecord.validate_readBack {r : PolicyRecord} (h : r.validate = .ok ()) :
    r.readBack.validate = .ok () := by
  simp only [PolicyRecord.validate, PolicyRecord.readBack, bind_eq_ok, failIf_eq_ok, forM_eq_ok,
    exists_and_left, exists_const, hasDuplicates_stableSort,
    (perm_stableSort less _).mem_iff] at h ⊢
  exact h

theorem ArtifactRecord.validate_readBack {r : ArtifactRecord} (h : r.validate = .ok ()) :
    r.readBack.validate = .ok () := by
  have hdistinct : hasDuplicates (unique (stableSort less r.targetArchitectures)) = false := by
    unfold hasDuplicates
    rw [stableSort_unique, adjacentFind_unique]
  simp only [ArtifactRecord.validate, ArtifactRecord.readBack, bind_eq_ok, failIf_eq_ok,
    forM_eq_ok, exists_and_left, exists_const, mem_unique, hdistinct,
    (perm_stableSort less _).mem_iff] at h ⊢
  exact ⟨h.1, h.2.1, trivial, h.2.2.2⟩

theorem WorkloadRecord.validate_readBack {r : WorkloadRecord} (h : r.validate = .ok ()) :
    r.readBack.validate = .ok () := by
  simp only [WorkloadRecord.validate, WorkloadRecord.readBack, bind_eq_ok, failIf_eq_ok,
    forM_eq_ok, exists_and_left, exists_const, hasDuplicates_stableSort, List.length_map,
    List.forall_mem_map] at h ⊢
  exact h

theorem PlacementRecord.validate_readBack {r : PlacementRecord} (h : r.validate = .ok ()) :
    r.readBack.validate = .ok () := by
  have hperm := perm_stableSort CandidateObservation.lt r.candidates
  have hclusters : (r.readBack.candidates.map (·.cluster)).Perm (r.candidates.map (·.cluster)) := by
    simp only [PlacementRecord.readBack, List.map_map]
    exact hperm.map _
  have hlength : r.readBack.candidates.length = r.candidates.length := by
    simp only [PlacementRecord.readBack, List.length_map, length_stableSort]
  have hselected : r.readBack.candidates.countP (·.status == .selected) =
      r.candidates.countP (·.status == .selected) := by
    simp only [PlacementRecord.readBack, List.countP_map]
    exact hperm.countP_eq _
  have hrejected : r.readBack.candidates.any (·.status == .rejected) =
      r.candidates.any (·.status == .rejected) := by
    simp only [PlacementRecord.readBack, List.any_map]
    exact hperm.any_eq
  simp only [PlacementRecord.validate, bind_eq_ok, failIf_eq_ok, forM_eq_ok, exists_and_left,
    exists_const] at h ⊢
  simp only [hlength, hselected, hrejected, hasDuplicates_of_perm hclusters]
  obtain ⟨hid, hgeneration, hworkload, hworkloadGeneration, hfederation, hcluster, hcount, hchecked,
    hrest⟩ := h
  refine ⟨hid, hgeneration, hworkload, hworkloadGeneration, hfederation, hcluster, hcount, ?_,
    hrest⟩
  intro candidate hcandidate
  obtain ⟨candidate', hmem, rfl⟩ := List.mem_map.mp hcandidate
  exact hchecked candidate' (hperm.mem_iff.mp hmem)

theorem PortabilityAssessment.validate_readBack (r : PortabilityAssessment) :
    r.readBack.validate = r.validate := by
  simp only [PortabilityAssessment.validate, PortabilityAssessment.readBack, List.length_map,
    List.map_map]
  rfl

theorem MigrationRecord.validate_readBack (r : MigrationRecord) :
    r.readBack.validate = r.validate := by
  have hevents : r.readBack.validateEvents none r.stageEvents =
      r.validateEvents none r.stageEvents := by
    apply MigrationRecord.validateEvents_congr <;> rfl
  simp only [MigrationRecord.validate]
  rw [show r.readBack.stageEvents = r.stageEvents from rfl, hevents]
  rfl

/-- A record passes its own check when it is read back, if it did when it was written. -/
theorem RecordKind.validate_readBack {k : RecordKind} {r : k.Record}
    (h : StoredRecord.validate r = .ok ()) : StoredRecord.validate (k.readBack r) = .ok () := by
  cases k with
  | federation => exact r.validate_readBack.trans h
  | site => exact r.validate_readBack.trans h
  | cluster => exact ClusterRecord.validate_readBack h
  | acceleratorClass => exact r.validate_readBack.trans h
  | domain => exact r.validate_readBack.trans h
  | policy => exact PolicyRecord.validate_readBack h
  | artifact => exact ArtifactRecord.validate_readBack h
  | workload => exact WorkloadRecord.validate_readBack h
  | placement => exact PlacementRecord.validate_readBack h
  | migration => exact r.validate_readBack.trans h
  | portability => exact r.validate_readBack.trans h
  | runtime | backend | workloadClass => exact h

/-! ## Round trips -/

/-- A set with signed values is read back as it was. -/
theorem CapabilitySet.readBack_eq {set : CapabilitySet}
    (h : ∀ v ∈ set.entries.map CapabilityEntry.value, v.Canonical ∧ v.isUnsigned = false) :
    set.readBack = { set with limit := maxCapabilityEntriesPerPublication } := by
  rw [List.forall_mem_map] at h
  refine CapabilitySet.ext ?_ rfl
  exact (CapabilitySet.readBack_entries_iff fun e he => (h e he).1).mpr fun e he => (h e he).2

theorem CapabilitySet.Sendable.storable {set : CapabilitySet} (h : set.Sendable)
    (hvalues : ∀ v ∈ set.entries.map CapabilityEntry.value, v.Canonical) : set.Storable := by
  rw [List.forall_mem_map] at hvalues
  exact ⟨h.1, fun e he => ⟨⟨h.2 e he, set.valid e he⟩, (hvalues e he).storable⟩⟩

theorem CapabilityRequirement.readBack_eq {requirement : CapabilityRequirement}
    (hcanonical : requirement.value.Canonical) (hsigned : requirement.value.isUnsigned = false) :
    requirement.readBack = requirement := by
  rw [CapabilityRequirement.readBack, hcanonical.readBack_eq_self.mpr hsigned]

namespace RecordKind

variable {k : RecordKind} {r : k.Record}

/-- A record whose values are canonical and signed is read back arranged. -/
theorem readBack_eq_arrange (h : ∀ v ∈ k.values r, v.Canonical ∧ v.isUnsigned = false) :
    k.readBack r = k.arrange r := by
  cases k with
  | cluster =>
    have hset := CapabilitySet.readBack_eq h
    simp only [readBack, ClusterRecord.readBack, arrange, hset]
    rfl
  | acceleratorClass =>
    have hset := CapabilitySet.readBack_eq h
    simp only [readBack, AcceleratorClassRecord.readBack, arrange, hset]
    rfl
  | runtime =>
    have hset := CapabilitySet.readBack_eq h
    simp only [readBack, RuntimeRecord.readBack, arrange, hset]
    rfl
  | backend =>
    have hset := CapabilitySet.readBack_eq h
    simp only [readBack, BackendRecord.readBack, arrange, hset]
    rfl
  | policy =>
    have hset := CapabilitySet.readBack_eq h
    simp only [readBack, PolicyRecord.readBack, arrange, hset]
    rfl
  | artifact =>
    have hset := CapabilitySet.readBack_eq h
    simp only [readBack, ArtifactRecord.readBack, arrange, hset]
    rfl
  | workload =>
    have hrequirements : r.requirements.map CapabilityRequirement.readBack = r.requirements := by
      refine (List.map_congr_left fun requirement hmem => ?_).trans (List.map_id _)
      obtain ⟨hcanonical, hsigned⟩ := h _ (List.mem_map_of_mem hmem)
      exact CapabilityRequirement.readBack_eq hcanonical hsigned
    simp only [readBack, WorkloadRecord.readBack, arrange, hrequirements]
    rfl
  | federation | site | domain | workloadClass | placement | migration | portability => rfl

/-- A decoder asks for what `validate` checks, for identifiers and limits, and for known reasons. -/
theorem storable_iff (hvalid : StoredRecord.validate r = .ok ()) (hsend : k.Sendable r)
    (hvalues : ∀ v ∈ k.values r, v.Canonical) : k.Storable r ↔ k.KnownReasons r := by
  have hback := validate_readBack hvalid
  cases k with
  | federation =>
    obtain ⟨hid, hsites, hclusters, hclasses, hruntimes, hworkloads, hpolicy, hstamp, hevidence⟩ :=
      hsend
    exact iff_of_true ⟨hid, hsites, hclusters, hclasses, hruntimes, hworkloads, hpolicy, hstamp,
      hevidence, hback⟩ trivial
  | site =>
    obtain ⟨hid, hfederation, hclusters, hpolicies, hstamp, hevidence⟩ := hsend
    exact iff_of_true ⟨hid, hfederation, hclusters, hpolicies, hstamp, hevidence, hback⟩ trivial
  | cluster =>
    obtain ⟨hid, hfederation, hsite, hdomain, hclasses, hruntimes, hbackends, hpools,
      hcapabilities, hstamp, hevidence⟩ := hsend
    have hchecked : r.validate = .ok () := hvalid
    simp only [ClusterRecord.validate, ClusterRecord.validatePool, bind_eq_ok, failIf_eq_ok,
      forM_eq_ok, exists_and_left, exists_const, decide_eq_false_iff_not, Nat.not_lt] at hchecked
    obtain ⟨-, -, -, -, -, -, -, -, hcount, hledgers, -⟩ := hchecked
    refine iff_of_true ⟨hid, hfederation, hsite, hdomain, hclasses, hruntimes, hbackends,
      ⟨hcount, fun pool hpool => ?_⟩, hcapabilities.storable hvalues, hstamp, hevidence, hback⟩
      trivial
    obtain ⟨hpool', hclass, hevidence⟩ := hpools pool hpool
    refine ⟨hpool', hclass, ?_, hevidence⟩
    obtain ⟨-, ⟨⟩, hledger, -⟩ := hledgers pool hpool
    exact mapError_eq_ok.mp hledger
  | acceleratorClass =>
    obtain ⟨hid, hcapabilities, hstamp, hevidence⟩ := hsend
    exact iff_of_true ⟨hid, hcapabilities.storable hvalues, hstamp, hevidence, hback⟩ trivial
  | runtime =>
    obtain ⟨hid, hbackend, hcapabilities, hstamp, hevidence⟩ := hsend
    exact iff_of_true ⟨hid, hbackend, hcapabilities.storable hvalues, hstamp, hevidence, hback⟩
      trivial
  | backend =>
    obtain ⟨hid, hruntime, hcapabilities, hstamp, hevidence⟩ := hsend
    exact iff_of_true ⟨hid, hruntime, hcapabilities.storable hvalues, hstamp, hevidence, hback⟩
      trivial
  | domain =>
    obtain ⟨hid, hfederation, hsite, hclusters, hstamp, hevidence⟩ := hsend
    exact iff_of_true ⟨hid, hfederation, hsite, hclusters, hstamp, hevidence, hback⟩ trivial
  | policy =>
    obtain ⟨hid, hallowed, hdenied, hallowedClusters, hdeniedClusters, hcapabilities, hstamp,
      hevidence⟩ := hsend
    exact iff_of_true ⟨hid, hallowed, hdenied, hallowedClusters, hdeniedClusters,
      hcapabilities.storable hvalues, hstamp, hevidence, hback⟩ trivial
  | artifact =>
    obtain ⟨hid, harchitectures, hcapabilities, hstamp, hevidence⟩ := hsend
    have hunique : (unique (stableSort less r.targetArchitectures)).length ≤ 64 :=
      ((unique_sublist _).length_le.trans_eq (length_stableSort less _)).trans harchitectures
    exact iff_of_true ⟨hid, hunique, hcapabilities.storable hvalues, hstamp, hevidence, hback⟩
      trivial
  | workloadClass =>
    obtain ⟨hid, hstamp, hevidence⟩ := hsend
    exact iff_of_true ⟨hid, hstamp, hevidence, hback⟩ trivial
  | workload =>
    obtain ⟨hid, hclass, hartifact, hclasses, hkeys, hpolicy, hdomain, hstamp, hevidence⟩ := hsend
    have hchecked : r.validate = .ok () := hvalid
    simp only [WorkloadRecord.validate, bind_eq_ok, failIf_eq_ok, forM_eq_ok, exists_and_left,
      exists_const, decide_eq_false_iff_not, Nat.not_lt, Bool.not_eq_false'] at hchecked
    obtain ⟨-, -, -, -, -, hrequirements, -, hcount⟩ := hchecked
    exact iff_of_true ⟨hid, hclass, hartifact, hclasses, ⟨hcount, fun requirement hmem =>
      ⟨⟨hkeys requirement hmem, hrequirements requirement hmem⟩,
        (hvalues _ (List.mem_map_of_mem hmem)).storable⟩⟩, hpolicy, hdomain, hstamp, hevidence,
      hback⟩ trivial
  | placement =>
    obtain ⟨hid, hworkload, hfederation, hclass, hselected, haccelerator, hcandidates, hstamp,
      hevidence⟩ := hsend
    have hchecked : r.validate = .ok () := hvalid
    simp only [PlacementRecord.validate, bind_eq_ok, failIf_eq_ok, exists_and_left, exists_const,
      decide_eq_false_iff_not, Nat.not_lt] at hchecked
    obtain ⟨-, -, -, -, -, -, hcount, -⟩ := hchecked
    constructor
    · rintro ⟨-, -, -, -, -, -, ⟨-, hstored⟩, -⟩ candidate hcandidate
      obtain ⟨-, -, hreasons, -⟩ := hstored candidate hcandidate
      simpa [CandidateObservation.KnownReasons] using hreasons
    · intro hreasons
      refine ⟨hid, hworkload, hfederation, hclass, hselected, haccelerator,
        ⟨hcount, fun candidate hcandidate => ?_⟩, hstamp, hevidence, hback⟩
      obtain ⟨hcluster, hclass, hevidence⟩ := hcandidates candidate hcandidate
      have hknown : candidate.KnownReasons := hreasons candidate hcandidate
      exact ⟨hcluster, hclass, by simpa [CandidateObservation.KnownReasons] using hknown, hevidence⟩
  | migration =>
    obtain ⟨hid, hworkload, hfederation, hclass, hsupersedes, hsource, hdestination, hartifact,
      hsourceRuntime, hdestinationRuntime, hevents, hstamp, hevidence⟩ := hsend
    exact iff_of_true ⟨hid, hworkload, hfederation, hclass, hsupersedes, hsource, hdestination,
      hartifact, hsourceRuntime, hdestinationRuntime, hevents, hstamp, hevidence, hback⟩ trivial
  | portability =>
    obtain ⟨hworkload, hartifact, hclass, hsource, hdestination, hsourceRuntime,
      hdestinationRuntime, hfederation, hcount, hdimensions, hstamp, hevidence⟩ := hsend
    exact iff_of_true ⟨hworkload, hartifact, hclass, hsource, hdestination, hsourceRuntime,
      hdestinationRuntime, hfederation, ⟨hcount, hdimensions⟩, hstamp, hevidence, hback⟩ trivial

/-- The codec of a kind on any of its records. -/
theorem reads (k : RecordKind) (r : k.Record) :
    Reads (StoredRecord.encode r) k.decode (k.Storable r) (k.readBack r) := by
  cases k with
  | federation =>
    exact (Readable.reads : Reads (encodeFederation r) decodeFederation
      (FederationRecord.Storable r) (FederationRecord.readBack r))
  | site =>
    exact (Readable.reads : Reads (encodeSite r) decodeSite
      (SiteRecord.Storable r) (SiteRecord.readBack r))
  | cluster =>
    exact (Readable.reads : Reads (encodeCluster r) decodeCluster
      (ClusterRecord.Storable r) (ClusterRecord.readBack r))
  | acceleratorClass =>
    exact (Readable.reads : Reads (encodeAcceleratorClass r) decodeAcceleratorClass
      (AcceleratorClassRecord.Storable r) (AcceleratorClassRecord.readBack r))
  | runtime =>
    exact (Readable.reads : Reads (encodeRuntime r) decodeRuntime
      (RuntimeRecord.Storable r) (RuntimeRecord.readBack r))
  | backend =>
    exact (Readable.reads : Reads (encodeBackend r) decodeBackend
      (BackendRecord.Storable r) (BackendRecord.readBack r))
  | domain =>
    exact (Readable.reads : Reads (encodeDomain r) decodeDomain
      (DomainRecord.Storable r) (DomainRecord.readBack r))
  | policy =>
    exact (Readable.reads : Reads (encodePolicy r) decodePolicy
      (PolicyRecord.Storable r) (PolicyRecord.readBack r))
  | artifact =>
    exact (Readable.reads : Reads (encodeArtifact r) decodeArtifact
      (ArtifactRecord.Storable r) (ArtifactRecord.readBack r))
  | workloadClass =>
    exact (Readable.reads : Reads (encodeWorkloadClass r) decodeWorkloadClass
      (WorkloadClassRecord.Storable r) (WorkloadClassRecord.readBack r))
  | workload =>
    exact (Readable.reads : Reads (encodeWorkload r) decodeWorkload
      (WorkloadRecord.Storable r) (WorkloadRecord.readBack r))
  | placement =>
    exact (Readable.reads : Reads (encodePlacement r) decodePlacement
      (PlacementRecord.Storable r) (PlacementRecord.readBack r))
  | migration =>
    exact (Readable.reads : Reads (encodeMigration r) decodeMigration
      (MigrationRecord.Storable r) (MigrationRecord.readBack r))
  | portability =>
    exact (Readable.reads : Reads (encodePortability r) decodePortability
      (PortabilityAssessment.Storable r) (PortabilityAssessment.readBack r))

/-- Decoding what was written gives the record, arranged, and stops where it ends. -/
def RoundTrips (k : RecordKind) (r : k.Record) (bytes rest : Bytes) : Prop :=
  k.decode ⟨bytes ++ rest, false⟩ = .ok (k.arrange r, ⟨rest, false⟩)

end RecordKind

/-! ## What a placement was read with -/

theorem ensures_decVector {α : Type} {limit : Nat} {dec : Reader α} {P : α → Prop}
    (h : Ensures dec P) : Ensures (decVector limit dec) fun values => ∀ value ∈ values, P value := by
  refine Ensures.skip fun count => Ensures.failIf fun _ => ?_
  intro c values c' hrun
  refine Get.loop_invariant (I := fun acc => ∀ value ∈ acc, P value) ?_
    (List.forall_mem_nil P) hrun
  intro acc d acc' d' hacc hround
  obtain ⟨value, m, hvalue, hpush⟩ := Get.bind_eq_ok.mp hround
  rw [← (Get.pure_eq_ok.mp hpush).1]
  exact List.forall_mem_append.mpr ⟨hacc, List.forall_mem_singleton.mpr (h d value m hvalue)⟩

theorem ensures_decodeCandidate : Ensures decodeCandidate CandidateObservation.KnownReasons := by
  iterate 6 refine Ensures.skip fun _ => ?_
  refine Ensures.failIf fun hknown => ?_
  iterate 5 refine Ensures.skip fun _ => ?_
  exact Ensures.pure (by simpa [CandidateObservation.KnownReasons] using hknown)

/-- No placement is decoded with a mask that has unknown bits. -/
theorem ensures_decodePlacement :
    Ensures decodePlacement fun r => ∀ candidate ∈ r.candidates, candidate.KnownReasons := by
  iterate 13 refine Ensures.skip fun _ => ?_
  refine Ensures.bind (ensures_decVector ensures_decodeCandidate) fun candidates hcandidates => ?_
  iterate 21 refine Ensures.skip fun _ => ?_
  exact Ensures.pure hcandidates

theorem RecordKind.knownReasons_of_arrange {k : RecordKind} {r : k.Record}
    (h : k.KnownReasons (k.arrange r)) : k.KnownReasons r := by
  cases k with
  | placement =>
    intro candidate hcandidate
    have hsorted := (perm_stableSort CandidateObservation.lt r.candidates).mem_iff.mpr hcandidate
    have hknown := h _ (List.mem_map_of_mem hsorted)
    exact hknown
  | _ => trivial

theorem RecordKind.ensures_decode (k : RecordKind) : Ensures k.decode k.KnownReasons := by
  cases k with
  | placement => exact ensures_decodePlacement
  | _ => exact fun _ _ _ _ => trivial

/-! ## The round trip -/

/-- A record that passes its check, with identifiers and collections that its decoder takes and no
    unsigned value, comes back arranged from everything its encoder writes, unless it is a placement
    with a candidate whose mask has a bit that no reason has. -/
theorem record_roundTrips_iff (k : RecordKind) (r : k.Record)
    (hvalid : StoredRecord.validate r = .ok ()) (hsend : k.Sendable r)
    (hvalues : ∀ v ∈ k.values r, v.Made ∧ v.isUnsigned = false) {bytes : Bytes}
    (himage : (StoredRecord.encode r).image = .ok bytes) (rest : Bytes) :
    k.RoundTrips r bytes rest ↔ k.KnownReasons r := by
  have hcanonical : ∀ v ∈ k.values r, v.Canonical ∧ v.isUnsigned = false := fun v hv =>
    ⟨CapabilityValue.canonical_of_made (hvalues v hv).1, (hvalues v hv).2⟩
  constructor
  · intro hdecoded
    exact RecordKind.knownReasons_of_arrange (k.ensures_decode _ _ _ hdecoded)
  · intro hreasons
    have hstorable := (RecordKind.storable_iff hvalid hsend fun v hv => (hcanonical v hv).1).mpr
      hreasons
    have hread := (k.reads r bytes himage rest).1 hstorable
    rw [RecordKind.readBack_eq_arrange hcanonical] at hread
    exact hread

/-- A placement whose one candidate was turned down for the reasons of the mask. -/
def turnedDown (reasons : UInt32) : PlacementRecord where
  id := ⟨.ofString "placement"⟩
  generation := ⟨1⟩
  workload := ⟨.ofString "workload"⟩
  workloadGeneration := ⟨1⟩
  federation := ⟨.ofString "federation"⟩
  selected := ⟨.ofString "west"⟩
  candidates := [{ cluster := ⟨.ofString "east"⟩, status := .rejected, reasons }]

/-- What the encoder holds for it. -/
def turnedDownBytes (reasons : UInt32) : Bytes :=
  ((encodePlacement (turnedDown reasons)).encode {}).buffer

theorem image_turnedDown {reasons : UInt32}
    (h : ((encodePlacement (turnedDown reasons)).encode {}).error = none) :
    (StoredRecord.encode (turnedDown reasons)).image = .ok (turnedDownBytes reasons) := by
  change (encodePlacement (turnedDown reasons)).image = _
  unfold Put.image
  rw [h]
  rfl

theorem sendable_turnedDown (reasons : UInt32) :
    RecordKind.placement.Sendable (turnedDown reasons) := by
  refine ⟨?_, ?_, ?_, ?_, ?_, ?_, List.forall_mem_singleton.mpr ⟨?_, ?_, ?_⟩, ?_, ?_⟩ <;>
    dsimp only [turnedDown] <;> decide +kernel

/-- A declared reason comes through. -/
theorem turnedDown_roundTrips :
    RecordKind.placement.RoundTrips (turnedDown 1) (turnedDownBytes 1) [] := by
  refine (record_roundTrips_iff .placement (turnedDown 1) (by decide +kernel)
    (sendable_turnedDown 1) ?_ (image_turnedDown (by decide +kernel)) []).mpr ?_
  · exact fun _ hv => (List.not_mem_nil hv).elim
  · have hbit : (1 : UInt32) &&& ~~~validRejectionMask = 0 := by decide
    exact List.forall_mem_singleton.mpr hbit

/-- The highest bit of the mask belongs to no reason: such a placement is accepted and encoded, and
    its bytes are refused. -/
theorem turnedDown_not_roundTrips :
    ¬∀ (k : RecordKind) (r : k.Record), StoredRecord.validate r = .ok () → k.Sendable r →
      (∀ v ∈ k.values r, v.Made ∧ v.isUnsigned = false) →
      ∀ bytes, (StoredRecord.encode r).image = .ok bytes → ∀ rest, k.RoundTrips r bytes rest := by
  intro h
  have hdecoded := h .placement (turnedDown 0x80000000) (by decide +kernel)
    (sendable_turnedDown _) (fun _ hv => (List.not_mem_nil hv).elim) _
    (image_turnedDown (by decide +kernel)) []
  have hknown := ensures_decodePlacement _ _ _ hdecoded
  have hmask : ¬∀ candidate ∈ (RecordKind.placement.arrange (turnedDown 0x80000000)).candidates,
      candidate.reasons &&& ~~~validRejectionMask = 0 := by
    decide +kernel
  exact hmask hknown

end FederationObservatory
