import FederationObservatory.RecordsCodec.Encode
import Std.Data.TreeMap

/-!
# The stored record kinds

The observatory keeps fourteen collections. What its templates ask of a record (an identity, a
check, an encoding, and the three annotations the runtime writes itself) is the class
`StoredRecord`; `RecordKind` names the collections, so that a statement about every stored record
is one statement.
-/

namespace FederationObservatory

/-! ## Records -/

/-- What the templates of `observatory.cpp` use of a record, with the laws of the annotations. -/
class StoredRecord (κ : outParam Type) (ρ : Type) where
  /-- The key of the record in its collection. -/
  key : ρ → κ
  validate : ρ → Status
  encode : ρ → Writer
  currentness : ρ → Currentness
  stamp : ρ → ObservationStamp
  withCurrentness : Currentness → ρ → ρ
  withStamp : ObservationStamp → ρ → ρ
  withEvidence : EvidenceList → ρ → ρ
  key_withCurrentness : ∀ c r, key (withCurrentness c r) = key r := by intros; rfl
  key_withStamp : ∀ t r, key (withStamp t r) = key r := by intros; rfl
  currentness_withCurrentness : ∀ c r, currentness (withCurrentness c r) = c := by intros; rfl
  currentness_withStamp : ∀ t r, currentness (withStamp t r) = currentness r := by intros; rfl
  stamp_withStamp : ∀ t r, stamp (withStamp t r) = t := by intros; rfl
  stamp_withCurrentness : ∀ c r, stamp (withCurrentness c r) = stamp r := by intros; rfl
  withCurrentness_withCurrentness : ∀ c c' r,
    withCurrentness c (withCurrentness c' r) = withCurrentness c r := by intros; rfl
  withCurrentness_withStamp : ∀ c t r,
    withCurrentness c (withStamp t r) = withStamp t (withCurrentness c r) := by intros; rfl
  withStamp_withStamp : ∀ t t' r, withStamp t (withStamp t' r) = withStamp t r := by intros; rfl
  withEvidence_withStamp : ∀ e t r,
    withEvidence e (withStamp t r) = withStamp t (withEvidence e r) := by intros; rfl
  withEvidence_withCurrentness : ∀ e c r,
    withEvidence e (withCurrentness c r) = withCurrentness c (withEvidence e r) := by intros; rfl
  withEvidence_withEvidence : ∀ e e' r,
    withEvidence e (withEvidence e' r) = withEvidence e r := by intros; rfl

namespace StoredRecord

attribute [simp] key_withCurrentness key_withStamp currentness_withCurrentness
  currentness_withStamp stamp_withStamp stamp_withCurrentness

variable {κ ρ : Type} [StoredRecord κ ρ]

/-- `published_digest`: the digest of the published content of a record. The runtime's own
    annotations (currentness, stamp and accumulated evidence) are excluded. -/
def publishedDigest (record : ρ) : Text :=
  digestOf (encode (withEvidence {} (withStamp {} (withCurrentness .unknown record))))

/-- The digest does not see the annotations an accepted record is stored with. -/
theorem publishedDigest_annotated (c : Currentness) (t : ObservationStamp) (record : ρ) :
    publishedDigest (withStamp t (withCurrentness c record)) = publishedDigest record := by
  unfold publishedDigest
  rw [withCurrentness_withStamp, withCurrentness_withCurrentness, withStamp_withStamp]

theorem publishedDigest_withEvidence (e : EvidenceList) (record : ρ) :
    publishedDigest (withEvidence e record) = publishedDigest record := by
  unfold publishedDigest
  rw [← withEvidence_withCurrentness, ← withEvidence_withStamp, withEvidence_withEvidence]

end StoredRecord

/-! ## Instances -/

instance : StoredRecord FederationId FederationRecord where
  key r := r.id
  validate := FederationRecord.validate
  encode := encodeFederation
  currentness r := r.currentness
  stamp r := r.stamp
  withCurrentness c r := { r with currentness := c }
  withStamp t r := { r with stamp := t }
  withEvidence e r := { r with evidence := e }

instance : StoredRecord SiteId SiteRecord where
  key r := r.id
  validate := SiteRecord.validate
  encode := encodeSite
  currentness r := r.currentness
  stamp r := r.stamp
  withCurrentness c r := { r with currentness := c }
  withStamp t r := { r with stamp := t }
  withEvidence e r := { r with evidence := e }

instance : StoredRecord ClusterId ClusterRecord where
  key r := r.id
  validate := ClusterRecord.validate
  encode := encodeCluster
  currentness r := r.currentness
  stamp r := r.stamp
  withCurrentness c r := { r with currentness := c }
  withStamp t r := { r with stamp := t }
  withEvidence e r := { r with evidence := e }

instance : StoredRecord AcceleratorClassId AcceleratorClassRecord where
  key r := r.id
  validate := AcceleratorClassRecord.validate
  encode := encodeAcceleratorClass
  currentness r := r.currentness
  stamp r := r.stamp
  withCurrentness c r := { r with currentness := c }
  withStamp t r := { r with stamp := t }
  withEvidence e r := { r with evidence := e }

instance : StoredRecord RuntimeId RuntimeRecord where
  key r := r.id
  validate := RuntimeRecord.validate
  encode := encodeRuntime
  currentness r := r.currentness
  stamp r := r.stamp
  withCurrentness c r := { r with currentness := c }
  withStamp t r := { r with stamp := t }
  withEvidence e r := { r with evidence := e }

instance : StoredRecord BackendId BackendRecord where
  key r := r.id
  validate := BackendRecord.validate
  encode := encodeBackend
  currentness r := r.currentness
  stamp r := r.stamp
  withCurrentness c r := { r with currentness := c }
  withStamp t r := { r with stamp := t }
  withEvidence e r := { r with evidence := e }

instance : StoredRecord DomainId DomainRecord where
  key r := r.id
  validate := DomainRecord.validate
  encode := encodeDomain
  currentness r := r.currentness
  stamp r := r.stamp
  withCurrentness c r := { r with currentness := c }
  withStamp t r := { r with stamp := t }
  withEvidence e r := { r with evidence := e }

instance : StoredRecord PolicyId PolicyRecord where
  key r := r.id
  validate := PolicyRecord.validate
  encode := encodePolicy
  currentness r := r.currentness
  stamp r := r.stamp
  withCurrentness c r := { r with currentness := c }
  withStamp t r := { r with stamp := t }
  withEvidence e r := { r with evidence := e }

instance : StoredRecord ArtifactId ArtifactRecord where
  key r := r.id
  validate := ArtifactRecord.validate
  encode := encodeArtifact
  currentness r := r.currentness
  stamp r := r.stamp
  withCurrentness c r := { r with currentness := c }
  withStamp t r := { r with stamp := t }
  withEvidence e r := { r with evidence := e }

instance : StoredRecord WorkloadClassId WorkloadClassRecord where
  key r := r.id
  validate := WorkloadClassRecord.validate
  encode := encodeWorkloadClass
  currentness r := r.currentness
  stamp r := r.stamp
  withCurrentness c r := { r with currentness := c }
  withStamp t r := { r with stamp := t }
  withEvidence e r := { r with evidence := e }

instance : StoredRecord WorkloadId WorkloadRecord where
  key r := r.id
  validate := WorkloadRecord.validate
  encode := encodeWorkload
  currentness r := r.currentness
  stamp r := r.stamp
  withCurrentness c r := { r with currentness := c }
  withStamp t r := { r with stamp := t }
  withEvidence e r := { r with evidence := e }

instance : StoredRecord PlacementId PlacementRecord where
  key r := r.id
  validate := PlacementRecord.validate
  encode := encodePlacement
  currentness r := r.currentness
  stamp r := r.stamp
  withCurrentness c r := { r with currentness := c }
  withStamp t r := { r with stamp := t }
  withEvidence e r := { r with evidence := e }

instance : StoredRecord MigrationId MigrationRecord where
  key r := r.id
  validate := MigrationRecord.validate
  encode := encodeMigration
  currentness r := r.currentness
  stamp r := r.stamp
  withCurrentness c r := { r with currentness := c }
  withStamp t r := { r with stamp := t }
  withEvidence e r := { r with evidence := e }

/-- `PortabilityKey`: one assessment for each workload and destination. -/
@[ext] structure PortabilityKey where
  workload : WorkloadId := {}
  destination : ClusterId := {}
  deriving DecidableEq, Repr

namespace PortabilityKey

/-- `operator<`: the workload first, then the destination. -/
instance : Ord PortabilityKey where
  compare a b := (compare a.workload b.workload).then (compare a.destination b.destination)

theorem compare_eq_lex : (compare : PortabilityKey → PortabilityKey → Ordering) =
    compareLex (compareOn workload) (compareOn destination) := rfl

instance : Std.TransOrd PortabilityKey := by
  unfold Std.TransOrd
  rw [compare_eq_lex]
  infer_instance

instance : Std.LawfulEqOrd PortabilityKey where
  eq_of_compare {a b} h := by
    obtain ⟨hw, hd⟩ := Ordering.then_eq_eq.mp h
    exact PortabilityKey.ext (Std.LawfulEqOrd.eq_of_compare hw) (Std.LawfulEqOrd.eq_of_compare hd)

end PortabilityKey

instance : StoredRecord PortabilityKey PortabilityAssessment where
  key r := ⟨r.workload, r.destination⟩
  validate := PortabilityAssessment.validate
  encode := encodePortability
  currentness r := r.currentness
  stamp r := r.stamp
  withCurrentness c r := { r with currentness := c }
  withStamp t r := { r with stamp := t }
  withEvidence e r := { r with evidence := e }

/-! ## Kinds -/

/-- The fourteen collections of the observatory. -/
inductive RecordKind where
  | federation | site | cluster | acceleratorClass | runtime | backend | domain | policy
  | artifact | workloadClass | workload | placement | migration | portability
  deriving DecidableEq, Repr

namespace RecordKind

/-- The keys of a collection. -/
@[reducible] def Key : RecordKind → Type
  | .federation => FederationId
  | .site => SiteId
  | .cluster => ClusterId
  | .acceleratorClass => AcceleratorClassId
  | .runtime => RuntimeId
  | .backend => BackendId
  | .domain => DomainId
  | .policy => PolicyId
  | .artifact => ArtifactId
  | .workloadClass => WorkloadClassId
  | .workload => WorkloadId
  | .placement => PlacementId
  | .migration => MigrationId
  | .portability => PortabilityKey

/-- The records of a collection. -/
@[reducible] def Record : RecordKind → Type
  | .federation => FederationRecord
  | .site => SiteRecord
  | .cluster => ClusterRecord
  | .acceleratorClass => AcceleratorClassRecord
  | .runtime => RuntimeRecord
  | .backend => BackendRecord
  | .domain => DomainRecord
  | .policy => PolicyRecord
  | .artifact => ArtifactRecord
  | .workloadClass => WorkloadClassRecord
  | .workload => WorkloadRecord
  | .placement => PlacementRecord
  | .migration => MigrationRecord
  | .portability => PortabilityAssessment

instance : (k : RecordKind) → Ord k.Key
  | .federation => inferInstanceAs (Ord FederationId)
  | .site => inferInstanceAs (Ord SiteId)
  | .cluster => inferInstanceAs (Ord ClusterId)
  | .acceleratorClass => inferInstanceAs (Ord AcceleratorClassId)
  | .runtime => inferInstanceAs (Ord RuntimeId)
  | .backend => inferInstanceAs (Ord BackendId)
  | .domain => inferInstanceAs (Ord DomainId)
  | .policy => inferInstanceAs (Ord PolicyId)
  | .artifact => inferInstanceAs (Ord ArtifactId)
  | .workloadClass => inferInstanceAs (Ord WorkloadClassId)
  | .workload => inferInstanceAs (Ord WorkloadId)
  | .placement => inferInstanceAs (Ord PlacementId)
  | .migration => inferInstanceAs (Ord MigrationId)
  | .portability => inferInstanceAs (Ord PortabilityKey)

instance (k : RecordKind) : Std.TransOrd k.Key := by cases k <;> infer_instance

instance (k : RecordKind) : Std.LawfulEqOrd k.Key := by cases k <;> infer_instance

instance : (k : RecordKind) → StoredRecord k.Key k.Record
  | .federation => inferInstanceAs (StoredRecord FederationId FederationRecord)
  | .site => inferInstanceAs (StoredRecord SiteId SiteRecord)
  | .cluster => inferInstanceAs (StoredRecord ClusterId ClusterRecord)
  | .acceleratorClass => inferInstanceAs (StoredRecord AcceleratorClassId AcceleratorClassRecord)
  | .runtime => inferInstanceAs (StoredRecord RuntimeId RuntimeRecord)
  | .backend => inferInstanceAs (StoredRecord BackendId BackendRecord)
  | .domain => inferInstanceAs (StoredRecord DomainId DomainRecord)
  | .policy => inferInstanceAs (StoredRecord PolicyId PolicyRecord)
  | .artifact => inferInstanceAs (StoredRecord ArtifactId ArtifactRecord)
  | .workloadClass => inferInstanceAs (StoredRecord WorkloadClassId WorkloadClassRecord)
  | .workload => inferInstanceAs (StoredRecord WorkloadId WorkloadRecord)
  | .placement => inferInstanceAs (StoredRecord PlacementId PlacementRecord)
  | .migration => inferInstanceAs (StoredRecord MigrationId MigrationRecord)
  | .portability => inferInstanceAs (StoredRecord PortabilityKey PortabilityAssessment)

/-- One collection: `std::map` from the record's key. -/
abbrev Table (k : RecordKind) := Std.TreeMap k.Key k.Record

end RecordKind

end FederationObservatory
