import FederationObservatory.Foundation.Evidence
import FederationObservatory.Foundation.Codec

/-!
# Capabilities

`capability.hpp`: typed capability keys and values, the entry a cluster, an accelerator class, a
runtime or a policy publishes under a key, and the set of such entries. A set is filled through
`put` only, which refuses an entry whose key is not valid; the structure carries that.
-/

namespace FederationObservatory

open Sorting

/-! ## Keys -/

/-- `CapabilityKey`. -/
inductive CapabilityKey where
  | unknown | acceleratorArchitecture | acceleratorVendor | acceleratorFamily | acceleratorModel
  | computeCapability | precisionFp64 | precisionFp32 | precisionTf32 | precisionFp16
  | precisionBf16 | precisionFp8E4M3 | precisionFp8E5M2 | precisionFp6 | precisionInt8
  | precisionInt4 | precisionFp4 | memoryBytes | memoryBandwidthGbps | memoryType | memoryEcc
  | interconnectType | interconnectBandwidthGbps | nvlinkGeneration | pcieGeneration
  | partitionSupport | partitionModes | partitionGeometry | partitionMaxInstances | runtimeApi
  | runtimeVersion | runtimeAbi | runtimeGeneration | driverApi | driverVersion | driverAbi
  | driverGeneration | compilerTarget | compilerVersion | kernelFormat | kernelArchitectures
  | collectiveSupport | collectiveBackend | collectiveMaxGroupSize | rdmaCapability
  | gpuDirectCapability | gpuDirectStorage | cxlCapability | dpuSmartNicCapability
  | artifactFormat | artifactFormats | quantizationSupport | quantizationFormats
  | sparseExecutionSupport | inferenceServingBackend | firmwareGeneration | containerRuntime
  | operatingSystem | securityIsolation | offloadCapability | custom
  deriving DecidableEq, Repr

namespace CapabilityKey

/-- The 16-bit value of a key. -/
def code : CapabilityKey → UInt16
  | .unknown => 0
  | .acceleratorArchitecture => 1
  | .acceleratorVendor => 2
  | .acceleratorFamily => 3
  | .acceleratorModel => 4
  | .computeCapability => 5
  | .precisionFp64 => 20
  | .precisionFp32 => 21
  | .precisionTf32 => 22
  | .precisionFp16 => 23
  | .precisionBf16 => 24
  | .precisionFp8E4M3 => 25
  | .precisionFp8E5M2 => 26
  | .precisionFp6 => 27
  | .precisionInt8 => 28
  | .precisionInt4 => 29
  | .precisionFp4 => 30
  | .memoryBytes => 40
  | .memoryBandwidthGbps => 41
  | .memoryType => 42
  | .memoryEcc => 43
  | .interconnectType => 60
  | .interconnectBandwidthGbps => 61
  | .nvlinkGeneration => 62
  | .pcieGeneration => 63
  | .partitionSupport => 80
  | .partitionModes => 81
  | .partitionGeometry => 82
  | .partitionMaxInstances => 83
  | .runtimeApi => 100
  | .runtimeVersion => 101
  | .runtimeAbi => 102
  | .runtimeGeneration => 103
  | .driverApi => 104
  | .driverVersion => 105
  | .driverAbi => 106
  | .driverGeneration => 107
  | .compilerTarget => 120
  | .compilerVersion => 121
  | .kernelFormat => 122
  | .kernelArchitectures => 123
  | .collectiveSupport => 140
  | .collectiveBackend => 141
  | .collectiveMaxGroupSize => 142
  | .rdmaCapability => 160
  | .gpuDirectCapability => 161
  | .gpuDirectStorage => 162
  | .cxlCapability => 163
  | .dpuSmartNicCapability => 164
  | .artifactFormat => 180
  | .artifactFormats => 181
  | .quantizationSupport => 182
  | .quantizationFormats => 183
  | .sparseExecutionSupport => 184
  | .inferenceServingBackend => 185
  | .firmwareGeneration => 200
  | .containerRuntime => 201
  | .operatingSystem => 202
  | .securityIsolation => 203
  | .offloadCapability => 204
  | .custom => 4096

/-- Every key. -/
def enumerators : List CapabilityKey :=
  [.unknown, .acceleratorArchitecture, .acceleratorVendor, .acceleratorFamily, .acceleratorModel,
   .computeCapability, .precisionFp64, .precisionFp32, .precisionTf32, .precisionFp16,
   .precisionBf16, .precisionFp8E4M3, .precisionFp8E5M2, .precisionFp6, .precisionInt8,
   .precisionInt4, .precisionFp4, .memoryBytes, .memoryBandwidthGbps, .memoryType, .memoryEcc,
   .interconnectType, .interconnectBandwidthGbps, .nvlinkGeneration, .pcieGeneration,
   .partitionSupport, .partitionModes, .partitionGeometry, .partitionMaxInstances, .runtimeApi,
   .runtimeVersion, .runtimeAbi, .runtimeGeneration, .driverApi, .driverVersion, .driverAbi,
   .driverGeneration, .compilerTarget, .compilerVersion, .kernelFormat, .kernelArchitectures,
   .collectiveSupport, .collectiveBackend, .collectiveMaxGroupSize, .rdmaCapability,
   .gpuDirectCapability, .gpuDirectStorage, .cxlCapability, .dpuSmartNicCapability,
   .artifactFormat, .artifactFormats, .quantizationSupport, .quantizationFormats,
   .sparseExecutionSupport, .inferenceServingBackend, .firmwareGeneration, .containerRuntime,
   .operatingSystem, .securityIsolation, .offloadCapability, .custom]

/-- `to_string`: the name in the key table. -/
def name : CapabilityKey → String
  | .unknown => "unknown"
  | .acceleratorArchitecture => "accelerator.architecture"
  | .acceleratorVendor => "accelerator.vendor"
  | .acceleratorFamily => "accelerator.family"
  | .acceleratorModel => "accelerator.model"
  | .computeCapability => "accelerator.compute_capability"
  | .precisionFp64 => "precision.fp64"
  | .precisionFp32 => "precision.fp32"
  | .precisionTf32 => "precision.tf32"
  | .precisionFp16 => "precision.fp16"
  | .precisionBf16 => "precision.bf16"
  | .precisionFp8E4M3 => "precision.fp8_e4m3"
  | .precisionFp8E5M2 => "precision.fp8_e5m2"
  | .precisionFp6 => "precision.fp6"
  | .precisionInt8 => "precision.int8"
  | .precisionInt4 => "precision.int4"
  | .precisionFp4 => "precision.fp4"
  | .memoryBytes => "memory.bytes"
  | .memoryBandwidthGbps => "memory.bandwidth_gbps"
  | .memoryType => "memory.type"
  | .memoryEcc => "memory.ecc"
  | .interconnectType => "interconnect.type"
  | .interconnectBandwidthGbps => "interconnect.bandwidth_gbps"
  | .nvlinkGeneration => "interconnect.nvlink_generation"
  | .pcieGeneration => "interconnect.pcie_generation"
  | .partitionSupport => "partition.support"
  | .partitionModes => "partition.modes"
  | .partitionGeometry => "partition.geometry"
  | .partitionMaxInstances => "partition.max_instances"
  | .runtimeApi => "runtime.api"
  | .runtimeVersion => "runtime.version"
  | .runtimeAbi => "runtime.abi"
  | .runtimeGeneration => "runtime.generation"
  | .driverApi => "driver.api"
  | .driverVersion => "driver.version"
  | .driverAbi => "driver.abi"
  | .driverGeneration => "driver.generation"
  | .compilerTarget => "compiler.target"
  | .compilerVersion => "compiler.version"
  | .kernelFormat => "kernel.format"
  | .kernelArchitectures => "kernel.architectures"
  | .collectiveSupport => "collective.support"
  | .collectiveBackend => "collective.backend"
  | .collectiveMaxGroupSize => "collective.max_group_size"
  | .rdmaCapability => "fabric.rdma"
  | .gpuDirectCapability => "fabric.gpu_direct"
  | .gpuDirectStorage => "fabric.gpu_direct_storage"
  | .cxlCapability => "fabric.cxl"
  | .dpuSmartNicCapability => "fabric.dpu_smartnic"
  | .artifactFormat => "artifact.format"
  | .artifactFormats => "artifact.formats"
  | .quantizationSupport => "quantization.support"
  | .quantizationFormats => "quantization.formats"
  | .sparseExecutionSupport => "sparse.execution"
  | .inferenceServingBackend => "serving.backend"
  | .firmwareGeneration => "firmware.generation"
  | .containerRuntime => "environment.container_runtime"
  | .operatingSystem => "environment.os"
  | .securityIsolation => "environment.isolation"
  | .offloadCapability => "offload.capability"
  | .custom => "custom"

/-- `valid_capability_key`: the values a decoded key may have. -/
def ofCode (raw : UInt16) : Option CapabilityKey :=
  enumerators.find? fun k => k ≠ .unknown ∧ k.code = raw

theorem ofCode_code {k : CapabilityKey} (h : k ≠ .unknown) : ofCode k.code = some k := by
  cases k with
  | unknown => exact absurd rfl h
  | _ => decide

theorem code_injective : Function.Injective code := by
  have hfind : ∀ k : CapabilityKey, enumerators.find? (fun j => j.code = k.code) = some k := by
    intro k
    cases k <;> decide
  intro a b h
  have ha := hfind a
  rw [h, hfind b] at ha
  exact (Option.some.inj ha).symm

theorem linear_code : Linear fun a b : CapabilityKey => decide (a.code < b.code) := by
  refine ⟨⟨?_, ?_⟩, ?_⟩
  · intro a b c hab hbc
    simp only [decide_eq_false_iff_not, UInt16.not_lt] at hab hbc ⊢
    exact UInt16.le_trans hab hbc
  · intro a b
    simp only [decide_eq_false_iff_not, UInt16.not_lt]
    exact UInt16.le_total _ _
  · intro a b hab hba
    simp only [decide_eq_false_iff_not, UInt16.not_lt] at hab hba
    exact code_injective (UInt16.le_antisymm hba hab)

end CapabilityKey

/-- `CapabilityRef`: a typed key, or a vendor extension. -/
structure CapabilityRef where
  key : CapabilityKey := .unknown
  custom : CapabilityKeyId := {}
  deriving DecidableEq, Repr

namespace CapabilityRef

/-- `CapabilityRef::valid`. -/
def valid (r : CapabilityRef) : Bool :=
  if r.key = .unknown then false
  else if r.key = .custom then !r.custom.empty
  else r.custom.empty

/-- `CapabilityRef::to_string`. -/
def toText (r : CapabilityRef) : Text :=
  if r.key = .custom then .ofString "custom:" ++ r.custom.value else .ofString r.key.name

/-- `operator<`. -/
def lt (a b : CapabilityRef) : Bool :=
  if a.key ≠ b.key then decide (a.key.code < b.key.code) else less a.custom b.custom

theorem weak_lt : Weak lt := Weak.lex CapabilityKey.linear_code (weak_less.comap custom)

end CapabilityRef

/-! ## Values -/

/-- `CapabilityValue`: the alternatives of its variant, in order. -/
inductive CapabilityValue where
  | unknown
  | boolean (v : Bool)
  | integer (v : Int64)
  | unsignedInteger (v : UInt64)
  | number (v : Double)
  | text (v : Text)
  | textSet (v : List Text)
  deriving DecidableEq, Repr

namespace CapabilityValue

/-- `CapabilityValue::text`, which shortens a text that is too long. -/
def ofText (v : Text) : CapabilityValue :=
  .text (if maxStringFieldBytes < v.length then Text.truncateWithMarker v maxStringFieldBytes
    else v)

/-- `CapabilityValue::text_set`: bounded, sorted, without repetitions. -/
def ofTextSet (values : List Text) : Result CapabilityValue := do
  failIf (decide (maxValueSetEntries < values.length)) .boundExceeded
    "capability value set exceeds the maximum size" (Text.ofNat values.length)
  values.forM fun entry => failIf (decide (256 < entry.length)) .boundExceeded
    "capability value set entry exceeds the maximum length"
  pure (.textSet (unique (stableSort less values)))

/-- `as_integer`: an unsigned value above the signed range is clamped. -/
def asInteger (v : CapabilityValue) (fallback : Int64) : Int64 :=
  match v with
  | .integer i => i
  | .unsignedInteger u => if 0x7FFFFFFFFFFFFFFF < u then 0x7FFFFFFFFFFFFFFF else u.toInt64
  | _ => fallback

/-- `operator==`: the same alternative, and equal. -/
def eq : CapabilityValue → CapabilityValue → Bool
  | .number a, .number b => a.eq b
  | a, b => decide (a = b)

/-- The index of the alternative. -/
def index : CapabilityValue → Nat
  | .unknown => 0
  | .boolean _ => 1
  | .integer _ => 2
  | .unsignedInteger _ => 3
  | .number _ => 4
  | .text _ => 5
  | .textSet _ => 6

/-- `operator<`. -/
def lt : CapabilityValue → CapabilityValue → Bool
  | .boolean a, .boolean b => !a && b
  | .integer a, .integer b => decide (a < b)
  | .unsignedInteger a, .unsignedInteger b => decide (a < b)
  | .number a, .number b => a.lt b
  | .text a, .text b => less a b
  | .textSet a, .textSet b => less a b
  | a, b => decide (a.index < b.index)

end CapabilityValue

/-! ## Entries and sets -/

/-- `CapabilityEntry`. -/
structure CapabilityEntry where
  key : CapabilityRef := {}
  value : CapabilityValue := .unknown
  precision : Precision := .unknown
  evidenceClass : EvidenceClass := .unknown
  generation : EvidenceGeneration := {}
  note : Text := []
  deriving DecidableEq, Repr

namespace CapabilityEntry

/-- `operator==`. -/
def eq (a b : CapabilityEntry) : Bool :=
  a.key == b.key && a.value.eq b.value && a.precision == b.precision &&
    a.evidenceClass == b.evidenceClass && a.generation == b.generation && a.note == b.note

/-- `operator<`. -/
def lt (a b : CapabilityEntry) : Bool :=
  if a.key ≠ b.key then a.key.lt b.key
  else if !a.value.eq b.value then a.value.lt b.value
  else less a.generation b.generation

theorem lt_of_key_ne {a b : CapabilityEntry} (h : a.key ≠ b.key) : a.lt b = a.key.lt b.key :=
  if_pos h

/-- Nothing comes before itself, not even a NaN. -/
theorem lt_self (a : CapabilityEntry) : a.lt a = false := by
  have hless : less a.generation a.generation = false := by simp [less]
  unfold lt
  rw [if_neg (by simp)]
  split
  · rename_i hne
    cases hvalue : a.value with
    | number v =>
      have hnan : v.isNaN = true := by simpa [hvalue, CapabilityValue.eq, Double.eq] using hne
      simp [CapabilityValue.lt, Double.lt, hnan]
    | _ => simp [hvalue, CapabilityValue.eq] at hne
  · exact hless

end CapabilityEntry

theorem CapabilityEntry.valid_nil : ∀ e ∈ ([] : List CapabilityEntry), e.key.valid = true := by
  simp

theorem CapabilityEntry.pairwise_nil :
    ([] : List CapabilityEntry).Pairwise (fun a b => b.lt a = false) :=
  List.Pairwise.nil

theorem CapabilityEntry.nodup_nil : (([] : List CapabilityEntry).map (·.key)).Nodup :=
  List.nodup_nil

theorem CapabilityEntry.notes_nil : ∀ e ∈ ([] : List CapabilityEntry), e.note.length ≤ 512 := by
  simp

/-- `CapabilitySet`: entries sorted by their keys, which are valid and different, with notes that
    are not too long. -/
@[ext] structure CapabilitySet where
  entries : List CapabilityEntry := []
  limit : Nat := maxCapabilityEntriesPerPublication
  valid : ∀ e ∈ entries, e.key.valid = true := by exact CapabilityEntry.valid_nil
  sorted : entries.Pairwise (fun a b => b.lt a = false) := by exact CapabilityEntry.pairwise_nil
  distinct : (entries.map (·.key)).Nodup := by exact CapabilityEntry.nodup_nil
  notes : ∀ e ∈ entries, e.note.length ≤ 512 := by exact CapabilityEntry.notes_nil
  deriving DecidableEq

namespace CapabilitySet

/-- The entries with one more: it replaces the one under its key or is appended. -/
def replaceOrAppend (entries : List CapabilityEntry) (entry : CapabilityEntry) :
    List CapabilityEntry :=
  if entries.any fun e => e.key = entry.key then
    entries.replaceF fun e => if e.key = entry.key then some entry else none
  else entries ++ [entry]

/-- The entries after a valid entry has been put: the list is sorted again. -/
def insert (entries : List CapabilityEntry) (entry : CapabilityEntry) : List CapabilityEntry :=
  stableSort CapabilityEntry.lt (replaceOrAppend entries entry)

theorem mem_replaceF {entries : List CapabilityEntry} {entry e : CapabilityEntry}
    (h : e ∈ entries.replaceF fun e => if e.key = entry.key then some entry else none) :
    e = entry ∨ e ∈ entries := by
  induction entries with
  | nil => simp at h
  | cons x entries ih =>
    rw [List.replaceF_cons] at h
    split at h
    · rcases List.mem_cons.mp h with rfl | h
      · exact .inr (by simp)
      · rcases ih h with rfl | h
        · exact .inl rfl
        · exact .inr (by simp [h])
    · rename_i hsome
      rcases List.mem_cons.mp h with rfl | h
      · split at hsome
        · exact .inl (Option.some.inj hsome).symm
        · simp at hsome
      · exact .inr (by simp [h])

theorem mem_insert {entries : List CapabilityEntry} {entry e : CapabilityEntry}
    (h : e ∈ insert entries entry) : e = entry ∨ e ∈ entries := by
  rw [insert, (perm_stableSort _ _).mem_iff, replaceOrAppend] at h
  split at h
  · exact mem_replaceF h
  · simp only [List.mem_append, List.mem_singleton] at h
    exact h.symm

theorem map_key_replaceF (entries : List CapabilityEntry) (entry : CapabilityEntry) :
    (entries.replaceF fun e => if e.key = entry.key then some entry else none).map (·.key) =
      entries.map (·.key) := by
  induction entries with
  | nil => rfl
  | cons x entries ih =>
    rw [List.replaceF_cons]
    split
    · rw [List.map_cons, List.map_cons, ih]
    · rename_i hsome
      split at hsome
      · rename_i hkey
        rw [← Option.some.inj hsome, List.map_cons, List.map_cons, hkey]
      · cases hsome

/-- The keys stay different. -/
theorem distinct_replaceOrAppend {entries : List CapabilityEntry} (entry : CapabilityEntry)
    (h : (entries.map (·.key)).Nodup) : ((replaceOrAppend entries entry).map (·.key)).Nodup := by
  unfold replaceOrAppend
  split
  · rw [map_key_replaceF]
    exact h
  · rename_i hnone
    rw [List.map_append, List.map_cons, List.map_nil, List.nodup_append_comm]
    refine List.nodup_cons.mpr ⟨?_, h⟩
    intro hmem
    obtain ⟨e, he, hkey⟩ := List.mem_map.mp hmem
    exact hnone (List.any_eq_true.mpr ⟨e, he, by simpa using hkey⟩)

/-- Entries of different keys are compared by their keys. -/
theorem lt_eq_of_distinct {entries : List CapabilityEntry} (h : (entries.map (·.key)).Nodup) :
    ∀ a ∈ entries, ∀ b ∈ entries, b.lt a = b.key.lt a.key := by
  intro a ha b hb
  by_cases hkey : b.key = a.key
  · have hsame : b = a := List.inj_on_of_nodup_map h hb ha hkey
    rw [hsame, CapabilityEntry.lt_self]
    simp [CapabilityRef.lt, less]
  · exact CapabilityEntry.lt_of_key_ne hkey

theorem sorted_insert {entries : List CapabilityEntry} (entry : CapabilityEntry)
    (h : (entries.map (·.key)).Nodup) :
    (insert entries entry).Pairwise fun a b => b.lt a = false := by
  have hdistinct := distinct_replaceOrAppend entry h
  have hagree := lt_eq_of_distinct hdistinct
  have hsort : insert entries entry =
      stableSort (fun a b => a.key.lt b.key) (replaceOrAppend entries entry) :=
    stableSort_congr hagree
  have hpairwise := (CapabilityRef.weak_lt.comap CapabilityEntry.key).pairwise
    (replaceOrAppend entries entry)
  rw [hsort]
  refine hpairwise.imp_of_mem ?_
  intro a b ha hb hlt
  rw [(perm_stableSort _ _).mem_iff] at ha hb
  rw [hagree a ha b hb]
  exact hlt

theorem distinct_insert {entries : List CapabilityEntry} (entry : CapabilityEntry)
    (h : (entries.map (·.key)).Nodup) : ((insert entries entry).map (·.key)).Nodup :=
  (((perm_stableSort _ _).map _).nodup_iff).mpr (distinct_replaceOrAppend entry h)

/-- `CapabilitySet::put`. -/
def put (set : CapabilitySet) (entry : CapabilityEntry) : Result CapabilitySet :=
  if hvalid : entry.key.valid = true then
    let entry' := { entry with
      note := if 512 < entry.note.length then Text.truncateWithMarker entry.note 512
        else entry.note }
    if set.limit ≤ set.entries.length ∧ ¬ set.entries.any fun e => e.key = entry.key then
      fail .boundExceeded "capability set is full"
        (Text.ofNat set.limit ++ .ofString " entries retained")
    else
      .ok { set with
        entries := insert set.entries entry'
        valid := by
          intro e he
          rcases mem_insert he with rfl | he
          · exact hvalid
          · exact set.valid e he
        sorted := sorted_insert entry' set.distinct
        distinct := distinct_insert entry' set.distinct
        notes := by
          intro e he
          rcases mem_insert he with rfl | he
          · simp only [entry']
            split
            · exact Text.length_truncateWithMarker_le _ _
            · omega
          · exact set.notes e he }
  else fail .invalidArgument "capability key is not valid" entry.key.toText

/-- `std::equal` on the entries of two sets of one size. -/
def identical (a b : CapabilitySet) : Bool :=
  a.entries.length == b.entries.length &&
    (a.entries.zip b.entries).all fun (x, y) => x.eq y

end CapabilitySet

/-! ## Requirements -/

/-- `CapabilityComparator`. -/
inductive CapabilityComparator where
  | present | absent | equals | notEquals | atLeast | atMost | anyOf | allOf
  deriving DecidableEq, Repr

instance : WireEnum CapabilityComparator where
  enumerators := [.present, .absent, .equals, .notEquals, .atLeast, .atMost, .anyOf, .allOf]
  code e := UInt8.ofNat e.ctorIdx
  getElem?_code e := by cases e <;> rfl

/-- `CapabilityRequirement`. -/
structure CapabilityRequirement where
  key : CapabilityRef := {}
  comparator : CapabilityComparator := .present
  value : CapabilityValue := .unknown
  optional : Bool := false
  rationale : Text := []
  deriving DecidableEq, Repr

/-- Some entry of the set differs from itself: its value is a NaN. -/
def CapabilitySet.holdsNaN (set : CapabilitySet) : Bool :=
  set.entries.any fun e => !e.eq e

theorem CapabilitySet.identical_self (set : CapabilitySet) :
    set.identical set = !set.holdsNaN := by
  have hzip : ∀ l : List CapabilityEntry,
      ((l.zip l).all fun (x, y) => x.eq y) = !(l.any fun e => !e.eq e) := by
    intro l
    induction l with
    | nil => rfl
    | cons e l ih => simp [ih]
  simp [identical, holdsNaN, hzip]

end FederationObservatory
