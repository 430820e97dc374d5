import FederationObservatory.Model.Requirements
import FederationObservatory.RecordsCodec.RoundTrip

/-!
# Capability sets on the wire

What becomes of a capability set that is encoded and decoded again, and of the verdicts on it.
Only unsigned integers change: they share a tag with the signed ones, come back signed, and those
above the signed range come back clamped. The set is then not the one that was sent, although a
verdict can change only through a value that was clamped.
-/

namespace FederationObservatory

open ByteCodec Sorting

/-! ## Sets that can be built -/

/-- The values that the constructors of `CapabilityValue` make. -/
inductive CapabilityValue.Made : CapabilityValue → Prop
  | unknown : Made .unknown
  | boolean (v : Bool) : Made (.boolean v)
  | integer (v : Int64) : Made (.integer v)
  | unsignedInteger (v : UInt64) : Made (.unsignedInteger v)
  | number (v : Double) : Made (.number v)
  | text (v : Text) : Made (.ofText v)
  | textSet {values : List Text} {v : CapabilityValue}
      (h : CapabilityValue.ofTextSet values = .ok v) : Made v

/-- The sets that are built by `put`, from an empty one of any limit. -/
inductive CapabilitySet.Built : CapabilitySet → Prop
  | new (limit : Nat) : Built { limit }
  | setLimit {set : CapabilitySet} (h : Built set) (limit : Nat) : Built { set with limit }
  | put {set set' : CapabilitySet} {entry : CapabilityEntry} (h : Built set)
      (hvalue : entry.value.Made) (hput : set.put entry = .ok set') : Built set'

namespace CapabilityValue

/-- Texts and sets of texts as the constructors leave them. -/
def Canonical : CapabilityValue → Prop
  | .text v => v.length ≤ maxStringFieldBytes
  | .textSet v => unique (stableSort less v) = v ∧ v.length ≤ maxValueSetEntries ∧
      ∀ entry ∈ v, entry.length ≤ 256
  | _ => True

theorem canonical_of_made {v : CapabilityValue} (h : v.Made) : v.Canonical := by
  cases h with
  | text v =>
    unfold ofText
    split
    · exact Text.length_truncateWithMarker_le _ _
    · exact Nat.not_lt.mp ‹_›
  | textSet h =>
    rename_i values
    simp only [ofTextSet, bind_eq_ok, failIf_eq_ok, forM_eq_ok, decide_eq_false_iff_not,
      Nat.not_lt, exists_and_left, exists_const, pure, Except.pure, Except.ok.injEq] at h
    obtain ⟨hfew, hshort, rfl⟩ := h
    have hlength : (unique (stableSort less values)).length ≤ values.length :=
      ((unique_sublist _).length_le).trans_eq (length_stableSort less values)
    refine ⟨?_, hlength.trans hfew, ?_⟩
    · rw [stableSort_unique, unique_unique]
    · intro entry hentry
      exact hshort entry ((perm_stableSort less values).mem_iff.mp (mem_unique.mp hentry))
  | _ => trivial

theorem Canonical.storable {v : CapabilityValue} (h : v.Canonical) : v.Storable := by
  cases v with
  | textSet v =>
    obtain ⟨hsorted, hfew, hshort⟩ := h
    exact ⟨hsorted.symm ▸ hfew, hshort⟩
  | _ => trivial

/-- An unsigned integer. -/
def isUnsigned : CapabilityValue → Bool
  | .unsignedInteger _ => true
  | _ => false

theorem Canonical.readBack_eq_self {v : CapabilityValue} (h : v.Canonical) :
    v.readBack = v ↔ v.isUnsigned = false := by
  cases v with
  | unsignedInteger v => simp [readBack, isUnsigned]
  | textSet v => simp [readBack, isUnsigned, h.1]
  | _ => simp [readBack, isUnsigned]

end CapabilityValue

namespace CapabilitySet

theorem length_insert (entries : List CapabilityEntry) (entry : CapabilityEntry) :
    (CapabilitySet.insert entries entry).length =
      if entries.any fun e => e.key = entry.key then entries.length else entries.length + 1 := by
  have hreplace := congrArg List.length (map_key_replaceF entries entry)
  rw [List.length_map, List.length_map] at hreplace
  rw [CapabilitySet.insert, length_stableSort, replaceOrAppend]
  split
  · exact hreplace
  · exact List.length_append

/-- What an accepted `put` leaves. -/
theorem put_eq_ok {set set' : CapabilitySet} {entry : CapabilityEntry}
    (h : set.put entry = .ok set') :
    set'.limit = set.limit ∧
      (∀ e ∈ set'.entries, e.value = entry.value ∨ e ∈ set.entries) ∧
      (set.entries.length ≤ set.limit → set'.entries.length ≤ set'.limit) := by
  unfold put at h
  split at h
  · dsimp only at h
    split at h
    · cases h
    · rename_i hroom
      obtain rfl := Except.ok.inj h
      refine ⟨rfl, ?_, ?_⟩
      · intro e he
        exact (mem_insert he).imp_left fun hsame => by rw [hsame]
      · intro hfits
        change (CapabilitySet.insert set.entries _).length ≤ set.limit
        rw [length_insert]
        dsimp only
        split
        · exact hfits
        · rename_i hnew
          by_contra hfull
          exact hroom ⟨by omega, hnew⟩
  · cases h

theorem Built.canonical {set : CapabilitySet} (h : set.Built) :
    ∀ e ∈ set.entries, e.value.Canonical := by
  induction h with
  | new limit => simp
  | setLimit h limit ih => exact ih
  | put h hvalue hput ih =>
    intro e he
    rcases (put_eq_ok hput).2.1 e he with hsame | hmem
    · exact hsame ▸ CapabilityValue.canonical_of_made hvalue
    · exact ih e hmem

end CapabilitySet

/-! ## Sizes -/

theorem size_encodeCapabilityValue_le {value : CapabilityValue} (h : value.Canonical) :
    Put.size (encodeCapabilityValue value) ≤ 5 + 32 * (4 + maxStringFieldBytes) := by
  cases value with
  | text v =>
    have hsize := Encoder.size_str_le v
    simp only [encodeCapabilityValue, Put.seq_cons, Put.seq_nil, Put.size_append]
    change 1 + (_ + 0) ≤ _
    omega
  | textSet v =>
    obtain ⟨hsorted, hfew, -⟩ := h
    have hsize : Put.size (v.flatMap Encoder.str) ≤ v.length * (4 + maxStringFieldBytes) :=
      Put.size_flatMap_le fun entry _ => Encoder.size_str_le entry
    have hmul := Nat.mul_le_mul_right (4 + maxStringFieldBytes) hfew
    simp only [encodeCapabilityValue, encTextVector, encCounted, hsorted, Put.seq_cons,
      Put.seq_nil, Put.size_append]
    change 1 + (4 + _ + 0) ≤ _
    simp only [maxValueSetEntries] at hmul
    omega
  | _ =>
    simp [encodeCapabilityValue, Put.seq, Put.size, Encoder.u8, Encoder.boolean, Encoder.i64,
      Encoder.u64, Encoder.f64, maxStringFieldBytes]

theorem size_encodeCapabilityEntry_le {entry : CapabilityEntry} (h : entry.value.Canonical) :
    Put.size (encodeCapabilityEntry entry) ≤ 35 * (4 + maxStringFieldBytes) := by
  have hkey := Encoder.size_str_le entry.key.custom.value
  have hvalue := size_encodeCapabilityValue_le h
  have hnote := Encoder.size_str_le entry.note
  simp only [encodeCapabilityEntry, encodeCapabilityRef, encId, Put.seq_cons, Put.seq_nil,
    Put.size_append]
  change 2 + (_ + 0) + (_ + (1 + (1 + (8 + (_ + 0))))) ≤ _
  simp only [maxStringFieldBytes] at hkey hvalue hnote ⊢
  omega

/-- The image of a set that is not too large is below 4 GiB. -/
theorem length_encodeCapabilitySet_lt {set : CapabilitySet} {bs : Bytes}
    (hvalues : ∀ e ∈ set.entries, e.value.Canonical)
    (hfew : set.entries.length ≤ maxCapabilityEntriesPerPublication)
    (h : (encodeCapabilitySet set).image = .ok bs) : bs.length < 2 ^ 32 := by
  have hsize : Put.size (set.entries.flatMap encodeCapabilityEntry) ≤
      set.entries.length * (35 * (4 + maxStringFieldBytes)) :=
    Put.size_flatMap_le fun e he => size_encodeCapabilityEntry_le (hvalues e he)
  have hmul := Nat.mul_le_mul_right (35 * (4 + maxStringFieldBytes)) hfew
  rw [Put.length_image h, encodeCapabilitySet, encCounted, Put.size_append]
  change 4 + _ < _
  simp only [maxCapabilityEntriesPerPublication, maxStringFieldBytes] at hmul hsize
  omega

theorem succeeds_encodeCapabilityValue {value : CapabilityValue} (h : value.Canonical) :
    Put.Succeeds (encodeCapabilityValue value) := by
  cases value with
  | text v =>
    simp only [encodeCapabilityValue, Put.seq_cons, Put.seq_nil, Put.succeeds_append]
    exact ⟨⟨_, Put.image_plain _⟩, Encoder.succeeds_str h, Put.succeeds_nil⟩
  | textSet v =>
    obtain ⟨hsorted, -, hshort⟩ := h
    simp only [encodeCapabilityValue, encTextVector, encCounted, hsorted, Put.seq_cons,
      Put.seq_nil, Put.succeeds_append]
    refine ⟨⟨_, Put.image_plain _⟩, ⟨⟨_, Put.image_plain _⟩, ?_⟩, Put.succeeds_nil⟩
    exact Put.succeeds_flatMap fun entry hentry =>
      Encoder.succeeds_str ((hshort entry hentry).trans (by decide))
  | _ => exact ⟨_, rfl⟩

/-- A set whose vendor keys are valid identifiers can be encoded. -/
theorem succeeds_encodeCapabilitySet {set : CapabilitySet}
    (hvalues : ∀ e ∈ set.entries, e.value.Canonical)
    (hkeys : ∀ e ∈ set.entries, e.key.custom.Storable) :
    Put.Succeeds (encodeCapabilitySet set) := by
  rw [encodeCapabilitySet, encCounted, Put.succeeds_append]
  refine ⟨⟨_, Put.image_plain _⟩, Put.succeeds_flatMap fun e he => ?_⟩
  have hcustom : e.key.custom.value.length ≤ maxStringFieldBytes := by
    have hkey := hkeys e he
    simp only [StrongId.Storable, isValidIdentifier, maxIdentifierLength, Bool.and_eq_false_iff,
      Bool.and_eq_true, List.isEmpty_iff, Bool.not_eq_false'] at hkey
    rcases hkey with hempty | ⟨⟨-, hshort⟩, -⟩
    · simp [hempty]
    · exact (of_decide_eq_true hshort).trans (by decide)
  have hnote : e.note.length ≤ maxStringFieldBytes := (set.notes e he).trans (by decide)
  simp only [encodeCapabilityEntry, encodeCapabilityRef, encId, Put.seq_cons, Put.seq_nil,
    Put.succeeds_append]
  exact ⟨⟨⟨_, Put.image_plain _⟩, Encoder.succeeds_str hcustom, Put.succeeds_nil⟩,
    succeeds_encodeCapabilityValue (hvalues e he), ⟨_, Put.image_plain _⟩, ⟨_, Put.image_plain _⟩,
    ⟨_, Put.image_plain _⟩, Encoder.succeeds_str hnote, Put.succeeds_nil⟩

/-! ## Round trips -/

/-- A decoded set respects the limit it is decoded with. -/
theorem length_decodeCapabilitySet_le {limit : Nat} {c c' : Cursor} {set : CapabilitySet}
    (h : decodeCapabilitySet limit c = .ok (set, c')) : set.entries.length ≤ limit := by
  obtain ⟨count, c₁, -, h⟩ := Get.bind_eq_ok.mp h
  obtain ⟨-, c₂, -, h⟩ := Get.bind_eq_ok.mp h
  have hinvariant : set.entries.length ≤ set.limit ∧ set.limit = limit := by
    refine Get.loop_invariant (I := fun acc : CapabilitySet =>
      acc.entries.length ≤ acc.limit ∧ acc.limit = limit) ?_ ⟨Nat.zero_le _, rfl⟩ h
    rintro acc c acc' c' ⟨hfits, hlimit⟩ hround
    obtain ⟨entry, m, -, hput⟩ := Get.bind_eq_ok.mp hround
    cases hresult : acc.put entry with
    | error e =>
      rw [hresult] at hput
      cases hput
    | ok out =>
      rw [hresult] at hput
      obtain ⟨rfl, -⟩ := Prod.mk.inj (Except.ok.inj hput)
      obtain ⟨hkept, -, hlength⟩ := CapabilitySet.put_eq_ok hresult
      exact ⟨hlength hfits, hkept.trans hlimit⟩
  exact hinvariant.2 ▸ hinvariant.1

namespace CapabilitySet

/-- A set is encoded, and decoded again in front of whatever follows it in the message or file. -/
def transfer (set : CapabilitySet) (rest : Bytes) : Result (CapabilitySet × Cursor) := do
  let bytes ← (encodeCapabilitySet set).image
  decodeCapabilitySet maxCapabilityEntriesPerPublication ⟨bytes ++ rest, false⟩

/-- What can be sent: not too many entries, with valid identifiers as vendor keys. -/
def Sendable (set : CapabilitySet) : Prop :=
  set.entries.length ≤ maxCapabilityEntriesPerPublication ∧
    ∀ e ∈ set.entries, e.key.custom.Storable
  deriving Decidable

/-- A built set is received exactly when it can be sent, and then as it is read back. -/
theorem transfer_eq_ok {set : CapabilitySet} (h : set.Built) (rest : Bytes) :
    (set.Sendable → set.transfer rest = .ok (set.readBack, ⟨rest, false⟩)) ∧
      ∀ set' c, set.transfer rest = .ok (set', c) →
        set.entries.length = set'.entries.length → set.Sendable := by
  have hvalues := h.canonical
  have hreads : Reads (encodeCapabilitySet set)
      (decodeCapabilitySet maxCapabilityEntriesPerPublication) set.Storable set.readBack :=
    Readable.reads
  constructor
  · rintro ⟨hfew, hkeys⟩
    obtain ⟨bs, himage⟩ := succeeds_encodeCapabilitySet hvalues hkeys
    have hstorable : set.Storable :=
      ⟨hfew, fun e he => ⟨⟨hkeys e he, set.valid e he⟩, (hvalues e he).storable⟩⟩
    rw [transfer, himage]
    exact (hreads bs himage rest).1 hstorable
  · intro set' c htransfer hsame
    obtain ⟨bs, himage, hdecode⟩ := bind_eq_ok.mp htransfer
    have hfew := hsame.trans_le (length_decodeCapabilitySet_le hdecode)
    have hlength := length_encodeCapabilitySet_lt hvalues hfew himage
    have hstorable := (hreads bs himage rest).2 hlength set' c hdecode
    exact ⟨hfew, fun e he => (hstorable.2 e he).1.1⟩

/-- The set arrives as it was sent, value kinds included, and every requirement gets the verdict it
    got before. -/
def RoundTrips (set : CapabilitySet) (rest : Bytes) : Prop :=
  ∃ set', set.transfer rest = .ok (set', ⟨rest, false⟩) ∧ set'.entries = set.entries ∧
    ∀ (formatDouble : Double → Text) (requirement : CapabilityRequirement),
      (evaluateRequirement formatDouble requirement set').satisfied =
        (evaluateRequirement formatDouble requirement set).satisfied

theorem evaluateRequirement_congr {set set' : CapabilitySet} (h : set'.entries = set.entries)
    (formatDouble : Double → Text) (requirement : CapabilityRequirement) :
    evaluateRequirement formatDouble requirement set' =
      evaluateRequirement formatDouble requirement set := by
  simp only [evaluateRequirement, find, h]

/-- Nothing is lost exactly when no value is an unsigned integer. -/
theorem readBack_entries_iff {set : CapabilitySet} (h : ∀ e ∈ set.entries, e.value.Canonical) :
    set.readBack.entries = set.entries ↔ ∀ e ∈ set.entries, e.value.isUnsigned = false := by
  have hentry : ∀ e ∈ set.entries,
      (CapabilityEntry.readBack e = e ↔ e.value.isUnsigned = false) := by
    intro e he
    rw [← (h e he).readBack_eq_self]
    exact ⟨fun hsame => congrArg CapabilityEntry.value hsame,
      fun hsame => by rw [CapabilityEntry.readBack, hsame]⟩
  have hmap : set.readBack.entries = set.entries.map id ↔
      ∀ e ∈ set.entries, CapabilityEntry.readBack e = e := List.map_inj_left
  rw [List.map_id] at hmap
  rw [hmap]
  exact forall₂_congr hentry

end CapabilitySet

/-- A set built by `put` comes through encoding and decoding unchanged exactly when it has at most
    512 entries, its vendor keys are valid identifiers and no value is an unsigned integer. -/
theorem capabilitySet_roundTrips_iff {set : CapabilitySet} (h : set.Built) (rest : Bytes) :
    set.RoundTrips rest ↔
      set.Sendable ∧ ∀ e ∈ set.entries, e.value.isUnsigned = false := by
  obtain ⟨hreceived, hsendable⟩ := CapabilitySet.transfer_eq_ok h rest
  constructor
  · rintro ⟨set', htransfer, hentries, -⟩
    have hsent := hsendable set' _ htransfer (congrArg List.length hentries.symm)
    refine ⟨hsent, (CapabilitySet.readBack_entries_iff h.canonical).mp ?_⟩
    rw [hreceived hsent] at htransfer
    obtain ⟨rfl, -⟩ := Prod.mk.inj (Except.ok.inj htransfer)
    exact hentries
  · rintro ⟨hsent, hkinds⟩
    have hentries := (CapabilitySet.readBack_entries_iff h.canonical).mpr hkinds
    exact ⟨set.readBack, hreceived hsent, hentries, fun formatDouble requirement =>
      congrArg CapabilityCheck.satisfied
        (CapabilitySet.evaluateRequirement_congr hentries formatDouble requirement)⟩

/-- A set that publishes one thing: the size of a memory. -/
def memorySet (value : CapabilityValue) : CapabilitySet where
  entries := [{ key := { key := .memoryBytes }, value }]
  valid _ he := List.mem_singleton.mp he ▸ rfl
  sorted := List.pairwise_singleton _ _
  distinct := List.nodup_singleton _
  notes _ he := List.mem_singleton.mp he ▸ Nat.zero_le _

theorem built_memorySet {value : CapabilityValue} (h : value.Made) : (memorySet value).Built := by
  have hput : CapabilitySet.put {} { key := { key := .memoryBytes }, value } =
      .ok (memorySet value) := rfl
  exact .put (.new _) h hput

/-- A signed size comes through. -/
theorem signed_memory_roundTrips : (memorySet (.integer (-1))).RoundTrips [] :=
  (capabilitySet_roundTrips_iff (built_memorySet (.integer _)) []).mpr (by decide)

/-- An unsigned size arrives signed. -/
theorem unsigned_memory_not_roundTrips :
    ¬∀ set : CapabilitySet, set.Built → ∀ rest, set.RoundTrips rest := by
  intro h
  obtain ⟨set', htransfer, hentries, -⟩ :=
    h (memorySet (.unsignedInteger 85899345920)) (built_memorySet (.unsignedInteger _)) []
  have hreceived : (memorySet (.unsignedInteger 85899345920)).transfer [] =
      .ok (memorySet (.integer 85899345920), ⟨[], false⟩) := by
    decide +kernel
  rw [hreceived] at htransfer
  obtain ⟨rfl, -⟩ := Prod.mk.inj (Except.ok.inj htransfer)
  cases hentries

/-! ## Verdicts -/

/-- The largest signed integer. -/
def maxSigned : UInt64 := 0x7FFFFFFFFFFFFFFF

/-- An unsigned integer above the signed range. -/
def CapabilityValue.isClamped : CapabilityValue → Bool
  | .unsignedInteger u => decide (maxSigned < u)
  | _ => false

theorem toInt64_nonneg {u : UInt64} (h : u ≤ maxSigned) : ¬u.toInt64 < 0 := by
  have hle : u.toNat ≤ maxSigned.toNat := UInt64.le_iff_toNat_le.mp h
  have hlt : 2 * u.toBitVec.toNat < 2 ^ 64 := by
    have hmax : maxSigned.toNat = 0x7FFFFFFFFFFFFFFF := rfl
    rw [UInt64.toNat_toBitVec]
    omega
  have hvalue : u.toInt64.toInt = u.toBitVec.toNat := by
    rw [← Int64.toInt_toBitVec, UInt64.toBitVec_toInt64, BitVec.toInt_eq_toNat_of_lt hlt]
  rw [Int64.lt_iff_toInt_lt, hvalue]
  simp

/-- An integer in the signed range compares as an unsigned one. -/
theorem compareNumericPairs_toInt64 {u : UInt64} (h : u ≤ maxSigned) (b : CapabilityValue) :
    compareNumericPairs (.integer u.toInt64) b = compareNumericPairs (.unsignedInteger u) b := by
  have hsigned : CapabilityValue.asInteger (.unsignedInteger u) 0 = u.toInt64 :=
    if_neg (UInt64.not_lt.mpr h)
  have hunsigned : CapabilityValue.asUnsigned (.integer u.toInt64) 0 = u :=
    if_neg (toInt64_nonneg h)
  have hinteger : CapabilityValue.asInteger (.integer u.toInt64) 0 = u.toInt64 := rfl
  have hself : CapabilityValue.asUnsigned (.unsignedInteger u) 0 = u := rfl
  have hintegral : CapabilityValue.isIntegral (.integer u.toInt64) =
      CapabilityValue.isIntegral (.unsignedInteger u) := rfl
  have hnumber : CapabilityValue.isNumber (.integer u.toInt64) = false := rfl
  have hnumber' : CapabilityValue.isNumber (.unsignedInteger u) = false := rfl
  simp only [compareNumericPairs, hsigned, hunsigned, hinteger, hself, hintegral, hnumber,
    hnumber', Bool.false_eq_true, if_false]

/-- The verdict on an integer in the signed range does not depend on its kind. -/
theorem evaluatePublished_toInt64 {u : UInt64} (h : u ≤ maxSigned) (formatDouble : Double → Text)
    (requirement : CapabilityRequirement) :
    (evaluatePublished formatDouble (.integer u.toInt64) requirement).1 =
      (evaluatePublished formatDouble (.unsignedInteger u) requirement).1 := by
  have hcompare := compareNumericPairs_toInt64 h requirement.value
  have hequals : publishedEquals (.integer u.toInt64) requirement.value =
      publishedEquals (.unsignedInteger u) requirement.value := by
    simp only [publishedEquals, hcompare]
    rfl
  have horder : publishedOrder (.integer u.toInt64) requirement.value =
      publishedOrder (.unsignedInteger u) requirement.value := by
    simp only [publishedOrder, hcompare]
    rfl
  -- the texts differ, so only the first components are compared
  have hevaluateEquals : ∀ negated,
      (evaluateEquals formatDouble (.integer u.toInt64) requirement.value negated).1 =
        (evaluateEquals formatDouble (.unsignedInteger u) requirement.value negated).1 := by
    intro negated
    simp only [evaluateEquals, hequals]
    cases publishedEquals (.unsignedInteger u) requirement.value <;> rfl
  have hevaluateBound : ∀ comparator,
      (evaluateBound formatDouble (.integer u.toInt64) requirement.value comparator).1 =
        (evaluateBound formatDouble (.unsignedInteger u) requirement.value comparator).1 := by
    intro comparator
    simp only [evaluateBound, horder]
    cases publishedOrder (.unsignedInteger u) requirement.value <;> rfl
  unfold evaluatePublished
  cases requirement.comparator with
  | equals => exact hevaluateEquals false
  | notEquals => exact hevaluateEquals true
  | atLeast => exact hevaluateBound .atLeast
  | atMost => exact hevaluateBound .atMost
  | _ => rfl

namespace CapabilitySet

theorem find_readBack (set : CapabilitySet) (key : CapabilityRef) :
    set.readBack.find key = (set.find key).map CapabilityEntry.readBack :=
  List.find?_map

/-- Every requirement gets the verdict it got before, unless a value was clamped. -/
theorem evaluateRequirement_readBack {set : CapabilitySet}
    (hvalues : ∀ e ∈ set.entries, e.value.Canonical)
    (hrange : ∀ e ∈ set.entries, e.value.isClamped = false) (formatDouble : Double → Text)
    (requirement : CapabilityRequirement) :
    (evaluateRequirement formatDouble requirement set.readBack).satisfied =
      (evaluateRequirement formatDouble requirement set).satisfied := by
  unfold evaluateRequirement
  rw [find_readBack]
  cases hfind : set.find requirement.key with
  | none => rfl
  | some entry =>
    have hmem := List.mem_of_find?_eq_some hfind
    have hvalue := hvalues entry hmem
    have hclamped := hrange entry hmem
    by_cases hkind : entry.value.isUnsigned = false
    · have hsame : CapabilityEntry.readBack entry = entry := by
        rw [CapabilityEntry.readBack, hvalue.readBack_eq_self.mpr hkind]
      rw [Option.map_some, hsame]
    · cases hentry : entry.value with
      | unsignedInteger u =>
        rw [hentry] at hclamped
        have hu : u ≤ maxSigned := UInt64.not_lt.mp (of_decide_eq_false hclamped)
        have hread : (CapabilityEntry.readBack entry).value = .integer u.toInt64 := by
          simp only [CapabilityEntry.readBack, hentry, CapabilityValue.readBack]
          exact congrArg _ (if_neg (UInt64.not_lt.mpr hu))
        simp only [Option.map_some, hread, hentry]
        exact evaluatePublished_toInt64 hu formatDouble requirement
      | _ => simp [hentry, CapabilityValue.isUnsigned] at hkind

theorem find_of_mem {set : CapabilitySet} {entry : CapabilityEntry} (h : entry ∈ set.entries) :
    set.find entry.key = some entry := by
  cases hfind : set.find entry.key with
  | none =>
    have hnone := List.find?_eq_none.mp hfind entry h
    simp at hnone
  | some found =>
    have hkey : found.key = entry.key := by simpa using List.find?_some hfind
    rw [List.inj_on_of_nodup_map set.distinct (List.mem_of_find?_eq_some hfind) h hkey]

end CapabilitySet

/-- A requirement for at least the published value. -/
def CapabilityEntry.ownBound (entry : CapabilityEntry) : CapabilityRequirement :=
  { key := entry.key, comparator := .atLeast, value := entry.value }

/-- A clamped value no longer reaches the bound that it is. -/
theorem evaluatePublished_clamped {u : UInt64} (h : maxSigned < u) (formatDouble : Double → Text)
    (entry : CapabilityEntry) (hentry : entry.value = .unsignedInteger u) :
    (evaluatePublished formatDouble entry.value entry.ownBound).1 = .yes ∧
      (evaluatePublished formatDouble entry.readBack.value entry.ownBound).1 = .no := by
  have hinteger : CapabilityValue.asInteger (.unsignedInteger u) 0 = 0x7FFFFFFFFFFFFFFF := if_pos h
  have hread : entry.readBack.value = .integer 0x7FFFFFFFFFFFFFFF := by
    simp only [CapabilityEntry.readBack, hentry, CapabilityValue.readBack]
    exact congrArg _ hinteger
  have hbefore : publishedOrder (.unsignedInteger u) (.unsignedInteger u) = some 0 := by
    simp [publishedOrder, compareNumericPairs, CapabilityValue.isIntegral, hinteger,
      Comparison.of]
  have hafter : publishedOrder (.integer 0x7FFFFFFFFFFFFFFF) (.unsignedInteger u) = some (-1) := by
    have hmax : CapabilityValue.asInteger (.integer 0x7FFFFFFFFFFFFFFF) 0 = 0x7FFFFFFFFFFFFFFF :=
      rfl
    have hmaxUnsigned : CapabilityValue.asUnsigned (.integer 0x7FFFFFFFFFFFFFFF) 0 = maxSigned :=
      rfl
    have hself : CapabilityValue.asUnsigned (.unsignedInteger u) 0 = u := rfl
    simp [publishedOrder, compareNumericPairs, CapabilityValue.isIntegral, hinteger,
      Comparison.of, hmax, hmaxUnsigned, hself, h]
  rw [hread, hentry]
  simp only [evaluatePublished, CapabilityEntry.ownBound, evaluateBound, hentry, hbefore, hafter]
  exact ⟨rfl, rfl⟩

/-- Every requirement gets the verdict it got before exactly when no value is above the signed
    range. -/
theorem verdicts_kept_iff {set : CapabilitySet} (h : set.Built) (hsent : set.Sendable)
    (rest : Bytes) :
    (∃ set', set.transfer rest = .ok (set', ⟨rest, false⟩) ∧
        ∀ (formatDouble : Double → Text) (requirement : CapabilityRequirement),
          (evaluateRequirement formatDouble requirement set').satisfied =
            (evaluateRequirement formatDouble requirement set).satisfied) ↔
      ∀ e ∈ set.entries, e.value.isClamped = false := by
  have hreceived := (CapabilitySet.transfer_eq_ok h rest).1 hsent
  constructor
  · rintro ⟨set', htransfer, hverdicts⟩ e he
    rw [hreceived] at htransfer
    obtain ⟨rfl, -⟩ := Prod.mk.inj (Except.ok.inj htransfer)
    by_contra hclamped
    cases hentry : e.value with
    | unsignedInteger u =>
      have hlt : maxSigned < u := by simpa [hentry, CapabilityValue.isClamped] using hclamped
      obtain ⟨hbefore, hafter⟩ := evaluatePublished_clamped hlt (fun _ => []) e hentry
      have hverdict := hverdicts (fun _ => []) e.ownBound
      have hfind : set.find e.ownBound.key = some e := CapabilitySet.find_of_mem he
      have hknown : e.value.known = true := by rw [hentry]; rfl
      have hknown' : e.readBack.value.known = true := by
        rw [CapabilityEntry.readBack, hentry]; rfl
      simp only [evaluateRequirement, CapabilitySet.find_readBack, hfind, Option.map_some, hknown,
        hknown', if_true, hbefore, hafter] at hverdict
      cases hverdict
    | _ => simp [hentry, CapabilityValue.isClamped] at hclamped
  · intro hrange
    exact ⟨set.readBack, hreceived,
      CapabilitySet.evaluateRequirement_readBack h.canonical hrange⟩

end FederationObservatory
