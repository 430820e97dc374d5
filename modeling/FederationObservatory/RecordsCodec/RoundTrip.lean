import FederationObservatory.RecordsCodec.Decode

/-!
# Reading back what was written

For every record type: what its decoder asks of a record whose encoding it reads (`Storable`), and
what it makes of it (`readBack`). Vectors come back sorted, evidence lists and capability sets with
the decoder's own limit, unsigned integers as signed ones. Encoding what was read back gives the
same bytes.
-/

namespace FederationObservatory

open ByteCodec Sorting

/-- A round of a loop that adds what it reads to an accumulator. -/
theorem reads_add {α σ : Type} {p : Writer} {dec : Reader α} {P : Prop} {a : α}
    (add : σ → α → Result σ) (acc : σ) (h : Reads p dec P a) :
    Reads p (decThen dec (add acc)) (P ∧ (add acc a).toOption.isSome = true)
      ((add acc a).toOption.getD acc) := by
  refine (reads_then h (b := (add acc a).toOption.getD acc) ?_).congr ?_
  · intro b' hb'
    simp [hb', Except.toOption]
  · cases add acc a with
    | error e => simp [Except.toOption]
    | ok b => simp [Except.toOption]

/-! ## Evidence -/

instance (value : EvidenceRef) : Readable (encodeEvidence value) decodeEvidence True value := by
  refine ⟨?_⟩
  unfold encodeEvidence decodeEvidence
  apply Reads.congr
  · repeat apply Reads.field Readable.reads
    exact Reads.pure _
  · simp

namespace EvidenceList

theorem ext {a b : EvidenceList} (hitems : a.items = b.items) (hlimit : a.limit = b.limit) :
    a = b := by
  cases a
  cases b
  simp only at hitems hlimit
  subst hitems hlimit
  rfl

/-- One more reference at the end of a sorted list. -/
theorem add_of_sorted {acc : EvidenceList} {ref : EvidenceRef} (hnew : ref ∉ acc.items)
    (htruncated : ref.truncated = ref)
    (hsorted : (acc.items ++ [ref]).Pairwise fun a b => b.lt a = false) :
    (acc.items.length < acc.limit →
        ∃ out, acc.add ref = .ok out ∧ out.items = acc.items ++ [ref] ∧ out.limit = acc.limit) ∧
      (acc.limit ≤ acc.items.length → ∃ e, acc.add ref = .error e) := by
  unfold add
  simp only [htruncated, hnew, dite_false]
  constructor
  · intro hroom
    rw [if_neg (Nat.not_le.mpr hroom)]
    exact ⟨_, rfl, stableSort_eq_self hsorted, rfl⟩
  · intro hfull
    rw [if_pos hfull]
    exact ⟨_, rfl⟩

/-- Adding the references of a list one after the other builds the list, if they fit. -/
theorem foldlM_add {list acc : EvidenceList} {after : List EvidenceRef}
    (hitems : acc.items ++ after = list.items) (hfits : acc.items.length ≤ acc.limit) :
    after.foldlM (fun acc ref => (acc.add ref).toOption) acc =
      if list.items.length ≤ acc.limit then some (list.setLimit acc.limit) else none := by
  induction after generalizing acc with
  | nil =>
    rw [List.append_nil] at hitems
    rw [← hitems, if_pos hfits]
    exact congrArg some (EvidenceList.ext hitems rfl)
  | cons ref after ih =>
    have hsplit : (acc.items ++ [ref]) ++ after = list.items := by
      rw [← hitems, List.append_assoc]
      rfl
    have hnodup := list.nodup
    have hsorted := list.sorted
    rw [← hitems] at hnodup
    rw [← hsplit] at hsorted
    have hnew : ref ∉ acc.items := fun hmem =>
      (List.nodup_append.mp hnodup).2.2 ref hmem ref List.mem_cons_self rfl
    have htruncated := list.truncated ref (by rw [← hitems]; simp)
    obtain ⟨hroom, hfull⟩ := add_of_sorted hnew htruncated (List.pairwise_append.mp hsorted).1
    rw [List.foldlM_cons]
    by_cases hlimit : acc.items.length < acc.limit
    · obtain ⟨out, hout, houtItems, houtLimit⟩ := hroom hlimit
      rw [← houtItems] at hsplit
      rw [← houtLimit, hout]
      refine ih hsplit ?_
      rw [houtItems, houtLimit, List.length_append]
      exact hlimit
    · obtain ⟨e, he⟩ := hfull (Nat.not_lt.mp hlimit)
      have hlong : ¬list.items.length ≤ acc.limit := by
        rw [← hitems, List.length_append, List.length_cons]
        omega
      rw [he, if_neg hlong]
      rfl

/-- What `decode_evidence_list` accepts: no more references than the default limit. -/
def Storable (list : EvidenceList) : Prop := list.items.length ≤ defaultEvidencePerFinding
  deriving Decidable

/-- The list as it is rebuilt, with the default limit. -/
def readBack (list : EvidenceList) : EvidenceList := list.setLimit defaultEvidencePerFinding

end EvidenceList

instance (value : EvidenceList) :
    Readable (encodeEvidenceList value) (decodeEvidenceList defaultEvidencePerFinding)
      value.Storable value.readBack := by
  have hbuild : value.items.foldlM (fun acc ref => (EvidenceList.add acc ref).toOption)
      { limit := defaultEvidencePerFinding } = if value.items.length ≤ defaultEvidencePerFinding then
        some value.readBack else none :=
    EvidenceList.foldlM_add rfl (Nat.zero_le _)
  have hloop := Reads.loop (fun x acc => reads_add EvidenceList.add acc
    (Readable.reads : Reads (encodeEvidence x) decodeEvidence True x)) value.items
    { limit := defaultEvidencePerFinding }
  rw [hbuild] at hloop
  refine ⟨((reads_countedLoop (by decide : maxEvidencePerFinding < 2 ^ 32) _
    (fun x => (inferInstance : NonemptyImage (encodeEvidence x)).nonempty) hloop).congr ?_).of_eq ?_⟩
  · unfold EvidenceList.Storable maxEvidencePerFinding defaultEvidencePerFinding
    split
    · simp
      omega
    · simp
      omega
  · intro hstorable
    have hfits : value.items.length ≤ defaultEvidencePerFinding := hstorable
    rw [if_pos hfits]
    rfl

/-! ## Capabilities -/

/-- What `decode_capability_ref` accepts. -/
def CapabilityRef.Storable (value : CapabilityRef) : Prop :=
  value.custom.Storable ∧ value.valid = true
  deriving Decidable

instance (value : CapabilityRef) :
    Readable (encodeCapabilityRef value) decodeCapabilityRef value.Storable value := by
  refine ⟨?_⟩
  unfold encodeCapabilityRef decodeCapabilityRef
  by_cases hknown : value.key = .unknown
  · -- the value of an unknown key is not recognised
    have hcode : CapabilityKey.ofCode value.key.code = none := by
      rw [hknown]
      decide
    refine (Reads.field (Decoder.reads_u16 value.key.code) (Q := False) ?_).congr ?_
    · rw [hcode]
      exact Reads.fail _ _ _
    · simp [CapabilityRef.Storable, CapabilityRef.valid, hknown]
  · refine (Reads.field (Decoder.reads_u16 value.key.code) (Q := value.Storable) ?_).congr (by simp)
    rw [CapabilityKey.ofCode_code hknown]
    simp only
    apply Reads.congr
    · apply Reads.field Readable.reads
      exact Reads.failIf (Reads.pure value)
    · simp [CapabilityRef.Storable]

namespace CapabilityValue

/-- What `decode_capability_value` accepts of a set of texts. -/
def Storable : CapabilityValue → Prop
  | .textSet v => (unique (stableSort less v)).length ≤ maxValueSetEntries ∧
      ∀ entry ∈ v, entry.length ≤ 256
  | _ => True

instance : (value : CapabilityValue) → Decidable value.Storable
  | .textSet v => inferInstanceAs (Decidable ((unique (stableSort less v)).length ≤
      maxValueSetEntries ∧ ∀ entry ∈ v, entry.length ≤ 256))
  | .unknown => inferInstanceAs (Decidable True)
  | .boolean _ => inferInstanceAs (Decidable True)
  | .integer _ => inferInstanceAs (Decidable True)
  | .unsignedInteger _ => inferInstanceAs (Decidable True)
  | .number _ => inferInstanceAs (Decidable True)
  | .text _ => inferInstanceAs (Decidable True)

/-- An unsigned integer comes back as a signed one, a set of texts sorted. -/
def readBack : CapabilityValue → CapabilityValue
  | .unsignedInteger v => .integer (asInteger (.unsignedInteger v) 0)
  | .textSet v => .textSet (unique (stableSort less v))
  | value => value

/-- Making a set of texts that is sorted already. -/
theorem ofTextSet_eq_ok {v : List Text} {b : CapabilityValue} :
    ofTextSet (unique (stableSort less v)) = .ok b ↔
      ((unique (stableSort less v)).length ≤ maxValueSetEntries ∧
        ∀ entry ∈ unique (stableSort less v), entry.length ≤ 256) ∧
        b = .textSet (unique (stableSort less v)) := by
  simp only [ofTextSet, bind_eq_ok, failIf_eq_ok, forM_eq_ok, decide_eq_false_iff_not, Nat.not_lt,
    stableSort_unique, unique_unique, exists_and_left, exists_const, pure, Except.pure,
    Except.ok.injEq, eq_comm (b := b), and_assoc]

end CapabilityValue

/-- A tag and the value it announces. -/
theorem reads_capabilityValue (kind : UInt8) {p : Writer} {P : Prop} {a : CapabilityValue}
    (h : Reads p (decodeCapabilityPayload kind.toNat) P a) :
    Reads (Put.seq [Encoder.u8 kind, p]) decodeCapabilityValue P a := by
  refine (Reads.field (Decoder.reads_u8 kind) (Q := P) ?_).congr (by simp)
  rw [Put.seq_cons, Put.seq_nil, List.append_nil]
  exact h

instance (value : CapabilityValue) :
    Readable (encodeCapabilityValue value) decodeCapabilityValue value.Storable value.readBack := by
  refine ⟨?_⟩
  cases value with
  | unknown =>
    have h : Reads (Put.seq []) (decodeCapabilityPayload 0) True .unknown := Reads.pure _
    exact (Reads.field (Decoder.reads_u8 0) h).congr (by simp [CapabilityValue.Storable])
  | boolean v => exact reads_capabilityValue 1 ((Decoder.reads_boolean v).map _)
  | integer v => exact reads_capabilityValue 2 ((Decoder.reads_i64 v).map _)
  | unsignedInteger v => exact reads_capabilityValue 2 ((Decoder.reads_i64 _).map _)
  | number v => exact reads_capabilityValue 3 ((Decoder.reads_f64 v).map _)
  | text v =>
    have hreads := reads_capabilityValue 4 ((Decoder.reads_str v).map CapabilityValue.ofText)
    intro bs hbs
    obtain ⟨_, _, -, hrest, -⟩ := Put.image_append_eq_ok.mp hbs
    obtain ⟨_, _, hstr, -⟩ := Put.image_append_eq_ok.mp hrest
    have hshort : ¬maxStringFieldBytes < v.length := Nat.not_lt.mpr (Encoder.length_of_str hstr)
    rw [CapabilityValue.ofText, if_neg hshort] at hreads
    exact hreads bs hbs
  | textSet v =>
    have htexts : Reads (encTextVector v) (decTextVector maxValueSetEntries)
        ((unique (stableSort less v)).length ≤ maxValueSetEntries) (unique (stableSort less v)) :=
      Readable.reads
    refine (reads_capabilityValue 5 (reads_then htexts
      (b := .textSet (unique (stableSort less v))) ?_)).congr ?_
    · intro b' hb'
      exact (CapabilityValue.ofTextSet_eq_ok.mp hb').2
    · rw [CapabilityValue.ofTextSet_eq_ok]
      simp only [CapabilityValue.Storable, mem_unique, (perm_stableSort less v).mem_iff]
      tauto

/-- What `decode_capability_entry` accepts. -/
def CapabilityEntry.Storable (value : CapabilityEntry) : Prop :=
  value.key.Storable ∧ value.value.Storable
  deriving Decidable

def CapabilityEntry.readBack (value : CapabilityEntry) : CapabilityEntry :=
  { value with value := value.value.readBack }

instance (value : CapabilityEntry) :
    Readable (encodeCapabilityEntry value) decodeCapabilityEntry value.Storable value.readBack := by
  refine ⟨?_⟩
  unfold encodeCapabilityEntry decodeCapabilityEntry
  apply Reads.congr
  · repeat apply Reads.field Readable.reads
    exact Reads.pure _
  · simp [CapabilityEntry.Storable]

namespace CapabilitySet

/-- One more entry at the end of a sorted set. -/
theorem put_of_sorted {acc : CapabilitySet} {entry : CapabilityEntry}
    (hvalid : entry.key.valid = true) (hnew : entry.key ∉ acc.entries.map (·.key))
    (hnote : entry.note.length ≤ 512)
    (hsorted : (acc.entries ++ [entry]).Pairwise fun a b => b.lt a = false) :
    (acc.entries.length < acc.limit → ∃ out, acc.put entry = .ok out ∧
        out.entries = acc.entries ++ [entry] ∧ out.limit = acc.limit) ∧
      (acc.limit ≤ acc.entries.length → ∃ e, acc.put entry = .error e) := by
  have hany : (acc.entries.any fun e => e.key = entry.key) = false := by
    rw [List.any_eq_false]
    intro e he hkey
    exact hnew (List.mem_map.mpr ⟨e, he, of_decide_eq_true hkey⟩)
  have hinsert : insert acc.entries entry = acc.entries ++ [entry] := by
    rw [insert, replaceOrAppend, hany]
    exact stableSort_eq_self hsorted
  unfold put
  simp only [hvalid, dite_true, Nat.not_lt.mpr hnote, if_false, hany, Bool.false_eq_true,
    not_false_eq_true, and_true, hinsert]
  constructor
  · intro hroom
    rw [if_neg (Nat.not_le.mpr hroom)]
    exact ⟨_, rfl, rfl, rfl⟩
  · intro hfull
    rw [if_pos hfull]
    exact ⟨_, rfl⟩

/-- Putting the entries of a set one after the other builds the set, if they fit. -/
theorem foldlM_put {set acc : CapabilitySet} {after : List CapabilityEntry}
    (hentries : acc.entries ++ after = set.entries) (hfits : acc.entries.length ≤ acc.limit) :
    after.foldlM (fun acc entry => (acc.put entry).toOption) acc =
      if set.entries.length ≤ acc.limit then some { set with limit := acc.limit } else none := by
  induction after generalizing acc with
  | nil =>
    rw [List.append_nil] at hentries
    have hle : set.entries.length ≤ acc.limit := hentries ▸ hfits
    rw [if_pos hle]
    exact congrArg some (CapabilitySet.ext hentries rfl)
  | cons entry after ih =>
    have hsplit : (acc.entries ++ [entry]) ++ after = set.entries := by
      rw [← hentries, List.append_assoc]
      rfl
    have hdistinct := set.distinct
    have hsorted := set.sorted
    have hmem : entry ∈ set.entries := by
      rw [← hentries]
      simp
    rw [← hentries, List.map_append, List.map_cons] at hdistinct
    rw [← hsplit] at hsorted
    have hnew : entry.key ∉ acc.entries.map (·.key) := fun hkey =>
      (List.nodup_append.mp hdistinct).2.2 _ hkey _ List.mem_cons_self rfl
    obtain ⟨hroom, hfull⟩ := put_of_sorted (set.valid entry hmem) hnew (set.notes entry hmem)
      (List.pairwise_append.mp hsorted).1
    rw [List.foldlM_cons]
    by_cases hlimit : acc.entries.length < acc.limit
    · obtain ⟨out, hout, houtEntries, houtLimit⟩ := hroom hlimit
      rw [← houtEntries] at hsplit
      rw [← houtLimit, hout]
      refine ih hsplit ?_
      rw [houtEntries, houtLimit, List.length_append]
      exact hlimit
    · obtain ⟨e, he⟩ := hfull (Nat.not_lt.mp hlimit)
      have hlong : ¬set.entries.length ≤ acc.limit := by
        rw [← hentries, List.length_append, List.length_cons]
        omega
      rw [he, if_neg hlong]
      rfl

/-- What `decode_capability_set` accepts. -/
def Storable (set : CapabilitySet) : Prop :=
  set.entries.length ≤ maxCapabilityEntriesPerPublication ∧ ∀ e ∈ set.entries, e.Storable
  deriving Decidable

/-- The set as it is rebuilt, with the default limit. -/
def readBack (set : CapabilitySet) : CapabilitySet where
  entries := set.entries.map CapabilityEntry.readBack
  limit := maxCapabilityEntriesPerPublication
  valid := by
    intro e he
    obtain ⟨e', he', rfl⟩ := List.mem_map.mp he
    exact set.valid e' he'
  sorted := by
    -- the keys decide, and they are read back as they were
    rw [List.pairwise_map]
    refine set.sorted.imp_of_mem ?_
    intro a b ha hb hlt
    rw [lt_eq_of_distinct set.distinct a ha b hb] at hlt
    by_cases hkey : b.key = a.key
    · rw [List.inj_on_of_nodup_map set.distinct hb ha hkey]
      exact CapabilityEntry.lt_self _
    · rw [CapabilityEntry.lt_of_key_ne (a := b.readBack) (b := a.readBack) hkey]
      exact hlt
  distinct := by
    rw [List.map_map]
    exact set.distinct
  notes := by
    intro e he
    obtain ⟨e', he', rfl⟩ := List.mem_map.mp he
    exact set.notes e' he'

end CapabilitySet

instance (value : CapabilitySet) :
    Readable (encodeCapabilitySet value) (decodeCapabilitySet maxCapabilityEntriesPerPublication)
      value.Storable value.readBack := by
  have hbuild : value.entries.foldlM
      (fun acc entry => (CapabilitySet.put acc (CapabilityEntry.readBack entry)).toOption)
      { limit := maxCapabilityEntriesPerPublication } =
        if value.entries.length ≤ maxCapabilityEntriesPerPublication then
          some value.readBack else none := by
    have hlength : value.readBack.entries.length = value.entries.length := List.length_map _
    have hputs : (value.entries.map CapabilityEntry.readBack).foldlM
        (fun acc entry => (CapabilitySet.put acc entry).toOption)
        { limit := maxCapabilityEntriesPerPublication } =
          if value.readBack.entries.length ≤ maxCapabilityEntriesPerPublication then
            some value.readBack else none := CapabilitySet.foldlM_put rfl (Nat.zero_le _)
    rwa [List.foldlM_map, hlength] at hputs
  have hloop := Reads.loop (fun x acc => reads_add CapabilitySet.put acc
    (Readable.reads : Reads (encodeCapabilityEntry x) decodeCapabilityEntry x.Storable x.readBack))
    value.entries { limit := maxCapabilityEntriesPerPublication }
  rw [hbuild] at hloop
  refine ⟨((reads_countedLoop (by decide : maxCapabilityEntriesPerPublication < 2 ^ 32) _
    (fun x => (inferInstance : NonemptyImage (encodeCapabilityEntry x)).nonempty)
    hloop).congr ?_).of_eq ?_⟩
  · unfold CapabilitySet.Storable
    split
    · simp
    · simp
      omega
  · intro hstorable
    rw [if_pos hstorable.1]
    rfl

/-- What `decode_capability_requirement` accepts. -/
def CapabilityRequirement.Storable (value : CapabilityRequirement) : Prop :=
  value.key.Storable ∧ value.value.Storable
  deriving Decidable

def CapabilityRequirement.readBack (value : CapabilityRequirement) : CapabilityRequirement :=
  { value with value := value.value.readBack }

instance (value : CapabilityRequirement) :
    Readable (encodeCapabilityRequirement value) decodeCapabilityRequirement value.Storable
      value.readBack := by
  refine ⟨?_⟩
  unfold encodeCapabilityRequirement decodeCapabilityRequirement
  apply Reads.congr
  · repeat apply Reads.field Readable.reads
    exact Reads.pure _
  · simp [CapabilityRequirement.Storable]

/-! ## Parts of records -/

/-- What `decode_stamp` accepts. -/
def ObservationStamp.Storable (value : ObservationStamp) : Prop :=
  value.publisher.Storable
  deriving Decidable

instance (value : ObservationStamp) :
    Readable (encodeStamp value) decodeStamp value.Storable value := by
  refine ⟨?_⟩
  unfold encodeStamp decodeStamp
  apply Reads.congr
  · repeat apply Reads.field Readable.reads
    exact Reads.pure _
  · simp only [and_true]
    exact Iff.rfl

instance (value : CapacityLedger) :
    Readable (encodeLedger value) decodeLedger (value.validate = .ok ()) value := by
  refine ⟨?_⟩
  unfold encodeLedger decodeLedger
  apply Reads.congr
  · repeat apply Reads.field Readable.reads
    exact reads_checked _ _ _
  · simp only [true_and]

/-- What `decode_capacity_pool` makes of it. -/
def CapacityPool.readBack (value : CapacityPool) : CapacityPool :=
  { value with
    evidence := value.evidence.readBack }

/-- What `decode_capacity_pool` accepts. -/
def CapacityPool.Storable (value : CapacityPool) : Prop :=
  value.poolId.Storable ∧ value.acceleratorClass.Storable ∧ value.ledger.validate = .ok () ∧
    value.evidence.Storable
  deriving Decidable

instance (value : CapacityPool) :
    Readable (encodeCapacityPool value) decodeCapacityPool value.Storable value.readBack := by
  refine ⟨?_⟩
  unfold encodeCapacityPool decodeCapacityPool
  apply Reads.congr
  · repeat apply Reads.field Readable.reads
    exact Reads.pure _
  · simp only [true_and, and_true]
    exact Iff.rfl

instance (values : List CapacityPool) :
    Readable (encVector CapacityPool.lt encodeCapacityPool values)
      (decVector maxPoolsPerCluster decodeCapacityPool)
      (values.length ≤ maxPoolsPerCluster ∧ ∀ x ∈ values, x.Storable)
      ((stableSort CapacityPool.lt values).map CapacityPool.readBack) :=
  ⟨reads_vector _ (by decide) values (fun _ => NonemptyImage.nonempty) fun _ => Readable.reads⟩

instance (values : List CapabilityRequirement) :
    Readable (encCounted encodeCapabilityRequirement values)
      (decCounted maxCapabilityEntriesPerPublication
        "encoded requirement list exceeds the permitted size"
        (pushBack decodeCapabilityRequirement) [])
      (values.length ≤ maxCapabilityEntriesPerPublication ∧ ∀ x ∈ values, x.Storable)
      (values.map CapabilityRequirement.readBack) :=
  ⟨reads_counted (by decide) _ values (fun _ => NonemptyImage.nonempty) fun _ => Readable.reads⟩

/-- What `decode_candidate` makes of it. -/
def CandidateObservation.readBack (value : CandidateObservation) : CandidateObservation :=
  { value with
    evidence := value.evidence.readBack }

/-- What `decode_candidate` accepts. -/
def CandidateObservation.Storable (value : CandidateObservation) : Prop :=
  value.cluster.Storable ∧ value.acceleratorClass.Storable ∧
    (value.reasons &&& ~~~validRejectionMask != 0) = false ∧ value.evidence.Storable
  deriving Decidable

instance (value : CandidateObservation) :
    Readable (encodeCandidate value) decodeCandidate value.Storable value.readBack := by
  refine ⟨?_⟩
  unfold encodeCandidate decodeCandidate
  apply Reads.congr
  · iterate 6 apply Reads.field Readable.reads
    apply Reads.failIf
    repeat apply Reads.field Readable.reads
    exact Reads.pure _
  · simp only [true_and, and_true]
    exact Iff.rfl

instance (values : List CandidateObservation) :
    Readable (encVector CandidateObservation.lt encodeCandidate values)
      (decVector maxCandidatesPerPlacement decodeCandidate)
      (values.length ≤ maxCandidatesPerPlacement ∧ ∀ x ∈ values, x.Storable)
      ((stableSort CandidateObservation.lt values).map CandidateObservation.readBack) :=
  ⟨reads_vector _ (by decide) values (fun _ => NonemptyImage.nonempty) fun _ => Readable.reads⟩

instance (value : MigrationStageEvent) :
    Readable (encodeStageEvent value) decodeStageEvent True value := by
  refine ⟨?_⟩
  unfold encodeStageEvent decodeStageEvent
  apply Reads.congr
  · repeat apply Reads.field Readable.reads
    exact Reads.pure _
  · simp only [true_and]

instance (values : List MigrationStageEvent) :
    Readable (encCounted encodeStageEvent values)
      (decCounted maxStageEventsPerMigration "encoded migration has too many stage events"
        (pushBack decodeStageEvent) [])
      (values.length ≤ maxStageEventsPerMigration) values := by
  have hlimit : maxStageEventsPerMigration < 2 ^ 32 := by decide
  have h := reads_counted hlimit "encoded migration has too many stage events" values (fun _ => NonemptyImage.nonempty)
    fun x => (Readable.reads : Reads (encodeStageEvent x) decodeStageEvent True x)
  rw [List.map_id'] at h
  exact ⟨h.congr (by simp)⟩

/-- What `decode_dimension` makes of it. -/
def PortabilityDimensionResult.readBack (value : PortabilityDimensionResult) :
    PortabilityDimensionResult :=
  { value with
    evidence := value.evidence.readBack }

/-- What `decode_dimension` accepts. -/
def PortabilityDimensionResult.Storable (value : PortabilityDimensionResult) : Prop :=
  value.evidence.Storable
  deriving Decidable

instance (value : PortabilityDimensionResult) :
    Readable (encodeDimension value) decodeDimension value.Storable value.readBack := by
  refine ⟨?_⟩
  unfold encodeDimension decodeDimension
  apply Reads.congr
  · repeat apply Reads.field Readable.reads
    exact Reads.pure _
  · simp only [true_and, and_true]
    exact Iff.rfl

instance (values : List PortabilityDimensionResult) :
    Readable (encCounted encodeDimension values)
      (decCounted portabilityDimensionCount "encoded portability has too many dimensions"
        (pushBack decodeDimension) [])
      (values.length ≤ portabilityDimensionCount ∧ ∀ x ∈ values, x.Storable)
      (values.map PortabilityDimensionResult.readBack) :=
  ⟨reads_counted (by decide) _ values (fun _ => NonemptyImage.nonempty) fun _ => Readable.reads⟩

/-! ## Records -/

/-- What `decode_federation` makes of it. -/
def FederationRecord.readBack (value : FederationRecord) : FederationRecord :=
  { value with
    sites := stableSort less value.sites
    clusters := stableSort less value.clusters
    acceleratorClasses := stableSort less value.acceleratorClasses
    runtimes := stableSort less value.runtimes
    workloadClasses := stableSort less value.workloadClasses
    evidence := value.evidence.readBack }

/-- What `decode_federation` accepts. -/
def FederationRecord.Storable (value : FederationRecord) : Prop :=
  value.id.Storable ∧ StorableIds value.sites ∧ StorableIds value.clusters ∧
    StorableIds value.acceleratorClasses ∧ StorableIds value.runtimes ∧
    StorableIds value.workloadClasses ∧ value.policy.Storable ∧ value.stamp.Storable ∧
    value.evidence.Storable ∧ value.readBack.validate = .ok ()
  deriving Decidable

instance (value : FederationRecord) :
    Readable (encodeFederation value) decodeFederation value.Storable value.readBack := by
  refine ⟨?_⟩
  unfold encodeFederation decodeFederation
  apply Reads.congr
  · repeat apply Reads.field Readable.reads
    exact reads_checked _ _ _
  · simp only [true_and]
    exact Iff.rfl

/-- What `decode_site` makes of it. -/
def SiteRecord.readBack (value : SiteRecord) : SiteRecord :=
  { value with
    clusters := stableSort less value.clusters
    policies := stableSort less value.policies
    evidence := value.evidence.readBack }

/-- What `decode_site` accepts. -/
def SiteRecord.Storable (value : SiteRecord) : Prop :=
  value.id.Storable ∧ value.federation.Storable ∧ StorableIds value.clusters ∧
    StorableIds value.policies ∧ value.stamp.Storable ∧ value.evidence.Storable ∧
    value.readBack.validate = .ok ()
  deriving Decidable

instance (value : SiteRecord) :
    Readable (encodeSite value) decodeSite value.Storable value.readBack := by
  refine ⟨?_⟩
  unfold encodeSite decodeSite
  apply Reads.congr
  · repeat apply Reads.field Readable.reads
    exact reads_checked _ _ _
  · simp only [true_and]
    exact Iff.rfl

/-- What `decode_cluster` makes of it. -/
def ClusterRecord.readBack (value : ClusterRecord) : ClusterRecord :=
  { value with
    acceleratorClasses := stableSort less value.acceleratorClasses
    runtimes := stableSort less value.runtimes
    backends := stableSort less value.backends
    capacityPools := (stableSort CapacityPool.lt value.capacityPools).map CapacityPool.readBack
    capabilities := value.capabilities.readBack
    evidence := value.evidence.readBack }

/-- What `decode_cluster` accepts. -/
def ClusterRecord.Storable (value : ClusterRecord) : Prop :=
  value.id.Storable ∧ value.federation.Storable ∧ value.site.Storable ∧ value.domain.Storable ∧
    StorableIds value.acceleratorClasses ∧ StorableIds value.runtimes ∧
    StorableIds value.backends ∧
    (value.capacityPools.length ≤ maxPoolsPerCluster ∧ ∀ x ∈ value.capacityPools, x.Storable) ∧
    value.capabilities.Storable ∧ value.stamp.Storable ∧ value.evidence.Storable ∧
    value.readBack.validate = .ok ()
  deriving Decidable

instance (value : ClusterRecord) :
    Readable (encodeCluster value) decodeCluster value.Storable value.readBack := by
  refine ⟨?_⟩
  unfold encodeCluster decodeCluster
  apply Reads.congr
  · repeat apply Reads.field Readable.reads
    exact reads_checked _ _ _
  · simp only [true_and]
    exact Iff.rfl

/-- What `decode_accelerator_class` makes of it. -/
def AcceleratorClassRecord.readBack (value : AcceleratorClassRecord) : AcceleratorClassRecord :=
  { value with
    capabilities := value.capabilities.readBack
    evidence := value.evidence.readBack }

/-- What `decode_accelerator_class` accepts. -/
def AcceleratorClassRecord.Storable (value : AcceleratorClassRecord) : Prop :=
  value.id.Storable ∧ value.capabilities.Storable ∧ value.stamp.Storable ∧
    value.evidence.Storable ∧ value.readBack.validate = .ok ()
  deriving Decidable

instance (value : AcceleratorClassRecord) :
    Readable (encodeAcceleratorClass value) decodeAcceleratorClass value.Storable value.readBack := by
  refine ⟨?_⟩
  unfold encodeAcceleratorClass decodeAcceleratorClass
  apply Reads.congr
  · repeat apply Reads.field Readable.reads
    exact reads_checked _ _ _
  · simp only [true_and]
    exact Iff.rfl

/-- What `decode_runtime` makes of it. -/
def RuntimeRecord.readBack (value : RuntimeRecord) : RuntimeRecord :=
  { value with
    capabilities := value.capabilities.readBack
    evidence := value.evidence.readBack }

/-- What `decode_runtime` accepts. -/
def RuntimeRecord.Storable (value : RuntimeRecord) : Prop :=
  value.id.Storable ∧ value.backend.Storable ∧ value.capabilities.Storable ∧
    value.stamp.Storable ∧ value.evidence.Storable ∧ value.readBack.validate = .ok ()
  deriving Decidable

instance (value : RuntimeRecord) :
    Readable (encodeRuntime value) decodeRuntime value.Storable value.readBack := by
  refine ⟨?_⟩
  unfold encodeRuntime decodeRuntime
  apply Reads.congr
  · repeat apply Reads.field Readable.reads
    exact reads_checked _ _ _
  · simp only [true_and]
    exact Iff.rfl

/-- What `decode_backend` makes of it. -/
def BackendRecord.readBack (value : BackendRecord) : BackendRecord :=
  { value with
    capabilities := value.capabilities.readBack
    evidence := value.evidence.readBack }

/-- What `decode_backend` accepts. -/
def BackendRecord.Storable (value : BackendRecord) : Prop :=
  value.id.Storable ∧ value.runtime.Storable ∧ value.capabilities.Storable ∧
    value.stamp.Storable ∧ value.evidence.Storable ∧ value.readBack.validate = .ok ()
  deriving Decidable

instance (value : BackendRecord) :
    Readable (encodeBackend value) decodeBackend value.Storable value.readBack := by
  refine ⟨?_⟩
  unfold encodeBackend decodeBackend
  apply Reads.congr
  · repeat apply Reads.field Readable.reads
    exact reads_checked _ _ _
  · simp only [true_and]
    exact Iff.rfl

/-- What `decode_domain` makes of it. -/
def DomainRecord.readBack (value : DomainRecord) : DomainRecord :=
  { value with
    clusters := stableSort less value.clusters
    evidence := value.evidence.readBack }

/-- What `decode_domain` accepts. -/
def DomainRecord.Storable (value : DomainRecord) : Prop :=
  value.id.Storable ∧ value.federation.Storable ∧ value.site.Storable ∧
    StorableIds value.clusters ∧ value.stamp.Storable ∧ value.evidence.Storable ∧
    value.readBack.validate = .ok ()
  deriving Decidable

instance (value : DomainRecord) :
    Readable (encodeDomain value) decodeDomain value.Storable value.readBack := by
  refine ⟨?_⟩
  unfold encodeDomain decodeDomain
  apply Reads.congr
  · repeat apply Reads.field Readable.reads
    exact reads_checked _ _ _
  · simp only [true_and]
    exact Iff.rfl

/-- What `decode_policy` makes of it. -/
def PolicyRecord.readBack (value : PolicyRecord) : PolicyRecord :=
  { value with
    allowedSites := stableSort less value.allowedSites
    deniedSites := stableSort less value.deniedSites
    allowedClusters := stableSort less value.allowedClusters
    deniedClusters := stableSort less value.deniedClusters
    capabilities := value.capabilities.readBack
    evidence := value.evidence.readBack }

/-- What `decode_policy` accepts. -/
def PolicyRecord.Storable (value : PolicyRecord) : Prop :=
  value.id.Storable ∧ StorableIds value.allowedSites ∧ StorableIds value.deniedSites ∧
    StorableIds value.allowedClusters ∧ StorableIds value.deniedClusters ∧
    value.capabilities.Storable ∧ value.stamp.Storable ∧ value.evidence.Storable ∧
    value.readBack.validate = .ok ()
  deriving Decidable

instance (value : PolicyRecord) :
    Readable (encodePolicy value) decodePolicy value.Storable value.readBack := by
  refine ⟨?_⟩
  unfold encodePolicy decodePolicy
  apply Reads.congr
  · repeat apply Reads.field Readable.reads
    exact reads_checked _ _ _
  · simp only [true_and]
    exact Iff.rfl

/-- What `decode_artifact` makes of it. -/
def ArtifactRecord.readBack (value : ArtifactRecord) : ArtifactRecord :=
  { value with
    targetArchitectures := unique (stableSort less value.targetArchitectures)
    capabilities := value.capabilities.readBack
    evidence := value.evidence.readBack }

/-- What `decode_artifact` accepts. -/
def ArtifactRecord.Storable (value : ArtifactRecord) : Prop :=
  value.id.Storable ∧ (unique (stableSort less value.targetArchitectures)).length ≤ 64 ∧
    value.capabilities.Storable ∧ value.stamp.Storable ∧ value.evidence.Storable ∧
    value.readBack.validate = .ok ()
  deriving Decidable

instance (value : ArtifactRecord) :
    Readable (encodeArtifact value) decodeArtifact value.Storable value.readBack := by
  refine ⟨?_⟩
  unfold encodeArtifact decodeArtifact
  apply Reads.congr
  · repeat apply Reads.field Readable.reads
    exact reads_checked _ _ _
  · simp only [true_and]
    exact Iff.rfl

/-- What `decode_workload_class` makes of it. -/
def WorkloadClassRecord.readBack (value : WorkloadClassRecord) : WorkloadClassRecord :=
  { value with
    evidence := value.evidence.readBack }

/-- What `decode_workload_class` accepts. -/
def WorkloadClassRecord.Storable (value : WorkloadClassRecord) : Prop :=
  value.id.Storable ∧ value.stamp.Storable ∧ value.evidence.Storable ∧
    value.readBack.validate = .ok ()
  deriving Decidable

instance (value : WorkloadClassRecord) :
    Readable (encodeWorkloadClass value) decodeWorkloadClass value.Storable value.readBack := by
  refine ⟨?_⟩
  unfold encodeWorkloadClass decodeWorkloadClass
  apply Reads.congr
  · repeat apply Reads.field Readable.reads
    exact reads_checked _ _ _
  · simp only [true_and]
    exact Iff.rfl

/-- What `decode_workload` makes of it. -/
def WorkloadRecord.readBack (value : WorkloadRecord) : WorkloadRecord :=
  { value with
    acceptableAcceleratorClasses := stableSort less value.acceptableAcceleratorClasses
    requirements := value.requirements.map CapabilityRequirement.readBack
    evidence := value.evidence.readBack }

/-- What `decode_workload` accepts. -/
def WorkloadRecord.Storable (value : WorkloadRecord) : Prop :=
  value.id.Storable ∧ value.workloadClass.Storable ∧ value.artifact.Storable ∧
    StorableIds value.acceptableAcceleratorClasses ∧
    (value.requirements.length ≤ maxCapabilityEntriesPerPublication ∧ ∀ x ∈ value.requirements, x.Storable) ∧
    value.policy.Storable ∧ value.requiredDomain.Storable ∧ value.stamp.Storable ∧
    value.evidence.Storable ∧ value.readBack.validate = .ok ()
  deriving Decidable

instance (value : WorkloadRecord) :
    Readable (encodeWorkload value) decodeWorkload value.Storable value.readBack := by
  refine ⟨?_⟩
  unfold encodeWorkload decodeWorkload
  apply Reads.congr
  · repeat apply Reads.field Readable.reads
    exact reads_checked _ _ _
  · simp only [true_and]
    exact Iff.rfl

/-- What `decode_placement` makes of it. -/
def PlacementRecord.readBack (value : PlacementRecord) : PlacementRecord :=
  { value with
    candidates := (stableSort CandidateObservation.lt value.candidates).map CandidateObservation.readBack
    evidence := value.evidence.readBack }

/-- What `decode_placement` accepts. -/
def PlacementRecord.Storable (value : PlacementRecord) : Prop :=
  value.id.Storable ∧ value.workload.Storable ∧ value.federation.Storable ∧
    value.workloadClass.Storable ∧ value.selected.Storable ∧
    value.selectedAcceleratorClass.Storable ∧
    (value.candidates.length ≤ maxCandidatesPerPlacement ∧ ∀ x ∈ value.candidates, x.Storable) ∧
    value.stamp.Storable ∧ value.evidence.Storable ∧ value.readBack.validate = .ok ()
  deriving Decidable

instance (value : PlacementRecord) :
    Readable (encodePlacement value) decodePlacement value.Storable value.readBack := by
  refine ⟨?_⟩
  unfold encodePlacement decodePlacement
  apply Reads.congr
  · repeat apply Reads.field Readable.reads
    exact reads_checked _ _ _
  · simp only [true_and]
    exact Iff.rfl

/-- What `decode_migration` makes of it. -/
def MigrationRecord.readBack (value : MigrationRecord) : MigrationRecord :=
  { value with
    evidence := value.evidence.readBack }

/-- What `decode_migration` accepts. -/
def MigrationRecord.Storable (value : MigrationRecord) : Prop :=
  value.id.Storable ∧ value.workload.Storable ∧ value.federation.Storable ∧
    value.workloadClass.Storable ∧ value.supersedes.Storable ∧ value.source.Storable ∧
    value.destination.Storable ∧ value.artifact.Storable ∧ value.sourceRuntime.Storable ∧
    value.destinationRuntime.Storable ∧ value.stageEvents.length ≤ maxStageEventsPerMigration ∧
    value.stamp.Storable ∧ value.evidence.Storable ∧ value.readBack.validate = .ok ()
  deriving Decidable

instance (value : MigrationRecord) :
    Readable (encodeMigration value) decodeMigration value.Storable value.readBack := by
  refine ⟨?_⟩
  unfold encodeMigration decodeMigration
  apply Reads.congr
  · repeat apply Reads.field Readable.reads
    exact reads_checked _ _ _
  · simp only [true_and]
    exact Iff.rfl

/-- What `decode_portability` makes of it. -/
def PortabilityAssessment.readBack (value : PortabilityAssessment) : PortabilityAssessment :=
  { value with
    dimensions := value.dimensions.map PortabilityDimensionResult.readBack
    evidence := value.evidence.readBack }

/-- What `decode_portability` accepts. -/
def PortabilityAssessment.Storable (value : PortabilityAssessment) : Prop :=
  value.workload.Storable ∧ value.artifact.Storable ∧ value.workloadClass.Storable ∧
    value.source.Storable ∧ value.destination.Storable ∧ value.sourceRuntime.Storable ∧
    value.destinationRuntime.Storable ∧ value.federation.Storable ∧
    (value.dimensions.length ≤ portabilityDimensionCount ∧ ∀ x ∈ value.dimensions, x.Storable) ∧
    value.stamp.Storable ∧ value.evidence.Storable ∧ value.readBack.validate = .ok ()
  deriving Decidable

instance (value : PortabilityAssessment) :
    Readable (encodePortability value) decodePortability value.Storable value.readBack := by
  refine ⟨?_⟩
  unfold encodePortability decodePortability
  apply Reads.congr
  · repeat apply Reads.field Readable.reads
    exact reads_checked _ _ _
  · simp only [true_and]
    exact Iff.rfl

/-! ## Writing again what was read back -/

/-- Elements that are written alike make lists that are written alike. -/
theorem encCounted_map {α : Type} {enc : α → Writer} {g : α → α} (h : ∀ x, enc (g x) = enc x)
    (values : List α) : encCounted enc (values.map g) = encCounted enc values := by
  simp only [encCounted, List.length_map, List.flatMap_map, h]

/-- A sorted vector whose order does not see what reading back changes. -/
theorem encVector_map {α : Type} {lt : α → α → Bool} {enc : α → Writer} {g : α → α}
    (hlt : Weak lt) (hg : ∀ a b, lt (g a) (g b) = lt a b) (h : ∀ x, enc (g x) = enc x)
    (values : List α) : encVector lt enc ((stableSort lt values).map g) = encVector lt enc values := by
  rw [encVector, stableSort_map lt lt g hg, hlt.idem, encCounted_map h]
  rfl

@[simp] theorem encIds_stableSort {tag : IdTag} (ids : List (StrongId tag)) :
    encIds (stableSort less ids) = encIds ids := by
  rw [encIds, encVector, weak_less.idem]
  rfl

@[simp] theorem encTextVector_unique (values : List Text) :
    encTextVector (unique (stableSort less values)) = encTextVector values := by
  rw [encTextVector, stableSort_unique, unique_unique]
  rfl

@[simp] theorem encodeEvidenceList_readBack (value : EvidenceList) :
    encodeEvidenceList value.readBack = encodeEvidenceList value := rfl

@[simp] theorem encodeCapabilityValue_readBack (value : CapabilityValue) :
    encodeCapabilityValue value.readBack = encodeCapabilityValue value := by
  cases value with
  | textSet v => simp [CapabilityValue.readBack, encodeCapabilityValue]
  | _ => rfl

@[simp] theorem encodeCapabilitySet_readBack (value : CapabilitySet) :
    encodeCapabilitySet value.readBack = encodeCapabilitySet value := by
  refine encCounted_map ?_ value.entries
  intro entry
  simp [encodeCapabilityEntry, CapabilityEntry.readBack]

@[simp] theorem encCounted_requirements_readBack (values : List CapabilityRequirement) :
    encCounted encodeCapabilityRequirement (values.map CapabilityRequirement.readBack) =
      encCounted encodeCapabilityRequirement values := by
  refine encCounted_map ?_ values
  intro value
  simp [encodeCapabilityRequirement, CapabilityRequirement.readBack]

@[simp] theorem encCounted_dimensions_readBack (values : List PortabilityDimensionResult) :
    encCounted encodeDimension (values.map PortabilityDimensionResult.readBack) =
      encCounted encodeDimension values := by
  refine encCounted_map ?_ values
  intro value
  rfl

@[simp] theorem encVector_pools_readBack (values : List CapacityPool) :
    encVector CapacityPool.lt encodeCapacityPool
        ((stableSort CapacityPool.lt values).map CapacityPool.readBack) =
      encVector CapacityPool.lt encodeCapacityPool values := by
  refine encVector_map CapacityPool.weak_lt ?_ ?_ values
  · intro a b
    rfl
  · intro value
    rfl

theorem CandidateObservation.weak_lt : Weak CandidateObservation.lt :=
  Weak.lex linear_less <| Weak.lex WireEnum.linear_codeLt <|
    weak_less.comap CandidateObservation.acceleratorClass

@[simp] theorem encVector_candidates_readBack (values : List CandidateObservation) :
    encVector CandidateObservation.lt encodeCandidate
        ((stableSort CandidateObservation.lt values).map CandidateObservation.readBack) =
      encVector CandidateObservation.lt encodeCandidate values := by
  refine encVector_map CandidateObservation.weak_lt ?_ ?_ values
  · intro a b
    rfl
  · intro value
    rfl

theorem encodeFederation_readBack (value : FederationRecord) :
    encodeFederation value.readBack = encodeFederation value := by
  simp [encodeFederation, FederationRecord.readBack]

theorem encodeSite_readBack (value : SiteRecord) :
    encodeSite value.readBack = encodeSite value := by
  simp [encodeSite, SiteRecord.readBack]

theorem encodeCluster_readBack (value : ClusterRecord) :
    encodeCluster value.readBack = encodeCluster value := by
  simp [encodeCluster, ClusterRecord.readBack]

theorem encodeAcceleratorClass_readBack (value : AcceleratorClassRecord) :
    encodeAcceleratorClass value.readBack = encodeAcceleratorClass value := by
  simp [encodeAcceleratorClass, AcceleratorClassRecord.readBack]

theorem encodeRuntime_readBack (value : RuntimeRecord) :
    encodeRuntime value.readBack = encodeRuntime value := by
  simp [encodeRuntime, RuntimeRecord.readBack]

theorem encodeBackend_readBack (value : BackendRecord) :
    encodeBackend value.readBack = encodeBackend value := by
  simp [encodeBackend, BackendRecord.readBack]

theorem encodeDomain_readBack (value : DomainRecord) :
    encodeDomain value.readBack = encodeDomain value := by
  simp [encodeDomain, DomainRecord.readBack]

theorem encodePolicy_readBack (value : PolicyRecord) :
    encodePolicy value.readBack = encodePolicy value := by
  simp [encodePolicy, PolicyRecord.readBack]

theorem encodeArtifact_readBack (value : ArtifactRecord) :
    encodeArtifact value.readBack = encodeArtifact value := by
  simp [encodeArtifact, ArtifactRecord.readBack]

theorem encodeWorkloadClass_readBack (value : WorkloadClassRecord) :
    encodeWorkloadClass value.readBack = encodeWorkloadClass value := by
  simp [encodeWorkloadClass, WorkloadClassRecord.readBack]

theorem encodeWorkload_readBack (value : WorkloadRecord) :
    encodeWorkload value.readBack = encodeWorkload value := by
  simp [encodeWorkload, WorkloadRecord.readBack]

theorem encodePlacement_readBack (value : PlacementRecord) :
    encodePlacement value.readBack = encodePlacement value := by
  simp [encodePlacement, PlacementRecord.readBack]

theorem encodeMigration_readBack (value : MigrationRecord) :
    encodeMigration value.readBack = encodeMigration value := by
  simp [encodeMigration, MigrationRecord.readBack]

theorem encodePortability_readBack (value : PortabilityAssessment) :
    encodePortability value.readBack = encodePortability value := by
  simp [encodePortability, PortabilityAssessment.readBack]

end FederationObservatory
