import FederationObservatory.Misc.BoundedCollections
import FederationObservatory.Analysis.Capabilities

/-!
# Precedence of capabilities

The entry of the effective set under a key is the runtime's, else the cluster's, else the class's,
as long as the set has room for every key that one of the three publishes. A set that is full
refuses a key it does not hold, and the refusal is ignored.
-/

namespace FederationObservatory

open Sorting

namespace CapabilitySet

/-- The keys a set holds. -/
def keys (set : CapabilitySet) : List CapabilityRef := set.entries.map (·.key)

theorem find_eq_some {set : CapabilitySet} {key : CapabilityRef} {entry : CapabilityEntry} :
    set.find key = some entry ↔ entry ∈ set.entries ∧ entry.key = key :=
  find?_key_eq_some set.distinct

theorem find_eq_none {set : CapabilitySet} {key : CapabilityRef} :
    set.find key = none ↔ key ∉ set.keys := by
  simp [find, keys]

/-- Two sets that find the same under every key have the same keys. -/
theorem find_isSome {set : CapabilitySet} {key : CapabilityRef} :
    (set.find key).isSome ↔ key ∈ set.keys := by
  rw [← not_iff_not, Option.not_isSome_iff_eq_none, find_eq_none]

/-! ## One entry -/

theorem mem_replaceF_self {entries : List CapabilityEntry} {entry : CapabilityEntry}
    (h : entries.any fun e => e.key = entry.key) :
    entry ∈ entries.replaceF fun e => if e.key = entry.key then some entry else none := by
  induction entries with
  | nil => cases h
  | cons x entries ih =>
    rw [List.replaceF_cons]
    by_cases hx : x.key = entry.key
    · simp [hx]
    · simp only [List.any_cons, hx, decide_false, Bool.false_or] at h
      simp [hx, ih h]

theorem mem_replaceF_of_ne {entries : List CapabilityEntry} {entry e : CapabilityEntry}
    (he : e ∈ entries) (hkey : e.key ≠ entry.key) :
    e ∈ entries.replaceF fun e => if e.key = entry.key then some entry else none := by
  induction entries with
  | nil => cases he
  | cons x entries ih =>
    rw [List.replaceF_cons]
    rcases List.mem_cons.mp he with rfl | he
    · simp [hkey]
    · by_cases hx : x.key = entry.key
      · simp [hx, he]
      · simp [hx, ih he]

/-- Inserting an entry keeps the others and puts it under its key. -/
theorem mem_insert_iff {entries : List CapabilityEntry} {entry e : CapabilityEntry}
    (h : (entries.map (·.key)).Nodup) :
    e ∈ insert entries entry ↔ e = entry ∨ e ∈ entries ∧ e.key ≠ entry.key := by
  have hself : entry ∈ insert entries entry := by
    rw [insert, (perm_stableSort _ _).mem_iff, replaceOrAppend]
    split
    · exact mem_replaceF_self ‹_›
    · simp
  constructor
  · intro he
    by_cases hkey : e.key = entry.key
    · exact .inl (List.inj_on_of_nodup_map (distinct_insert entry h) he hself hkey)
    · rcases mem_insert he with rfl | hmem
      · exact absurd rfl hkey
      · exact .inr ⟨hmem, hkey⟩
  · rintro (rfl | ⟨hmem, hkey⟩)
    · exact hself
    · rw [insert, (perm_stableSort _ _).mem_iff, replaceOrAppend]
      split
      · exact mem_replaceF_of_ne hmem hkey
      · simp [hmem]

/-- A set takes a key that it holds already, or while it is not full. -/
def HasRoom (set : CapabilitySet) (key : CapabilityRef) : Prop :=
  key ∈ set.keys ∨ set.entries.length < set.limit

theorem hasRoom_iff {set : CapabilitySet} {entry : CapabilityEntry} :
    set.HasRoom entry.key ↔
      ¬ (set.limit ≤ set.entries.length ∧ ¬ set.entries.any fun e => e.key = entry.key) := by
  simp only [HasRoom, keys, List.mem_map, List.any_eq_true, decide_eq_true_eq, not_and, not_not]
  constructor
  · rintro (h | h) hlimit
    · exact h
    · omega
  · intro h
    by_cases hlimit : set.limit ≤ set.entries.length
    · exact .inl (h hlimit)
    · exact .inr (by omega)

variable {set : CapabilitySet} {entry : CapabilityEntry}

/-- An entry of a set: its key is valid and its note is not too long. -/
def Admissible (entry : CapabilityEntry) : Prop :=
  entry.key.valid = true ∧ entry.note.length ≤ 512

theorem admissible_of_mem (h : entry ∈ set.entries) : Admissible entry :=
  ⟨set.valid _ h, set.notes _ h⟩

theorem limit_putIgnoringStatus (set : CapabilitySet) (entry : CapabilityEntry) :
    (set.putIgnoringStatus entry).limit = set.limit := by
  unfold putIgnoringStatus put
  by_cases hvalid : entry.key.valid = true
  · by_cases hfull : set.limit ≤ set.entries.length ∧ ¬ set.entries.any fun e => e.key = entry.key
    · simp only [dif_pos hvalid, if_pos hfull, fail]
    · simp only [dif_pos hvalid, if_neg hfull]
  · simp only [dif_neg hvalid, fail]

theorem entries_putIgnoringStatus_of_hasRoom (hentry : Admissible entry)
    (hroom : set.HasRoom entry.key) :
    (set.putIgnoringStatus entry).entries = insert set.entries entry := by
  have hnote : (if 512 < entry.note.length then Text.truncateWithMarker entry.note 512
      else entry.note) = entry.note := if_neg (by have := hentry.2; omega)
  simp only [putIgnoringStatus, put, dif_pos hentry.1, if_neg (hasRoom_iff.mp hroom), hnote]

theorem entries_putIgnoringStatus_of_full (hroom : ¬ set.HasRoom entry.key) :
    (set.putIgnoringStatus entry).entries = set.entries := by
  have hfull := not_not.mp (mt hasRoom_iff.mpr hroom)
  unfold putIgnoringStatus put
  by_cases hvalid : entry.key.valid = true
  · simp only [dif_pos hvalid, if_pos hfull, fail]
  · simp only [dif_neg hvalid, fail]

/-- The keys of a set after an entry it had room for. -/
theorem mem_keys_putIgnoringStatus (hentry : Admissible entry) (hroom : set.HasRoom entry.key)
    {key : CapabilityRef} :
    key ∈ (set.putIgnoringStatus entry).keys ↔ key = entry.key ∨ key ∈ set.keys := by
  simp only [keys, entries_putIgnoringStatus_of_hasRoom hentry hroom, List.mem_map,
    mem_insert_iff set.distinct]
  constructor
  · rintro ⟨e, rfl | ⟨hmem, -⟩, rfl⟩
    · exact .inl rfl
    · exact .inr ⟨e, hmem, rfl⟩
  · rintro (rfl | ⟨e, hmem, rfl⟩)
    · exact ⟨entry, .inl rfl, rfl⟩
    · by_cases hkey : e.key = entry.key
      · exact ⟨entry, .inl rfl, hkey.symm⟩
      · exact ⟨e, .inr ⟨hmem, hkey⟩, rfl⟩

/-- A later write wins. -/
theorem find_putIgnoringStatus (hentry : Admissible entry) (hroom : set.HasRoom entry.key)
    (key : CapabilityRef) :
    (set.putIgnoringStatus entry).find key =
      if entry.key = key then some entry else set.find key := by
  ext e
  rw [find_eq_some, entries_putIgnoringStatus_of_hasRoom hentry hroom, mem_insert_iff set.distinct]
  by_cases hkey : entry.key = key
  · rw [if_pos hkey, Option.some.injEq]
    constructor
    · rintro ⟨rfl | ⟨-, hne⟩, he⟩
      · rfl
      · exact absurd (he.trans hkey.symm) hne
    · rintro rfl
      exact ⟨.inl rfl, hkey⟩
  · rw [if_neg hkey, find_eq_some]
    constructor
    · rintro ⟨rfl | ⟨hmem, -⟩, he⟩
      · exact absurd he hkey
      · exact ⟨hmem, he⟩
    · rintro ⟨hmem, he⟩
      exact ⟨.inr ⟨hmem, fun h => hkey (h.symm.trans he)⟩, he⟩

/-- A set that is within its limit stays so. -/
theorem length_putIgnoringStatus_le (entry : CapabilityEntry)
    (h : set.entries.length ≤ set.limit) :
    (set.putIgnoringStatus entry).entries.length ≤ (set.putIgnoringStatus entry).limit := by
  rw [limit_putIgnoringStatus]
  by_cases hroom : set.HasRoom entry.key
  · unfold putIgnoringStatus put
    by_cases hvalid : entry.key.valid = true
    · simp only [dif_pos hvalid, if_neg (hasRoom_iff.mp hroom), insert, length_stableSort,
        replaceOrAppend]
      split
      · rw [List.length_replaceF]
        exact h
      · rename_i hany
        rw [List.length_append]
        rcases hroom with hmem | hlt
        · exact absurd (by simpa [keys] using hmem) hany
        · simpa using hlt
    · simpa only [dif_neg hvalid, fail] using h
  · rw [entries_putIgnoringStatus_of_full hroom]
    exact h

/-! ## All entries of a record -/

theorem putAll_cons (set : CapabilitySet) (entry : CapabilityEntry)
    (entries : List CapabilityEntry) :
    set.putAll (entry :: entries) = (set.putIgnoringStatus entry).putAll entries := rfl

theorem limit_putAll (set : CapabilitySet) (entries : List CapabilityEntry) :
    (set.putAll entries).limit = set.limit := by
  induction entries generalizing set with
  | nil => rfl
  | cons entry entries ih => rw [putAll_cons, ih, limit_putIgnoringStatus]

theorem length_putAll_le (entries : List CapabilityEntry) (h : set.entries.length ≤ set.limit) :
    (set.putAll entries).entries.length ≤ (set.putAll entries).limit := by
  induction entries generalizing set with
  | nil => exact h
  | cons entry entries ih => exact ih (length_putIgnoringStatus_le entry h)

/-- The keys of a set that is given entries, if it can take them all. -/
def keysWith (set : CapabilitySet) (entries : List CapabilityEntry) : Finset CapabilityRef :=
  (set.keys ++ entries.map (·.key)).toFinset

theorem card_keys (set : CapabilitySet) : set.keys.toFinset.card = set.entries.length := by
  have hnodup : set.keys.Nodup := set.distinct
  rw [List.toFinset_card_of_nodup hnodup, keys, List.length_map]

/-- A set whose limit covers all the keys has room for the first of them. -/
theorem hasRoom_of_card_le {entries : List CapabilityEntry}
    (h : (set.keysWith (entry :: entries)).card ≤ set.limit) : set.HasRoom entry.key := by
  by_cases hmem : entry.key ∈ set.keys
  · exact .inl hmem
  · right
    have hsubset : Insert.insert entry.key set.keys.toFinset ⊆ set.keysWith (entry :: entries) := by
      intro key hkey
      simp only [keysWith, Finset.mem_insert, List.mem_toFinset, List.map_cons, List.mem_append,
        List.mem_cons] at hkey ⊢
      tauto
    have hcard := Finset.card_le_card hsubset
    rw [Finset.card_insert_of_notMem (by simpa using hmem), card_keys] at hcard
    omega

theorem keysWith_cons (hentry : Admissible entry) (hroom : set.HasRoom entry.key)
    (entries : List CapabilityEntry) :
    (set.putIgnoringStatus entry).keysWith entries = set.keysWith (entry :: entries) := by
  ext key
  simp only [keysWith, List.mem_toFinset, List.mem_append, List.map_cons, List.mem_cons,
    mem_keys_putIgnoringStatus hentry hroom]
  tauto

/-- With room for all the keys, the set finds what was written last. -/
theorem find_putAll {entries : List CapabilityEntry} (hentries : ∀ e ∈ entries, Admissible e)
    (hdistinct : (entries.map (·.key)).Nodup) (hcard : (set.keysWith entries).card ≤ set.limit)
    (key : CapabilityRef) :
    (set.putAll entries).find key =
      (entries.find? fun e => e.key = key).or (set.find key) := by
  induction entries generalizing set with
  | nil => rfl
  | cons entry entries ih =>
    obtain ⟨hentry, hentries⟩ := List.forall_mem_cons.mp hentries
    have hroom := hasRoom_of_card_le hcard
    have hcard' : ((set.putIgnoringStatus entry).keysWith entries).card ≤
        (set.putIgnoringStatus entry).limit := by
      rw [keysWith_cons hentry hroom, limit_putIgnoringStatus]
      exact hcard
    obtain ⟨hfresh, hdistinct⟩ := List.nodup_cons.mp hdistinct
    rw [putAll_cons, ih hentries hdistinct hcard', find_putIgnoringStatus hentry hroom,
      List.find?_cons]
    by_cases hkey : entry.key = key
    · have hnone : (entries.find? fun e => e.key = key) = none := by
        rw [List.find?_eq_none]
        intro e he heq
        exact hfresh (List.mem_map.mpr ⟨e, he, by simpa [hkey] using heq⟩)
      simp [hkey, hnone]
    · simp [hkey]

theorem mem_keys_putAll {entries : List CapabilityEntry} (hentries : ∀ e ∈ entries, Admissible e)
    (hcard : (set.keysWith entries).card ≤ set.limit) {key : CapabilityRef} :
    key ∈ (set.putAll entries).keys ↔ key ∈ set.keysWith entries := by
  induction entries generalizing set with
  | nil => simp [putAll, keysWith]
  | cons entry entries ih =>
    obtain ⟨hentry, hentries⟩ := List.forall_mem_cons.mp hentries
    have hroom := hasRoom_of_card_le hcard
    rw [putAll_cons, ih hentries (by rw [keysWith_cons hentry hroom, limit_putIgnoringStatus]
                                     exact hcard), keysWith_cons hentry hroom]

/-- With room for all the keys, the limit does not matter. -/
theorem entries_putAll_congr {set' : CapabilitySet} {entries : List CapabilityEntry}
    (hsame : set.entries = set'.entries) (hentries : ∀ e ∈ entries, Admissible e)
    (hcard : (set.keysWith entries).card ≤ set.limit)
    (hcard' : (set'.keysWith entries).card ≤ set'.limit) :
    (set.putAll entries).entries = (set'.putAll entries).entries := by
  induction entries generalizing set set' with
  | nil => exact hsame
  | cons entry entries ih =>
    obtain ⟨hentry, hentries⟩ := List.forall_mem_cons.mp hentries
    have hroom := hasRoom_of_card_le hcard
    have hroom' := hasRoom_of_card_le hcard'
    rw [putAll_cons, putAll_cons]
    apply ih
    · rw [entries_putIgnoringStatus_of_hasRoom hentry hroom,
        entries_putIgnoringStatus_of_hasRoom hentry hroom', hsame]
    · exact hentries
    · rw [keysWith_cons hentry hroom, limit_putIgnoringStatus]
      exact hcard
    · rw [keysWith_cons hentry hroom', limit_putIgnoringStatus]
      exact hcard'

theorem putAll_append (set : CapabilitySet) (entries entries' : List CapabilityEntry) :
    set.putAll (entries ++ entries') = (set.putAll entries).putAll entries' :=
  List.foldl_append

theorem keysWith_append {entries : List CapabilityEntry} (hentries : ∀ e ∈ entries, Admissible e)
    (hcard : (set.keysWith entries).card ≤ set.limit) (entries' : List CapabilityEntry) :
    (set.putAll entries).keysWith entries' = set.keysWith (entries ++ entries') := by
  ext key
  simp only [keysWith, List.mem_toFinset, List.mem_append, List.map_append,
    mem_keys_putAll hentries hcard]
  tauto

theorem card_keysWith_le (set : CapabilitySet) (entries entries' : List CapabilityEntry) :
    (set.keysWith entries).card ≤ (set.keysWith (entries ++ entries')).card := by
  apply Finset.card_le_card
  intro key hkey
  simp only [keysWith, List.map_append, List.mem_toFinset, List.mem_append] at hkey ⊢
  tauto

end CapabilitySet

/-! ## The effective set -/

section Effective

variable (cluster : ClusterRecord) (acceleratorClass : Option AcceleratorClassRecord)
  (runtime : Option RuntimeRecord)

/-- The entries of a record that may be missing. -/
def classEntries : List CapabilityEntry :=
  (acceleratorClass.map fun record => record.capabilities.entries).getD []

def runtimeEntries : List CapabilityEntry :=
  (runtime.map fun record => record.capabilities.entries).getD []

/-- The keys that one of the three records publishes. -/
def publishedKeys : Finset CapabilityRef :=
  ((classEntries acceleratorClass ++ cluster.capabilities.entries ++
    runtimeEntries runtime).map (·.key)).toFinset

/-- What precedence makes the entry under a key: the runtime's, else the cluster's, else the
    class's. -/
def precedentEntry (key : CapabilityRef) : Option CapabilityEntry :=
  ((runtime.bind fun record => record.capabilities.find key).or
    (cluster.capabilities.find key)).or
    (acceleratorClass.bind fun record => record.capabilities.find key)

/-- A set finds under every key what precedence says. -/
def Precedent (set : CapabilitySet) : Prop :=
  ∀ key, set.find key = precedentEntry cluster acceleratorClass runtime key

variable {cluster acceleratorClass runtime}

theorem admissible_classEntries :
    ∀ e ∈ classEntries acceleratorClass, CapabilitySet.Admissible e := by
  intro e he
  cases acceleratorClass with
  | none => cases he
  | some record => exact @CapabilitySet.admissible_of_mem record.capabilities e he

theorem admissible_runtimeEntries : ∀ e ∈ runtimeEntries runtime, CapabilitySet.Admissible e := by
  intro e he
  cases runtime with
  | none => cases he
  | some record => exact @CapabilitySet.admissible_of_mem record.capabilities e he

theorem admissible_entries :
    ∀ e ∈ classEntries acceleratorClass ++ cluster.capabilities.entries ++ runtimeEntries runtime,
      CapabilitySet.Admissible e := by
  intro e he
  rcases List.mem_append.mp he with he | he
  · rcases List.mem_append.mp he with he | he
    · exact admissible_classEntries e he
    · exact CapabilitySet.admissible_of_mem he
  · exact admissible_runtimeEntries e he

theorem overlay_eq_putAll (set : CapabilitySet) :
    set.overlay cluster acceleratorClass runtime =
      set.putAll (classEntries acceleratorClass ++ cluster.capabilities.entries ++
        runtimeEntries runtime) := by
  rw [CapabilitySet.putAll_append, CapabilitySet.putAll_append]
  rfl

theorem keysWith_withLimit (limit : Nat) (entries : List CapabilityEntry) :
    (CapabilitySet.withLimit limit).keysWith entries = (entries.map (·.key)).toFinset := rfl

theorem find?_classEntries (key : CapabilityRef) :
    ((classEntries acceleratorClass).find? fun e => e.key = key) =
      acceleratorClass.bind fun record => record.capabilities.find key := by
  cases acceleratorClass <;> rfl

theorem find?_runtimeEntries (key : CapabilityRef) :
    ((runtimeEntries runtime).find? fun e => e.key = key) =
      runtime.bind fun record => record.capabilities.find key := by
  cases runtime <;> rfl

theorem distinct_classEntries : ((classEntries acceleratorClass).map (·.key)).Nodup := by
  cases acceleratorClass with
  | none => exact List.nodup_nil
  | some record => exact record.capabilities.distinct

theorem distinct_runtimeEntries : ((runtimeEntries runtime).map (·.key)).Nodup := by
  cases runtime with
  | none => exact List.nodup_nil
  | some record => exact record.capabilities.distinct

theorem mem_publishedKeys_of_class {record : AcceleratorClassRecord} {key : CapabilityRef}
    (h : key ∈ record.capabilities.keys) : key ∈ publishedKeys cluster (some record) runtime := by
  rw [publishedKeys, List.mem_toFinset, List.map_append, List.map_append]
  exact List.mem_append_left _ (List.mem_append_left _ h)

theorem mem_publishedKeys_of_cluster {key : CapabilityRef}
    (h : key ∈ cluster.capabilities.keys) : key ∈ publishedKeys cluster acceleratorClass runtime := by
  rw [publishedKeys, List.mem_toFinset, List.map_append, List.map_append]
  exact List.mem_append_left _ (List.mem_append_right _ h)

/-- With room for all the published keys, precedence holds. -/
theorem precedent_overlay {limit : Nat}
    (h : (publishedKeys cluster acceleratorClass runtime).card ≤ limit) :
    Precedent cluster acceleratorClass runtime
      ((CapabilitySet.withLimit limit).overlay cluster acceleratorClass runtime) := by
  intro key
  let start := CapabilitySet.withLimit limit
  let a := classEntries acceleratorClass
  let b := cluster.capabilities.entries
  let c := runtimeEntries runtime
  have hall : (start.keysWith (a ++ b ++ c)).card ≤ limit := h
  have hab : (start.keysWith (a ++ b)).card ≤ limit :=
    (start.card_keysWith_le _ _).trans hall
  have ha : (start.keysWith a).card ≤ limit := (start.card_keysWith_le _ _).trans hab
  have hb : ((start.putAll a).keysWith b).card ≤ (start.putAll a).limit := by
    rw [CapabilitySet.keysWith_append admissible_classEntries ha, CapabilitySet.limit_putAll]
    exact hab
  have hadmissible : ∀ e ∈ a ++ b, CapabilitySet.Admissible e := fun e he =>
    @admissible_entries cluster acceleratorClass runtime e (List.mem_append_left _ he)
  have hc : ((start.putAll (a ++ b)).keysWith c).card ≤ (start.putAll (a ++ b)).limit := by
    rw [CapabilitySet.keysWith_append hadmissible hab, CapabilitySet.limit_putAll]
    exact hall
  rw [overlay_eq_putAll, CapabilitySet.putAll_append,
    CapabilitySet.find_putAll admissible_runtimeEntries distinct_runtimeEntries hc,
    CapabilitySet.putAll_append,
    CapabilitySet.find_putAll (fun e he => CapabilitySet.admissible_of_mem he)
      cluster.capabilities.distinct hb,
    CapabilitySet.find_putAll admissible_classEntries distinct_classEntries ha]
  rw [find?_runtimeEntries, find?_classEntries, precedentEntry]
  simp only [Option.or_assoc]
  congr 2
  exact Option.or_none

/-- A set that is too small for all the published keys loses one of them. -/
theorem card_le_of_precedent {limit : Nat}
    (h : Precedent cluster acceleratorClass runtime
      ((CapabilitySet.withLimit limit).overlay cluster acceleratorClass runtime)) :
    (publishedKeys cluster acceleratorClass runtime).card ≤ limit := by
  let set := (CapabilitySet.withLimit limit).overlay cluster acceleratorClass runtime
  have hsubset : publishedKeys cluster acceleratorClass runtime ⊆ set.keys.toFinset := by
    intro key hkey
    rw [List.mem_toFinset, ← CapabilitySet.find_isSome, h key, precedentEntry,
      ← find?_runtimeEntries, ← find?_classEntries]
    obtain ⟨e, he, rfl⟩ := List.mem_map.mp (List.mem_toFinset.mp hkey)
    simp only [Option.isSome_or, CapabilitySet.find, List.find?_isSome, Bool.or_eq_true]
    rcases List.mem_append.mp he with he | he
    · rcases List.mem_append.mp he with he | he
      · exact .inr ⟨e, he, decide_eq_true rfl⟩
      · exact .inl (.inr ⟨e, he, decide_eq_true rfl⟩)
    · exact .inl (.inl ⟨e, he, decide_eq_true rfl⟩)
  have hlength : set.entries.length ≤ limit := by
    have hle : set.entries.length ≤ set.limit := by
      simp only [set, overlay_eq_putAll]
      exact CapabilitySet.length_putAll_le _ (Nat.zero_le _)
    have hlimit : set.limit = limit := by
      simp only [set, overlay_eq_putAll, CapabilitySet.limit_putAll]
      rfl
    omega
  calc (publishedKeys cluster acceleratorClass runtime).card
      ≤ set.keys.toFinset.card := Finset.card_le_card hsubset
    _ = set.entries.length := set.card_keys
    _ ≤ limit := hlength

theorem entries_overlay_congr {limit limit' : Nat}
    (h : (publishedKeys cluster acceleratorClass runtime).card ≤ limit)
    (h' : (publishedKeys cluster acceleratorClass runtime).card ≤ limit') :
    ((CapabilitySet.withLimit limit).overlay cluster acceleratorClass runtime).entries =
      ((CapabilitySet.withLimit limit').overlay cluster acceleratorClass runtime).entries := by
  rw [overlay_eq_putAll, overlay_eq_putAll]
  exact CapabilitySet.entries_putAll_congr rfl admissible_entries h h'

variable (cluster acceleratorClass runtime) in
/-- The three effective sets follow precedence and are equal exactly if the published keys fit into
    the smaller of the two limits: that of the cluster's own set and the default one. -/
theorem precedence_iff :
    (Precedent cluster acceleratorClass runtime
        (mergeCapabilities cluster acceleratorClass runtime) ∧
      Precedent cluster acceleratorClass runtime
        (assessmentCapabilities cluster acceleratorClass runtime) ∧
      Precedent cluster acceleratorClass runtime
        (portabilityCapabilities cluster acceleratorClass runtime) ∧
      (mergeCapabilities cluster acceleratorClass runtime).entries =
        (assessmentCapabilities cluster acceleratorClass runtime).entries ∧
      (assessmentCapabilities cluster acceleratorClass runtime).entries =
        (portabilityCapabilities cluster acceleratorClass runtime).entries) ↔
    (publishedKeys cluster acceleratorClass runtime).card ≤
      min cluster.capabilities.limit maxCapabilityEntriesPerPublication := by
  rw [le_min_iff]
  constructor
  · rintro ⟨hmerge, hassess, -, -, -⟩
    exact ⟨card_le_of_precedent hmerge, card_le_of_precedent hassess⟩
  · rintro ⟨hcluster, hdefault⟩
    exact ⟨precedent_overlay hcluster, precedent_overlay hdefault, precedent_overlay hdefault,
      entries_overlay_congr hcluster hdefault, rfl⟩

end Effective

/-! ## A catalogue that fills the set -/

/-- The custom keys `aa` to `tr`. -/
def catalogueKey (n : Nat) : CapabilityRef :=
  { key := .custom, custom := ⟨[UInt8.ofNat (97 + n / 26), UInt8.ofNat (97 + n % 26)]⟩ }

/-- As many entries as a set may hold. -/
def catalogue : List CapabilityEntry :=
  (List.range 512).map fun n => { key := catalogueKey n, value := .boolean true }

/-- The one entry a cluster adds. -/
def formatsEntry : CapabilityEntry :=
  { key := { key := .artifactFormats }, value := .text (.ofString "elf") }

/-- An accelerator class with the whole catalogue. -/
def catalogueClass : AcceleratorClassRecord :=
  { capabilities := ({} : CapabilitySet).putAll catalogue }

/-- A cluster of that class. -/
def catalogueCluster : ClusterRecord :=
  { capabilities := ({} : CapabilitySet).putAll [formatsEntry] }

theorem capabilities_catalogueClass :
    catalogueClass.capabilities = ({} : CapabilitySet).putAll catalogue := by
  rw [catalogueClass]

theorem capabilities_catalogueCluster :
    catalogueCluster.capabilities = ({} : CapabilitySet).putAll [formatsEntry] := by
  rw [catalogueCluster]

theorem length_catalogue : catalogue.length = 512 := by
  rw [catalogue, List.length_map, List.length_range]

theorem catalogueKey_injOn : Set.InjOn catalogueKey (Finset.range 512) := by
  intro m hm n hn h
  rw [Finset.coe_range, Set.mem_Iio] at hm hn
  simp only [catalogueKey, CapabilityRef.mk.injEq, true_and, StrongId.mk.injEq, List.cons.injEq,
    and_true, ← UInt8.toNat_inj, UInt8.toNat_ofNat'] at h
  omega

/-- A set of the default limit keeps the keys of up to 512 entries. -/
theorem mem_keys_putAll_default {entries : List CapabilityEntry}
    (hentries : ∀ e ∈ entries, CapabilitySet.Admissible e) (hlength : entries.length ≤ 512)
    {entry : CapabilityEntry} (h : entry ∈ entries) :
    entry.key ∈ (({} : CapabilitySet).putAll entries).keys := by
  have hcard : (({} : CapabilitySet).keysWith entries).card ≤ ({} : CapabilitySet).limit :=
    (List.toFinset_card_le _).trans
      (by simpa [CapabilitySet.keys, maxCapabilityEntriesPerPublication] using hlength)
  rw [CapabilitySet.mem_keys_putAll hentries hcard]
  simpa [CapabilitySet.keysWith] using .inr ⟨entry, h, rfl⟩

theorem admissible_catalogue : ∀ e ∈ catalogue, CapabilitySet.Admissible e := by
  intro e he
  obtain ⟨n, -, rfl⟩ := List.mem_map.mp he
  exact ⟨rfl, by simp⟩

/-- The class and the cluster publish one key more than a set may hold. -/
theorem card_publishedKeys_catalogue :
    513 ≤ (publishedKeys catalogueCluster (some catalogueClass) none).card := by
  have hclass : ∀ n < 512, catalogueKey n ∈ catalogueClass.capabilities.keys := by
    intro n hn
    have hmem : { key := catalogueKey n, value := .boolean true } ∈ catalogue :=
      List.mem_map.mpr ⟨n, List.mem_range.mpr hn, rfl⟩
    rw [capabilities_catalogueClass]
    exact mem_keys_putAll_default admissible_catalogue length_catalogue.le hmem
  have hcluster : formatsEntry.key ∈ catalogueCluster.capabilities.keys := by
    rw [capabilities_catalogueCluster]
    refine mem_keys_putAll_default ?_ (by simp) (List.mem_singleton.mpr rfl)
    intro e he
    rw [List.mem_singleton.mp he]
    exact ⟨rfl, by simp [formatsEntry]⟩
  have hsubset : Insert.insert formatsEntry.key ((Finset.range 512).image catalogueKey) ⊆
      publishedKeys catalogueCluster (some catalogueClass) none := by
    rw [Finset.insert_subset_iff]
    refine ⟨mem_publishedKeys_of_cluster hcluster, ?_⟩
    intro key hkey
    obtain ⟨n, hn, rfl⟩ := Finset.mem_image.mp hkey
    exact mem_publishedKeys_of_class (hclass n (Finset.mem_range.mp hn))
  have hfresh : formatsEntry.key ∉ (Finset.range 512).image catalogueKey := by
    intro hkey
    obtain ⟨n, -, hn⟩ := Finset.mem_image.mp hkey
    cases congrArg CapabilityRef.key hn
  have hcard := Finset.card_le_card hsubset
  rw [Finset.card_insert_of_notMem hfresh, Finset.card_image_of_injOn catalogueKey_injOn,
    Finset.card_range] at hcard
  exact hcard

/-- The cluster's own entry does not take its place: none of the three sets follows precedence. -/
theorem precedence_lost :
    ¬ Precedent catalogueCluster (some catalogueClass) none
        (mergeCapabilities catalogueCluster (some catalogueClass) none) ∧
      ¬ Precedent catalogueCluster (some catalogueClass) none
        (assessmentCapabilities catalogueCluster (some catalogueClass) none) ∧
      ¬ Precedent catalogueCluster (some catalogueClass) none
        (portabilityCapabilities catalogueCluster (some catalogueClass) none) := by
  have hlimit : catalogueCluster.capabilities.limit = 512 := by
    rw [capabilities_catalogueCluster, CapabilitySet.limit_putAll]
    rfl
  have hcard := card_publishedKeys_catalogue
  refine ⟨?_, ?_, ?_⟩
  · intro h
    have hle := card_le_of_precedent h
    omega
  · intro h
    have hle : _ ≤ 512 := card_le_of_precedent h
    omega
  · intro h
    have hle : _ ≤ 512 := card_le_of_precedent h
    omega

end FederationObservatory
