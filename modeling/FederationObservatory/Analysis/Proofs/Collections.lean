import FederationObservatory.Misc.BoundedCollections
import FederationObservatory.RecordsCodec.RoundTrip
import FederationObservatory.Analysis.Proofs.Precedence

/-!
# Evidence lists and capability sets

An evidence list is a bounded sorted set of shortened references, and a capability set a bounded
sorted map from keys to entries with shortened notes: what runs of `EvidenceList::add` and of
`CapabilitySet::put` leave, when the caller goes on after a refusal.
-/

namespace FederationObservatory

open Sorting

/-! ## Evidence lists -/

/-- The order of references separates all of them. -/
theorem EvidenceRef.linear_lt : Linear EvidenceRef.lt := by
  refine ⟨weak_lt, ?_⟩
  intro a b hab hba
  obtain ⟨hsource, hab, hba⟩ := WireEnum.linear_codeLt.of_lex hab hba
  obtain ⟨hsourceId, hab, hba⟩ := linear_less.of_lex hab hba
  obtain ⟨hgeneration, hab, hba⟩ := linear_less.of_lex hab hba
  obtain ⟨hclass, hab, hba⟩ := WireEnum.linear_codeLt.of_lex hab hba
  obtain ⟨hprecision, hab, hba⟩ := WireEnum.linear_codeLt.of_lex hab hba
  have hdetail := linear_less.antisymm _ _ hab hba
  cases a
  cases b
  congr

namespace EvidenceList

theorem items_add (list : EvidenceList) (ref : EvidenceRef) :
    (list.add ref).toOption.map items =
      insertBounded EvidenceRef.lt list.limit list.items ref.truncated := by
  unfold add insertBounded
  dsimp only
  by_cases hmem : ref.truncated ∈ list.items
  · rw [dif_pos hmem, if_pos hmem]
    rfl
  · rw [dif_neg hmem, if_neg hmem]
    split <;> rfl

theorem limit_add {list list' : EvidenceList} {ref : EvidenceRef} (h : list.add ref = .ok list') :
    list'.limit = list.limit := by
  unfold add at h
  dsimp only at h
  split at h
  · exact Except.ok.inj h ▸ rfl
  · split at h
    · cases h
    · exact Except.ok.inj h ▸ rfl

theorem addEach_cons (list : EvidenceList) (ref : EvidenceRef) (refs : List EvidenceRef) :
    list.addEach (ref :: refs) = (list.addEach [ref]).addEach refs := rfl

theorem addEach_append (list : EvidenceList) (refs refs' : List EvidenceRef) :
    list.addEach (refs ++ refs') = (list.addEach refs).addEach refs' :=
  List.foldl_append

theorem addEach_one_of_ok {list list' : EvidenceList} {ref : EvidenceRef}
    (h : list.add ref = .ok list') : list.addEach [ref] = list' := by
  simp only [addEach, List.foldl_cons, List.foldl_nil, h]

theorem addEach_one_of_error {list : EvidenceList} {ref : EvidenceRef} {e : Error}
    (h : list.add ref = .error e) : list.addEach [ref] = list := by
  simp only [addEach, List.foldl_cons, List.foldl_nil, h]

theorem limit_addEach (list : EvidenceList) (refs : List EvidenceRef) :
    (list.addEach refs).limit = list.limit := by
  induction refs generalizing list with
  | nil => rfl
  | cons ref refs ih =>
    rw [addEach_cons, ih]
    cases h : list.add ref with
    | ok list' => rw [addEach_one_of_ok h, limit_add h]
    | error e => rw [addEach_one_of_error h]

/-- A run of additions is a run of bounded insertions. -/
theorem items_addEach (list : EvidenceList) (refs : List EvidenceRef) :
    (list.addEach refs).items =
      insertAll EvidenceRef.lt list.limit list.items (refs.map EvidenceRef.truncated) := by
  induction refs generalizing list with
  | nil => rfl
  | cons ref refs ih =>
    have hone : (list.addEach [ref]).items =
        insertOrKeep EvidenceRef.lt list.limit list.items ref.truncated := by
      rw [insertOrKeep, ← items_add]
      cases h : list.add ref with
      | ok list' => rw [addEach_one_of_ok h, Except.toOption, Option.map_some, Option.getD_some]
      | error e => rw [addEach_one_of_error h, Except.toOption, Option.map_none, Option.getD_none]
    rw [addEach_cons, ih, hone, limit_addEach, List.map_cons, insertAll_cons]

/-- The list that a run of additions makes of an empty one. -/
def ofAdds (limit : Nat) (refs : List EvidenceRef) : EvidenceList :=
  ({ limit } : EvidenceList).addEach refs

theorem limit_ofAdds (limit : Nat) (refs : List EvidenceRef) : (ofAdds limit refs).limit = limit :=
  limit_addEach _ refs

theorem items_ofAdds (limit : Nat) (refs : List EvidenceRef) :
    (ofAdds limit refs).items =
      insertAll EvidenceRef.lt limit [] (refs.map EvidenceRef.truncated) :=
  items_addEach _ refs

theorem ofAdds_append (limit : Nat) (before after : List EvidenceRef) :
    ofAdds limit (before ++ after) = (ofAdds limit before).addEach after :=
  addEach_append _ before after

/-- A reference that was added stays. -/
theorem mem_ofAdds {limit : Nat} {before after : List EvidenceRef} {ref : EvidenceRef}
    {out : EvidenceList} (h : (ofAdds limit before).add ref = .ok out) :
    ref.truncated ∈ (ofAdds limit (before ++ ref :: after)).items := by
  have hout : ref.truncated ∈ out.items := by
    have hitems := items_add (ofAdds limit before) ref
    rw [h, Except.toOption, Option.map_some] at hitems
    exact mem_of_insertBounded hitems.symm
  rw [ofAdds_append, addEach_cons, addEach_one_of_ok h, items_addEach]
  exact mem_insertAll_of_mem _ hout

/-- With room for all of the references, the list depends on nothing but which there are. -/
theorem ofAdds_congr {limit : Nat} {refs refs' : List EvidenceRef}
    (hsame : ∀ ref, ref ∈ refs' ↔ ref ∈ refs)
    (hfits : (refs.map EvidenceRef.truncated).toFinset.card ≤ limit) :
    ofAdds limit refs' = ofAdds limit refs := by
  have hset : (refs'.map EvidenceRef.truncated).toFinset =
      (refs.map EvidenceRef.truncated).toFinset := by
    ext ref
    simp only [List.mem_toFinset, List.mem_map, hsame]
  have hitems : (ofAdds limit refs').items = (ofAdds limit refs).items := by
    refine EvidenceRef.linear_lt.eq_of_mem_iff (ofAdds limit refs').sorted
      (ofAdds limit refs).sorted (ofAdds limit refs').nodup (ofAdds limit refs).nodup ?_
    intro ref
    rw [items_ofAdds, items_ofAdds, mem_insertAll hfits List.nodup_nil,
      mem_insertAll (by rw [List.nil_append, hset]; exact hfits) List.nodup_nil,
      ← List.mem_toFinset (l := refs'.map _), hset, List.mem_toFinset]
  exact EvidenceList.ext hitems (by rw [limit_ofAdds, limit_ofAdds])

/-- An evidence list is a bounded sorted set. -/
theorem ofAdds_sortedSet (limit : Nat) (refs : List EvidenceRef) :
    (ofAdds limit refs).items.Pairwise (fun a b => a.lt b = true) ∧
      (ofAdds limit refs).items.Nodup ∧ (ofAdds limit refs).items.length ≤ limit ∧
      (∀ before ref after out, refs = before ++ ref :: after →
        (ofAdds limit before).add ref = .ok out → ref.truncated ∈ (ofAdds limit refs).items) ∧
      (∀ before ref after e, refs = before ++ ref :: after →
        (ofAdds limit before).add ref = .error e →
          ofAdds limit refs = ofAdds limit (before ++ after)) ∧
      (∀ refs', (∀ ref, ref ∈ refs' ↔ ref ∈ refs) →
        (refs.map EvidenceRef.truncated).toFinset.card ≤ limit →
          ofAdds limit refs' = ofAdds limit refs) := by
  refine ⟨?_, (ofAdds limit refs).nodup, ?_, ?_, ?_, ?_⟩
  · exact EvidenceRef.linear_lt.pairwise_lt (ofAdds limit refs).sorted (ofAdds limit refs).nodup
  · rw [items_ofAdds]
    exact length_insertAll_le _ (Nat.zero_le limit)
  · rintro before ref after out rfl h
    exact mem_ofAdds h
  · rintro before ref after e rfl h
    rw [ofAdds_append, addEach_cons, addEach_one_of_error h, ofAdds_append]
  · exact fun refs' => ofAdds_congr

end EvidenceList

/-! ## Capability sets -/

/-- The order of keys separates all of them. -/
theorem CapabilityRef.linear_lt : Linear CapabilityRef.lt := by
  refine ⟨weak_lt, ?_⟩
  intro a b hab hba
  obtain ⟨hkey, hab, hba⟩ := CapabilityKey.linear_code.of_lex hab hba
  have hcustom := linear_less.antisymm _ _ hab hba
  cases a
  cases b
  congr

/-- The shortening `CapabilitySet::put` applies to an entry. -/
def CapabilityEntry.noted (entry : CapabilityEntry) : CapabilityEntry :=
  { entry with
    note := if 512 < entry.note.length then Text.truncateWithMarker entry.note 512
      else entry.note }

theorem CapabilityEntry.length_note_noted (entry : CapabilityEntry) :
    entry.noted.note.length ≤ 512 := by
  simp only [noted]
  split
  · exact Text.length_truncateWithMarker_le _ _
  · omega

namespace CapabilitySet

/-- Sets of one limit are determined by their entries. -/
theorem ext_mem {a b : CapabilitySet} (hlimit : a.limit = b.limit)
    (hmem : ∀ entry, entry ∈ a.entries ↔ entry ∈ b.entries) : a = b := by
  have hperm : a.entries.Perm b.entries :=
    (List.perm_ext_iff_of_nodup a.distinct.of_map b.distinct.of_map).mpr hmem
  refine CapabilitySet.ext (hperm.eq_of_pairwise ?_ a.sorted b.sorted) hlimit
  intro x y hx hy hxy hyx
  have hy := (hmem y).mpr hy
  by_cases hkey : x.key = y.key
  · exact List.inj_on_of_nodup_map a.distinct hx hy hkey
  · rw [CapabilityEntry.lt_of_key_ne (Ne.symm hkey)] at hxy
    rw [CapabilityEntry.lt_of_key_ne hkey] at hyx
    exact absurd (CapabilityRef.linear_lt.antisymm _ _ hyx hxy) hkey

/-- The keys of a set strictly increase. -/
theorem pairwise_keys (set : CapabilitySet) :
    set.keys.Pairwise fun a b => a.lt b = true := by
  refine CapabilityRef.linear_lt.pairwise_lt (List.pairwise_map.mpr ?_) set.distinct
  refine set.sorted.imp_of_mem ?_
  intro a b ha hb hlt
  rw [← lt_eq_of_distinct set.distinct a ha b hb]
  exact hlt

/-- `put` refuses an entry, or puts it with its note shortened. -/
theorem put_cases (set : CapabilitySet) (entry : CapabilityEntry) :
    (∃ e, set.put entry = .error e) ∧ ¬(entry.key.valid = true ∧ set.HasRoom entry.key) ∨
      ∃ out, set.put entry = .ok out ∧ out.limit = set.limit ∧
        out.entries = insert set.entries entry.noted ∧
        entry.key.valid = true ∧ set.HasRoom entry.key := by
  unfold put
  by_cases hvalid : entry.key.valid = true
  · rw [dif_pos hvalid]
    dsimp only
    by_cases hroom : set.HasRoom entry.key
    · rw [if_neg (hasRoom_iff.mp hroom)]
      exact .inr ⟨_, rfl, rfl, rfl, hvalid, hroom⟩
    · rw [if_pos (not_not.mp (mt hasRoom_iff.mpr hroom))]
      exact .inl ⟨⟨_, rfl⟩, fun h => hroom h.2⟩
  · rw [dif_neg hvalid]
    exact .inl ⟨⟨_, rfl⟩, fun h => hvalid h.1⟩

theorem putIgnoringStatus_of_ok {set out : CapabilitySet} {entry : CapabilityEntry}
    (h : set.put entry = .ok out) : set.putIgnoringStatus entry = out := by
  rw [putIgnoringStatus, h]

theorem putIgnoringStatus_of_error {set : CapabilitySet} {entry : CapabilityEntry} {e : Error}
    (h : set.put entry = .error e) : set.putIgnoringStatus entry = set := by
  rw [putIgnoringStatus, h]

/-- What an accepted entry leaves under each key. -/
theorem find_of_put {set out : CapabilitySet} {entry : CapabilityEntry}
    (h : set.put entry = .ok out) (key : CapabilityRef) :
    out.find key = if entry.key = key then some entry.noted else set.find key := by
  rcases put_cases set entry with ⟨⟨e, he⟩, -⟩ | ⟨out', hout, -, hentries, hvalid, hroom⟩
  · rw [he] at h
    cases h
  · have hsame : out' = out := Except.ok.inj (hout.symm.trans h)
    have hnoted : Admissible entry.noted := ⟨hvalid, entry.length_note_noted⟩
    have hfind := @find_putIgnoringStatus set _ hnoted hroom key
    have hput : (set.putIgnoringStatus entry.noted).entries = out.entries := by
      rw [entries_putIgnoringStatus_of_hasRoom hnoted hroom, ← hsame, hentries]
    rw [find, ← hput]
    exact hfind

/-- The set that a run of puts makes of an empty one. -/
def ofPuts (limit : Nat) (entries : List CapabilityEntry) : CapabilitySet :=
  (withLimit limit).putAll entries

/-- `put` takes an entry at some point of a run. -/
def Accepts (limit : Nat) (before : List CapabilityEntry) (entry : CapabilityEntry) : Prop :=
  ∃ out, (ofPuts limit before).put entry = .ok out

theorem limit_ofPuts (limit : Nat) (entries : List CapabilityEntry) :
    (ofPuts limit entries).limit = limit :=
  limit_putAll _ entries

theorem ofPuts_concat (limit : Nat) (entries : List CapabilityEntry) (entry : CapabilityEntry) :
    ofPuts limit (entries ++ [entry]) = (ofPuts limit entries).putIgnoringStatus entry :=
  putAll_append _ entries [entry]

theorem find_ofPuts_concat_of_accepts {limit : Nat} {entries : List CapabilityEntry}
    {entry : CapabilityEntry} (h : Accepts limit entries entry) (key : CapabilityRef) :
    (ofPuts limit (entries ++ [entry])).find key =
      if entry.key = key then some entry.noted else (ofPuts limit entries).find key := by
  obtain ⟨out, hout⟩ := h
  rw [ofPuts_concat, putIgnoringStatus_of_ok hout, find_of_put hout]

theorem ofPuts_concat_of_not_accepts {limit : Nat} {entries : List CapabilityEntry}
    {entry : CapabilityEntry} (h : ¬Accepts limit entries entry) :
    ofPuts limit (entries ++ [entry]) = ofPuts limit entries := by
  rw [ofPuts_concat]
  cases hput : (ofPuts limit entries).put entry with
  | ok out => exact absurd ⟨out, hput⟩ h
  | error e => rw [putIgnoringStatus_of_error hput]

/-- A set finds the last entry that it took under a key. -/
theorem find_ofPuts (limit : Nat) (entries : List CapabilityEntry) (key : CapabilityRef) :
    (∀ found, (ofPuts limit entries).find key = some found ↔
        ∃ entry, LastSuch (fun before e => e.key = key ∧ Accepts limit before e) entries entry ∧
          found = entry.noted) ∧
      ((ofPuts limit entries).find key = none ↔
        NoneSuch (fun before e => e.key = key ∧ Accepts limit before e) entries) := by
  induction entries using List.reverseRecOn with
  | nil =>
    refine ⟨?_, iff_of_true rfl noneSuch_nil⟩
    intro found
    refine iff_of_false (by simp [find, ofPuts, putAll, withLimit]) ?_
    rintro ⟨entry, hlast, -⟩
    exact not_lastSuch_nil entry hlast
  | append_singleton entries entry ih =>
    by_cases hput : entry.key = key ∧ Accepts limit entries entry
    · have hfind : (ofPuts limit (entries ++ [entry])).find key = some entry.noted := by
        rw [find_ofPuts_concat_of_accepts hput.2, if_pos hput.1]
      rw [hfind, noneSuch_concat]
      refine ⟨?_, iff_of_false (Option.some_ne_none _) fun h => h.1 hput⟩
      intro found
      simp only [lastSuch_concat_of_pos (P := fun before (e : CapabilityEntry) =>
        e.key = key ∧ Accepts limit before e) hput, Option.some.injEq, exists_eq_left]
      exact eq_comm
    · have hfind : (ofPuts limit (entries ++ [entry])).find key =
          (ofPuts limit entries).find key := by
        by_cases haccepts : Accepts limit entries entry
        · rw [find_ofPuts_concat_of_accepts haccepts,
            if_neg fun hkey => hput ⟨hkey, haccepts⟩]
        · rw [ofPuts_concat_of_not_accepts haccepts]
      rw [hfind, noneSuch_concat]
      refine ⟨?_, ?_⟩
      · intro found
        simp only [lastSuch_concat_of_neg (P := fun before (e : CapabilityEntry) =>
          e.key = key ∧ Accepts limit before e) hput]
        exact ih.1 found
      · rw [ih.2]
        exact (and_iff_right hput).symm

/-! ### The order of the puts -/

/-- The entries of a run that have valid keys, as `put` shortens them. -/
def shortened (entries : List CapabilityEntry) : List CapabilityEntry :=
  (entries.filter fun entry => entry.key.valid).map CapabilityEntry.noted

theorem noted_noted (entry : CapabilityEntry) : entry.noted.noted = entry.noted := by
  have hshort : ¬512 < entry.noted.note.length := Nat.not_lt.mpr entry.length_note_noted
  rw [CapabilityEntry.noted, if_neg hshort]

theorem putIgnoringStatus_noted (set : CapabilitySet) (entry : CapabilityEntry) :
    set.putIgnoringStatus entry.noted = set.putIgnoringStatus entry := by
  rcases put_cases set entry with ⟨⟨e, he⟩, hrefused⟩ | ⟨out, hout, hlimit, hentries, htaken⟩
  · rcases put_cases set entry.noted with ⟨⟨e', he'⟩, -⟩ | ⟨out', -, -, -, htaken⟩
    · rw [putIgnoringStatus_of_error he, putIgnoringStatus_of_error he']
    · exact absurd htaken hrefused
  · rcases put_cases set entry.noted with ⟨-, hrefused⟩ | ⟨out', hout', hlimit', hentries', -⟩
    · exact absurd htaken hrefused
    · rw [putIgnoringStatus_of_ok hout, putIgnoringStatus_of_ok hout']
      rw [noted_noted] at hentries'
      exact CapabilitySet.ext (hentries'.trans hentries.symm) (hlimit'.trans hlimit.symm)

/-- The entries that `put` refuses for their keys do not matter. -/
theorem putAll_shortened (set : CapabilitySet) (entries : List CapabilityEntry) :
    set.putAll (shortened entries) = set.putAll entries := by
  induction entries generalizing set with
  | nil => rfl
  | cons entry entries ih =>
    by_cases hvalid : entry.key.valid = true
    · have hshortened : shortened (entry :: entries) = entry.noted :: shortened entries := by
        rw [shortened, List.filter_cons, if_pos hvalid, List.map_cons, shortened]
      rw [hshortened, putAll_cons, putAll_cons, putIgnoringStatus_noted]
      exact ih _
    · have hshortened : shortened (entry :: entries) = shortened entries := by
        rw [shortened, List.filter_cons, if_neg hvalid, shortened]
      rw [hshortened, putAll_cons]
      rcases put_cases set entry with ⟨⟨e, he⟩, -⟩ | ⟨-, -, -, -, htaken, -⟩
      · rw [putIgnoringStatus_of_error he]
        exact ih set
      · exact absurd htaken hvalid

/-- With room for all of the keys, the set holds just the entries that were put. -/
theorem mem_ofPuts {limit : Nat} {entries : List CapabilityEntry}
    (hdistinct : (entries.map (·.key)).Nodup) (hfits : (entries.filter fun entry => entry.key.valid).length ≤ limit)
    {entry : CapabilityEntry} :
    entry ∈ (ofPuts limit entries).entries ↔ entry ∈ shortened entries := by
  have hkeys : ((shortened entries).map (·.key)).Nodup := by
    rw [shortened, List.map_map]
    exact hdistinct.sublist (List.filter_sublist.map _)
  have hadmissible : ∀ e ∈ shortened entries, Admissible e := by
    intro e he
    obtain ⟨x, hx, rfl⟩ := List.mem_map.mp he
    exact ⟨(List.mem_filter.mp hx).2, x.length_note_noted⟩
  have hcard : ((withLimit limit).keysWith (shortened entries)).card ≤ limit := by
    refine (List.toFinset_card_le _).trans ?_
    rw [List.length_append, List.length_map]
    simpa [withLimit, keys, shortened] using hfits
  have hfind := @find_putAll (withLimit limit) _ hadmissible hkeys hcard entry.key
  rw [putAll_shortened] at hfind
  constructor
  · intro hmem
    have hsome := find_eq_some.mpr ⟨hmem, rfl⟩
    rw [ofPuts, hfind, find, withLimit, List.find?_nil, Option.or_none] at hsome
    exact List.mem_of_find?_eq_some hsome
  · intro hmem
    rw [(find?_key_eq_some hkeys).mpr ⟨hmem, rfl⟩, Option.some_or] at hfind
    exact (find_eq_some.mp hfind).1

/-- A capability set is a bounded sorted map. -/
theorem ofPuts_sortedMap (limit : Nat) (entries : List CapabilityEntry) :
    ((ofPuts limit entries).entries.map (·.key)).Pairwise (fun a b => a.lt b = true) ∧
      (ofPuts limit entries).entries.length ≤ limit ∧
      (∀ key, (∀ found, (ofPuts limit entries).find key = some found ↔
          ∃ entry, LastSuch (fun before e => e.key = key ∧ Accepts limit before e) entries entry ∧
            found = entry.noted) ∧
        ((ofPuts limit entries).find key = none ↔
          NoneSuch (fun before e => e.key = key ∧ Accepts limit before e) entries)) ∧
      (∀ before entry after e, entries = before ++ entry :: after →
        (ofPuts limit before).put entry = .error e →
          ofPuts limit entries = ofPuts limit (before ++ after)) ∧
      (∀ entries', entries'.Perm entries → (entries.map (·.key)).Nodup →
        (entries.filter fun entry => entry.key.valid).length ≤ limit →
          ofPuts limit entries' = ofPuts limit entries) := by
  refine ⟨pairwise_keys _, ?_, find_ofPuts limit entries, ?_, ?_⟩
  · have hlength := @length_putAll_le (withLimit limit) entries (Nat.zero_le limit)
    rw [limit_putAll] at hlength
    exact hlength
  · rintro before entry after e rfl h
    have hrefused : ofPuts limit (before ++ [entry]) = ofPuts limit before := by
      rw [ofPuts_concat, putIgnoringStatus_of_error h]
    have hrest : ∀ run, ofPuts limit (run ++ after) = (ofPuts limit run).putAll after := fun run =>
      putAll_append _ run after
    rw [List.append_cons, hrest, hrest, hrefused]
  · intro entries' hperm hdistinct hfits
    have hdistinct' : (entries'.map (·.key)).Nodup := (hperm.map _).nodup_iff.mpr hdistinct
    have hfits' : (entries'.filter fun entry => entry.key.valid).length ≤ limit := by
      rw [(hperm.filter _).length_eq]
      exact hfits
    refine ext_mem (by rw [limit_ofPuts, limit_ofPuts]) ?_
    intro entry
    rw [mem_ofPuts hdistinct hfits, mem_ofPuts hdistinct' hfits']
    exact ((hperm.filter _).map _).mem_iff

end CapabilitySet

end FederationObservatory
