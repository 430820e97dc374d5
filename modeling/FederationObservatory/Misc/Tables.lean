import Mathlib.Data.List.Nodup
import Std.Data.TreeMap

/-!
# Tables filled by a loop

A loop that calls `std::map::emplace` for one element after another keeps the first element of
each key.
-/

namespace Tables

variable {κ α β : Type} [Ord κ] [Std.TransOrd κ] [Std.LawfulEqOrd κ]

/-- The loop. -/
def emplaceAll (key : α → κ) (value : α → β) (table : Std.TreeMap κ β) (elements : List α) :
    Std.TreeMap κ β :=
  elements.foldl (fun table element => table.insertIfNew (key element) (value element)) table

/-- The first element of a key is found, unless the key was there before. -/
theorem getElem?_emplaceAll (key : α → κ) (value : α → β) (table : Std.TreeMap κ β)
    (elements : List α) (k : κ) :
    (emplaceAll key value table elements)[k]? =
      (table[k]?).or ((elements.find? fun element => compare (key element) k == .eq).map value) := by
  induction elements generalizing table with
  | nil => simp [emplaceAll]
  | cons element elements ih =>
    refine (ih (table.insertIfNew (key element) (value element))).trans ?_
    rw [Std.TreeMap.getElem?_insertIfNew, List.find?_cons]
    by_cases hkey : key element = k
    · subst hkey
      by_cases hmem : key element ∈ table
      · simp [hmem]
      · simp [hmem]
    · have hne : (compare (key element) k == .eq) = false := by simp [hkey]
      simp [hkey, hne]

/-- Whatever is in a table that was filled from nothing was one of the elements. -/
theorem exists_of_emplaceAll {key : α → κ} {value : α → β} {elements : List α} {k : κ} {v : β}
    (h : (emplaceAll key value ∅ elements)[k]? = some v) :
    ∃ element ∈ elements, key element = k ∧ value element = v := by
  rw [getElem?_emplaceAll, Std.TreeMap.getElem?_emptyc, Option.none_or] at h
  obtain ⟨element, hfind, hvalue⟩ := Option.map_eq_some_iff.mp h
  exact ⟨element, List.mem_of_find?_eq_some hfind, by simpa using List.find?_some hfind, hvalue⟩

/-- Every key of an element is in the table. -/
theorem exists_emplaceAll_of_mem (key : α → κ) (value : α → β) {elements : List α} {element : α}
    (h : element ∈ elements) :
    ∃ v, (emplaceAll key value ∅ elements)[key element]? = some v := by
  rw [getElem?_emplaceAll, Std.TreeMap.getElem?_emptyc, Option.none_or]
  cases hfind : elements.find? (fun e => compare (key e) (key element) == .eq) with
  | some found => exact ⟨value found, rfl⟩
  | none =>
    have hne := List.find?_eq_none.mp hfind element h
    simp at hne

/-- If no key is repeated, the element of a key is what is found there. -/
theorem getElem?_emplaceAll_of_nodup {f : α → κ} {value : α → β} {elements : List α}
    (hnodup : (elements.map f).Nodup) {element : α} (h : element ∈ elements) :
    (emplaceAll f value ∅ elements)[f element]? = some (value element) := by
  obtain ⟨v, hv⟩ := exists_emplaceAll_of_mem f value h
  obtain ⟨found, hfound, hkey, rfl⟩ := exists_of_emplaceAll hv
  have hsame : found = element := List.inj_on_of_nodup_map hnodup hfound h hkey
  rw [hv, hsame]

omit [Std.LawfulEqOrd κ] in
/-- The loop stores at most one value for each element. -/
theorem size_emplaceAll_le (key : α → κ) (value : α → β) (table : Std.TreeMap κ β)
    (elements : List α) :
    (emplaceAll key value table elements).size ≤ table.size + elements.length := by
  induction elements generalizing table with
  | nil => exact Nat.le_refl _
  | cons element elements ih =>
    have hrest := ih (table.insertIfNew (key element) (value element))
    have hfirst := Std.TreeMap.size_insertIfNew_le (t := table) (k := key element)
      (v := value element)
    rw [List.length_cons]
    exact Nat.le_trans hrest (by omega)

omit [Std.TransOrd κ] [Std.LawfulEqOrd κ] in
theorem values_eq_map_toList (table : Std.TreeMap κ β) :
    table.values = table.toList.map (·.2) := by
  refine Std.DTreeMap.Internal.Impl.values_eq_map_snd.trans ?_
  change _ = List.map _ (Std.DTreeMap.Internal.Impl.Const.toList table.inner.inner)
  rw [Std.DTreeMap.Internal.Impl.Const.toList_eq_toListModel_map, List.map_map]
  rfl

/-- If every value is stored under its own key, the keys of the values are the keys of the table. -/
theorem map_values_eq_keys {table : Std.TreeMap κ β} {key : β → κ}
    (h : ∀ (k : κ) (v : β), table[k]? = some v → key v = k) : table.values.map key = table.keys := by
  rw [values_eq_map_toList, List.map_map, ← Std.TreeMap.map_fst_toList_eq_keys]
  refine List.map_congr_left fun entry hentry => ?_
  exact h entry.1 entry.2 (Std.TreeMap.mem_toList_iff_getElem?_eq_some.mp hentry)

/-- The values of a table are what its keys look up. -/
theorem mem_values_iff {table : Std.TreeMap κ β} {v : β} :
    v ∈ table.values ↔ ∃ k : κ, table[k]? = some v := by
  rw [values_eq_map_toList, List.mem_map]
  constructor
  · rintro ⟨⟨k, v'⟩, hmem, rfl⟩
    exact ⟨k, Std.TreeMap.mem_toList_iff_getElem?_eq_some.mp hmem⟩
  · rintro ⟨k, hk⟩
    exact ⟨(k, v), Std.TreeMap.mem_toList_iff_getElem?_eq_some.mpr hk, rfl⟩

/-- Tables with the same lookups up to `f` have the same values up to `f`. -/
theorem map_values_eq_of_lookup {γ : Type} {table table' : Std.TreeMap κ β} {f : β → γ}
    (h : ∀ k : κ, (table'[k]?).map f = (table[k]?).map f) :
    table'.values.map f = table.values.map f := by
  have hequiv : (table'.map fun _ v => f v).Equiv (table.map fun _ v => f v) := by
    refine Std.TreeMap.Equiv.of_forall_constGet?_eq fun k => ?_
    change (table'.map fun _ v => f v)[k]? = (table.map fun _ v => f v)[k]?
    rw [Std.TreeMap.getElem?_map, Std.TreeMap.getElem?_map]
    exact h k
  have hvalues := hequiv.values_eq
  rw [values_eq_map_toList, values_eq_map_toList, Std.TreeMap.toList_map, Std.TreeMap.toList_map,
    List.map_map, List.map_map] at hvalues
  rw [values_eq_map_toList, values_eq_map_toList, List.map_map, List.map_map]
  exact hvalues

/-- The values of a table after an insertion. -/
theorem countP_values_insert [DecidableEq κ] (table : Std.TreeMap κ β) (p : β → Bool) (k : κ)
    (v : β) :
    (table.insert k v).values.countP p + ((table[k]?).map fun old => if p old then 1 else 0).getD 0 =
      table.values.countP p + if p v then 1 else 0 := by
  have hcount : ∀ t : Std.TreeMap κ β, t.values.countP p = t.toList.countP fun entry => p entry.2 := by
    intro t
    rw [values_eq_map_toList, List.countP_map]
    rfl
  have hinsert : ∀ w : β, (table.insert k w).values.countP p =
      (table.toList.filter fun entry => ¬k == entry.1).countP (fun entry => p entry.2) +
        if p w then 1 else 0 := by
    intro w
    rw [hcount, (Std.TreeMap.toList_insert_perm (t := table)).countP_eq, List.countP_cons]
  cases hold : table[k]? with
  | none =>
    have hfilter : (table.toList.filter fun entry => ¬k == entry.1) = table.toList := by
      refine List.filter_eq_self.mpr fun entry hentry => ?_
      have hne : k ≠ entry.1 := by
        intro heq
        have hlookup := Std.TreeMap.mem_toList_iff_getElem?_eq_some.mp hentry
        rw [← heq, hold] at hlookup
        cases hlookup
      simpa using hne
    rw [hinsert, hfilter, hcount]
    rfl
  | some old =>
    have hsame : table.values.countP p = (table.insert k old).values.countP p := by
      have hlookup : ∀ k' : κ, ((table.insert k old)[k']?).map id = (table[k']?).map id := by
        intro k'
        rw [Std.TreeMap.getElem?_insert]
        split
        · rename_i heq
          rw [← Std.LawfulEqOrd.eq_of_compare heq, hold]
        · rfl
      have hvalues := map_values_eq_of_lookup hlookup
      rw [List.map_id, List.map_id] at hvalues
      rw [hvalues]
    rw [hsame, hinsert, hinsert, Option.map_some, Option.getD_some]
    omega

end Tables
