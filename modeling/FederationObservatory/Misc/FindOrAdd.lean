import Mathlib.Data.List.Dedup
import Mathlib.Data.List.Induction
import FederationObservatory.Misc.Grouping

/-!
# Rows that are found or added

A list of rows, each under a key. An event updates the row of its subject, and starts one where
there is none. After a sequence of events there is one row for each subject, and it is what the
events with this subject make of a fresh row.
-/

namespace FindOrAdd

/-- How rows are kept: the key of a row, a fresh row, the subject of an event, and what an event
    makes of the row of its subject. -/
structure Ledger (α ρ κ : Type*) where
  key : ρ → κ
  fresh : κ → ρ
  subject : α → κ
  update : ρ → α → ρ
  key_fresh : ∀ k, key (fresh k) = k
  key_update : ∀ row a, key (update row a) = key row

namespace Ledger

variable {α ρ κ : Type*} [DecidableEq κ] (L : Ledger α ρ κ)

/-- Find the row of the subject, or add it, and update it. -/
def findOrAdd (a : α) : List ρ → List ρ
  | [] => [L.update (L.fresh (L.subject a)) a]
  | row :: rows =>
    if L.key row = L.subject a then L.update row a :: rows else row :: findOrAdd a rows

/-- The rows after a sequence of events. -/
def run (l : List α) : List ρ := l.foldl (fun rows a => L.findOrAdd a rows) []

/-- The events with a subject. -/
def of (l : List α) (k : κ) : List α := l.filter fun a => L.subject a = k

/-- What the events with a subject make of a fresh row. -/
def row (l : List α) (k : κ) : ρ := (L.of l k).foldl L.update (L.fresh k)

theorem map_key_findOrAdd (a : α) (rows : List ρ) :
    (L.findOrAdd a rows).map L.key =
      if L.subject a ∈ rows.map L.key then rows.map L.key else rows.map L.key ++ [L.subject a] := by
  induction rows with
  | nil => simp [findOrAdd, L.key_update, L.key_fresh]
  | cons row rows ih =>
    unfold findOrAdd
    by_cases h : L.key row = L.subject a
    · rw [if_pos h, List.map_cons, List.map_cons, L.key_update, if_pos (by simp [h])]
    · rw [if_neg h, List.map_cons, ih, List.map_cons]
      have hmem : L.subject a ∈ L.key row :: rows.map L.key ↔ L.subject a ∈ rows.map L.key := by
        rw [List.mem_cons, or_iff_right (Ne.symm h)]
      by_cases hin : L.subject a ∈ rows.map L.key
      · rw [if_pos hin, if_pos (hmem.mpr hin)]
      · rw [if_neg hin, if_neg (fun hother => hin (hmem.mp hother)), List.cons_append]

theorem run_concat (l : List α) (a : α) : L.run (l ++ [a]) = L.findOrAdd a (L.run l) := by
  unfold run
  rw [List.foldl_append, List.foldl_cons, List.foldl_nil]

/-- There is one row for each subject. -/
theorem nodup_keys_run (l : List α) : ((L.run l).map L.key).Nodup := by
  induction l using List.reverseRecOn with
  | nil => exact List.nodup_nil
  | append_singleton l a ih =>
    rw [run_concat, map_key_findOrAdd]
    split
    · exact ih
    · next hnew => exact ih.append (List.nodup_singleton _) (by simpa using hnew)

theorem mem_keys_run {l : List α} {k : κ} :
    k ∈ (L.run l).map L.key ↔ ∃ a ∈ l, L.subject a = k := by
  induction l using List.reverseRecOn with
  | nil => simp [run]
  | append_singleton l a ih =>
    rw [run_concat, map_key_findOrAdd]
    split
    · next hold =>
      rw [ih]
      constructor
      · rintro ⟨b, hb, hk⟩
        exact ⟨b, List.mem_append_left _ hb, hk⟩
      · rintro ⟨b, hb, rfl⟩
        rcases List.mem_append.mp hb with hb | hb
        · exact ⟨b, hb, rfl⟩
        · obtain rfl := List.mem_singleton.mp hb
          exact ih.mp hold
    · rw [List.mem_append, ih, List.mem_singleton]
      constructor
      · rintro (⟨b, hb, hk⟩ | rfl)
        · exact ⟨b, List.mem_append_left _ hb, hk⟩
        · exact ⟨a, List.mem_append_right _ (List.mem_singleton_self a), rfl⟩
      · rintro ⟨b, hb, rfl⟩
        rcases List.mem_append.mp hb with hb | hb
        · exact .inl ⟨b, hb, rfl⟩
        · rw [List.mem_singleton.mp hb]
          exact .inr rfl

/-- What an event does to the row of a key. -/
theorem find?_findOrAdd (a : α) (rows : List ρ) (k : κ) :
    (L.findOrAdd a rows).find? (L.key · = k) =
      if L.subject a = k then
        some (L.update ((rows.find? (L.key · = k)).getD (L.fresh k)) a)
      else rows.find? (L.key · = k) := by
  induction rows with
  | nil =>
    unfold findOrAdd
    by_cases h : L.subject a = k
    · subst h
      simp [L.key_update, L.key_fresh]
    · simp [L.key_update, L.key_fresh, h]
  | cons row rows ih =>
    unfold findOrAdd
    by_cases hrow : L.key row = L.subject a
    · rw [if_pos hrow, List.find?_cons, List.find?_cons, L.key_update, hrow]
      by_cases h : L.subject a = k <;> simp [h]
    · rw [if_neg hrow, List.find?_cons, List.find?_cons, ih]
      by_cases h : L.key row = k
      · have hother : L.subject a ≠ k := fun heq => hrow (h.trans heq.symm)
        simp [h, hother]
      · simp [h]

/-- The row of a subject after a sequence of events. -/
theorem find?_run (l : List α) (k : κ) :
    (L.run l).find? (L.key · = k) =
      if ∃ a ∈ l, L.subject a = k then some (L.row l k) else none := by
  induction l using List.reverseRecOn with
  | nil => simp [run]
  | append_singleton l a ih =>
    rw [run_concat, find?_findOrAdd, ih]
    unfold row of
    rw [List.filter_append]
    by_cases h : L.subject a = k
    · have hsome : ∃ b ∈ l ++ [a], L.subject b = k :=
        ⟨a, List.mem_append_right _ (List.mem_singleton_self a), h⟩
      rw [if_pos h, if_pos hsome]
      have hlast : [a].filter (fun a => L.subject a = k) = [a] := by simp [h]
      rw [hlast, List.foldl_append, List.foldl_cons, List.foldl_nil]
      split
      · rfl
      · next hnone =>
        have hempty : l.filter (fun a => L.subject a = k) = [] := by
          refine List.filter_eq_nil_iff.mpr fun b hb hk => hnone ⟨b, hb, by simpa using hk⟩
        rw [hempty]
        rfl
    · rw [if_neg h]
      have hlast : [a].filter (fun a => L.subject a = k) = [] := by simp [h]
      have hsame : (∃ b ∈ l ++ [a], L.subject b = k) ↔ ∃ b ∈ l, L.subject b = k := by
        simp [h, or_and_right, exists_or]
      rw [hlast, List.append_nil]
      simp only [hsame]

/-- The rows after a sequence of events. -/
theorem mem_run_iff {l : List α} {r : ρ} :
    r ∈ L.run l ↔ (∃ a ∈ l, L.subject a = L.key r) ∧ r = L.row l (L.key r) := by
  constructor
  · intro hr
    have hsubject : ∃ a ∈ l, L.subject a = L.key r :=
      L.mem_keys_run.mp (List.mem_map_of_mem hr)
    have hfind := L.find?_run l (L.key r)
    rw [if_pos hsubject] at hfind
    have hother := List.mem_of_find?_eq_some hfind
    have hkey : L.key (L.row l (L.key r)) = L.key r := by simpa using List.find?_some hfind
    exact ⟨hsubject, List.inj_on_of_nodup_map (L.nodup_keys_run l) hr hother hkey.symm⟩
  · rintro ⟨hsubject, hr⟩
    have hfind := L.find?_run l (L.key r)
    rw [if_pos hsubject, ← hr] at hfind
    exact List.mem_of_find?_eq_some hfind

/-- The rows together count every event. -/
theorem sum_length_of (l : List α) :
    ((L.run l).map fun r => (L.of l (L.key r)).length).sum = l.length := by
  have hweight : ((L.run l).map L.key).map (Grouping.weight L.subject (fun _ => 1) l) =
      (L.run l).map fun r => (L.of l (L.key r)).length := by
    rw [List.map_map]
    refine List.map_congr_left fun r _ => ?_
    simp [Grouping.weight, of]
  rw [← hweight, Grouping.sum_weight L.subject (fun _ => 1) (L.nodup_keys_run l)]
  · simp
  · exact fun a ha => L.mem_keys_run.mpr ⟨a, ha, rfl⟩

end Ledger

end FindOrAdd
