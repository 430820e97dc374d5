import FederationObservatory.Misc.Sorting

/-!
# Bounded collections

A list that is kept sorted under a linear order, without repetitions and within a limit: an element
is looked for, appended if there is room, and the list is sorted again. Such a list is determined by
its elements, and they do not depend on the order of the insertions as long as all of them fit.
Where insertions replace what was inserted before, the last one of a run that passes a test matters.
-/

namespace Sorting

variable {α : Type} {lt : α → α → Bool}

namespace Linear

theorem lt_of_ne (h : Linear lt) {a b : α} (hab : lt b a = false) (hne : a ≠ b) :
    lt a b = true := by
  by_contra hlt
  exact hne (h.antisymm a b (Bool.eq_false_iff.mpr hlt) hab)

/-- Where a comparison by a key and by something else does not separate, the keys agree, and the
something else does not separate either. -/
theorem of_lex [DecidableEq α] (h : Linear lt) {a b : α} {x y : Bool}
    (hab : (if a ≠ b then lt a b else x) = false) (hba : (if b ≠ a then lt b a else y) = false) :
    a = b ∧ x = false ∧ y = false := by
  by_cases hsame : a = b
  · rw [if_neg (not_not.mpr hsame)] at hab
    rw [if_neg (not_not.mpr hsame.symm)] at hba
    exact ⟨hsame, hab, hba⟩
  · rw [if_pos hsame] at hab
    rw [if_pos (Ne.symm hsame)] at hba
    exact absurd (h.antisymm a b hab hba) hsame

/-- A sorted list without repetitions is strictly sorted. -/
theorem pairwise_lt (h : Linear lt) {l : List α} (hsorted : l.Pairwise fun a b => lt b a = false)
    (hnodup : l.Nodup) : l.Pairwise fun a b => lt a b = true :=
  hsorted.imp₂ (fun _ _ => h.lt_of_ne) hnodup

/-- A sorted list without repetitions is determined by its elements. -/
theorem eq_of_mem_iff (h : Linear lt) {l l' : List α}
    (hsorted : l.Pairwise fun a b => lt b a = false)
    (hsorted' : l'.Pairwise fun a b => lt b a = false) (hnodup : l.Nodup) (hnodup' : l'.Nodup)
    (hmem : ∀ x, x ∈ l ↔ x ∈ l') : l = l' := by
  have hperm : l.Perm l' := (List.perm_ext_iff_of_nodup hnodup hnodup').mpr hmem
  refine hperm.eq_of_pairwise ?_ hsorted hsorted'
  intro a b _ _ hab hba
  exact h.antisymm a b hba hab

end Linear

/-! ## Bounded insertion -/

section Bounded

variable [DecidableEq α] (lt : α → α → Bool) (limit : Nat)

/-- Insert an element, unless it is there already or the list is full. -/
def insertBounded (items : List α) (x : α) : Option (List α) :=
  if x ∈ items then some items
  else if limit ≤ items.length then none
  else some (stableSort lt (items ++ [x]))

/-- Insert an element, or leave the list as it is. -/
def insertOrKeep (items : List α) (x : α) : List α := (insertBounded lt limit items x).getD items

/-- Insert elements one after another. -/
def insertAll (items xs : List α) : List α := xs.foldl (insertOrKeep lt limit) items

theorem insertAll_cons (items : List α) (x : α) (xs : List α) :
    insertAll lt limit items (x :: xs) = insertAll lt limit (insertOrKeep lt limit items x) xs := rfl

/-- What an insertion does: the element is there, there is no room for it, or it is added. -/
theorem insertBounded_cases (items : List α) (x : α) :
    x ∈ items ∧ insertBounded lt limit items x = some items ∨
      x ∉ items ∧ limit ≤ items.length ∧ insertBounded lt limit items x = none ∨
        x ∉ items ∧ items.length < limit ∧
          insertBounded lt limit items x = some (stableSort lt (items ++ [x])) := by
  unfold insertBounded
  by_cases hmem : x ∈ items
  · exact .inl ⟨hmem, if_pos hmem⟩
  · by_cases hfull : limit ≤ items.length
    · exact .inr (.inl ⟨hmem, hfull, by rw [if_neg hmem, if_pos hfull]⟩)
    · exact .inr (.inr ⟨hmem, by omega, by rw [if_neg hmem, if_neg hfull]⟩)

variable {lt limit}

/-- An insertion that succeeds leaves the element in the list. -/
theorem mem_of_insertBounded {items items' : List α} {x : α}
    (h : insertBounded lt limit items x = some items') : x ∈ items' := by
  rcases insertBounded_cases lt limit items x with ⟨hmem, heq⟩ | ⟨-, -, heq⟩ | ⟨-, -, heq⟩
  · rw [heq] at h
    exact Option.some.inj h ▸ hmem
  · rw [heq] at h
    cases h
  · rw [heq] at h
    rw [← Option.some.inj h, (perm_stableSort lt _).mem_iff]
    simp

variable (lt limit) in
theorem insertOrKeep_cases (items : List α) (x : α) :
    x ∈ items ∧ insertOrKeep lt limit items x = items ∨
      x ∉ items ∧ limit ≤ items.length ∧ insertOrKeep lt limit items x = items ∨
        x ∉ items ∧ items.length < limit ∧
          insertOrKeep lt limit items x = stableSort lt (items ++ [x]) := by
  unfold insertOrKeep
  rcases insertBounded_cases lt limit items x with
    ⟨hmem, heq⟩ | ⟨hnew, hfull, heq⟩ | ⟨hnew, hroom, heq⟩
  · exact .inl ⟨hmem, by rw [heq, Option.getD_some]⟩
  · exact .inr (.inl ⟨hnew, hfull, by rw [heq, Option.getD_none]⟩)
  · exact .inr (.inr ⟨hnew, hroom, by rw [heq, Option.getD_some]⟩)

theorem mem_insertOrKeep_of_mem {items : List α} {x y : α} (h : y ∈ items) :
    y ∈ insertOrKeep lt limit items x := by
  rcases insertOrKeep_cases lt limit items x with ⟨-, heq⟩ | ⟨-, -, heq⟩ | ⟨-, -, heq⟩
  · rw [heq]
    exact h
  · rw [heq]
    exact h
  · rw [heq, (perm_stableSort lt _).mem_iff]
    exact List.mem_append_left _ h

theorem length_insertOrKeep_le {items : List α} (x : α) (h : items.length ≤ limit) :
    (insertOrKeep lt limit items x).length ≤ limit := by
  rcases insertOrKeep_cases lt limit items x with ⟨-, heq⟩ | ⟨-, -, heq⟩ | ⟨-, hroom, heq⟩
  · rw [heq]
    exact h
  · rw [heq]
    exact h
  · rw [heq, length_stableSort, List.length_append, List.length_singleton]
    exact hroom

theorem nodup_insertOrKeep {items : List α} (x : α) (h : items.Nodup) :
    (insertOrKeep lt limit items x).Nodup := by
  rcases insertOrKeep_cases lt limit items x with ⟨-, heq⟩ | ⟨-, -, heq⟩ | ⟨hnew, -, heq⟩
  · rw [heq]
    exact h
  · rw [heq]
    exact h
  · rw [heq, (perm_stableSort lt _).nodup_iff, List.nodup_append_comm]
    exact List.nodup_cons.mpr ⟨hnew, h⟩

/-- With room for the element, an insertion adds just it. -/
theorem mem_insertOrKeep {items : List α} {x : α}
    (h : (items ++ [x]).toFinset.card ≤ limit) (hnodup : items.Nodup) {y : α} :
    y ∈ insertOrKeep lt limit items x ↔ y ∈ items ∨ y = x := by
  rcases insertOrKeep_cases lt limit items x with
    ⟨hmem, heq⟩ | ⟨hnew, hfull, -⟩ | ⟨-, -, heq⟩
  · rw [heq]
    constructor
    · exact .inl
    · rintro (hy | rfl)
      · exact hy
      · exact hmem
  · -- a full list without repetitions and one more element exceed the limit
    have hlonger : (items ++ [x]).Nodup := by
      rw [List.nodup_append_comm]
      exact List.nodup_cons.mpr ⟨hnew, hnodup⟩
    rw [List.toFinset_card_of_nodup hlonger, List.length_append, List.length_singleton] at h
    omega
  · rw [heq, (perm_stableSort lt _).mem_iff, List.mem_append, List.mem_singleton]

theorem mem_insertAll_of_mem {items : List α} (xs : List α) {y : α} (h : y ∈ items) :
    y ∈ insertAll lt limit items xs := by
  induction xs generalizing items with
  | nil => exact h
  | cons x xs ih => exact ih (mem_insertOrKeep_of_mem h)

theorem length_insertAll_le {items : List α} (xs : List α) (h : items.length ≤ limit) :
    (insertAll lt limit items xs).length ≤ limit := by
  induction xs generalizing items with
  | nil => exact h
  | cons x xs ih => exact ih (length_insertOrKeep_le x h)

/-- With room for all of the elements, the list holds just them. -/
theorem mem_insertAll {items xs : List α} (h : (items ++ xs).toFinset.card ≤ limit)
    (hnodup : items.Nodup) {y : α} :
    y ∈ insertAll lt limit items xs ↔ y ∈ items ∨ y ∈ xs := by
  induction xs generalizing items with
  | nil => simp [insertAll]
  | cons x xs ih =>
    have hone : (items ++ [x]).toFinset.card ≤ limit := by
      refine (Finset.card_le_card ?_).trans h
      intro z hz
      simp only [List.toFinset_append, List.toFinset_cons, Finset.mem_union, List.mem_toFinset,
        Finset.mem_insert] at hz ⊢
      tauto
    have hmem : ∀ z, z ∈ insertOrKeep lt limit items x ↔ z ∈ items ∨ z = x := fun z =>
      mem_insertOrKeep hone hnodup
    have hrest : (insertOrKeep lt limit items x ++ xs).toFinset.card ≤ limit := by
      refine (Finset.card_le_card ?_).trans h
      intro z hz
      simp only [List.mem_toFinset, List.mem_append, hmem, List.mem_cons] at hz ⊢
      tauto
    rw [insertAll_cons, ih hrest (nodup_insertOrKeep x hnodup), hmem, List.mem_cons]
    tauto

end Bounded

/-! ## Looking up a key -/

/-- Where the keys are distinct, looking one up finds the element that has it. -/
theorem find?_key_eq_some {κ : Type} [DecidableEq κ] {key : α → κ} {l : List α}
    (hdistinct : (l.map key).Nodup) {k : κ} {x : α} :
    (l.find? fun y => key y = k) = some x ↔ x ∈ l ∧ key x = k := by
  constructor
  · intro h
    exact ⟨List.mem_of_find?_eq_some h, by simpa using List.find?_some h⟩
  · rintro ⟨hmem, hkey⟩
    obtain ⟨found, hfound⟩ : ∃ found, (l.find? fun y => key y = k) = some found := by
      rw [← Option.isSome_iff_exists, List.find?_isSome]
      exact ⟨x, hmem, by simpa using hkey⟩
    have hsame : key found = k := by simpa using List.find?_some hfound
    rw [hfound, List.inj_on_of_nodup_map hdistinct (List.mem_of_find?_eq_some hfound) hmem
      (hsame.trans hkey.symm)]

/-! ## The last of a run -/

section Last

variable {P : List α → α → Prop}

/-- The last element of a run that passes a test, which may depend on what came before it. -/
def LastSuch (P : List α → α → Prop) (run : List α) (x : α) : Prop :=
  ∃ before after, run = before ++ x :: after ∧ P before x ∧
    ∀ mid y rest, after = mid ++ y :: rest → ¬P (before ++ x :: mid) y

/-- No element of a run passes the test. -/
def NoneSuch (P : List α → α → Prop) (run : List α) : Prop :=
  ∀ before x after, run = before ++ x :: after → ¬P before x

theorem not_lastSuch_nil (x : α) : ¬LastSuch P [] x := by
  rintro ⟨before, after, hrun, -⟩
  cases before <;> cases hrun

theorem noneSuch_nil : NoneSuch P [] := by
  intro before x after hrun
  cases before <;> cases hrun

theorem concat_eq_append_cons {run before after : List α} {x y : α}
    (h : run ++ [y] = before ++ x :: after) :
    before = run ∧ x = y ∧ after = [] ∨
      ∃ rest, after = rest ++ [y] ∧ run = before ++ x :: rest := by
  rcases List.eq_nil_or_concat after with rfl | ⟨rest, z, hafter⟩
  · obtain ⟨hbefore, hx⟩ := List.append_inj' h rfl
    exact .inl ⟨hbefore.symm, (List.singleton_inj.mp hx).symm, rfl⟩
  · rw [List.concat_eq_append] at hafter
    subst hafter
    have hassoc : run ++ [y] = (before ++ x :: rest) ++ [z] := by
      rw [h, List.append_assoc, List.cons_append]
    obtain ⟨hrun, hz⟩ := List.append_inj' hassoc rfl
    exact .inr ⟨rest, by rw [List.singleton_inj.mp hz], hrun⟩

theorem lastSuch_concat_of_pos {run : List α} {x y : α} (h : P run y) :
    LastSuch P (run ++ [y]) x ↔ x = y := by
  constructor
  · rintro ⟨before, after, hrun, -, hlater⟩
    rcases concat_eq_append_cons hrun with ⟨-, hx, -⟩ | ⟨rest, rfl, rfl⟩
    · exact hx
    · exact absurd h (hlater rest y [] rfl)
  · rintro rfl
    refine ⟨run, [], rfl, h, ?_⟩
    intro mid y rest hnil
    exact absurd hnil (by simp)

theorem lastSuch_concat_of_neg {run : List α} {x y : α} (h : ¬P run y) :
    LastSuch P (run ++ [y]) x ↔ LastSuch P run x := by
  constructor
  · rintro ⟨before, after, hrun, hx, hlater⟩
    rcases concat_eq_append_cons hrun with ⟨rfl, rfl, -⟩ | ⟨rest, rfl, rfl⟩
    · exact absurd hx h
    · refine ⟨before, rest, rfl, hx, ?_⟩
      rintro mid z later rfl
      exact hlater mid z (later ++ [y]) (by simp)
  · rintro ⟨before, after, rfl, hx, hlater⟩
    refine ⟨before, after ++ [y], by simp, hx, ?_⟩
    intro mid z later hafter
    rcases concat_eq_append_cons hafter with ⟨rfl, rfl, -⟩ | ⟨rest, rfl, rfl⟩
    · exact h
    · exact hlater mid z rest rfl

theorem noneSuch_concat {run : List α} {y : α} :
    NoneSuch P (run ++ [y]) ↔ ¬P run y ∧ NoneSuch P run := by
  constructor
  · intro h
    refine ⟨h run y [] rfl, ?_⟩
    rintro before x after rfl
    exact h before x (after ++ [y]) (by simp)
  · rintro ⟨hy, h⟩ before x after hrun
    rcases concat_eq_append_cons hrun with ⟨rfl, rfl, -⟩ | ⟨rest, rfl, rfl⟩
    · exact hy
    · exact h before x rest rfl

end Last

end Sorting
