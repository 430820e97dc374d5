import Mathlib

/-!
# Groups of a list

The elements of a list, grouped by a key, and the weight of each group. The groups of different keys
share no element, so the weights of the groups of all keys add up to the weight of the list.
-/

namespace Grouping

variable {α κ : Type*} [DecidableEq κ] (key : α → κ) (w : α → Nat)

/-- The weight of the elements under a key. -/
def weight (l : List α) (k : κ) : Nat := ((l.filter fun x => key x = k).map w).sum

@[simp]
theorem weight_nil (k : κ) : weight key w [] k = 0 := rfl

theorem weight_append (l l' : List α) (k : κ) :
    weight key w (l ++ l') k = weight key w l k + weight key w l' k := by
  simp [weight]

theorem weight_singleton (x : α) (k : κ) :
    weight key w [x] k = if key x = k then w x else 0 := by
  by_cases h : key x = k <;> simp [weight, h]

theorem weight_perm {l l' : List α} (h : l.Perm l') (k : κ) :
    weight key w l k = weight key w l' k :=
  ((h.filter _).map _).sum_eq

/-- A group is not heavier than the list. -/
theorem weight_le (l : List α) (k : κ) : weight key w l k ≤ (l.map w).sum := by
  induction l with
  | nil => rfl
  | cons x l ih =>
    have hcons := weight_append key w [x] l k
    rw [weight_singleton, List.singleton_append] at hcons
    rw [List.map_cons, List.sum_cons, hcons]
    split <;> omega

omit key w in
/-- One key of a list of different keys is met once. -/
theorem sum_map_ite {keys : List κ} (hnodup : keys.Nodup) {k : κ} (hk : k ∈ keys) {n : Nat} :
    (keys.map fun k' => if k = k' then n else 0).sum = n := by
  induction keys with
  | nil => cases hk
  | cons k' keys ih =>
    obtain ⟨hfresh, hnodup⟩ := List.nodup_cons.mp hnodup
    rw [List.map_cons, List.sum_cons]
    by_cases heq : k = k'
    · have hzero : ∀ x ∈ keys, (if k = x then n else 0) = 0 := by
        intro x hx
        exact if_neg (by rintro rfl; exact hfresh (heq ▸ hx))
      rw [if_pos heq, List.map_congr_left hzero]
      simp
    · rw [if_neg heq, ih hnodup ((List.mem_cons.mp hk).resolve_left heq), Nat.zero_add]

/-- Keys that cover the list split its weight. -/
theorem sum_weight {l : List α} {keys : List κ} (hnodup : keys.Nodup)
    (hcovers : ∀ x ∈ l, key x ∈ keys) : (keys.map (weight key w l)).sum = (l.map w).sum := by
  induction l with
  | nil => simp [funext (weight_nil key w)]
  | cons x l ih =>
    have hx : key x ∈ keys := hcovers x List.mem_cons_self
    have hcons : ∀ k, weight key w (x :: l) k = (if key x = k then w x else 0) + weight key w l k := by
      intro k
      rw [← List.singleton_append, weight_append, weight_singleton]
    rw [List.map_congr_left fun k _ => hcons k, List.sum_map_add, sum_map_ite hnodup hx,
      ih fun y hy => hcovers y (List.mem_cons_of_mem _ hy), List.map_cons, List.sum_cons]

omit key w in
/-- A list without duplicates meets a predicate once exactly if one element does. -/
theorem countP_eq_one_iff {l : List α} (hnodup : l.Nodup) {p : α → Bool} :
    l.countP p = 1 ↔ ∃! x, x ∈ l ∧ p x = true := by
  rw [List.countP_eq_length_filter, List.length_eq_one_iff]
  constructor
  · rintro ⟨x, hx⟩
    refine ⟨x, List.mem_filter.mp (hx ▸ List.mem_singleton_self x), ?_⟩
    intro y hy
    exact List.mem_singleton.mp (hx ▸ List.mem_filter.mpr hy)
  · rintro ⟨x, hx, hunique⟩
    refine ⟨x, List.perm_singleton.mp ?_⟩
    refine (List.perm_ext_iff_of_nodup (hnodup.filter p) (List.nodup_singleton x)).mpr ?_
    intro y
    rw [List.mem_filter, List.mem_singleton]
    constructor
    · exact hunique y
    · rintro rfl
      exact hx

end Grouping
