import Mathlib

/-!
# Sorting and adjacent elements

`std::sort` and `std::stable_sort` with a strict order `lt`, `std::unique` after a sort and
`std::adjacent_find`. Elements the order does not separate keep their positions. For
`std::sort`, which does not promise that, the callers sort by keys that are distinct or compare
nothing beyond the key.
-/

namespace Sorting

variable {α β : Type}

/-- Sort by a strict order, keeping the positions of elements it does not separate. -/
def stableSort (lt : α → α → Bool) (l : List α) : List α :=
  l.insertionSort fun a b => lt b a = false

/-- `std::adjacent_find` with equality: are two neighbours equal? -/
def adjacentFind [DecidableEq α] : List α → Bool
  | a :: b :: l => a == b || adjacentFind (b :: l)
  | _ => false

/-- `std::unique`: keep the first of every run of equal neighbours. -/
def unique [DecidableEq α] : List α → List α
  | a :: b :: l => if a = b then unique (b :: l) else a :: unique (b :: l)
  | l => l

/-- `std::set_difference` of two sorted sequences: an element of the first is kept unless it meets its
    equal in what is left of the second. -/
def setDifference (lt : α → α → Bool) : List α → List α → List α
  | [], _ => []
  | a :: as, bs =>
    match bs.dropWhile fun b => lt b a with
    | [] => a :: setDifference lt as []
    | b :: rest =>
      if lt a b then a :: setDifference lt as (b :: rest) else setDifference lt as rest

/-- The strict order of a three-way comparison. -/
def less [Ord α] (a b : α) : Bool := compare a b == .lt

/-- Sort, then look for equal neighbours. -/
def hasDuplicates [Ord α] [DecidableEq α] (values : List α) : Bool :=
  adjacentFind (stableSort less values)

theorem perm_stableSort (lt : α → α → Bool) (l : List α) : (stableSort lt l).Perm l :=
  List.perm_insertionSort _ l

theorem length_stableSort (lt : α → α → Bool) (l : List α) :
    (stableSort lt l).length = l.length :=
  (perm_stableSort lt l).length_eq

/-- Sorting commutes with a map the order does not see. -/
theorem stableSort_map (lt : α → α → Bool) (lt' : β → β → Bool) (f : α → β)
    (h : ∀ a b, lt' (f a) (f b) = lt a b) (l : List α) :
    stableSort lt' (l.map f) = (stableSort lt l).map f := by
  unfold stableSort
  rw [List.map_insertionSort (fun a b => lt b a = false) (fun a b => lt' b a = false)]
  intro a _ b _
  simp only [h]

theorem pairwise_stableSort (lt : α → α → Bool)
    (trans : ∀ a b c, lt b a = false → lt c b = false → lt c a = false)
    (total : ∀ a b, lt b a = false ∨ lt a b = false) (l : List α) :
    (stableSort lt l).Pairwise fun a b => lt b a = false := by
  have : IsTrans α fun a b => lt b a = false := ⟨trans⟩
  have : Std.Total fun a b : α => lt b a = false := ⟨total⟩
  exact List.pairwise_insertionSort _ l

/-- Sorting twice is sorting once, for a total preorder. -/
theorem stableSort_idem (lt : α → α → Bool)
    (trans : ∀ a b c, lt b a = false → lt c b = false → lt c a = false)
    (total : ∀ a b, lt b a = false ∨ lt a b = false) (l : List α) :
    stableSort lt (stableSort lt l) = stableSort lt l :=
  (pairwise_stableSort lt trans total l).insertionSort_eq

/-! ## Neighbours -/

section Neighbours

variable [DecidableEq α]

/-- What is left keeps its order. -/
theorem unique_sublist (l : List α) : (unique l).Sublist l := by
  fun_induction unique l with
  | case1 a l ih => exact ih.cons a
  | case2 a b l h ih => exact ih.cons_cons a
  | case3 l h => exact List.Sublist.refl l

theorem mem_unique {l : List α} {x : α} : x ∈ unique l ↔ x ∈ l := by
  fun_induction unique l with
  | case1 a l ih => simp [ih]
  | case2 a b l h ih => simp [ih]
  | case3 l h => exact Iff.rfl

/-- The head stays. -/
theorem unique_cons (a : α) (l : List α) : ∃ l', unique (a :: l) = a :: l' := by
  induction l generalizing a with
  | nil => exact ⟨[], rfl⟩
  | cons b l ih =>
    unfold unique
    split
    · rename_i h
      rw [h]
      exact ih b
    · exact ⟨_, rfl⟩

/-- No two neighbours are equal afterwards. -/
theorem adjacentFind_unique (l : List α) : adjacentFind (unique l) = false := by
  fun_induction unique l with
  | case1 a l ih => exact ih
  | case2 a b l h ih =>
    obtain ⟨l', hl'⟩ := unique_cons b l
    rw [hl'] at ih ⊢
    simp [adjacentFind, h, ih]
  | case3 l h =>
    match l, h with
    | [], _ => rfl
    | [a], _ => rfl
    | a :: b :: l, h => exact absurd rfl (h a b l)

/-- Where no two neighbours are equal, nothing is dropped. -/
theorem unique_eq_self {l : List α} (h : adjacentFind l = false) : unique l = l := by
  fun_induction unique l with
  | case1 a l ih => simp [adjacentFind] at h
  | case2 a b l hne ih =>
    simp only [adjacentFind, Bool.or_eq_false_iff] at h
    rw [ih h.2]
  | case3 l hl => rfl

theorem unique_unique (l : List α) : unique (unique l) = unique l :=
  unique_eq_self (adjacentFind_unique l)

end Neighbours

/-! ## Orders -/

/-- A strict order as sorting needs it: not to come before is a total preorder. -/
structure Weak (lt : α → α → Bool) : Prop where
  trans : ∀ a b c, lt b a = false → lt c b = false → lt c a = false
  total : ∀ a b, lt b a = false ∨ lt a b = false

/-- A strict order that separates different elements. -/
structure Linear (lt : α → α → Bool) : Prop extends Weak lt where
  antisymm : ∀ a b, lt a b = false → lt b a = false → a = b

namespace Weak

variable {lt : α → α → Bool}

theorem comap (h : Weak lt) (f : β → α) : Weak fun a b => lt (f a) (f b) :=
  ⟨fun a b c => h.trans (f a) (f b) (f c), fun a b => h.total (f a) (f b)⟩

/-- Compare by one field, and by something else where it agrees. -/
theorem lex [DecidableEq β] {key : α → β} {ltKey : β → β → Bool} (hkey : Linear ltKey)
    (h : Weak lt) : Weak fun a b => if key a ≠ key b then ltKey (key a) (key b) else lt a b := by
  constructor
  · intro a b c hab hbc
    simp only [ne_eq, ite_not] at hab hbc ⊢
    by_cases hac : key c = key a
    · rw [if_pos hac]
      by_cases hba : key b = key a
      · rw [if_pos hba] at hab
        rw [if_pos (hac.trans hba.symm)] at hbc
        exact h.trans a b c hab hbc
      · -- `b` lies between two elements of one key
        have hcb : key c ≠ key b := fun heq => hba (heq.symm.trans hac)
        rw [if_neg hba] at hab
        rw [if_neg hcb, hac] at hbc
        exact absurd (hkey.antisymm _ _ hab hbc) hba
    · rw [if_neg hac]
      by_cases hba : key b = key a
      · rw [if_neg (fun heq => hac (heq.trans hba)), hba] at hbc
        exact hbc
      · rw [if_neg hba] at hab
        by_cases hcb : key c = key b
        · rw [hcb]
          exact hab
        · rw [if_neg hcb] at hbc
          exact hkey.trans _ _ _ hab hbc
  · intro a b
    simp only [ne_eq, ite_not]
    by_cases heq : key a = key b
    · rw [if_pos heq, if_pos heq.symm]
      exact h.total a b
    · rw [if_neg heq, if_neg fun h => heq h.symm]
      exact hkey.total (key a) (key b)

theorem pairwise (h : Weak lt) (l : List α) :
    (stableSort lt l).Pairwise fun a b => lt b a = false :=
  pairwise_stableSort lt h.trans h.total l

theorem idem (h : Weak lt) (l : List α) : stableSort lt (stableSort lt l) = stableSort lt l :=
  stableSort_idem lt h.trans h.total l

end Weak

/-! ## Differences -/

section Difference

variable {lt : α → α → Bool}

theorem setDifference_nil (l : List α) : setDifference lt l [] = l := by
  induction l with
  | nil => rfl
  | cons a l ih => rw [setDifference, List.dropWhile_nil, ih]

theorem setDifference_sublist (as bs : List α) : (setDifference lt as bs).Sublist as := by
  induction as generalizing bs with
  | nil => exact List.Sublist.slnil
  | cons a as ih =>
    rw [setDifference]
    split
    · exact (ih []).cons_cons a
    · split
      · exact (ih _).cons_cons a
      · exact (ih _).cons a

/-- What is dropped lies below the first element, so it is none of a sorted list. -/
theorem count_dropWhile [BEq α] [LawfulBEq α] {a x : α} {bs : List α}
    (hx : lt x a = false) : (bs.dropWhile fun b => lt b a).count x = bs.count x := by
  induction bs with
  | nil => rfl
  | cons b bs ih =>
    rw [List.dropWhile_cons]
    split
    · next hb =>
      have hne : b ≠ x := by
        rintro rfl
        rw [hx] at hb
        cases hb
      rw [ih, List.count_cons_of_ne hne]
    · rfl

/-- How often an element is in the difference. -/
theorem count_setDifference [BEq α] [LawfulBEq α] (hlt : Linear lt) {as bs : List α}
    (has : as.Pairwise fun a b => lt b a = false) (hbs : bs.Pairwise fun a b => lt b a = false)
    (x : α) : (setDifference lt as bs).count x = as.count x - bs.count x := by
  induction as generalizing bs with
  | nil => simp [setDifference]
  | cons a as ih =>
    by_cases hx : x ∈ a :: as
    · have hxa : lt x a = false := by
        rcases List.mem_cons.mp hx with rfl | hx
        · rcases hlt.total x x with h | h <;> exact h
        · exact List.rel_of_pairwise_cons has hx
      have hdropped : (bs.dropWhile fun b => lt b a).count x = bs.count x := count_dropWhile hxa
      have hsorted := hbs.sublist (List.dropWhile_sublist fun b => lt b a)
      rw [setDifference]
      split
      · next hdrop =>
        rw [hdrop] at hdropped
        rw [setDifference_nil, ← hdropped, List.count_nil, Nat.sub_zero]
      · next b rest hdrop =>
        rw [hdrop] at hdropped hsorted
        have hba : lt b a = false := by
          have h := List.head_dropWhile_not (p := fun b => lt b a) (l := bs) (by rw [hdrop]; simp)
          simpa [hdrop] using h
        rw [← hdropped]
        split
        · next hab =>
          rw [List.count_cons, ih has.of_cons hsorted, List.count_cons (a := x) (b := a)]
          by_cases hxeq : a = x
          · subst hxeq
            have hnone : (b :: rest).count a = 0 := by
              refine List.count_eq_zero.mpr fun hmem => ?_
              rcases List.mem_cons.mp hmem with rfl | hmem
              · rw [hxa] at hab
                cases hab
              · have hle := List.rel_of_pairwise_cons hsorted hmem
                rw [hab] at hle
                cases hle
            omega
          · simp [hxeq]
        · next hab =>
          obtain rfl : a = b := hlt.antisymm _ _ (by simpa using hab) hba
          rw [ih has.of_cons hsorted.of_cons, List.count_cons, List.count_cons]
          omega
    · rw [List.count_eq_zero.mpr hx, Nat.zero_sub]
      exact List.count_eq_zero.mpr fun hmem => hx ((setDifference_sublist _ _).mem hmem)

/-- Nothing is left exactly when every element is as often in the second sequence. -/
theorem setDifference_eq_nil_iff [BEq α] [LawfulBEq α] (hlt : Linear lt) {as bs : List α}
    (has : as.Pairwise fun a b => lt b a = false) (hbs : bs.Pairwise fun a b => lt b a = false) :
    setDifference lt as bs = [] ↔ ∀ x, as.count x ≤ bs.count x := by
  constructor
  · intro h x
    have hcount := count_setDifference hlt has hbs x
    rw [h, List.count_nil] at hcount
    omega
  · intro h
    refine List.eq_nil_iff_forall_not_mem.mpr fun x hx => ?_
    have hpos := List.count_pos_iff.mpr hx
    have hle := h x
    rw [count_setDifference hlt has hbs] at hpos
    omega

end Difference

/-- A sorted list is left as it is. -/
theorem stableSort_eq_self {lt : α → α → Bool} {l : List α}
    (h : l.Pairwise fun a b => lt b a = false) : stableSort lt l = l :=
  h.insertionSort_eq

/-- The last element of a sorted list that passes a test is the one that no other such element
    comes after. -/
theorem getLast?_filter_eq_some {lt : α → α → Bool} (hlt : Weak lt) {l : List α} {p : α → Bool}
    (hsorted : l.Pairwise fun a b => lt b a = false)
    (hseparated : ∀ a ∈ l, ∀ b ∈ l, lt a b = false → lt b a = false → a = b) {x : α} :
    (l.filter p).getLast? = some x ↔ x ∈ l ∧ p x = true ∧ ∀ y ∈ l, p y = true → lt x y = false := by
  have hlast : ∀ z, (l.filter p).getLast? = some z →
      z ∈ l ∧ p z = true ∧ ∀ y ∈ l, p y = true → lt z y = false := by
    intro z hz
    obtain ⟨before, hbefore⟩ := List.getLast?_eq_some_iff.mp hz
    have hfilter := hsorted.filter p
    rw [hbefore, List.pairwise_append] at hfilter
    obtain ⟨hmem, hpz⟩ := List.mem_filter.mp (List.mem_of_getLast? hz)
    refine ⟨hmem, hpz, fun y hy hpy => ?_⟩
    have hy' : y ∈ before ++ [z] := hbefore ▸ List.mem_filter.mpr ⟨hy, hpy⟩
    rcases List.mem_append.mp hy' with hy' | hy'
    · exact hfilter.2.2 y hy' z List.mem_cons_self
    · rw [List.mem_singleton.mp hy']
      exact (hlt.total z z).elim id id
  refine ⟨hlast x, ?_⟩
  rintro ⟨hx, hpx, hmax⟩
  cases hz : (l.filter p).getLast? with
  | none =>
    have hempty := List.getLast?_eq_none_iff.mp hz
    exact absurd (List.mem_filter.mpr ⟨hx, hpx⟩) (hempty ▸ List.not_mem_nil)
  | some z =>
    obtain ⟨hmem, hpz, hzmax⟩ := hlast z hz
    rw [hseparated x hx z hmem (hmax z hmem hpz) (hzmax x hx hpx)]

/-- Orders that agree on the elements of a list sort it alike. -/
theorem stableSort_congr {lt lt' : α → α → Bool} {l : List α}
    (h : ∀ a ∈ l, ∀ b ∈ l, lt' b a = lt b a) : stableSort lt' l = stableSort lt l := by
  have hmap := List.map_insertionSort (fun a b => lt b a = false) (fun a b => lt' b a = false) id l
    (fun a ha b hb => by simp only [id_eq, h a ha b hb])
  simpa [stableSort] using hmap.symm

section Ord

variable [Ord α]

theorem less_eq_false {a b : α} : less b a = false ↔ compare b a ≠ .lt := by
  simp [less]

theorem less_trans [Std.TransOrd α] (a b c : α) (hab : less b a = false) (hbc : less c b = false) :
    less c a = false := by
  simp only [less_eq_false, ← Ordering.isGE_iff_ne_lt] at *
  exact Std.TransCmp.isGE_trans hbc hab

theorem less_total [Std.OrientedOrd α] (a b : α) : less b a = false ∨ less a b = false := by
  by_cases h : compare b a = .lt
  · right
    have hgt : compare a b = .gt := Std.OrientedCmp.gt_of_lt h
    simp [less, hgt]
  · left
    simp [less, h]

theorem weak_less [Std.TransOrd α] : Weak (less : α → α → Bool) := ⟨less_trans, less_total⟩

theorem linear_less [Std.TransOrd α] [Std.LawfulEqOrd α] : Linear (less : α → α → Bool) := by
  refine ⟨weak_less, ?_⟩
  intro a b hab hba
  refine Std.LawfulEqOrd.eq_of_compare ?_
  cases hcmp : compare a b with
  | lt => exact absurd hcmp (less_eq_false.mp hab)
  | eq => rfl
  | gt => exact absurd (Std.OrientedCmp.lt_of_gt hcmp) (less_eq_false.mp hba)

/-- In a sorted list equal elements are neighbours. -/
theorem adjacentFind_eq_false [DecidableEq α] [Std.TransOrd α] [Std.LawfulEqOrd α] {l : List α}
    (hsorted : l.Pairwise fun a b => less b a = false) : adjacentFind l = false ↔ l.Nodup := by
  induction l with
  | nil => simp [adjacentFind]
  | cons a l ih =>
    have htail := List.Pairwise.of_cons hsorted
    cases l with
    | nil => simp [adjacentFind]
    | cons b l =>
      have hab := List.rel_of_pairwise_cons hsorted List.mem_cons_self
      simp only [adjacentFind, Bool.or_eq_false_iff, beq_eq_false_iff_ne, ih htail,
        List.nodup_cons (a := a)]
      constructor
      · intro h
        refine ⟨?_, h.2⟩
        intro hmem
        rcases List.mem_cons.mp hmem with heq | hlater
        · exact h.1 heq
        · -- `a` again after `b`, so `b` lies between two equal elements
          have hba := List.rel_of_pairwise_cons htail hlater
          exact h.1 (linear_less.antisymm a b hba hab)
      · intro h
        refine ⟨?_, h.2⟩
        intro heq
        exact h.1 (heq ▸ List.mem_cons_self)

/-- Sorting and dropping repetitions a second time changes nothing. -/
theorem stableSort_unique [DecidableEq α] [Std.TransOrd α] (l : List α) :
    stableSort less (unique (stableSort less l)) = unique (stableSort less l) :=
  stableSort_eq_self ((weak_less.pairwise l).sublist (unique_sublist _))

theorem hasDuplicates_eq_false [DecidableEq α] [Std.TransOrd α] [Std.LawfulEqOrd α] {l : List α} :
    hasDuplicates l = false ↔ l.Nodup := by
  unfold hasDuplicates
  rw [adjacentFind_eq_false (pairwise_stableSort less less_trans less_total l)]
  exact (perm_stableSort less l).nodup_iff

theorem less_self [Std.ReflOrd α] (a : α) : less a a = false := by
  simp [less]

theorem less_asymm [Std.OrientedOrd α] {a b : α} (h : less a b = true) : less b a = false :=
  (less_total a b).resolve_right fun hab => by rw [h] at hab; cases hab

/-- The first `n` elements of a list that is strictly sorted by a key are those with fewer than `n`
    elements below them. -/
theorem mem_take_iff [Std.TransOrd α] {f : β → α} {l : List β}
    (hsorted : l.Pairwise fun a b => less (f a) (f b) = true) {x : β} (hx : x ∈ l) (n : Nat) :
    x ∈ l.take n ↔ (l.filter fun b => less (f b) (f x)).length < n := by
  obtain ⟨below, above, rfl⟩ := List.append_of_mem hx
  obtain ⟨-, habove, hbelow⟩ := List.pairwise_append.mp hsorted
  have hfilterBelow : below.filter (fun b => less (f b) (f x)) = below :=
    List.filter_eq_self.mpr fun b hb => hbelow b hb x List.mem_cons_self
  have hfilterAbove : (x :: above).filter (fun b => less (f b) (f x)) = [] := by
    refine List.filter_eq_nil_iff.mpr fun b hb => ?_
    rcases List.mem_cons.mp hb with rfl | hb
    · rw [less_self]
      exact Bool.false_ne_true
    · rw [less_asymm (List.rel_of_pairwise_cons habove hb)]
      exact Bool.false_ne_true
  rw [List.filter_append, hfilterBelow, hfilterAbove, List.append_nil]
  constructor
  · intro hmem
    by_contra hle
    rw [List.take_append_of_le_length (by omega)] at hmem
    have hself := hbelow x (List.mem_of_mem_take hmem) x List.mem_cons_self
    rw [less_self] at hself
    cases hself
  · intro hlt
    obtain ⟨m, rfl⟩ := Nat.exists_eq_add_of_lt hlt
    rw [List.take_append, show below.length + m + 1 - below.length = m + 1 by omega,
      List.take_succ_cons]
    exact List.mem_append_right _ List.mem_cons_self

/-- `std::lower_bound` and a comparison find the element with a key, in a list that is strictly
    sorted by it. -/
theorem find?_filter_eq_some [Std.TransOrd α] [Std.LawfulEqOrd α] [DecidableEq α] {f : β → α}
    {l : List β} (hsorted : l.Pairwise fun a b => less (f a) (f b) = true) {key : α} {x : β} :
    ((l.find? fun b => !less (f b) key).filter fun b => f b = key) = some x ↔
      x ∈ l ∧ f x = key := by
  induction l with
  | nil => simp
  | cons a l ih =>
    have htail := List.Pairwise.of_cons hsorted
    cases hless : less (f a) key with
    | true =>
      rw [List.find?_cons_of_neg (by simp [hless]), ih htail, List.mem_cons]
      constructor
      · intro h
        exact ⟨.inr h.1, h.2⟩
      · rintro ⟨rfl | hmem, hkey⟩
        · rw [hkey, less_self] at hless
          cases hless
        · exact ⟨hmem, hkey⟩
    | false =>
      rw [List.find?_cons_of_pos (by simp [hless]), Option.filter_eq_some_iff]
      simp only [Option.some.injEq, decide_eq_true_eq]
      constructor
      · rintro ⟨rfl, hkey⟩
        exact ⟨List.mem_cons_self, hkey⟩
      · rintro ⟨hmem, hkey⟩
        rcases List.mem_cons.mp hmem with rfl | hmem
        · exact ⟨rfl, hkey⟩
        · have hlater := List.rel_of_pairwise_cons hsorted hmem
          rw [hkey, hless] at hlater
          cases hlater

end Ord
end Sorting
