import Mathlib

/-!
# Lexicographic streams

A loop that compares two inputs token by token, and goes on past the end of an input with some token
that stands for nothing, compares the infinite streams of their tokens lexicographically. Where the
tokens are linearly ordered the streams are, so that such a comparison is a total preorder.
-/

namespace LexStream

/-! ## Three-way comparisons -/

section ThreeWay

variable {α : Type} [LinearOrder α]

/-- The sign of a comparison. -/
def threeWay (x y : α) : Int := if x < y then -1 else if y < x then 1 else 0

theorem threeWay_of_lt {x y : α} (h : x < y) : threeWay x y = -1 := if_pos h

theorem threeWay_of_gt {x y : α} (h : y < x) : threeWay x y = 1 := by
  rw [threeWay, if_neg (not_lt_of_gt h), if_pos h]

@[simp] theorem threeWay_self (x : α) : threeWay x x = 0 := by
  rw [threeWay, if_neg (lt_irrefl x), if_neg (lt_irrefl x)]

theorem threeWay_swap (x y : α) : threeWay x y = -threeWay y x := by
  rcases lt_trichotomy x y with h | rfl | h
  · rw [threeWay_of_lt h, threeWay_of_gt h]
  · rw [threeWay_self, neg_zero]
  · rw [threeWay_of_gt h, threeWay_of_lt h, neg_neg]

theorem threeWay_nonpos_iff {x y : α} : threeWay x y ≤ 0 ↔ x ≤ y := by
  rcases lt_trichotomy x y with h | rfl | h
  · rw [threeWay_of_lt h]
    exact iff_of_true (by decide) h.le
  · rw [threeWay_self]
    exact iff_of_true le_rfl le_rfl
  · rw [threeWay_of_gt h]
    exact iff_of_false (by decide) (not_le_of_gt h)

end ThreeWay

/-! ## Streams -/

section Streams

variable {τ σ : Type} [LinearOrder τ]

/-- The stream that starts with `x` and goes on with `f`. -/
def cons (x : τ) (f : Lex (ℕ → τ)) : Lex (ℕ → τ) := toLex fun n => n.casesOn x fun m => f m

@[simp] theorem cons_zero (x : τ) (f : Lex (ℕ → τ)) : cons x f 0 = x := rfl

@[simp] theorem cons_succ (x : τ) (f : Lex (ℕ → τ)) (n : ℕ) : cons x f (n + 1) = f n := rfl

/-- The first tokens decide, or else the rest of the streams. -/
theorem cons_lt_cons_iff {x y : τ} {f g : Lex (ℕ → τ)} :
    cons x f < cons y g ↔ x < y ∨ x = y ∧ f < g := by
  constructor
  · rintro ⟨n, hsame, hlt⟩
    cases n with
    | zero => exact .inl hlt
    | succ n =>
      refine .inr ⟨hsame 0 n.succ_pos, n, ?_, hlt⟩
      intro m hm
      exact hsame (m + 1) (Nat.succ_lt_succ hm)
  · rintro (hlt | ⟨rfl, n, hsame, hlt⟩)
    · exact ⟨0, fun m hm => absurd hm m.not_lt_zero, hlt⟩
    · refine ⟨n + 1, ?_, hlt⟩
      intro m hm
      cases m with
      | zero => rfl
      | succ m => exact hsame m (Nat.lt_of_succ_lt_succ hm)

theorem threeWay_cons (x y : τ) (f g : Lex (ℕ → τ)) :
    threeWay (cons x f) (cons y g) =
      if x < y then -1 else if y < x then 1 else threeWay f g := by
  rcases lt_trichotomy x y with h | rfl | h
  · rw [if_pos h, threeWay_of_lt (cons_lt_cons_iff.mpr (.inl h))]
  · have hiff : ∀ f g : Lex (ℕ → τ), cons x f < cons x g ↔ f < g := by
      intro f g
      rw [cons_lt_cons_iff]
      simp
    rw [if_neg (lt_irrefl x), if_neg (lt_irrefl x)]
    exact if_congr (hiff f g) rfl (if_congr (hiff g f) rfl rfl)
  · rw [if_neg (not_lt_of_gt h), if_pos h, threeWay_of_gt (cons_lt_cons_iff.mpr (.inl h))]

/-! ## Loops that emit tokens -/

/-- The tokens that a loop emits. -/
def emitted (head : σ → τ) (rest : σ → σ) (s : σ) : Lex (ℕ → τ) := toLex fun n => head (rest^[n] s)

theorem emitted_eq_cons (head : σ → τ) (rest : σ → σ) (s : σ) :
    emitted head rest s = cons (head s) (emitted head rest (rest s)) := by
  funext n
  cases n with
  | zero => rfl
  | succ n => rfl

/-- A loop that compares the tokens of two states, and goes on with what is left of both where they
agree, compares the streams. It ends where nothing is left of either. -/
theorem compare_eq_threeWay {head : σ → τ} {rest : σ → σ} {size : σ → ℕ} {compare : σ → σ → Int}
    (hstep : ∀ s t, compare s t = if head s < head t then -1 else if head t < head s then 1
      else compare (rest s) (rest t))
    (hsize : ∀ s, size (rest s) ≤ size s - 1)
    (hdone : ∀ s t, size s = 0 → size t = 0 → s = t ∧ compare s t = 0) (s t : σ) :
    compare s t = threeWay (emitted head rest s) (emitted head rest t) := by
  induction hn : size s + size t using Nat.strong_induction_on generalizing s t with
  | _ n ih =>
    by_cases hboth : size s = 0 ∧ size t = 0
    · obtain ⟨rfl, hzero⟩ := hdone s t hboth.1 hboth.2
      rw [hzero, threeWay_self]
    · have hs := hsize s
      have ht := hsize t
      have hless : size (rest s) + size (rest t) < n := by omega
      rw [hstep, emitted_eq_cons head rest s, emitted_eq_cons head rest t, threeWay_cons,
        ih _ hless _ _ rfl]

end Streams

end LexStream
