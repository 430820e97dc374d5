import Mathlib.Data.List.Induction
import Mathlib.Data.List.Perm.Basic
import Mathlib.Logic.Function.Basic

/-!
# The weakest of a list

Values with a rank, and the fold that keeps the one of the highest rank. Where the rank tells values
apart, the result does not depend on the order of the list.
-/

namespace Weakest

variable {α β : Type*} (rank : α → Nat)

/-- The one of the higher rank, the first of two of the same rank. -/
def weakest (a b : α) : α := if rank b ≤ rank a then a else b

theorem rank_weakest (a b : α) : rank (weakest rank a b) = max (rank a) (rank b) := by
  unfold weakest
  split <;> omega

theorem weakest_eq (a b : α) : weakest rank a b = a ∨ weakest rank a b = b := by
  unfold weakest
  split
  · exact .inl rfl
  · exact .inr rfl

/-- `w` is one of the list, and no other has a higher rank. -/
structure IsWeakest (l : List α) (w : α) : Prop where
  mem : w ∈ l
  rank_le : ∀ a ∈ l, rank a ≤ rank w

variable {rank} {l l' : List α} {w w' : α}

theorem IsWeakest.perm (h : IsWeakest rank l w) (hperm : l.Perm l') : IsWeakest rank l' w :=
  ⟨hperm.mem_iff.mp h.mem, fun a ha => h.rank_le a (hperm.mem_iff.mpr ha)⟩

theorem IsWeakest.unique (hrank : Function.Injective rank) (h : IsWeakest rank l w)
    (h' : IsWeakest rank l w') : w = w' :=
  hrank (Nat.le_antisymm (h'.rank_le w h.mem) (h.rank_le w' h'.mem))

theorem isWeakest_singleton (a : α) : IsWeakest rank [a] a :=
  ⟨List.mem_singleton_self a, fun _ hb => Nat.le_of_eq (congrArg rank (List.mem_singleton.mp hb))⟩

/-- One value more. -/
theorem IsWeakest.concat (h : IsWeakest rank l w) (a : α) :
    IsWeakest rank (l ++ [a]) (weakest rank w a) := by
  refine ⟨?_, ?_⟩
  · rcases weakest_eq rank w a with heq | heq
    · rw [heq]
      exact List.mem_append_left _ h.mem
    · rw [heq]
      exact List.mem_append_right _ (List.mem_singleton_self a)
  · intro b hb
    rw [rank_weakest rank]
    rcases List.mem_append.mp hb with hb | hb
    · have hle := h.rank_le b hb
      omega
    · obtain rfl := List.mem_singleton.mp hb
      omega

theorem isWeakest_foldl (a : α) (l : List α) :
    IsWeakest rank (a :: l) (l.foldl (weakest rank) a) := by
  induction l using List.reverseRecOn with
  | nil => exact isWeakest_singleton a
  | append_singleton l b ih =>
    rw [List.foldl_append, List.foldl_cons, List.foldl_nil]
    exact ih.concat b

/-- A fold over the list without its first element, which is of the lowest rank there is. -/
theorem isWeakest_foldl_of_bottom {a : α} (hbottom : ∀ b, rank a ≤ rank b)
    (hrank : Function.Injective rank) (hl : l ≠ []) :
    IsWeakest rank l (l.foldl (weakest rank) a) := by
  have h : IsWeakest rank (a :: l) (l.foldl (weakest rank) a) := isWeakest_foldl a l
  refine ⟨?_, fun b hb => h.rank_le b (List.mem_cons_of_mem a hb)⟩
  rcases List.mem_cons.mp h.mem with heq | hmem
  · obtain ⟨b, l, rfl⟩ := List.exists_cons_of_ne_nil hl
    have hle := h.rank_le b (List.mem_cons_of_mem a List.mem_cons_self)
    rw [heq] at hle
    have hb : b = a := hrank (Nat.le_antisymm hle (hbottom b))
    rw [heq, hb]
    exact List.mem_cons_self
  · exact hmem

end Weakest
