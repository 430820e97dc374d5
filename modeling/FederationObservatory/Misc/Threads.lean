import Mathlib.Algebra.Order.BigOperators.Group.Finset
import Mathlib.Data.Fintype.Basic
import Mathlib.Logic.Relation

/-!
# Threads

Quantities summed over threads of which one moves at a time, and the rules by which a property of
one step becomes a property of every run.
-/

namespace Threads

section Sum

variable {ι β M : Type} [Fintype ι] [DecidableEq ι] [AddCommMonoid M]

/-- One thread moves: the sum exchanges what the thread contributed for what it contributes now. -/
theorem sum_update_add (f : β → M) (g : ι → β) (i : ι) (b : β) :
    ∑ j, f (Function.update g i b j) + f (g i) = ∑ j, f (g j) + f b := by
  rw [← Finset.add_sum_erase _ _ (Finset.mem_univ i),
    ← Finset.add_sum_erase (Finset.univ) (fun j => f (g j)) (Finset.mem_univ i),
    Function.update_self]
  have hrest : ∑ j ∈ Finset.univ.erase i, f (Function.update g i b j) =
      ∑ j ∈ Finset.univ.erase i, f (g j) := by
    refine Finset.sum_congr rfl fun j hj => ?_
    rw [Function.update_of_ne (Finset.ne_of_mem_erase hj)]
  rw [hrest, add_right_comm, add_comm (f b), add_right_comm]

/-- Two threads contribute to a sum what they contribute by themselves. -/
theorem add_le_sum {f : ι → Nat} {i j : ι} (hne : i ≠ j) : f i + f j ≤ ∑ k, f k := by
  rw [← Finset.sum_pair hne]
  exact Finset.sum_le_sum_of_subset (Finset.subset_univ _)

end Sum

section Mutex

variable {ο : Type} {owner : Option ο} {Holds Holds' : ο → Prop} {o : ο}

/-- The owner of a mutex is the one thread that stands in a section it guards. -/
def Owned (owner : Option ο) (Holds : ο → Prop) : Prop := ∀ o, owner = some o ↔ Holds o

theorem Owned.keep (h : Owned owner Holds) (hsame : ∀ o, Holds' o ↔ Holds o) :
    Owned owner Holds' := fun o => (h o).trans (hsame o).symm

theorem Owned.acquire (h : Owned none Holds) (hself : Holds' o)
    (hother : ∀ p, p ≠ o → (Holds' p ↔ Holds p)) : Owned (some o) Holds' := by
  intro p
  by_cases hp : p = o
  · subst hp
    exact iff_of_true rfl hself
  · rw [hother p hp, ← h p, Option.some.injEq]
    exact iff_of_false (Ne.symm hp) (by simp)

theorem Owned.release (h : Owned owner Holds) (hbefore : Holds o) (hself : ¬Holds' o)
    (hother : ∀ p, p ≠ o → (Holds' p ↔ Holds p)) : Owned none Holds' := by
  intro p
  by_cases hp : p = o
  · subst hp
    exact iff_of_false (by simp) hself
  · rw [hother p hp, ← h p, (h o).mpr hbefore, Option.some.injEq]
    exact iff_of_false (by simp) (Ne.symm hp)

theorem Owned.eq (h : Owned owner Holds) (o p : ο) (ho : Holds o) (hp : Holds p) : o = p :=
  Option.some.inj (((h o).mpr ho).symm.trans ((h p).mpr hp))

end Mutex

section Runs

variable {σ : Type} {R : σ → σ → Prop} {s t : σ}

/-- What every step preserves holds at the end of every run. -/
theorem invariant {I : σ → Prop} (hstep : ∀ s t, R s t → I s → I t)
    (hrun : Relation.ReflTransGen R s t) (hs : I s) : I t := by
  induction hrun with
  | refl => exact hs
  | tail _ hlast ih => exact hstep _ _ hlast ih

/-- Steps that lower a measure come to an end. -/
theorem acc_of_measure (f : σ → Nat) (hstep : ∀ s t, R s t → f t < f s) (s : σ) :
    Acc (fun t s => R s t) s :=
  Subrelation.accessible (fun {_ _} hlast => hstep _ _ hlast)
    (InvImage.accessible f (Nat.lt_wfRel.wf.apply _))

end Runs

end Threads
