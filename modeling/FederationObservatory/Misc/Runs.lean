import Mathlib.Data.List.Infix
import Mathlib.Order.Basic

/-!
# Runs

Sequences of calls on a state, and the rules by which a property of one call becomes a property of
a run.
-/

namespace Runs

variable {σ ο : Type} (next : σ → ο → σ)

/-- The state after a sequence of calls. -/
def run (s : σ) (calls : List ο) : σ := calls.foldl next s

/-- Every call of a sequence satisfies `P` in the state it is made in. -/
def Along (P : σ → ο → Prop) (s : σ) : List ο → Prop
  | [] => True
  | call :: calls => P s call ∧ Along P (next s call) calls

variable {next} {P Q : σ → ο → Prop} {s : σ} {calls : List ο}

@[simp] theorem run_nil : run next s [] = s := rfl

@[simp] theorem run_cons (call : ο) : run next s (call :: calls) = run next (next s call) calls :=
  rfl

theorem run_append (before after : List ο) :
    run next s (before ++ after) = run next (run next s before) after :=
  List.foldl_append

@[simp] theorem run_concat (call : ο) :
    run next s (calls ++ [call]) = next (run next s calls) call :=
  run_append calls [call]

theorem along_append (before after : List ο) :
    Along next P s (before ++ after) ↔
      Along next P s before ∧ Along next P (run next s before) after := by
  induction before generalizing s with
  | nil => simp [Along]
  | cons call before ih => simp only [List.cons_append, Along, ih, run_cons, and_assoc]

/-- The calls of a run are the ends of its prefixes. -/
theorem along_iff_before :
    Along next P s calls ↔
      ∀ before call, before ++ [call] <+: calls → P (run next s before) call := by
  constructor
  · rintro h before call ⟨after, rfl⟩
    rw [List.append_assoc, along_append] at h
    exact h.2.1
  · intro h
    induction calls generalizing s with
    | nil => trivial
    | cons call calls ih =>
      refine ⟨h [] call (List.prefix_append [call] calls), ih ?_⟩
      intro before call' hstart
      exact h (call :: before) call' (List.cons_prefix_cons.mpr ⟨rfl, hstart⟩)

theorem along_congr {R : σ → ο → Prop} (hcongr : ∀ s call, R s call → (P s call ↔ Q s call))
    (h : Along next R s calls) : Along next P s calls ↔ Along next Q s calls := by
  induction calls generalizing s with
  | nil => exact Iff.rfl
  | cons call calls ih => exact and_congr (hcongr s call h.1) (ih h.2)

theorem along_and :
    Along next (fun s call => P s call ∧ Q s call) s calls ↔
      Along next P s calls ∧ Along next Q s calls := by
  induction calls generalizing s with
  | nil => simp [Along]
  | cons call calls ih => simp only [Along, ih, and_and_and_comm]

theorem along_of_forall (h : ∀ s call, P s call) : Along next P s calls :=
  along_iff_before.mpr fun _ call _ => h _ call

section Map

variable {τ : Type} {next' : τ → ο → τ} {f : σ → τ}

/-- A run seen through a map that follows each call. -/
theorem run_map (hf : ∀ s call, f (next s call) = next' (f s) call) :
    f (run next s calls) = run next' (f s) calls := by
  induction calls generalizing s with
  | nil => rfl
  | cons call calls ih => rw [run_cons, run_cons, ih, hf]

theorem along_map {R : τ → ο → Prop} (hf : ∀ s call, f (next s call) = next' (f s) call) :
    Along next (fun s call => R (f s) call) s calls ↔ Along next' R (f s) calls := by
  induction calls generalizing s with
  | nil => exact Iff.rfl
  | cons call calls ih => simp only [Along, ih, hf]

end Map

/-- What every call that satisfies `P` preserves holds at the end of a run along which `P` holds. -/
theorem invariant {I : σ → Prop} (hstep : ∀ s call, P s call → I s → I (next s call))
    (h : Along next P s calls) (hs : I s) : I (run next s calls) := by
  induction calls generalizing s with
  | nil => exact hs
  | cons call calls ih => exact ih h.2 (hstep s call h.1 hs)

/-- What every call but the bad ones preserves, and every bad one breaks, holds in every state of a
    run exactly when no call of the run is bad. -/
theorem invariant_iff {I : σ → Prop} (hs : I s) (hcalls : Along next Q s calls)
    (hstep : ∀ s call, Q s call → I s → ¬P s call → I (next s call))
    (hbreak : ∀ s call, Q s call → I s → P s call → ¬I (next s call)) :
    (∀ before, before <+: calls → I (run next s before)) ↔
      Along next (fun s call => ¬P s call) s calls := by
  constructor
  · intro h
    refine along_iff_before.mpr fun before call hstart hbad => ?_
    have hbefore := h before ((List.prefix_append before [call]).trans hstart)
    have hafter := h (before ++ [call]) hstart
    rw [run_concat] at hafter
    exact hbreak _ call (along_iff_before.mp hcalls before call hstart) hbefore hbad hafter
  · rintro h before ⟨rest, rfl⟩
    have hboth := (along_and.mpr ⟨hcalls, h⟩)
    exact invariant (P := fun s call => Q s call ∧ ¬P s call)
      (fun t call hgood ht => hstep t call hgood.1 ht hgood.2) ((along_append _ _).mp hboth).1 hs

/-- What no call that satisfies `P` lowers is monotone along a run. -/
theorem monotone {α : Type} [Preorder α] (f : σ → α)
    (hstep : ∀ s call, P s call → f s ≤ f (next s call)) {before after : List ο}
    (h : Along next P s calls) (hbefore : before <+: after) (hafter : after <+: calls) :
    f (run next s before) ≤ f (run next s after) := by
  obtain ⟨middle, rfl⟩ := hbefore
  obtain ⟨rest, rfl⟩ := hafter
  obtain ⟨⟨-, hmiddle⟩, -⟩ := (along_append _ _).mp h |>.imp_left (along_append _ _).mp
  rw [run_append]
  exact invariant (I := fun t => f (run next s before) ≤ f t)
    (fun t call hcall ht => le_trans ht (hstep t call hcall)) hmiddle (le_refl _)

end Runs
