import Mathlib

/-!
# Loops that run out of room

A loop in an `Except` monad that collects something from every element it is given and fails as
soon as what it has collected no longer fits. The rule below takes what one round does and says what
the whole loop does: which inputs it fails on, and what it has collected where it does not.
-/

namespace Loops

universe u v

variable {ε : Type u} {σ σ' α β : Type v}

/-- A computation that has collected `l`, or has failed because that does not fit. -/
structure Collects (holds : σ → List β → Prop) (fits : List β → Prop) (failure : ε) (s : Except ε σ)
    (l : List β) : Prop where
  of_fits : fits l → ∃ s', s = .ok s' ∧ holds s' l
  of_not_fits : ¬ fits l → s = .error failure

variable {holds : σ → List β → Prop} {fits : List β → Prop} {failure : ε}
  {step : σ → α → Except ε σ} {out : α → List β}

theorem ok_bind (a : α) (f : α → Except ε σ) : (Except.ok a >>= f) = f a := rfl

theorem bind_pure (x : Except ε α) (f : α → σ) : (x >>= fun a => pure (f a)) = x.map f := by
  cases x <;> rfl

theorem Collects.map {holds' : σ' → List β → Prop} {s : Except ε σ} {l : List β}
    (h : Collects holds fits failure s l) (f : σ → σ') (hf : ∀ s, holds s l → holds' (f s) l) :
    Collects holds' fits failure (s.map f) l where
  of_fits hfits := by
    obtain ⟨s', rfl, hs'⟩ := h.of_fits hfits
    exact ⟨f s', rfl, hf s' hs'⟩
  of_not_fits hfits := by
    rw [h.of_not_fits hfits]
    rfl

/-- What a loop collects is what its rounds collect. -/
theorem collects_foldlM (hfits : ∀ l l', fits (l ++ l') → fits l) {as : List α}
    (hstep : ∀ s l, ∀ a ∈ as, holds s l → fits l →
      Collects holds fits failure (step s a) (l ++ out a))
    {s : σ} {l : List β} (hs : holds s l) (hl : fits l) :
    Collects holds fits failure (as.foldlM step s) (l ++ as.flatMap out) := by
  induction as generalizing s l with
  | nil =>
    rw [List.flatMap_nil, List.append_nil]
    exact ⟨fun _ => ⟨s, rfl, hs⟩, fun h => absurd hl h⟩
  | cons a as ih =>
    rw [List.foldlM_cons, List.flatMap_cons, ← List.append_assoc]
    have hround := hstep s l a List.mem_cons_self hs hl
    by_cases hfit : fits (l ++ out a)
    · obtain ⟨s', hs', hholds⟩ := hround.of_fits hfit
      rw [hs']
      exact ih (fun s l a ha => hstep s l a (List.mem_cons_of_mem _ ha)) hholds hfit
    · rw [hround.of_not_fits hfit]
      exact ⟨fun h => absurd (hfits _ _ h) hfit, fun _ => rfl⟩

end Loops
