import FederationObservatory.Observatory.Operations

/-!
# What the gate and the ends of a publication do

A refusal changes counters only; an acceptance changes the authority of the context and whatever
was written before. Every proof about an operation goes through the lemmas of this module.
-/

namespace FederationObservatory

/-! ## States that differ in counters -/

/-- An authority without its rejection counter. -/
def PublisherAuthority.unrejected (authority : PublisherAuthority) : PublisherAuthority :=
  { authority with rejected := 0 }

/-- The states differ in statistics only, and no refusal was taken back. -/
structure Impl.SameModel (s t : Impl) : Prop where
  model : t = { s with stats := t.stats }
  rejected : s.stats.publicationsRejected ≤ t.stats.publicationsRejected

/-- The states differ in statistics and rejection counters only. -/
structure Impl.Preserved (s t : Impl) : Prop where
  collections : t.toCollections = s.toCollections
  indices : t.toIndices = s.toIndices
  publishers : ∀ key : PublisherKey,
    (t.publishers[key]?).map PublisherAuthority.unrejected =
      (s.publishers[key]?).map PublisherAuthority.unrejected
  coordinatorEpoch : t.coordinatorEpoch = s.coordinatorEpoch
  snapshotGeneration : t.snapshotGeneration = s.snapshotGeneration
  bounds : t.bounds = s.bounds
  saveSequence : t.saveSequence = s.saveSequence
  aggregateFindings : t.aggregateFindings = s.aggregateFindings

namespace Impl

theorem SameModel.refl (s : Impl) : s.SameModel s := ⟨rfl, Nat.le_refl _⟩

theorem sameModel_countBoundsRejection (s : Impl) : s.SameModel s.countBoundsRejection :=
  ⟨rfl, Nat.le_refl _⟩

theorem sameModel_countSequenceRegression (s : Impl) : s.SameModel s.countSequenceRegression :=
  ⟨rfl, Nat.le_refl _⟩

theorem Preserved.refl (s : Impl) : s.Preserved s :=
  ⟨rfl, rfl, fun _ => rfl, rfl, rfl, rfl, rfl, rfl⟩

theorem SameModel.preserved {s t : Impl} (h : s.SameModel t) : s.Preserved t := by
  rw [h.model]
  exact ⟨rfl, rfl, fun _ => rfl, rfl, rfl, rfl, rfl, rfl⟩

/-- Any observation of an authority that does not read the rejection counter is preserved. -/
theorem Preserved.lookup {s t : Impl} (h : s.Preserved t) {α : Type}
    (f : PublisherAuthority → α) (hf : ∀ a, f a.unrejected = f a) (key : PublisherKey) :
    (t.publishers[key]?).map f = (s.publishers[key]?).map f := by
  have hmap : ∀ o : Option PublisherAuthority,
      (o.map PublisherAuthority.unrejected).map f = o.map f := by
    intro o
    cases o with
    | none => rfl
    | some a => exact congrArg some (hf a)
  rw [← hmap, h.publishers, hmap]

end Impl

/-- A refusal preserves the state. -/
theorem refuse_preserved {s t : Impl} (h : s.SameModel t) (code : ErrorCode) (detail : Text)
    (authority : Option PublisherKey) (fenced : Bool) :
    s.Preserved (refuse t code detail authority fenced).2 := by
  rw [h.model]
  refine ⟨rfl, rfl, ?_, rfl, rfl, rfl, rfl, rfl⟩
  intro key
  cases authority with
  | none => rfl
  | some refused =>
    simp only [refuse, Std.TreeMap.getElem?_modify]
    split
    · rename_i heq
      rw [← Std.LawfulEqOrd.eq_of_compare heq, Option.map_map]
      rfl
    · rfl

/-- What `check_authority` has established when it lets a publication through. -/
structure Admitted (s : Impl) (ctx : PublicationContext) (check : AuthorityCheck) : Prop where
  valid : ctx.validate = .ok ()
  registered : s.publishers[ctx.key]? = some check.authority
  notFenced : check.authority.fenced = false
  epoch : ctx.coordinatorEpoch = s.coordinatorEpoch
  sequence : check.authority.watermark ≤ ctx.sequence
  duplicate : check.duplicateSequence =
    (ctx.sequence == check.authority.watermark && !check.authority.watermark.isZero)

theorem sequence_pos_of_validate {ctx : PublicationContext} (h : ctx.validate = .ok ()) :
    ({} : Sequence) < ctx.sequence := by
  simp only [PublicationContext.validate, bind_eq_ok, failIf_eq_ok] at h
  obtain ⟨-, -, -, -, -, -, -, -, -, hzero, -⟩ := h
  simp only [Sequence.isZero, beq_eq_false_iff_ne] at hzero
  rw [Sequence.lt_def]
  exact UInt64.pos_iff_ne_zero.mpr hzero

theorem checkAuthority_eq_ok {s : Impl} {ctx : PublicationContext} {check : AuthorityCheck} :
    checkAuthority s ctx = .ok check ↔ Admitted s ctx check := by
  constructor
  · intro h
    unfold checkAuthority at h
    split at h
    · cases h
    · rename_i hvalid
      split at h
      · cases h
      · rename_i authority hkey
        split at h
        · cases h
        · rename_i hfenced
          split at h
          · cases h
          · rename_i hepoch
            split at h
            · cases h
            · rename_i hsequence
              obtain rfl := Except.ok.inj h
              exact ⟨hvalid, hkey, by simpa using hfenced, by simpa using hepoch,
                UInt64.not_lt.mp hsequence, rfl⟩
  · rintro ⟨hvalid, hkey, hfenced, hepoch, hsequence, hduplicate⟩
    have hlt : ¬ ctx.sequence < check.authority.watermark := UInt64.not_lt.mpr hsequence
    simp [checkAuthority, hvalid, hkey, hfenced, hepoch, hlt, ← hduplicate]

/-- What the gate refuses is a refusal of the state. -/
theorem checkAuthority_eq_error {s : Impl} {ctx : PublicationContext} {r : Error × Impl}
    (h : checkAuthority s ctx = .error r) :
    ∃ t code detail authority fenced, s.SameModel t ∧ r = refuse t code detail authority fenced := by
  unfold checkAuthority at h
  split at h
  · exact ⟨s, _, _, _, _, .refl s, (Except.error.inj h).symm⟩
  · split at h
    · exact ⟨s, _, _, _, _, .refl s, (Except.error.inj h).symm⟩
    · split at h
      · exact ⟨s, _, _, _, _, .refl s, (Except.error.inj h).symm⟩
      · split at h
        · exact ⟨s, _, _, _, _, .refl s, (Except.error.inj h).symm⟩
        · split at h
          · exact ⟨_, _, _, _, _, s.sameModel_countSequenceRegression,
              (Except.error.inj h).symm⟩
          · cases h

/-- The gate refuses without touching the model. -/
theorem checkAuthority_error_preserved {s : Impl} {ctx : PublicationContext} {r : Error × Impl}
    (h : checkAuthority s ctx = .error r) : s.Preserved r.2 := by
  obtain ⟨t, code, detail, authority, fenced, hsame, rfl⟩ := checkAuthority_eq_error h
  exact refuse_preserved hsame code detail authority fenced

theorem checkAuthority_cases (s : Impl) (ctx : PublicationContext) :
    (∃ r, checkAuthority s ctx = .error r ∧ s.Preserved r.2 ∧ ∀ check, ¬ Admitted s ctx check) ∨
      ∃ check, checkAuthority s ctx = .ok check ∧ Admitted s ctx check := by
  cases h : checkAuthority s ctx with
  | error r =>
    refine .inl ⟨r, rfl, checkAuthority_error_preserved h, ?_⟩
    intro check hadmitted
    rw [checkAuthority_eq_ok.mpr hadmitted] at h
    cases h
  | ok check => exact .inr ⟨check, rfl, checkAuthority_eq_ok.mp h⟩

/-! ## Acceptance -/

section Finish

variable (s : Impl) (clock : Clock) (ctx : PublicationContext) (authority : PublisherAuthority)
  (disposition : IngestDisposition) (detail : Text)

@[simp] theorem finish_collections :
    (finish s clock ctx authority disposition detail).2.toCollections = s.toCollections := rfl

@[simp] theorem finish_indices :
    (finish s clock ctx authority disposition detail).2.toIndices = s.toIndices := rfl

@[simp] theorem finish_coordinatorEpoch :
    (finish s clock ctx authority disposition detail).2.coordinatorEpoch = s.coordinatorEpoch :=
  rfl

@[simp] theorem finish_snapshotGeneration :
    (finish s clock ctx authority disposition detail).2.snapshotGeneration =
      s.snapshotGeneration := rfl

@[simp] theorem finish_bounds :
    (finish s clock ctx authority disposition detail).2.bounds = s.bounds := rfl

@[simp] theorem finish_disposition :
    (finish s clock ctx authority disposition detail).1.disposition = disposition := rfl

theorem finish_publishers (key : PublisherKey) :
    (finish s clock ctx authority disposition detail).2.publishers[key]? =
      if ctx.key = key then some (authority.settle clock ctx disposition)
      else s.publishers[key]? := by
  simp only [finish, Std.TreeMap.getElem?_insert, Std.LawfulEqOrd.compare_eq_iff_eq]

@[simp] theorem settle_fenced :
    (authority.settle clock ctx disposition).fenced = authority.fenced := rfl

@[simp] theorem settle_live :
    (authority.settle clock ctx disposition).live = authority.live := rfl

@[simp] theorem settle_epoch :
    (authority.settle clock ctx disposition).epoch = authority.epoch := rfl

/-- The watermark is at least the sequence, and never goes back. -/
theorem settle_watermark (h : authority.watermark ≤ ctx.sequence) :
    (authority.settle clock ctx disposition).watermark = ctx.sequence := by
  simp only [PublisherAuthority.settle]
  split
  · rfl
  · rename_i hlt
    exact Sequence.ext (UInt64.le_antisymm h (UInt64.not_lt.mp hlt))

end Finish

/-- How a publication that passed the gate ends when it is not accepted: it is refused, or it is
    recognised as nothing new. -/
inductive Declined (s : Impl) (clock : Clock) (ctx : PublicationContext)
    (check : AuthorityCheck) : Outcome → Prop where
  | refused {t : Impl} (h : s.SameModel t) (code : ErrorCode) (detail : Text) :
    Declined s clock ctx check (.error (refuse t code detail (some ctx.key)))
  | kept (disposition : IngestDisposition) (h : disposition ≠ .applied) (detail : Text) :
    Declined s clock ctx check (.ok (finish s clock ctx check.authority disposition detail))

end FederationObservatory
