import FederationObservatory.Analysis.Proofs.Stranded
import FederationObservatory.Foundation.Proofs.Percent

/-!
# Merging breakdowns

`EligibilityBreakdown::merge` adds the amounts one by one and skips a sum that does not fit. Where the
idle amounts fit, all of the others do, since they are parts of it; where they do not, the others may
be added all the same.
-/

namespace FederationObservatory

/-! ## Amounts -/

/-- The amounts of a breakdown. -/
inductive BreakdownPart where
  | idle | usable | unknown
  | primary (reason : StrandingReason)
  | occurrences (reason : StrandingReason)
  deriving DecidableEq, Repr

/-- The reason whose round of the loop merges an amount. -/
def BreakdownPart.reason? : BreakdownPart → Option StrandingReason
  | .primary reason | .occurrences reason => some reason
  | _ => none

namespace EligibilityBreakdown

def amount (breakdown : EligibilityBreakdown) : BreakdownPart → UInt64
  | .idle => breakdown.idle
  | .usable => breakdown.usable
  | .unknown => breakdown.unknown
  | .primary reason => breakdown.strandedByPrimaryReason.get reason
  | .occurrences reason => breakdown.reasonOccurrences.get reason

theorem ext_amount {a b : EligibilityBreakdown} (h : ∀ part, a.amount part = b.amount part) :
    a = b := by
  have hprimary : a.strandedByPrimaryReason = b.strandedByPrimaryReason :=
    congrArg ReasonTally.mk (funext fun reason => h (.primary reason))
  have hoccurrences : a.reasonOccurrences = b.reasonOccurrences :=
    congrArg ReasonTally.mk (funext fun reason => h (.occurrences reason))
  cases a
  cases b
  congr
  · exact h .idle
  · exact h .usable
  · exact h .unknown

end EligibilityBreakdown

theorem toNat_addOrKeep (a b : UInt64) :
    (addOrKeep a b).toNat =
      if a.toNat + b.toNat < 2 ^ 64 then a.toNat + b.toNat else a.toNat := by
  unfold addOrKeep
  split
  · rename_i hfits
    rw [checkedAdd_of_lt hfits, Option.getD_some, toNat_add_of_lt hfits]
  · rename_i hexceeds
    rw [checkedAdd_of_le (by omega), Option.getD_none]

theorem addOrKeep_eq_self_iff {a b : UInt64} :
    addOrKeep a b = a ↔ b = 0 ∨ 2 ^ 64 ≤ a.toNat + b.toNat := by
  rw [← UInt64.toNat_inj, toNat_addOrKeep, ← UInt64.toNat_inj, UInt64.toNat_zero]
  split <;> omega

/-! ## The loop over the reasons -/

theorem ReasonTally.addOrKeep_of_le {tally other : ReasonTally} {reason : StrandingReason}
    (h : 2 ^ 64 ≤ (tally.get reason).toNat + (other.get reason).toNat) :
    tally.addOrKeep other reason = tally := by
  rw [ReasonTally.addOrKeep, checkedAdd_of_le h, Option.bind_none, Option.getD_none]

theorem ReasonTally.addOrKeep_of_lt {tally other : ReasonTally} {reason : StrandingReason}
    (h : (tally.get reason).toNat + (other.get reason).toNat < 2 ^ 64) :
    tally.addOrKeep other reason =
      ⟨Function.update tally.amounts reason (tally.get reason + other.get reason)⟩ := by
  have hsum := toNat_add_of_lt h
  have hsub : tally.get reason + other.get reason - tally.get reason = other.get reason := by
    rw [← UInt64.toNat_inj, UInt64.toNat_sub_of_le _ _ (by rw [UInt64.le_iff_toNat_le]; omega)]
    omega
  have hadd := ReasonTally.add_of_lt h
  rw [ReasonTally.addOrKeep, checkedAdd_of_lt h, Option.bind_some, hsub, hadd]
  rfl

theorem ReasonTally.get_addOrKeep_self (tally other : ReasonTally) (reason : StrandingReason) :
    (tally.addOrKeep other reason).get reason =
      FederationObservatory.addOrKeep (tally.get reason) (other.get reason) := by
  by_cases hfits : (tally.get reason).toNat + (other.get reason).toNat < 2 ^ 64
  · have hupdate : (tally.addOrKeep other reason).get reason = tally.get reason + other.get reason := by
      rw [addOrKeep_of_lt hfits]
      exact Function.update_self ..
    rw [hupdate, FederationObservatory.addOrKeep, checkedAdd_of_lt hfits, Option.getD_some]
  · rw [addOrKeep_of_le (by omega)]
    exact (addOrKeep_eq_self_iff.mpr (.inr (by omega))).symm

theorem ReasonTally.get_addOrKeep_of_ne (tally other : ReasonTally) {reason r : StrandingReason}
    (h : r ≠ reason) : (tally.addOrKeep other reason).get r = tally.get r := by
  by_cases hfits : (tally.get reason).toNat + (other.get reason).toNat < 2 ^ 64
  · rw [addOrKeep_of_lt hfits]
    exact Function.update_of_ne h ..
  · rw [addOrKeep_of_le (by omega)]

namespace EligibilityBreakdown

section Loop

variable (other : EligibilityBreakdown)

theorem amount_idle (breakdown : EligibilityBreakdown) :
    breakdown.amount .idle = breakdown.idle := rfl

theorem amount_usable (breakdown : EligibilityBreakdown) :
    breakdown.amount .usable = breakdown.usable := rfl

theorem amount_unknown (breakdown : EligibilityBreakdown) :
    breakdown.amount .unknown = breakdown.unknown := rfl

theorem amount_primary (breakdown : EligibilityBreakdown) (reason : StrandingReason) :
    breakdown.amount (.primary reason) = breakdown.strandedByPrimaryReason.get reason := rfl

theorem amount_occurrences (breakdown : EligibilityBreakdown) (reason : StrandingReason) :
    breakdown.amount (.occurrences reason) = breakdown.reasonOccurrences.get reason := rfl

theorem idle_mergeReason (breakdown : EligibilityBreakdown) (reason : StrandingReason) :
    (other.mergeReason breakdown reason).idle = breakdown.idle := by
  rw [mergeReason]

theorem usable_mergeReason (breakdown : EligibilityBreakdown) (reason : StrandingReason) :
    (other.mergeReason breakdown reason).usable = breakdown.usable := by
  rw [mergeReason]

theorem unknown_mergeReason (breakdown : EligibilityBreakdown) (reason : StrandingReason) :
    (other.mergeReason breakdown reason).unknown = breakdown.unknown := by
  rw [mergeReason]

theorem strandedByPrimaryReason_mergeReason (breakdown : EligibilityBreakdown)
    (reason : StrandingReason) :
    (other.mergeReason breakdown reason).strandedByPrimaryReason =
      breakdown.strandedByPrimaryReason.addOrKeep other.strandedByPrimaryReason reason := by
  rw [mergeReason]

theorem reasonOccurrences_mergeReason (breakdown : EligibilityBreakdown)
    (reason : StrandingReason) :
    (other.mergeReason breakdown reason).reasonOccurrences =
      breakdown.reasonOccurrences.addOrKeep other.reasonOccurrences reason := by
  rw [mergeReason]

/-- What a round does to the amounts of its reason. -/
theorem amount_mergeReason (breakdown : EligibilityBreakdown) {part : BreakdownPart}
    {reason : StrandingReason} (h : part.reason? = some reason) :
    (other.mergeReason breakdown reason).amount part =
      addOrKeep (breakdown.amount part) (other.amount part) := by
  cases part with
  | primary r =>
    obtain rfl := Option.some.inj h
    rw [amount_primary, amount_primary, amount_primary, strandedByPrimaryReason_mergeReason,
      ReasonTally.get_addOrKeep_self]
  | occurrences r =>
    obtain rfl := Option.some.inj h
    rw [amount_occurrences, amount_occurrences, amount_occurrences, reasonOccurrences_mergeReason,
      ReasonTally.get_addOrKeep_self]
  | _ => cases h

theorem amount_mergeReason_of_ne (breakdown : EligibilityBreakdown) {part : BreakdownPart}
    {reason : StrandingReason} (h : part.reason? ≠ some reason) :
    (other.mergeReason breakdown reason).amount part = breakdown.amount part := by
  cases part with
  | primary r =>
    have hr : r ≠ reason := fun hr => h (congrArg some hr)
    rw [amount_primary, amount_primary, strandedByPrimaryReason_mergeReason,
      ReasonTally.get_addOrKeep_of_ne _ _ hr]
  | occurrences r =>
    have hr : r ≠ reason := fun hr => h (congrArg some hr)
    rw [amount_occurrences, amount_occurrences, reasonOccurrences_mergeReason,
      ReasonTally.get_addOrKeep_of_ne _ _ hr]
  | idle => rw [amount_idle, amount_idle, idle_mergeReason]
  | usable => rw [amount_usable, amount_usable, usable_mergeReason]
  | unknown => rw [amount_unknown, amount_unknown, unknown_mergeReason]

/-- A reason is merged when the loop comes to it, and not before or after. -/
theorem amount_foldl_mergeReason {reasons : List StrandingReason} (hnodup : reasons.Nodup)
    (breakdown : EligibilityBreakdown) (part : BreakdownPart) :
    ((∃ reason ∈ reasons, part.reason? = some reason) →
        (reasons.foldl other.mergeReason breakdown).amount part =
          addOrKeep (breakdown.amount part) (other.amount part)) ∧
      ((∀ reason ∈ reasons, part.reason? ≠ some reason) →
        (reasons.foldl other.mergeReason breakdown).amount part = breakdown.amount part) := by
  induction reasons generalizing breakdown with
  | nil =>
    refine ⟨?_, fun _ => rfl⟩
    rintro ⟨reason, hreason, -⟩
    cases hreason
  | cons reason reasons ih =>
    obtain ⟨hfresh, hnodup⟩ := List.nodup_cons.mp hnodup
    obtain ⟨hmerged, hkept⟩ := ih hnodup (other.mergeReason breakdown reason)
    rw [List.foldl_cons]
    constructor
    · rintro ⟨r, hr, hpart⟩
      rcases List.mem_cons.mp hr with rfl | hrest
      · rw [hkept, amount_mergeReason other breakdown hpart]
        rintro r' hr' hpart'
        rw [hpart] at hpart'
        obtain rfl := Option.some.inj hpart'
        exact hfresh hr'
      · have hne : part.reason? ≠ some reason := by
          intro hpart'
          rw [hpart] at hpart'
          exact hfresh (Option.some.inj hpart' ▸ hrest)
        rw [hmerged ⟨r, hrest, hpart⟩, amount_mergeReason_of_ne other breakdown hne]
    · intro h
      rw [hkept fun r hr => h r (List.mem_cons_of_mem reason hr),
        amount_mergeReason_of_ne other breakdown (h reason (by simp))]

end Loop

/-- Every amount of a merged breakdown is the sum, or the old amount where that does not fit. -/
theorem amount_merge (a b : EligibilityBreakdown) (part : BreakdownPart) :
    (a.merge b).amount part = addOrKeep (a.amount part) (b.amount part) := by
  obtain ⟨start, hstart⟩ : ∃ start : EligibilityBreakdown, start =
      { a with
        idle := addOrKeep a.idle b.idle
        usable := addOrKeep a.usable b.usable
        unknown := addOrKeep a.unknown b.unknown } := ⟨_, rfl⟩
  obtain ⟨hmerged, hkept⟩ :=
    amount_foldl_mergeReason b StrandingReason.nodup_enumerators start part
  rw [merge, ← hstart]
  cases part with
  | primary reason =>
    rw [hmerged ⟨reason, reason.mem_enumerators, rfl⟩, amount_primary, amount_primary,
      amount_primary, hstart]
  | occurrences reason =>
    rw [hmerged ⟨reason, reason.mem_enumerators, rfl⟩, amount_occurrences, amount_occurrences,
      amount_occurrences, hstart]
  | idle =>
    rw [hkept (by simp [BreakdownPart.reason?]), amount_idle, amount_idle, amount_idle, hstart]
  | usable =>
    rw [hkept (by simp [BreakdownPart.reason?]), amount_usable, amount_usable, amount_usable,
      hstart]
  | unknown =>
    rw [hkept (by simp [BreakdownPart.reason?]), amount_unknown, amount_unknown, amount_unknown,
      hstart]

theorem merge_eq_self_iff (a b : EligibilityBreakdown) :
    a.merge b = a ↔
      ∀ part, b.amount part = 0 ∨ 2 ^ 64 ≤ (a.amount part).toNat + (b.amount part).toNat := by
  constructor
  · intro h part
    rw [← addOrKeep_eq_self_iff, ← amount_merge, h]
  · intro h
    refine ext_amount fun part => ?_
    rw [amount_merge, addOrKeep_eq_self_iff]
    exact h part

/-! ## The partition of the idle amount -/

/-- What `total` sums, without a bound. -/
def sum (breakdown : EligibilityBreakdown) : Nat := breakdown.strandedByPrimaryReason.sum

/-- The idle amount is partitioned exactly. -/
def Partitions (breakdown : EligibilityBreakdown) : Prop :=
  breakdown.usable.toNat + breakdown.unknown.toNat + breakdown.sum = breakdown.idle.toNat

/-- The reasons exceed 64 bits, so that their total is the greatest number, and so is the idle
amount. -/
def Saturates (breakdown : EligibilityBreakdown) : Prop :=
  breakdown.usable.toNat = 0 ∧ breakdown.unknown.toNat = 0 ∧ 2 ^ 64 ≤ breakdown.sum ∧
    breakdown.idle.toNat = 2 ^ 64 - 1

theorem toNat_total (tally : ReasonTally) :
    tally.total.toNat = if tally.sum < 2 ^ 64 then tally.sum else 2 ^ 64 - 1 := by
  have hsum : ∀ c, checkedSumFrom 0 (StrandingReason.enumerators.map tally.amounts) = some c ↔
      tally.sum < 2 ^ 64 ∧ c.toNat = tally.sum := by
    intro c
    rw [checkedSumFrom_eq_some, List.map_map, UInt64.toNat_zero, Nat.zero_add]
    rfl
  split
  · rename_i hfits
    have htotal := (hsum (UInt64.ofNat tally.sum)).mpr
      ⟨hfits, UInt64.toNat_ofNat_of_lt' hfits⟩
    rw [ReasonTally.total, htotal, Option.getD_some, UInt64.toNat_ofNat_of_lt' hfits]
  · rename_i hexceeds
    have htotal : checkedSumFrom 0 (StrandingReason.enumerators.map tally.amounts) = none := by
      rw [Option.eq_none_iff_forall_ne_some]
      intro c hc
      exact hexceeds ((hsum c).mp hc).1
    rw [ReasonTally.total, htotal, Option.getD_none, toNat_max]

theorem closes_iff (breakdown : EligibilityBreakdown) :
    breakdown.closes = true ↔
      breakdown.usable.toNat + breakdown.unknown.toNat +
        breakdown.strandedByPrimaryReason.total.toNat = breakdown.idle.toNat := by
  have hidle := breakdown.idle.toNat_lt
  rw [closes, Option.any_eq_true]
  constructor
  · rintro ⟨expected, hexpected, heq⟩
    obtain ⟨accounted, haccounted, hexpected⟩ := Option.bind_eq_some_iff.mp hexpected
    obtain ⟨-, haccounted⟩ := checkedAdd_eq_some.mp haccounted
    obtain ⟨-, hexpected⟩ := checkedAdd_eq_some.mp hexpected
    rw [← beq_iff_eq.mp heq, hexpected, haccounted]
  · intro h
    have haccounted : checkedAdd breakdown.usable breakdown.unknown =
        some (breakdown.usable + breakdown.unknown) := checkedAdd_of_lt (by omega)
    have hsum : (breakdown.usable + breakdown.unknown).toNat =
        breakdown.usable.toNat + breakdown.unknown.toNat := toNat_add_of_lt (by omega)
    refine ⟨breakdown.idle, ?_, beq_self_eq_true _⟩
    rw [haccounted, Option.bind_some, checkedAdd_eq_some, hsum]
    omega

/-- A breakdown that closes partitions its idle amount, or saturates. -/
theorem partitions_or_saturates {breakdown : EligibilityBreakdown} (h : breakdown.closes = true) :
    breakdown.Partitions ∨ breakdown.Saturates := by
  have hidle := breakdown.idle.toNat_lt
  rw [closes_iff, toNat_total] at h
  unfold Partitions Saturates sum
  split at h
  · exact .inl h
  · exact .inr (by omega)

theorem closes_of_saturates {breakdown : EligibilityBreakdown} (h : breakdown.Saturates) :
    breakdown.closes = true := by
  unfold Saturates sum at h
  rw [closes_iff, toNat_total, if_neg (by omega)]
  omega

theorem closes_of_partitions {breakdown : EligibilityBreakdown} (h : breakdown.Partitions) :
    breakdown.closes = true := by
  have hidle := breakdown.idle.toNat_lt
  unfold Partitions sum at h
  rw [closes_iff, toNat_total, if_pos (by omega)]
  exact h

theorem get_le_sum (breakdown : EligibilityBreakdown) (reason : StrandingReason) :
    (breakdown.strandedByPrimaryReason.get reason).toNat ≤ breakdown.sum :=
  List.single_le_sum (fun _ _ => Nat.zero_le _) _
    (List.mem_map.mpr ⟨reason, reason.mem_enumerators, rfl⟩)

/-! ## The sums of a merge -/

/-- The idle amount and its parts are the sums of those of two breakdowns. -/
structure AddsUp (merged a b : EligibilityBreakdown) : Prop where
  idle : merged.idle.toNat = a.idle.toNat + b.idle.toNat
  usable : merged.usable.toNat = a.usable.toNat + b.usable.toNat
  unknown : merged.unknown.toNat = a.unknown.toNat + b.unknown.toNat
  primary : ∀ reason, (merged.strandedByPrimaryReason.get reason).toNat =
    (a.strandedByPrimaryReason.get reason).toNat + (b.strandedByPrimaryReason.get reason).toNat

theorem AddsUp.sum {merged a b : EligibilityBreakdown} (h : AddsUp merged a b) :
    merged.sum = a.sum + b.sum := by
  unfold EligibilityBreakdown.sum ReasonTally.sum
  simp only [h.primary]
  exact List.sum_map_add

theorem toNat_amount_merge {a b : EligibilityBreakdown} {part : BreakdownPart}
    (h : (a.amount part).toNat + (b.amount part).toNat < 2 ^ 64) :
    ((a.merge b).amount part).toNat = (a.amount part).toNat + (b.amount part).toNat := by
  rw [amount_merge, toNat_addOrKeep, if_pos h]

theorem addsUp_merge {a b : EligibilityBreakdown}
    (hidle : a.idle.toNat + b.idle.toNat < 2 ^ 64)
    (husable : a.usable.toNat + b.usable.toNat < 2 ^ 64)
    (hunknown : a.unknown.toNat + b.unknown.toNat < 2 ^ 64)
    (hprimary : ∀ reason, (a.strandedByPrimaryReason.get reason).toNat +
      (b.strandedByPrimaryReason.get reason).toNat < 2 ^ 64) :
    AddsUp (a.merge b) a b where
  idle := by
    have h := @toNat_amount_merge a b .idle hidle
    rw [amount_idle, amount_idle, amount_idle] at h
    exact h
  usable := by
    have h := @toNat_amount_merge a b .usable husable
    rw [amount_usable, amount_usable, amount_usable] at h
    exact h
  unknown := by
    have h := @toNat_amount_merge a b .unknown hunknown
    rw [amount_unknown, amount_unknown, amount_unknown] at h
    exact h
  primary := by
    intro reason
    have h := @toNat_amount_merge a b (.primary reason) (hprimary reason)
    rw [amount_primary, amount_primary, amount_primary] at h
    exact h

/-- Where the idle amounts fit, so do their parts, and the merged breakdown closes. -/
theorem closes_merge {a b : EligibilityBreakdown} (ha : a.closes = true) (hb : b.closes = true)
    (h : a.idle.toNat + b.idle.toNat < 2 ^ 64) :
    (a.merge b).closes = true ∧ AddsUp (a.merge b) a b := by
  have ha := partitions_or_saturates ha
  have hb := partitions_or_saturates hb
  unfold Partitions Saturates at ha hb
  have hprimary : ∀ reason, (a.strandedByPrimaryReason.get reason).toNat +
      (b.strandedByPrimaryReason.get reason).toNat < 2 ^ 64 := by
    intro reason
    have hga := a.get_le_sum reason
    have hgb := b.get_le_sum reason
    have hla := (a.strandedByPrimaryReason.get reason).toNat_lt
    have hlb := (b.strandedByPrimaryReason.get reason).toNat_lt
    omega
  have hadds : AddsUp (a.merge b) a b := addsUp_merge h (by omega) (by omega) hprimary
  refine ⟨?_, hadds⟩
  have hidle := hadds.idle
  have husable := hadds.usable
  have hunknown := hadds.unknown
  have hsum := hadds.sum
  by_cases hfits : a.sum + b.sum < 2 ^ 64
  · refine closes_of_partitions ?_
    unfold Partitions
    omega
  · refine closes_of_saturates ?_
    unfold Saturates
    omega

/-- A merge adds everything up, or changes nothing, where the idle amounts fit or where no other
amount that is not zero fits either. -/
theorem merge_whole_iff (a b : EligibilityBreakdown) (ha : a.closes = true)
    (hb : b.closes = true) :
    ((a.merge b).closes = true ∧ AddsUp (a.merge b) a b ∨ a.merge b = a) ↔
      a.idle.toNat + b.idle.toNat < 2 ^ 64 ∨
        ∀ part, b.amount part = 0 ∨ 2 ^ 64 ≤ (a.amount part).toNat + (b.amount part).toNat := by
  rw [← merge_eq_self_iff]
  constructor
  · rintro (h | h)
    · have hidle := h.2.idle
      have hlt := (a.merge b).idle.toNat_lt
      exact .inl (by omega)
    · exact .inr h
  · rintro (h | h)
    · exact .inl (closes_merge ha hb h)
    · exact .inr h

theorem merge_whole_full :
    let full : EligibilityBreakdown := { idle := 0xFFFFFFFFFFFFFFFF, usable := 0xFFFFFFFFFFFFFFFF }
    let nothing : EligibilityBreakdown := {}
    (full.merge nothing).closes = true ∧ AddsUp (full.merge nothing) full nothing ∨
      full.merge nothing = full :=
  (merge_whole_iff { idle := 0xFFFFFFFFFFFFFFFF, usable := 0xFFFFFFFFFFFFFFFF } {}
    (by decide +kernel) (by decide +kernel)).mpr (.inl (by decide))

/-- A unit of unknown capacity is merged into full idle capacity without its idle unit. -/
theorem merge_in_part :
    let full : EligibilityBreakdown := { idle := 0xFFFFFFFFFFFFFFFF, usable := 0xFFFFFFFFFFFFFFFF }
    let one : EligibilityBreakdown := { idle := 1, unknown := 1 }
    full.closes = true ∧ one.closes = true ∧ (full.merge one).unknown = 1 ∧
      (full.merge one).closes = false ∧
      ¬((full.merge one).closes = true ∧ AddsUp (full.merge one) full one ∨
        full.merge one = full) := by
  intro full one
  have hunknown : (full.merge one).unknown = 1 := by decide +kernel
  have hopen : (full.merge one).closes = false := by decide +kernel
  refine ⟨by decide +kernel, by decide +kernel, hunknown, hopen, ?_⟩
  rintro (h | h)
  · rw [hopen] at h
    exact Bool.noConfusion h.1
  · rw [h] at hunknown
    exact absurd hunknown (by decide)

end EligibilityBreakdown

end FederationObservatory
