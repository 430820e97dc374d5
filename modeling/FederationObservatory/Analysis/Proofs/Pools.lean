import FederationObservatory.Analysis.Pools

/-!
# What the checks of a pool amount to

A pool is eligible if no check says anything, undecided if none fails and some is open, and stranded
otherwise; the primary reason is then the failing one of least precedence. None of this depends on
the order of the checks.
-/

namespace FederationObservatory

/-! ## The least reason -/

namespace StrandingReason

/-- The primary reason with one reason more. -/
def primary (current reason : StrandingReason) : StrandingReason :=
  if current = .none ∨ reason.precedence < current.precedence then reason else current

/-- The primary reason of a list. -/
def least (reasons : List StrandingReason) : StrandingReason := reasons.foldl primary .none

theorem precedence_le (reason : StrandingReason) : reason.precedence ≤ none.precedence := by
  cases reason <;> decide

theorem precedence_primary (current reason : StrandingReason) :
    (primary current reason).precedence = min current.precedence reason.precedence := by
  unfold primary
  split
  · rename_i h
    rcases h with rfl | h
    · rw [min_eq_right reason.precedence_le]
    · rw [min_eq_right h.le]
  · rename_i h
    push Not at h
    rw [min_eq_left h.2]

theorem foldl_primary (current : StrandingReason) (reasons : List StrandingReason) :
    reasons.foldl primary current ∈ current :: reasons ∧
      ∀ reason ∈ current :: reasons,
        (reasons.foldl primary current).precedence ≤ reason.precedence := by
  induction reasons generalizing current with
  | nil => simp
  | cons r reasons ih =>
    obtain ⟨hmem, hle⟩ := ih (primary current r)
    rw [List.foldl_cons]
    have hprimary : primary current r = r ∨ primary current r = current := by
      unfold primary
      split
      · exact .inl rfl
      · exact .inr rfl
    constructor
    · rcases List.mem_cons.mp hmem with h | h
      · rw [h]
        rcases hprimary with h | h <;> rw [h] <;> simp
      · exact List.mem_cons_of_mem _ (List.mem_cons_of_mem _ h)
    · have hhead := hle _ List.mem_cons_self
      rw [precedence_primary] at hhead
      intro reason hreason
      rcases List.mem_cons.mp hreason with rfl | hreason
      · omega
      · rcases List.mem_cons.mp hreason with rfl | hreason
        · omega
        · exact hle _ (List.mem_cons_of_mem _ hreason)

/-- The least reason of a list that is not empty is one of the list, and of least precedence. -/
theorem least_mem {reasons : List StrandingReason} (h : reasons ≠ []) (hnone : none ∉ reasons) :
    least reasons ∈ reasons := by
  obtain ⟨hmem, hle⟩ := foldl_primary none reasons
  rcases List.mem_cons.mp hmem with heq | hmem
  · obtain ⟨reason, hreason⟩ := List.exists_mem_of_ne_nil _ h
    have hlast := hle reason (List.mem_cons_of_mem _ hreason)
    rw [heq] at hlast
    have hsame := precedence_injective (le_antisymm hlast reason.precedence_le)
    exact absurd (hsame ▸ hreason) hnone
  · exact hmem

theorem precedence_least_le {reasons : List StrandingReason} {reason : StrandingReason}
    (h : reason ∈ reasons) : (least reasons).precedence ≤ reason.precedence :=
  (foldl_primary none reasons).2 reason (List.mem_cons_of_mem _ h)

/-- The order of the reasons does not matter. -/
theorem least_perm {reasons reasons' : List StrandingReason} (h : reasons.Perm reasons') :
    least reasons = least reasons' := by
  apply precedence_injective
  apply le_antisymm
  · exact (foldl_primary none reasons).2 _ ((h.cons none).mem_iff.mpr (foldl_primary none reasons').1)
  · exact (foldl_primary none reasons').2 _ ((h.cons none).mem_iff.mp (foldl_primary none reasons).1)

end StrandingReason

/-! ## Outcomes -/

/-- The reason of a check that fails. -/
def PoolOutcome.reason? : PoolOutcome → Option StrandingReason
  | .failure reason _ => some reason
  | .undecided _ => none

/-- The reasons of the checks that fail. -/
def failingReasons (outcomes : List PoolOutcome) : List StrandingReason :=
  outcomes.filterMap PoolOutcome.reason?

/-- A tally counts every reason at least once. -/
def ReasonTally.Counts (tally : ReasonTally) (reasons : List StrandingReason) : Prop :=
  ∀ reason, tally.amounts reason ≠ 0 ↔ reason ∈ reasons

theorem toNat_add_of_lt {a b : UInt64} (h : a.toNat + b.toNat < 2 ^ 64) :
    (a + b).toNat = a.toNat + b.toNat := by
  rw [UInt64.toNat_add, Nat.mod_eq_of_lt h]

theorem checkedAdd_of_lt {a b : UInt64} (h : a.toNat + b.toNat < 2 ^ 64) :
    checkedAdd a b = some (a + b) :=
  checkedAdd_eq_some.mpr ⟨h, toNat_add_of_lt h⟩

theorem checkedAdd_of_le {a b : UInt64} (h : 2 ^ 64 ≤ a.toNat + b.toNat) :
    checkedAdd a b = none := by
  rw [Option.eq_none_iff_forall_ne_some]
  intro c hc
  have hlt := (checkedAdd_eq_some.mp hc).1
  omega

/-- `add`, where the amount fits. -/
theorem ReasonTally.add_of_lt {tally : ReasonTally} {reason : StrandingReason} {amount : UInt64}
    (h : (tally.amounts reason).toNat + amount.toNat < 2 ^ 64) :
    tally.add reason amount =
      .ok ⟨Function.update tally.amounts reason (tally.amounts reason + amount)⟩ := by
  unfold ReasonTally.add
  rw [checkedAdd_of_lt h]
  rfl

theorem ReasonTally.add_of_le {tally : ReasonTally} {reason : StrandingReason} {amount : UInt64}
    (h : 2 ^ 64 ≤ (tally.amounts reason).toNat + amount.toNat) :
    ∃ e, tally.add reason amount = .error e := by
  unfold ReasonTally.add
  rw [checkedAdd_of_le h]
  exact ⟨_, rfl⟩

/-- Whatever `note_reason` makes of the count, it is not zero then. -/
theorem PoolEligibility.counts_noteReason {result : PoolEligibility}
    {reasons : List StrandingReason} (h : result.occurrences.Counts reasons)
    (reason : StrandingReason) :
    (result.noteReason reason).occurrences.Counts (reasons ++ [reason]) := by
  intro r
  rw [List.mem_append, List.mem_singleton]
  unfold noteReason
  by_cases hfits : (result.occurrences.amounts reason).toNat + (1 : UInt64).toNat < 2 ^ 64
  · rw [ReasonTally.add_of_lt hfits]
    have hpos : result.occurrences.amounts reason + 1 ≠ 0 := by
      intro hzero
      have htoNat := congrArg UInt64.toNat hzero
      rw [toNat_add_of_lt hfits] at htoNat
      simp at htoNat
    by_cases hr : r = reason
    · subst hr
      simp [hpos]
    · simp [hr, h r]
  · obtain ⟨e, he⟩ := ReasonTally.add_of_le (Nat.le_of_not_lt hfits)
    rw [he]
    change result.occurrences.amounts r ≠ 0 ↔ _
    rw [h r]
    constructor
    · exact .inl
    · rintro (hmem | rfl)
      · exact hmem
      · rw [← h r]
        intro hzero
        rw [hzero] at hfits
        exact hfits (by decide)

/-- What the loop over the outcomes has found so far. -/
structure PoolEvaluation.Found (evaluation : PoolEvaluation) (outcomes : List PoolOutcome) :
    Prop where
  failure : evaluation.anyFailure = (failingReasons outcomes != [])
  undecided : evaluation.anyUndecided = outcomes.any fun outcome => outcome.reason?.isNone
  primary : evaluation.result.primary = StrandingReason.least (failingReasons outcomes)
  occurrences : evaluation.result.occurrences.Counts (failingReasons outcomes)
  open_ : evaluation.result.decided = false ∧ evaluation.result.eligible = false

theorem PoolEvaluation.Found.note {evaluation : PoolEvaluation} {outcomes : List PoolOutcome}
    (h : evaluation.Found outcomes) (outcome : PoolOutcome) :
    (evaluation.note outcome).Found (outcomes ++ [outcome]) := by
  cases outcome with
  | undecided note =>
    have hsame : failingReasons (outcomes ++ [.undecided note]) = failingReasons outcomes := by
      simp [failingReasons, PoolOutcome.reason?]
    exact {
      failure := by rw [hsame]; exact h.failure
      undecided := by simp [PoolEvaluation.note, PoolOutcome.reason?]
      primary := by rw [hsame]; exact h.primary
      occurrences := by rw [hsame]; exact h.occurrences
      open_ := h.open_ }
  | failure reason note =>
    have hmore : failingReasons (outcomes ++ [.failure reason note]) =
        failingReasons outcomes ++ [reason] := by
      simp [failingReasons, PoolOutcome.reason?]
    exact {
      failure := by simp [hmore, PoolEvaluation.note]
      undecided := by simp [PoolEvaluation.note, PoolOutcome.reason?, h.undecided]
      primary := by
        rw [hmore, StrandingReason.least, List.foldl_append]
        change StrandingReason.primary evaluation.result.primary reason = _
        rw [h.primary]
        rfl
      occurrences := by
        rw [hmore]
        exact PoolEligibility.counts_noteReason h.occurrences reason
      open_ := h.open_ }

theorem PoolEvaluation.found_foldl (outcomes : List PoolOutcome) :
    (outcomes.foldl PoolEvaluation.note {}).Found outcomes := by
  induction outcomes using List.reverseRecOn with
  | nil =>
    exact {
      failure := rfl
      undecided := rfl
      primary := rfl
      occurrences := by
        intro reason
        simp [failingReasons]
      open_ := ⟨rfl, rfl⟩ }
  | append_singleton outcomes outcome ih =>
    rw [List.foldl_append]
    exact ih.note outcome

/-! ## Reasons of the checks -/

section Reasons

variable (formatDouble : Double → Text)

/-- A check that fails names a reason. -/
def PoolOutcome.Named (outcome : PoolOutcome) : Prop := outcome.reason? ≠ some .none

theorem CapabilityKey.strandingReason_ne_none (key : CapabilityKey) :
    key.strandingReason ≠ .none := by
  cases key <;> decide

theorem PoolOutcome.named_architecture (artifact : Option ArtifactRecord)
    (acceleratorClass : Option AcceleratorClassRecord) :
    ∀ outcome ∈ architecture artifact acceleratorClass, outcome.Named := by
  unfold architecture
  repeat' split
  all_goals simp [Named, reason?]

theorem PoolOutcome.named_requireText (effective : CapabilitySet) (value : Text)
    (key : CapabilityKey) {reason : StrandingReason} (hreason : reason ≠ .none) (label : String) :
    ∀ outcome ∈ requireText effective value key reason label, outcome.Named := by
  unfold requireText
  repeat' split
  all_goals simp [Named, reason?, hreason]

theorem PoolOutcome.named_formats (artifact : Option ArtifactRecord) (effective : CapabilitySet) :
    ∀ outcome ∈ formats artifact effective, outcome.Named := by
  unfold formats
  split
  · simp
  · simp only [List.mem_append, or_imp, forall_and]
    refine ⟨⟨⟨?_, ?_⟩, ?_⟩, ?_⟩ <;> exact named_requireText _ _ _ (by decide) _

theorem PoolOutcome.named_abi (artifact : Option ArtifactRecord) (runtime : Option RuntimeRecord) :
    ∀ outcome ∈ abi artifact runtime, outcome.Named := by
  unfold abi
  dsimp only
  repeat' split
  all_goals simp [Named, reason?]

theorem PoolOutcome.named_requirement (effective : CapabilitySet)
    (required : CapabilityRequirement) :
    ∀ outcome ∈ requirement formatDouble effective required, outcome.Named := by
  unfold requirement
  repeat' split
  all_goals simp [Named, reason?, CapabilityKey.strandingReason_ne_none]

theorem PoolOutcome.named_memory (workload : WorkloadRecord)
    (acceleratorClass : Option AcceleratorClassRecord) :
    ∀ outcome ∈ memory workload acceleratorClass, outcome.Named := by
  unfold memory
  dsimp only
  repeat' split
  all_goals simp [Named, reason?]

theorem PoolOutcome.named_policy (record : Option PolicyRecord) (site : Option SiteRecord)
    (cluster : ClusterRecord) : ∀ outcome ∈ policy record site cluster, outcome.Named := by
  unfold policy
  dsimp only
  repeat' split
  all_goals simp [Named, reason?]

theorem PoolInputs.named_outcomes (inputs : PoolInputs) :
    ∀ outcome ∈ inputs.outcomes formatDouble, outcome.Named := by
  simp only [outcomes, List.mem_append, or_imp, forall_and]
  refine ⟨⟨⟨⟨PoolOutcome.named_architecture _ _, PoolOutcome.named_formats _ _⟩,
    PoolOutcome.named_abi _ _⟩, ?_⟩, PoolOutcome.named_policy _ _ _⟩
  unfold PoolOutcome.declared
  split
  · simp
  · simp only [List.mem_append, List.mem_flatMap, or_imp, forall_and]
    refine ⟨?_, PoolOutcome.named_memory _ _⟩
    rintro outcome ⟨required, -, hmem⟩
    exact PoolOutcome.named_requirement formatDouble _ _ outcome hmem

theorem none_notMem_failingReasons (inputs : PoolInputs) :
    StrandingReason.none ∉ failingReasons (inputs.outcomes formatDouble) := by
  intro h
  obtain ⟨outcome, hmem, hreason⟩ := List.mem_filterMap.mp h
  exact inputs.named_outcomes formatDouble outcome hmem hreason

end Reasons

/-! ## The verdict -/

/-- `evaluate_pool` gets to the checks. -/
def PoolInputs.Checked (inputs : PoolInputs) : Prop :=
  ¬ (inputs.cluster.readiness = .notReady ∨ inputs.cluster.readiness = .draining) ∧
    ¬ (inputs.kind = .accelerator ∧ inputs.acceleratorClass = none)

section Verdict

variable {formatDouble : Double → Text} {inputs inputs' : PoolInputs}

theorem evaluatePool_of_checked (h : inputs.Checked) :
    evaluatePool formatDouble inputs =
      ((inputs.outcomes formatDouble).foldl PoolEvaluation.note {}).verdict := by
  rw [evaluatePool, if_neg h.1, if_neg h.2]

/-- A pool that is not checked is undecided. -/
theorem decided_of_not_checked (h : ¬ inputs.Checked) :
    (evaluatePool formatDouble inputs).decided = false := by
  unfold evaluatePool
  split
  · rfl
  · rename_i hready
    split
    · rfl
    · rename_i hclass
      exact absurd ⟨hready, hclass⟩ h

theorem decided_iff :
    (evaluatePool formatDouble inputs).decided = true ↔
      inputs.Checked ∧
        (inputs.outcomes formatDouble = [] ∨ failingReasons (inputs.outcomes formatDouble) ≠ []) := by
  by_cases hchecked : inputs.Checked
  · have hfound := PoolEvaluation.found_foldl (inputs.outcomes formatDouble)
    rw [evaluatePool_of_checked hchecked, PoolEvaluation.verdict]
    by_cases hfail : failingReasons (inputs.outcomes formatDouble) = []
    · have hnone : ∀ outcome ∈ inputs.outcomes formatDouble, outcome.reason? = none := by
        simpa [failingReasons] using hfail
      rw [if_neg (by simp [hfound.failure, hfail])]
      by_cases hempty : inputs.outcomes formatDouble = []
      · rw [if_neg (by simp [hempty])]
        simp [hchecked, hempty]
      · obtain ⟨outcome, hmem⟩ := List.exists_mem_of_ne_nil _ hempty
        have hopen : ((inputs.outcomes formatDouble).any fun outcome => outcome.reason?.isNone) = true :=
          List.any_eq_true.mpr ⟨outcome, hmem, by simp [hnone outcome hmem]⟩
        rw [if_pos (by rw [hfound.undecided, hopen])]
        simp [hempty, hfail]
    · rw [if_pos (by simp [hfound.failure, hfail])]
      simp [hchecked, hfail]
  · rw [decided_of_not_checked hchecked]
    simp [hchecked]

/-- The pool is eligible if it is checked and no check says anything. -/
theorem eligible_iff :
    ((evaluatePool formatDouble inputs).decided = true ∧
      (evaluatePool formatDouble inputs).eligible = true) ↔
      inputs.Checked ∧ inputs.outcomes formatDouble = [] := by
  by_cases hchecked : inputs.Checked
  · have hfound := PoolEvaluation.found_foldl (inputs.outcomes formatDouble)
    rw [decided_iff, evaluatePool_of_checked hchecked, PoolEvaluation.verdict]
    by_cases hfail : failingReasons (inputs.outcomes formatDouble) = []
    · rw [if_neg (by simp [hfound.failure, hfail])]
      by_cases hempty : inputs.outcomes formatDouble = []
      · rw [if_neg (by simp [hempty])]
        simp [hchecked, hempty]
      · simp [hempty, hfail]
    · rw [if_pos (by simp [hfound.failure, hfail])]
      have hempty : inputs.outcomes formatDouble ≠ [] := by
        intro hempty
        exact hfail (by rw [hempty]; rfl)
      simp [hempty]
  · rw [decided_of_not_checked hchecked]
    simp [hchecked]

/-- A pool that is decided and not eligible fails some check, and its primary reason is the failing
    one of least precedence. -/
theorem primary_of_stranded (hdecided : (evaluatePool formatDouble inputs).decided = true)
    (heligible : (evaluatePool formatDouble inputs).eligible = false) :
    failingReasons (inputs.outcomes formatDouble) ≠ [] ∧
      (evaluatePool formatDouble inputs).primary =
        StrandingReason.least (failingReasons (inputs.outcomes formatDouble)) := by
  obtain ⟨hchecked, hempty | hfail⟩ := decided_iff.mp hdecided
  · have htrue := (eligible_iff.mpr ⟨hchecked, hempty⟩).2
    rw [htrue] at heligible
    cases heligible
  · have hfound := PoolEvaluation.found_foldl (inputs.outcomes formatDouble)
    refine ⟨hfail, ?_⟩
    rw [evaluatePool_of_checked hchecked, PoolEvaluation.verdict,
      if_pos (by simp [hfound.failure, hfail])]
    exact hfound.primary

/-- The verdict does not depend on the order of the checks. -/
theorem evaluatePool_perm (hchecked : inputs.Checked ↔ inputs'.Checked)
    (hperm : (inputs.outcomes formatDouble).Perm (inputs'.outcomes formatDouble)) :
    (evaluatePool formatDouble inputs).decided = (evaluatePool formatDouble inputs').decided ∧
      ((evaluatePool formatDouble inputs).decided = true →
        (evaluatePool formatDouble inputs).eligible =
            (evaluatePool formatDouble inputs').eligible ∧
          ((evaluatePool formatDouble inputs).eligible = false →
            (evaluatePool formatDouble inputs).primary =
              (evaluatePool formatDouble inputs').primary)) := by
  have hreasons := hperm.filterMap PoolOutcome.reason?
  have hempty : inputs.outcomes formatDouble = [] ↔ inputs'.outcomes formatDouble = [] := by
    rw [← List.length_eq_zero_iff, ← List.length_eq_zero_iff, hperm.length_eq]
  have hfail : failingReasons (inputs.outcomes formatDouble) = [] ↔
      failingReasons (inputs'.outcomes formatDouble) = [] := by
    rw [← List.length_eq_zero_iff, ← List.length_eq_zero_iff, failingReasons, failingReasons,
      hreasons.length_eq]
  have hdecided : (evaluatePool formatDouble inputs).decided =
      (evaluatePool formatDouble inputs').decided := by
    rw [Bool.eq_iff_iff, decided_iff, decided_iff, hchecked, hempty, ne_eq, ne_eq, hfail]
  refine ⟨hdecided, ?_⟩
  intro htrue
  have heligible : (evaluatePool formatDouble inputs).eligible =
      (evaluatePool formatDouble inputs').eligible := by
    have hiff := @eligible_iff formatDouble inputs
    rw [hchecked, hempty, ← eligible_iff, ← hdecided, and_congr_right_iff] at hiff
    exact Bool.eq_iff_iff.mpr (hiff htrue)
  refine ⟨heligible, ?_⟩
  intro hfalse
  rw [(primary_of_stranded htrue hfalse).2,
    (primary_of_stranded (hdecided ▸ htrue) (heligible ▸ hfalse)).2]
  exact StrandingReason.least_perm hreasons

end Verdict

end FederationObservatory
