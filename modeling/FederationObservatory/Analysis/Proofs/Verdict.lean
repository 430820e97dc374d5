import FederationObservatory.Analysis.Compatibility
import FederationObservatory.Misc.Weakest

/-!
# The verdict of a compatibility assessment

The verdict is the outcome of the weakest check, whatever the order of the checks, and the primary
failure is a check with this outcome. The policy leaves a check only where it admits the target, and
that check is of the strongest outcome there is: it has no part in the verdict.
-/

namespace FederationObservatory

open Weakest (IsWeakest)

namespace CompatibilityOutcome

theorem severity_injective : Function.Injective severity := by
  intro a b h
  cases a <;> cases b <;> first | rfl | exact absurd h (by decide)

theorem weakest_compatible (outcome : CompatibilityOutcome) :
    outcome.weakest .compatible = outcome := if_pos (Nat.zero_le _)

theorem isCompatibleFamily_iff {outcome : CompatibilityOutcome} :
    outcome.isCompatibleFamily = true ↔ outcome.severity ≤ 3 := decide_eq_true_iff

end CompatibilityOutcome

section Checks

variable {checks : List CompatibilityCheck}

theorem isWeakest_overallOutcome (h : checks ≠ []) :
    IsWeakest CompatibilityOutcome.severity (checks.map CompatibilityCheck.outcome)
      (overallOutcome checks) :=
  Weakest.isWeakest_foldl_of_bottom (fun _ => Nat.zero_le _)
    CompatibilityOutcome.severity_injective (by simpa using h)

theorem overallOutcome_perm {order : List CompatibilityCheck} (h : checks ≠ [])
    (hperm : order.Perm checks) : overallOutcome order = overallOutcome checks := by
  have horder : order ≠ [] := by
    rintro rfl
    exact h hperm.symm.eq_nil
  exact (isWeakest_overallOutcome horder).unique CompatibilityOutcome.severity_injective
    ((isWeakest_overallOutcome h).perm (hperm.symm.map _))

theorem overallOutcome_concat (check : CompatibilityCheck) :
    overallOutcome (checks ++ [check]) = (overallOutcome checks).weakest check.outcome := by
  simp only [overallOutcome, List.map_append, List.map_singleton, List.foldl_append,
    List.foldl_cons, List.foldl_nil]

end Checks

/-! ## The primary failure -/

/-- The failing check that the scan over some checks has found. -/
inductive Scanned (checks : List CompatibilityCheck) : Option CompatibilityCheck → Prop where
  | nothing (h : ∀ check ∈ checks, check.outcome.severity ≤ 3) : Scanned checks none
  | failure {worst : CompatibilityCheck} (hmem : worst ∈ checks) (hfails : 3 < worst.outcome.severity)
      (hworst : ∀ check ∈ checks, check.outcome.severity ≤ worst.outcome.severity) :
      Scanned checks (some worst)

theorem CompatibilityAssessment.scanned_primaryFailure (assessment : CompatibilityAssessment) :
    Scanned assessment.checks assessment.primaryFailure := by
  unfold primaryFailure
  generalize assessment.checks = checks
  induction checks using List.reverseRecOn with
  | nil => exact .nothing fun check hcheck => nomatch hcheck
  | append_singleton checks check ih =>
    rw [List.foldl_append, List.foldl_cons, List.foldl_nil]
    generalize List.foldl _ none checks = found at ih ⊢
    have hforall : ∀ {n}, (∀ other ∈ checks, other.outcome.severity ≤ n) →
        check.outcome.severity ≤ n → ∀ other ∈ checks ++ [check], other.outcome.severity ≤ n := by
      intro n hchecks hcheck
      exact List.forall_mem_append.mpr ⟨hchecks, List.forall_mem_singleton.mpr hcheck⟩
    cases hfamily : check.outcome.isCompatibleFamily with
    | true =>
      have hle := CompatibilityOutcome.isCompatibleFamily_iff.mp hfamily
      rw [if_pos rfl]
      cases ih with
      | nothing h => exact .nothing (hforall h hle)
      | failure hmem hfails hworst =>
        exact .failure (List.mem_append_left _ hmem) hfails (hforall hworst (by omega))
    | false =>
      have hlt : 3 < check.outcome.severity := by
        rw [← Nat.not_le, ← CompatibilityOutcome.isCompatibleFamily_iff, hfamily]
        exact Bool.false_ne_true
      have hself : check ∈ checks ++ [check] :=
        List.mem_append_right _ (List.mem_singleton_self check)
      rw [if_neg Bool.false_ne_true]
      cases ih with
      | nothing h =>
        refine .failure hself hlt (hforall (fun other hother => ?_) (Nat.le_refl _))
        have hle := h other hother
        omega
      | @failure worst hmem hfails hworst =>
        rw [Option.all_some]
        by_cases hweaker : worst.outcome.severity < check.outcome.severity
        · rw [if_pos (decide_eq_true hweaker)]
          refine .failure hself hlt (hforall (fun other hother => ?_) (Nat.le_refl _))
          have hle := hworst other hother
          omega
        · rw [if_neg (by simpa using hweaker)]
          exact .failure (List.mem_append_left _ hmem) hfails (hforall hworst (Nat.not_lt.mp hweaker))

section PrimaryFailure

variable {checks : List CompatibilityCheck} {overall : CompatibilityOutcome}

theorem Scanned.eq_none_iff {found : Option CompatibilityCheck} (h : Scanned checks found)
    (hoverall : IsWeakest CompatibilityOutcome.severity (checks.map CompatibilityCheck.outcome)
      overall) : found = none ↔ overall.isCompatibleFamily = true := by
  obtain ⟨check, hcheck, houtcome⟩ := List.mem_map.mp hoverall.mem
  rw [CompatibilityOutcome.isCompatibleFamily_iff, ← houtcome]
  cases h with
  | nothing h => exact iff_of_true rfl (h check hcheck)
  | @failure worst hmem hfails hworst =>
    have hle := hoverall.rank_le _ (List.mem_map_of_mem hmem)
    rw [← houtcome] at hle
    exact iff_of_false nofun (by omega)

theorem Scanned.outcome_eq {worst : CompatibilityCheck} (h : Scanned checks (some worst))
    (hoverall : IsWeakest CompatibilityOutcome.severity (checks.map CompatibilityCheck.outcome)
      overall) : worst ∈ checks ∧ worst.outcome = overall := by
  cases h with
  | failure hmem hfails hworst =>
    refine ⟨hmem, IsWeakest.unique CompatibilityOutcome.severity_injective ⟨?_, ?_⟩ hoverall⟩
    · exact List.mem_map_of_mem hmem
    · simpa using hworst

end PrimaryFailure

/-! ## The policy -/

section Policy

variable (formatDouble : Double → Text) (inputs : CompatibilityInputs)

theorem CompatibilityInputs.checks_ne_nil : inputs.checks formatDouble ≠ [] := by
  unfold checks
  cases inputs.cluster with
  | none => exact List.cons_ne_nil _ _
  | some cluster => exact List.cons_ne_nil _ _

/-- The verdict is that of the checks before the policy's. -/
theorem CompatibilityInputs.overallOutcome_policyChecks (cluster : ClusterRecord)
    (checks : List CompatibilityCheck) :
    overallOutcome (checks ++ inputs.policyChecks cluster) = overallOutcome checks := by
  unfold policyChecks
  cases inputs.policy with
  | none => rw [List.append_nil]
  | some policy =>
    dsimp only
    split
    · rw [overallOutcome_concat, CompatibilityOutcome.weakest_compatible]
    · rw [List.append_nil]

theorem CompatibilityInputs.overallOutcome_checks {cluster : ClusterRecord}
    (h : inputs.cluster = some cluster) :
    overallOutcome (inputs.checks formatDouble) =
      overallOutcome (inputs.currentnessCheck ::
        (inputs.artifactChecks formatDouble ++ inputs.workloadChecks formatDouble)) := by
  unfold checks
  rw [h]
  dsimp only
  rw [← List.cons_append, overallOutcome_policyChecks]

/-- A policy, another one, or none: the verdict is the same. -/
theorem CompatibilityInputs.overall_policy (policy : Option PolicyRecord) :
    (assessCompatibility formatDouble { inputs with policy }).overall =
      (assessCompatibility formatDouble inputs).overall := by
  show overallOutcome (checks formatDouble { inputs with policy }) =
    overallOutcome (inputs.checks formatDouble)
  rcases Option.eq_none_or_eq_some inputs.cluster with hcluster | ⟨cluster, hcluster⟩
  · unfold checks
    rw [hcluster]
  · rw [overallOutcome_checks formatDouble { inputs with policy } hcluster,
      overallOutcome_checks formatDouble inputs hcluster]
    rfl

/-- The verdict is the outcome of the weakest check in any order of the checks; the primary failure
    is absent exactly if the verdict is in the compatible family, and has the verdict as its outcome
    otherwise; and the verdict does not depend on the policy. -/
theorem compatibility_verdict :
    (∀ order : List CompatibilityCheck,
      order.Perm (assessCompatibility formatDouble inputs).checks →
      IsWeakest CompatibilityOutcome.severity (order.map CompatibilityCheck.outcome)
          (assessCompatibility formatDouble inputs).overall ∧
        overallOutcome order = (assessCompatibility formatDouble inputs).overall) ∧
    ((assessCompatibility formatDouble inputs).primaryFailure = none ↔
      (assessCompatibility formatDouble inputs).overall.isCompatibleFamily = true) ∧
    (∀ check, (assessCompatibility formatDouble inputs).primaryFailure = some check →
      check ∈ (assessCompatibility formatDouble inputs).checks ∧
        check.outcome = (assessCompatibility formatDouble inputs).overall) ∧
    ∀ policy : Option PolicyRecord,
      (assessCompatibility formatDouble { inputs with policy }).overall =
        (assessCompatibility formatDouble inputs).overall := by
  have hne := inputs.checks_ne_nil formatDouble
  have hscanned := (assessCompatibility formatDouble inputs).scanned_primaryFailure
  refine ⟨fun order hperm => ⟨?_, overallOutcome_perm hne hperm⟩,
    hscanned.eq_none_iff (isWeakest_overallOutcome hne), fun check hcheck => ?_,
    inputs.overall_policy formatDouble⟩
  · exact (isWeakest_overallOutcome hne).perm (hperm.symm.map _)
  · rw [hcheck] at hscanned
    exact hscanned.outcome_eq (isWeakest_overallOutcome hne)

end Policy

end FederationObservatory
