import FederationObservatory.Model.Requirements

/-!
# Integral requirements

A signed and an unsigned integer are compared through views of one in the other, which clamp and fall
back. Where two values are compared through a view that clamps, the other is negative, so that the
order stays that of the integers.
-/

namespace FederationObservatory

namespace CapabilityValue

/-- The integer that a value holds, signed or unsigned. -/
def integral? : CapabilityValue → Option Int
  | .integer v => some v.toInt
  | .unsignedInteger v => some v.toNat
  | _ => none

variable {a b : CapabilityValue} {m n : Int}

theorem isIntegral_of_integral? (h : a.integral? = some m) : a.isIntegral = true := by
  cases a <;> first | rfl | cases h

theorem known_of_integral? (h : a.integral? = some m) : a.known = true := by
  cases a <;> first | rfl | cases h

/-- The signed view clamps at its top. -/
theorem toInt_asInteger (h : a.integral? = some m) :
    (a.asInteger 0).toInt = min m (2 ^ 63 - 1) := by
  cases a with
  | integer v =>
    obtain rfl := Option.some.inj h
    have hlt : v.toInt < 2 ^ 63 := v.toInt_lt
    show v.toInt = _
    omega
  | unsignedInteger v =>
    obtain rfl := Option.some.inj h
    have hlimit : (0x7FFFFFFFFFFFFFFF : UInt64).toNat = 2 ^ 63 - 1 := by decide
    unfold asInteger
    dsimp only
    split
    · rename_i hclamped
      rw [UInt64.lt_iff_toNat_lt, hlimit] at hclamped
      have hmax : (0x7FFFFFFFFFFFFFFF : Int64).toInt = 2 ^ 63 - 1 := by decide
      omega
    · rename_i hfits
      rw [UInt64.lt_iff_toNat_lt, hlimit] at hfits
      have hsame : v.toInt64.toInt = v.toBitVec.toNat := by
        rw [← Int64.toInt_toBitVec, UInt64.toBitVec_toInt64, BitVec.toInt_eq_toNat_of_lt]
        show 2 * v.toNat < _
        omega
      rw [hsame]
      show (v.toNat : Int) = _
      omega
  | _ => cases h

/-- The unsigned view is exact where there is one. -/
theorem toNat_asUnsigned (h : a.integral? = some m) (hm : 0 ≤ m) :
    ((a.asUnsigned 0).toNat : Int) = m := by
  cases a with
  | integer v =>
    obtain rfl := Option.some.inj h
    have hsign : ¬v < 0 := by
      rw [Int64.lt_iff_toInt_lt]
      show ¬v.toInt < 0
      omega
    show ((if v < 0 then 0 else v.toUInt64).toNat : Int) = _
    rw [if_neg hsign]
    have hcases := BitVec.toInt_eq_toNat_cond v.toBitVec
    have hbits : v.toBitVec.toInt = v.toInt := rfl
    have hword : v.toUInt64.toNat = v.toBitVec.toNat := rfl
    have hlt : v.toBitVec.toNat < 2 ^ 64 := v.toBitVec.isLt
    rw [hword]
    split at hcases <;> omega
  | unsignedInteger v => exact Option.some.inj h
  | _ => cases h

end CapabilityValue

/-- Two integers are compared as integers. -/
theorem compareNumericPairs_integral {a b : CapabilityValue} {m n : Int}
    (ha : a.integral? = some m) (hb : b.integral? = some n) :
    compareNumericPairs a b = ⟨true, if m < n then -1 else if n < m then 1 else 0⟩ := by
  have hviewA := CapabilityValue.toInt_asInteger ha
  have hviewB := CapabilityValue.toInt_asInteger hb
  have hzero : (0 : Int64).toInt = 0 := rfl
  unfold compareNumericPairs
  rw [CapabilityValue.isIntegral_of_integral? ha, CapabilityValue.isIntegral_of_integral? hb]
  rw [if_pos (show (true && true) = true from rfl)]
  split
  · rename_i hsigns
    rw [Int64.le_iff_toInt_le, Int64.le_iff_toInt_le, hviewA, hviewB, hzero] at hsigns
    have hexactA := CapabilityValue.toNat_asUnsigned ha (by omega)
    have hexactB := CapabilityValue.toNat_asUnsigned hb (by omega)
    have hlt : a.asUnsigned 0 < b.asUnsigned 0 ↔ m < n := by
      rw [UInt64.lt_iff_toNat_lt]
      omega
    have hgt : b.asUnsigned 0 < a.asUnsigned 0 ↔ n < m := by
      rw [UInt64.lt_iff_toNat_lt]
      omega
    simp only [Comparison.of, decide_eq_true_eq, hlt, hgt]
  · rename_i hsigns
    rw [Int64.le_iff_toInt_le, Int64.le_iff_toInt_le, hviewA, hviewB, hzero] at hsigns
    have hlt : a.asInteger 0 < b.asInteger 0 ↔ m < n := by
      rw [Int64.lt_iff_toInt_lt, hviewA, hviewB]
      omega
    have hgt : b.asInteger 0 < a.asInteger 0 ↔ n < m := by
      rw [Int64.lt_iff_toInt_lt, hviewA, hviewB]
      omega
    simp only [Comparison.of, decide_eq_true_eq, hlt, hgt]

section Evaluate

variable {formatDouble : Double → Text} {requirement : CapabilityRequirement}
  {observed : CapabilitySet} {entry : CapabilityEntry} {m n : Int}

/-- Every comparison of an integer that is published with one that is required is decided by the order
    of the integers. -/
theorem integral_requirement_exact (hfind : observed.find requirement.key = some entry)
    (hpublished : entry.value.integral? = some m) (hrequired : requirement.value.integral? = some n) :
    let satisfied := (evaluateRequirement formatDouble requirement observed).satisfied
    (requirement.comparator = .atLeast → satisfied = triFromBool (decide (n ≤ m))) ∧
      (requirement.comparator = .atMost → satisfied = triFromBool (decide (m ≤ n))) ∧
      (requirement.comparator = .equals → satisfied = triFromBool (decide (m = n))) ∧
      (requirement.comparator = .notEquals → satisfied = triFromBool (decide (m ≠ n))) := by
  have hcompare := compareNumericPairs_integral hpublished hrequired
  have hknown := CapabilityValue.known_of_integral? hpublished
  have hsatisfied : (evaluateRequirement formatDouble requirement observed).satisfied =
      (evaluatePublished formatDouble entry.value requirement).1 := by
    unfold evaluateRequirement
    rw [hfind]
    dsimp only
    rw [if_pos hknown]
  have horder : publishedOrder entry.value requirement.value =
      some (if m < n then -1 else if n < m then 1 else 0) := by
    unfold publishedOrder
    rw [hcompare]
    rfl
  have hequal : publishedEquals entry.value requirement.value = some (decide (m = n)) := by
    unfold publishedEquals
    rw [hcompare]
    show some _ = _
    congr 1
    rcases Int.lt_trichotomy m n with hlt | rfl | hgt
    · rw [if_pos hlt]
      simp [hlt.ne]
    · simp
    · rw [if_neg (by omega), if_pos hgt]
      simp [hgt.ne']
  dsimp only
  rw [hsatisfied]
  unfold evaluatePublished
  refine ⟨?_, ?_, ?_, ?_⟩ <;> intro hcomparator <;> rw [hcomparator]
  · have hsign : (0 : Int) ≤ (if m < n then -1 else if n < m then 1 else 0) ↔ n ≤ m := by
      split
      · omega
      · split <;> omega
    show (evaluateBound formatDouble _ _ .atLeast).1 = _
    unfold evaluateBound
    rw [horder]
    simp only [if_true, hsign]
  · have hsign : (if m < n then -1 else if n < m then 1 else 0) ≤ (0 : Int) ↔ m ≤ n := by
      split
      · omega
      · split <;> omega
    show (evaluateBound formatDouble _ _ .atMost).1 = _
    unfold evaluateBound
    rw [horder]
    simp only [reduceCtorEq, if_false, hsign]
  · show (evaluateEquals formatDouble _ _ false).1 = _
    unfold evaluateEquals
    rw [hequal]
    rfl
  · show (evaluateEquals formatDouble _ _ true).1 = _
    unfold evaluateEquals
    rw [hequal]
    simp

/-- The largest unsigned integer is more than a negative one. -/
theorem integral_requirement_exact_max :
    let key : CapabilityRef := { key := .memoryBytes }
    let requirement : CapabilityRequirement :=
      { key, comparator := .atLeast, value := .integer (-1) }
    let observed : CapabilitySet :=
      { entries := [{ key, value := .unsignedInteger 0xFFFFFFFFFFFFFFFF }]
        valid := by decide
        sorted := List.pairwise_singleton ..
        distinct := by decide
        notes := by decide }
    (evaluateRequirement (fun _ => []) requirement observed).satisfied =
      triFromBool (decide ((-1 : Int) ≤ 0xFFFFFFFFFFFFFFFF)) := by
  intro key requirement observed
  exact (integral_requirement_exact (show observed.find requirement.key = some _ from rfl)
    (show _ = some (0xFFFFFFFFFFFFFFFF : Int) from rfl) (show _ = some (-1 : Int) from rfl)).1 rfl

end Evaluate

end FederationObservatory
