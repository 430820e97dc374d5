import FederationObservatory.Foundation.Percent
import FederationObservatory.Misc.LongArithmetic

/-!
# Exact percentages

The product of `mul_u64` and the quotient of `div_u128_by_u64` are those of the integers, so the basis
points are exact. A percentage is exact but for the last fifty quotients that fit in 64 bits, where
the addition that rounds wraps around.
-/

namespace FederationObservatory

open LongArithmetic

/-! ## The product is exact -/

theorem toNat_lowHalf (a : UInt64) : (lowHalf a).toNat = a.toNat % 2 ^ 32 := by
  rw [lowHalf, UInt64.toNat_and]
  exact Nat.and_two_pow_sub_one_eq_mod a.toNat 32

theorem toNat_highHalf (a : UInt64) : (highHalf a).toNat = a.toNat / 2 ^ 32 := by
  rw [highHalf, UInt64.toNat_shiftRight]
  exact Nat.shiftRight_eq_div_pow ..

theorem toNat_mulU64 (a b : UInt64) : (mulU64 a b).toNat = a.toNat * b.toNat := by
  have ha : a.toNat < 2 ^ 64 := a.toNat_lt
  have hb : b.toNat < 2 ^ 64 := b.toNat_lt
  have hproduct : ∀ x y : Nat, x < 2 ^ 32 → y < 2 ^ 32 → x * y ≤ (2 ^ 32 - 1) * (2 ^ 32 - 1) :=
    fun x y hx hy => Nat.mul_le_mul (by omega) (by omega)
  have ha0 := Nat.mod_lt a.toNat (show 0 < 2 ^ 32 by decide)
  have hb0 := Nat.mod_lt b.toNat (show 0 < 2 ^ 32 by decide)
  have h00 := hproduct _ _ ha0 hb0
  have h01 := hproduct (a.toNat % 2 ^ 32) (b.toNat / 2 ^ 32) ha0 (by omega)
  have h10 := hproduct (a.toNat / 2 ^ 32) (b.toNat % 2 ^ 32) (by omega) hb0
  have h11 := hproduct (a.toNat / 2 ^ 32) (b.toNat / 2 ^ 32) (by omega) (by omega)
  have hexact := upper_add_lower (2 ^ 32) a.toNat b.toNat
  have hlower := lower_lt (show 0 < 2 ^ 32 by decide) a.toNat b.toNat
  -- both words are what they are over the integers
  have hmiddle : middle (2 ^ 32) a.toNat b.toNat < 3 * 2 ^ 32 := by
    unfold middle
    omega
  have m00 : (lowHalf a * lowHalf b).toNat = a.toNat % 2 ^ 32 * (b.toNat % 2 ^ 32) := by
    rw [UInt64.toNat_mul, toNat_lowHalf, toNat_lowHalf, Nat.mod_eq_of_lt (by omega)]
  have m01 : (lowHalf a * highHalf b).toNat = a.toNat % 2 ^ 32 * (b.toNat / 2 ^ 32) := by
    rw [UInt64.toNat_mul, toNat_lowHalf, toNat_highHalf, Nat.mod_eq_of_lt (by omega)]
  have m10 : (highHalf a * lowHalf b).toNat = a.toNat / 2 ^ 32 * (b.toNat % 2 ^ 32) := by
    rw [UInt64.toNat_mul, toNat_highHalf, toNat_lowHalf, Nat.mod_eq_of_lt (by omega)]
  have m11 : (highHalf a * highHalf b).toNat = a.toNat / 2 ^ 32 * (b.toNat / 2 ^ 32) := by
    rw [UInt64.toNat_mul, toNat_highHalf, toNat_highHalf, Nat.mod_eq_of_lt (by omega)]
  have mid : (highHalf (lowHalf a * lowHalf b) + lowHalf (lowHalf a * highHalf b) +
      lowHalf (highHalf a * lowHalf b)).toNat = middle (2 ^ 32) a.toNat b.toNat := by
    rw [UInt64.toNat_add, UInt64.toNat_add, toNat_highHalf, toNat_lowHalf, toNat_lowHalf, m00, m01,
      m10, middle]
    omega
  have hlo : (mulU64 a b).lo.toNat = lower (2 ^ 32) a.toNat b.toNat := by
    unfold mulU64 lower
    dsimp only
    rw [UInt64.toNat_or, UInt64.toNat_shiftLeft, toNat_lowHalf, m00, mid]
    have hword : middle (2 ^ 32) a.toNat b.toNat <<< ((32 : UInt64).toNat % 64) % 2 ^ 64 =
        (middle (2 ^ 32) a.toNat b.toNat % 2 ^ 32) <<< 32 := by
      show middle (2 ^ 32) a.toNat b.toNat <<< 32 % 2 ^ 64 = _
      rw [Nat.shiftLeft_eq, Nat.shiftLeft_eq]
      omega
    rw [hword, Nat.or_comm, ← Nat.shiftLeft_add_eq_or_of_lt (Nat.mod_lt _ (by decide)),
      Nat.shiftLeft_eq]
  have hhi : (mulU64 a b).hi.toNat = upper (2 ^ 32) a.toNat b.toNat := by
    unfold mulU64 upper
    dsimp only
    rw [UInt64.toNat_add, UInt64.toNat_add, UInt64.toNat_add, toNat_highHalf, toNat_highHalf,
      toNat_highHalf, m11, m01, m10, mid]
    omega
  rw [U128.toNat, hlo, hhi, ← hexact]
  rfl

/-! ## The quotient is exact -/

theorem U128.bit_toNat (value : U128) (bit : Nat) (h : bit < 128) :
    (value.bit bit).toNat = value.toNat / 2 ^ bit % 2 := by
  have hand : ∀ x : UInt64, (x &&& 1).toNat = x.toNat % 2 := by
    intro x
    rw [UInt64.toNat_and]
    exact Nat.and_two_pow_sub_one_eq_mod x.toNat 1
  have hlo : value.lo.toNat < 2 ^ 64 := value.lo.toNat_lt
  unfold U128.bit U128.toNat
  split
  · rename_i hbit
    have hshift : (UInt64.ofNat (bit - 64)).toNat % 64 = bit - 64 := by
      rw [UInt64.toNat_ofNat']
      omega
    have hword : (value.hi.toNat * 2 ^ 64 + value.lo.toNat) / 2 ^ 64 = value.hi.toNat := by omega
    rw [hand, UInt64.toNat_shiftRight, hshift, Nat.shiftRight_eq_div_pow,
      show bit = 64 + (bit - 64) by omega, pow_add, ← Nat.div_div_eq_div_mul, hword,
      Nat.add_sub_cancel_left]
  · rename_i hbit
    have hshift : (UInt64.ofNat bit).toNat % 64 = bit := by
      rw [UInt64.toNat_ofNat']
      omega
    have hpow : 2 ^ 64 = 2 ^ bit * (2 * 2 ^ (63 - bit)) := by
      rw [← pow_succ', ← pow_add]
      congr 1
      omega
    rw [hand, UInt64.toNat_shiftRight, hshift, Nat.shiftRight_eq_div_pow, hpow,
      show value.hi.toNat * (2 ^ bit * (2 * 2 ^ (63 - bit))) =
        2 ^ bit * (2 * (value.hi.toNat * 2 ^ (63 - bit))) by ring,
      Nat.mul_add_div (Nat.two_pow_pos bit), Nat.mul_add_mod]

/-- The shift of the remainder loses its top bit. -/
theorem toNat_double_or {remainder next : UInt64} (hnext : next.toNat < 2) :
    ((remainder <<< 1) ||| next).toNat = (2 * remainder.toNat + next.toNat) % 2 ^ 64 := by
  have hlt : remainder.toNat < 2 ^ 64 := remainder.toNat_lt
  have hword : remainder.toNat <<< ((1 : UInt64).toNat % 64) % 2 ^ 64 =
      (remainder.toNat % 2 ^ 63) <<< 1 := by
    show remainder.toNat <<< 1 % 2 ^ 64 = _
    rw [Nat.shiftLeft_eq, Nat.shiftLeft_eq]
    omega
  rw [UInt64.toNat_or, UInt64.toNat_shiftLeft, hword, ← Nat.shiftLeft_add_eq_or_of_lt (by omega),
    Nat.shiftLeft_eq]
  omega

/-- With the bit that the shift loses, the comparison is that of the integers. -/
theorem carry_or_le_iff {divisor remainder next : UInt64} (hnext : next.toNat < 2) :
    (decide (remainder >>> 63 ≠ 0) || decide (divisor ≤ (remainder <<< 1) ||| next)) = true ↔
      divisor.toNat ≤ 2 * remainder.toNat + next.toNat := by
  have hdivisor : divisor.toNat < 2 ^ 64 := divisor.toNat_lt
  have hcarry : remainder >>> 63 = 0 ↔ remainder.toNat < 2 ^ 63 := by
    rw [← UInt64.toNat_inj, UInt64.toNat_shiftRight]
    show remainder.toNat >>> 63 = 0 ↔ _
    rw [Nat.shiftRight_eq_div_pow]
    omega
  rw [Bool.or_eq_true, decide_eq_true_iff, decide_eq_true_iff, ne_eq, hcarry,
    UInt64.le_iff_toNat_le, toNat_double_or hnext]
  omega

/-- A bit is set in a quotient that has none at or below it. -/
theorem toNat_or_bit {quotient : UInt64} {n bit : Nat} (hbit : bit < 64)
    (hquotient : quotient.toNat = n * 2 ^ (bit + 1)) :
    (quotient ||| (1 <<< UInt64.ofNat bit)).toNat = (2 * n + 1) * 2 ^ bit := by
  have hshift : (UInt64.ofNat bit).toNat % 64 = bit := by
    rw [UInt64.toNat_ofNat']
    omega
  have hone : (1 : UInt64).toNat <<< bit % 2 ^ 64 = 2 ^ bit := by
    show 1 <<< bit % 2 ^ 64 = _
    rw [Nat.shiftLeft_eq, Nat.one_mul]
    exact Nat.mod_eq_of_lt (Nat.pow_lt_pow_right (by decide) hbit)
  rw [UInt64.toNat_or, UInt64.toNat_shiftLeft, hshift, hone, hquotient, ← Nat.shiftLeft_eq,
    ← Nat.shiftLeft_add_eq_or_of_lt (Nat.pow_lt_pow_right (by decide) (Nat.lt_succ_self bit)),
    Nat.shiftLeft_eq, Nat.succ_eq_add_one, pow_succ]
  ring

theorem toNat_max : (0xFFFFFFFFFFFFFFFF : UInt64).toNat = 2 ^ 64 - 1 := by decide

/-- The loop computes the quotient. Before the bits that are left it has the quotient and the
    remainder of the part of the value above them; a bit that does not fit ends it. -/
theorem toNat_divideBits {value : U128} {divisor : UInt64} (hdivisor : 0 < divisor.toNat)
    {bit : Nat} (hbit : bit ≤ 128) {quotient remainder : UInt64}
    (hquotient : quotient.toNat = value.toNat / 2 ^ bit / divisor.toNat * 2 ^ bit)
    (hremainder : remainder.toNat = value.toNat / 2 ^ bit % divisor.toNat)
    (hfits : 64 ≤ bit → value.toNat / 2 ^ bit / divisor.toNat = 0) :
    (divideBits value divisor bit quotient remainder).toNat =
      min (value.toNat / divisor.toNat) (2 ^ 64 - 1) := by
  induction bit generalizing quotient remainder with
  | zero =>
    have hlt : quotient.toNat < 2 ^ 64 := quotient.toNat_lt
    rw [pow_zero, Nat.div_one, Nat.mul_one] at hquotient
    rw [divideBits, hquotient]
    omega
  | succ bit ih =>
    have hbits := div_two_pow_eq value.toNat bit
    have hbit2 : value.toNat / 2 ^ bit % 2 < 2 := Nat.mod_lt _ (by decide)
    have hdiv := div_double_add (n := value.toNat / 2 ^ (bit + 1)) hdivisor hbit2
    have hmod := mod_double_add (n := value.toNat / 2 ^ (bit + 1)) hdivisor hbit2
    have hnext := value.bit_toNat bit (by omega)
    have hbelow : (value.bit bit).toNat < 2 := hnext ▸ hbit2
    rw [← hbits, ← hremainder, ← hnext] at hdiv hmod
    have hlt : remainder.toNat < divisor.toNat := hremainder ▸ Nat.mod_lt _ hdivisor
    unfold divideBits
    dsimp only
    split
    · rename_i htaken
      rw [carry_or_le_iff hbelow] at htaken
      rw [if_pos htaken] at hdiv hmod
      split
      · -- the quotient has a bit that does not fit
        rename_i hhigh
        have hone : 1 ≤ value.toNat / divisor.toNat / 2 ^ bit := by
          rw [Nat.div_div_eq_div_mul, Nat.mul_comm, ← Nat.div_div_eq_div_mul]
          omega
        have hle := (Nat.le_div_iff_mul_le (Nat.two_pow_pos bit)).mp hone
        have hexceeds : 2 ^ 64 ≤ value.toNat / divisor.toNat :=
          (Nat.pow_le_pow_right (by decide) hhigh).trans ((Nat.one_mul _).symm.trans_le hle)
        exact toNat_max.trans (Nat.min_eq_right ((Nat.sub_le _ _).trans hexceeds)).symm
      · rename_i hlow
        refine ih (by omega) ?_ ?_ (by omega)
        · rw [toNat_or_bit (by omega) hquotient, hdiv]
        · rw [hmod, UInt64.toNat_sub, toNat_double_or hbelow]
          have hdivisor' : divisor.toNat < 2 ^ 64 := divisor.toNat_lt
          omega
    · rename_i hskipped
      rw [carry_or_le_iff hbelow] at hskipped
      rw [if_neg hskipped] at hdiv hmod
      refine ih (by omega) ?_ ?_ fun hhigh => ?_
      · rw [hdiv, hquotient, pow_succ]
        ring
      · have hdivisor' : divisor.toNat < 2 ^ 64 := divisor.toNat_lt
        rw [hmod, toNat_double_or hbelow]
        omega
      · rw [hdiv, hfits (by omega)]

theorem toNat_divU128ByU64 (value : U128) {divisor : UInt64} (hdivisor : 0 < divisor.toNat) :
    (divU128ByU64 value divisor).toNat = min (value.toNat / divisor.toNat) (2 ^ 64 - 1) := by
  have hvalue : value.toNat < 2 ^ 128 := by
    have hhi : value.hi.toNat < 2 ^ 64 := value.hi.toNat_lt
    have hlo : value.lo.toNat < 2 ^ 64 := value.lo.toNat_lt
    unfold U128.toNat
    omega
  have hzero : divisor ≠ 0 := by
    rintro rfl
    exact absurd hdivisor (by decide)
  have htop : value.toNat / 2 ^ 128 = 0 := Nat.div_eq_of_lt hvalue
  rw [divU128ByU64, if_neg hzero]
  refine toNat_divideBits hdivisor (Nat.le_refl 128) ?_ ?_ fun _ => ?_
  · rw [htop, Nat.zero_div, Nat.zero_mul]
    rfl
  · rw [htop, Nat.zero_mod]
    rfl
  · rw [htop, Nat.zero_div]

/-! ## Basis points -/

theorem toNat_scaled (part factor : UInt64) {whole : UInt64} (hwhole : 0 < whole) :
    (divU128ByU64 (mulU64 part factor) whole).toNat =
      min (factor.toNat * part.toNat / whole.toNat) (2 ^ 64 - 1) := by
  rw [toNat_divU128ByU64 _ (UInt64.lt_iff_toNat_lt.mp hwhole), toNat_mulU64, Nat.mul_comm]

/-- Basis points are exact up to the largest that fits, because the product and the quotient are. -/
theorem basisPointsOf_exact {part whole : UInt64} (hwhole : 0 < whole) :
    (basisPointsOf part whole).toNat = min (10000 * part.toNat / whole.toNat) (2 ^ 32 - 1) ∧
      (∀ a b : UInt64, (mulU64 a b).toNat = a.toNat * b.toNat) ∧
      ∀ value : U128, (divU128ByU64 value whole).toNat =
        if value.toNat / whole.toNat < 2 ^ 64 then value.toNat / whole.toNat else 2 ^ 64 - 1 := by
  have hpositive : 0 < whole.toNat := UInt64.lt_iff_toNat_lt.mp hwhole
  have hzero : whole ≠ 0 := by
    rintro rfl
    exact absurd hwhole (by decide)
  refine ⟨?_, toNat_mulU64, fun value => ?_⟩
  · have hquotient := toNat_scaled part 10000 hwhole
    rw [show (10000 : UInt64).toNat = 10000 by decide] at hquotient
    unfold basisPointsOf
    rw [if_neg hzero]
    dsimp only
    generalize divU128ByU64 (mulU64 part 10000) whole = quotient at hquotient
    have hmax : (0xFFFFFFFF : UInt64).toNat = 2 ^ 32 - 1 := by decide
    split
    · rename_i hlarge
      rw [UInt64.lt_iff_toNat_lt, hmax] at hlarge
      rw [show (0xFFFFFFFF : UInt32).toNat = 2 ^ 32 - 1 by decide]
      omega
    · rename_i hsmall
      rw [UInt64.lt_iff_toNat_lt, hmax] at hsmall
      rw [UInt64.toNat_toUInt32]
      omega
  · rw [toNat_divU128ByU64 value hpositive]
    split <;> omega

theorem basisPointsOf_third :
    0 < (3 : UInt64) ∧ (basisPointsOf 1 3).toNat = min (10000 * 1 / 3) (2 ^ 32 - 1) :=
  ⟨by decide, (@basisPointsOf_exact 1 3 (by decide)).1⟩

/-! ## Percentages -/

/-- A text denotes a percentage, given in hundredths: a number with two decimals, and the sign. -/
def DenotesHundredths (text : Text) (hundredths : Nat) : Prop :=
  ∃ units decimals : Text,
    text = units ++ .ofString "." ++ decimals ++ .ofString "%" ∧ units ≠ [] ∧
      decimals.length = 2 ∧ (∀ c ∈ units ++ decimals, Text.isDigit c = true) ∧
      Text.decimal (units ++ decimals) = hundredths

/-- 100 * part / whole in hundredths, rounded half up. -/
def hundredthsOf (part whole : Nat) : Nat := (2 * (10000 * part) + whole) / (2 * whole)

/-- What `percent_string` is for. -/
def PercentExact (part whole : UInt64) : Prop :=
  if 1000000 * part.toNat / whole.toNat < 2 ^ 64 - 1 then
    DenotesHundredths (percentString part whole) (hundredthsOf part.toNat whole.toNat)
  else percentString part whole = .ofString ">1.8e14%"

/-- Rounding the quotient of a million is rounding the quotient itself. -/
theorem hundredthsOf_eq {part whole : Nat} (hwhole : 0 < whole) :
    hundredthsOf part whole = (1000000 * part / whole + 50) / 100 := by
  have hadd : 1000000 * part / whole + 50 = (1000000 * part + 50 * whole) / whole :=
    (Nat.add_mul_div_right _ 50 hwhole).symm
  rw [hundredthsOf, hadd, Nat.div_div_eq_div_mul, ← Nat.mul_div_mul_left _ _ (show 0 < 50 by decide)]
  congr 1 <;> ring

theorem denotes_renderHundredths_iff {hundredths : UInt64} {n : Nat} :
    DenotesHundredths (renderHundredths hundredths) n ↔ n = hundredths.toNat := by
  have hfraction : (hundredths % 100).toNat < 10 ^ 2 := by
    rw [UInt64.toNat_mod]
    exact Nat.mod_lt _ (by decide)
  have hlength := Text.length_pad (by decide) hfraction
  have hvalue : Text.decimal (.ofNat (hundredths / 100).toNat ++
      Text.pad (hundredths % 100).toNat 2) = hundredths.toNat := by
    rw [Text.decimal_append, hlength, Text.decimal_ofNat, Text.decimal_pad, UInt64.toNat_div,
      UInt64.toNat_mod]
    exact Nat.div_add_mod' hundredths.toNat 100
  constructor
  · rintro ⟨units, decimals, htext, -, hdecimals, -, rfl⟩
    unfold renderHundredths at htext
    have hsame := (List.append_inj_left' htext rfl)
    obtain ⟨hunits, rfl⟩ := List.append_inj' hsame (hlength.trans hdecimals.symm)
    obtain rfl := List.append_inj_left' hunits rfl
    exact hvalue
  · rintro rfl
    refine ⟨_, _, rfl, ?_, hlength, ?_, hvalue⟩
    · intro hnil
      have hzero := (Text.length_ofNat_pos (hundredths / 100).toNat)
      rw [hnil] at hzero
      exact absurd hzero (by decide)
    · intro c hc
      rcases List.mem_append.mp hc with hc | hc
      · exact Text.isDigit_of_mem_ofNat hc
      · exact Text.isDigit_of_mem_pad hc

/-- The rounded quotient, for the quotients that do not give the marker. -/
theorem percentString_eq {part whole : UInt64} (hwhole : 0 < whole)
    (hfits : 1000000 * part.toNat / whole.toNat < 2 ^ 64 - 1) :
    ∃ hundredths : UInt64, percentString part whole = renderHundredths hundredths ∧
      hundredths.toNat = (1000000 * part.toNat / whole.toNat + 50) % 2 ^ 64 / 100 := by
  have hmicro := toNat_scaled part 1000000 hwhole
  rw [show (1000000 : UInt64).toNat = 1000000 by decide, Nat.min_eq_left (by omega)] at hmicro
  have hzero : whole ≠ 0 := by
    rintro rfl
    exact absurd hwhole (by decide)
  have hmarker : divU128ByU64 (mulU64 part 1000000) whole ≠ 0xFFFFFFFFFFFFFFFF := by
    intro heq
    rw [heq, toNat_max] at hmicro
    omega
  refine ⟨_, by rw [percentString, if_neg hzero, if_neg hmarker], ?_⟩
  rw [UInt64.toNat_div, UInt64.toNat_add, hmicro]
  rfl

theorem percentString_marker {part whole : UInt64} (hwhole : 0 < whole)
    (hlarge : 2 ^ 64 - 1 ≤ 1000000 * part.toNat / whole.toNat) :
    percentString part whole = .ofString ">1.8e14%" := by
  have hmicro := toNat_scaled part 1000000 hwhole
  rw [show (1000000 : UInt64).toNat = 1000000 by decide, Nat.min_eq_right hlarge, ← toNat_max,
    UInt64.toNat_inj] at hmicro
  have hzero : whole ≠ 0 := by
    rintro rfl
    exact absurd hwhole (by decide)
  rw [percentString, if_neg hzero, if_pos hmicro]

/-- The percentage is exact unless rounding it wraps around. -/
theorem percentString_exact_iff {part whole : UInt64} (hwhole : 0 < whole) :
    PercentExact part whole ↔
      ¬(2 ^ 64 - 50 ≤ 1000000 * part.toNat / whole.toNat ∧
        1000000 * part.toNat / whole.toNat < 2 ^ 64 - 1) := by
  have hpositive : 0 < whole.toNat := UInt64.lt_iff_toNat_lt.mp hwhole
  unfold PercentExact
  split
  · rename_i hfits
    obtain ⟨hundredths, htext, hvalue⟩ := percentString_eq hwhole hfits
    rw [htext, denotes_renderHundredths_iff, hundredthsOf_eq hpositive, hvalue]
    generalize 1000000 * part.toNat / whole.toNat = quotient at hfits ⊢
    omega
  · rename_i hlarge
    refine iff_of_true (percentString_marker hwhole (by omega)) ?_
    rintro ⟨-, hfits⟩
    exact hlarge hfits

theorem percentString_third : 0 < (3 : UInt64) ∧ PercentExact 2 3 := by
  refine ⟨by decide, (@percentString_exact_iff 2 3 (by decide)).mpr ?_⟩
  rw [show (2 : UInt64).toNat = 2 by decide, show (3 : UInt64).toNat = 3 by decide]
  omega

/-- A percentage of about 1.8e14 is rendered as nothing at all. -/
theorem percent_wraps :
    0 < (223 : UInt64) ∧ 1000000 * 4113623928437230 / 223 < 2 ^ 64 - 1 ∧
      percentString 4113623928437230 223 = .ofString "0.00%" ∧
      hundredthsOf 4113623928437230 223 = 184467440737095516 ∧
      ¬PercentExact 4113623928437230 223 := by
  have htext : percentString 4113623928437230 223 = .ofString "0.00%" := by decide +kernel
  refine ⟨by decide, by decide, htext, by decide, ?_⟩
  have hnothing : (.ofString "0.00%" : Text) = renderHundredths 0 := by decide
  have hpart : (4113623928437230 : UInt64).toNat = 4113623928437230 := by decide
  have hwhole : (223 : UInt64).toNat = 223 := by decide
  unfold PercentExact
  rw [hpart, hwhole, if_pos (by decide), htext, hnothing, denotes_renderHundredths_iff]
  decide

end FederationObservatory
