import FederationObservatory.Misc.Decimal

/-!
# Percentages

The 128-bit helpers of `foundation.cpp` and the two functions that use them: `basis_points_of` and
`percent_string`. No floating point is involved.
-/

namespace FederationObservatory

/-! ## 128-bit arithmetic -/

/-- `U128`. -/
structure U128 where
  hi : UInt64 := 0
  lo : UInt64 := 0
  deriving DecidableEq, Repr

/-- The number the two words stand for. -/
def U128.toNat (value : U128) : Nat := value.hi.toNat * 2 ^ 64 + value.lo.toNat

/-- `a & 0xFFFFFFFFull`. -/
def lowHalf (a : UInt64) : UInt64 := a &&& 0xFFFFFFFF

/-- `a >> 32`. -/
def highHalf (a : UInt64) : UInt64 := a >>> 32

/-- `mul_u64`. -/
def mulU64 (a b : UInt64) : U128 :=
  let p00 := lowHalf a * lowHalf b
  let p01 := lowHalf a * highHalf b
  let p10 := highHalf a * lowHalf b
  let p11 := highHalf a * highHalf b
  let mid := highHalf p00 + lowHalf p01 + lowHalf p10
  { lo := lowHalf p00 ||| (mid <<< 32)
    hi := p11 + highHalf p01 + highHalf p10 + highHalf mid }

/-- The bit of a value at a position. -/
def U128.bit (value : U128) (bit : Nat) : UInt64 :=
  if 64 ≤ bit then (value.hi >>> UInt64.ofNat (bit - 64)) &&& 1
  else (value.lo >>> UInt64.ofNat bit) &&& 1

/-- The loop of `div_u128_by_u64` over the bits that are left. A quotient that does not fit ends it
    early. -/
def divideBits (value : U128) (divisor : UInt64) : Nat → UInt64 → UInt64 → UInt64
  | 0, quotient, _ => quotient
  | bit + 1, quotient, remainder =>
    let carry := decide (remainder >>> 63 ≠ 0)
    let remainder := (remainder <<< 1) ||| value.bit bit
    if carry || decide (divisor ≤ remainder) then
      if 64 ≤ bit then 0xFFFFFFFFFFFFFFFF
      else
        divideBits value divisor bit (quotient ||| (1 <<< UInt64.ofNat bit)) (remainder - divisor)
    else divideBits value divisor bit quotient remainder

/-- `div_u128_by_u64`. -/
def divU128ByU64 (value : U128) (divisor : UInt64) : UInt64 :=
  if divisor = 0 then 0 else divideBits value divisor 128 0 0

/-! ## Percentages -/

/-- `basis_points_of`. -/
def basisPointsOf (part whole : UInt64) : UInt32 :=
  if whole = 0 then 0
  else
    let quotient := divU128ByU64 (mulU64 part 10000) whole
    if 0xFFFFFFFF < quotient then 0xFFFFFFFF else quotient.toUInt32

/-- The text of a number of hundredths of a percent. -/
def renderHundredths (hundredths : UInt64) : Text :=
  .ofNat (hundredths / 100).toNat ++ .ofString "." ++ Text.pad (hundredths % 100).toNat 2 ++
    .ofString "%"

/-- `percent_string`. -/
def percentString (part whole : UInt64) : Text :=
  if whole = 0 then .ofString "0.00%"
  else
    let micro := divU128ByU64 (mulU64 part 1000000) whole
    if micro = 0xFFFFFFFFFFFFFFFF then .ofString ">1.8e14%"
    else renderHundredths ((micro + 50) / 100)

end FederationObservatory
