import Mathlib

/-!
# Long multiplication and division

A product taken part by part in a radix, and a quotient taken bit by bit.
-/

namespace LongArithmetic

/-! ## Multiplication -/

/-- The sum of the middle parts of a product, below the carry. -/
def middle (r a b : Nat) : Nat :=
  a % r * (b % r) / r + a % r * (b / r) % r + a / r * (b % r) % r

/-- The upper half of a product of two numbers of two digits. -/
def upper (r a b : Nat) : Nat :=
  a / r * (b / r) + a % r * (b / r) / r + a / r * (b % r) / r + middle r a b / r

/-- The lower half of a product of two numbers of two digits. -/
def lower (r a b : Nat) : Nat := middle r a b % r * r + a % r * (b % r) % r

theorem upper_add_lower (r a b : Nat) : upper r a b * (r * r) + lower r a b = a * b := by
  have ha := Nat.div_add_mod a r
  have hb := Nat.div_add_mod b r
  have h00 := Nat.div_add_mod (a % r * (b % r)) r
  have h01 := Nat.div_add_mod (a % r * (b / r)) r
  have h10 := Nat.div_add_mod (a / r * (b % r)) r
  have hmiddle := Nat.div_add_mod (middle r a b) r
  unfold upper lower
  calc
    _ = a / r * (b / r) * (r * r) + (a % r * (b / r) / r + a / r * (b % r) / r) * (r * r) +
        (r * (middle r a b / r) + middle r a b % r) * r + a % r * (b % r) % r := by ring
    _ = a / r * (b / r) * (r * r) + (r * (a % r * (b / r) / r) + a % r * (b / r) % r) * r +
        (r * (a / r * (b % r) / r) + a / r * (b % r) % r) * r +
        (r * (a % r * (b % r) / r) + a % r * (b % r) % r) := by
      rw [hmiddle, middle]
      ring
    _ = (r * (a / r) + a % r) * (r * (b / r) + b % r) := by
      rw [h00, h01, h10]
      ring
    _ = a * b := by rw [ha, hb]

theorem lower_lt {r : Nat} (hr : 0 < r) (a b : Nat) : lower r a b < r * r := by
  have hmiddle : middle r a b % r + 1 ≤ r := Nat.mod_lt _ hr
  have hlow := Nat.mod_lt (a % r * (b % r)) hr
  have hmul := Nat.mul_le_mul_right r hmiddle
  rw [Nat.add_mul, Nat.one_mul] at hmul
  unfold lower
  omega

/-! ## Division -/

variable {n d bit : Nat}

/-- One bit more of the dividend gives one bit more of the quotient. -/
theorem div_double_add (hd : 0 < d) (hbit : bit < 2) :
    (2 * n + bit) / d = 2 * (n / d) + if d ≤ 2 * (n % d) + bit then 1 else 0 := by
  have hn := Nat.div_add_mod n d
  have hmod := Nat.mod_lt n hd
  have hsplit : 2 * n + bit = (2 * (n % d) + bit) + d * (2 * (n / d)) := by
    calc
      _ = 2 * (d * (n / d) + n % d) + bit := by rw [hn]
      _ = _ := by ring
  rw [hsplit, Nat.add_mul_div_left _ _ hd, Nat.add_comm]
  congr 1
  split
  · rw [Nat.div_eq_of_lt_le] <;> omega
  · exact Nat.div_eq_of_lt (by omega)

theorem mod_double_add (hd : 0 < d) (hbit : bit < 2) :
    (2 * n + bit) % d =
      if d ≤ 2 * (n % d) + bit then 2 * (n % d) + bit - d else 2 * (n % d) + bit := by
  have hn := Nat.div_add_mod n d
  have hmod := Nat.mod_lt n hd
  have hsplit : 2 * n + bit = (2 * (n % d) + bit) + d * (2 * (n / d)) := by
    calc
      _ = 2 * (d * (n / d) + n % d) + bit := by rw [hn]
      _ = _ := by ring
  rw [hsplit, Nat.add_mul_mod_self_left]
  split
  · rename_i hle
    rw [Nat.mod_eq_sub_mod hle, Nat.mod_eq_of_lt (by omega)]
  · exact Nat.mod_eq_of_lt (by omega)

/-- The part of a number above a bit, with that bit. -/
theorem div_two_pow_eq (n bit : Nat) :
    n / 2 ^ bit = 2 * (n / 2 ^ (bit + 1)) + n / 2 ^ bit % 2 := by
  rw [pow_succ, ← Nat.div_div_eq_div_mul]
  exact (Nat.div_add_mod _ _).symm

end LongArithmetic
