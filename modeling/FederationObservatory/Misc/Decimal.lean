import FederationObservatory.Misc.Text

/-!
# Decimal numerals

The number that a run of digits denotes, the numeral of a number, alone or filled up with zeros to a
width, and the order of numerals of one width, which is the order of the numbers.
-/

namespace Text

/-! ## Values -/

/-- The digits from '0' to '9'. -/
def isDigit (c : UInt8) : Bool := decide (48 ≤ c ∧ c ≤ 57)

/-- The number that digits denote, after some that denote `n`. -/
def decimalFrom (n : Nat) (digits : Text) : Nat :=
  digits.foldl (fun n c => 10 * n + (c.toNat - 48)) n

/-- The number that digits denote. -/
def decimal (digits : Text) : Nat := decimalFrom 0 digits

@[simp] theorem decimalFrom_nil (n : Nat) : decimalFrom n [] = n := rfl

@[simp] theorem decimalFrom_cons (n : Nat) (c : UInt8) (digits : Text) :
    decimalFrom n (c :: digits) = decimalFrom (10 * n + (c.toNat - 48)) digits :=
  List.foldl_cons ..

theorem decimalFrom_append (n : Nat) (a b : Text) :
    decimalFrom n (a ++ b) = decimalFrom (decimalFrom n a) b := List.foldl_append

theorem decimalFrom_eq (n : Nat) (digits : Text) :
    decimalFrom n digits = n * 10 ^ digits.length + decimal digits := by
  induction digits generalizing n with
  | nil => simp [decimal]
  | cons c digits ih =>
    rw [decimal, decimalFrom_cons, decimalFrom_cons, ih, ih (10 * 0 + _), List.length_cons, pow_succ]
    ring

theorem decimal_cons (c : UInt8) (digits : Text) :
    decimal (c :: digits) = (c.toNat - 48) * 10 ^ digits.length + decimal digits := by
  rw [decimal, decimalFrom_cons, decimalFrom_eq, Nat.mul_zero, Nat.zero_add]

theorem decimal_append (a b : Text) : decimal (a ++ b) = decimal a * 10 ^ b.length + decimal b := by
  rw [decimal, decimalFrom_append, decimalFrom_eq]
  rfl

theorem decimal_replicate_zero (n : Nat) : decimal (List.replicate n 48) = 0 := by
  induction n with
  | zero => rfl
  | succ n ih => simp [List.replicate_succ, decimal_cons, ih]

theorem toNat_of_isDigit {c : UInt8} (h : isDigit c = true) : 48 ≤ c.toNat ∧ c.toNat ≤ 57 := by
  simpa [isDigit, UInt8.le_iff_toNat_le] using h

theorem decimal_lt {digits : Text} (h : ∀ c ∈ digits, isDigit c = true) :
    decimal digits < 10 ^ digits.length := by
  induction digits with
  | nil => simp [decimal]
  | cons c digits ih =>
    have hc := toNat_of_isDigit (h c (by simp))
    have hrest := ih fun d hd => h d (by simp [hd])
    rw [decimal_cons, List.length_cons, pow_succ]
    have hvalue : (c.toNat - 48) * 10 ^ digits.length ≤ 9 * 10 ^ digits.length :=
      Nat.mul_le_mul_right _ (by omega)
    omega

/-! ## Order -/

/-- Texts of one length are compared part by part. -/
theorem append_lt_append_iff {a a' b b' : Text} (h : a.length = a'.length) :
    a ++ b < a' ++ b' ↔ a < a' ∨ a = a' ∧ b < b' := by
  induction a generalizing a' with
  | nil =>
    obtain rfl := List.length_eq_zero_iff.mp h.symm
    simp
  | cons c a ih =>
    cases a' with
    | nil => cases h
    | cons c' a' =>
      rw [List.cons_append, List.cons_append, List.cons_lt_cons_iff, List.cons_lt_cons_iff,
        ih (Nat.succ.inj h), List.cons.injEq]
      tauto

/-- Numerals of one width are ordered like their numbers. -/
theorem lt_iff_decimal_lt {a b : Text} (h : a.length = b.length)
    (ha : ∀ c ∈ a, isDigit c = true) (hb : ∀ c ∈ b, isDigit c = true) :
    a < b ↔ decimal a < decimal b := by
  induction a generalizing b with
  | nil =>
    obtain rfl := List.length_eq_zero_iff.mp h.symm
    simp
  | cons c a ih =>
    cases b with
    | nil => cases h
    | cons d b =>
      have hlen : a.length = b.length := Nat.succ.inj h
      have harest := fun x hx => ha x (List.mem_cons_of_mem c hx)
      have hbrest := fun x hx => hb x (List.mem_cons_of_mem d hx)
      have hc := toNat_of_isDigit (ha c (by simp))
      have hd := toNat_of_isDigit (hb d (by simp))
      have halt := decimal_lt harest
      have hblt := decimal_lt hbrest
      rw [List.cons_lt_cons_iff, ih hlen harest hbrest, decimal_cons, decimal_cons, ← hlen,
        UInt8.lt_iff_toNat_lt, ← UInt8.toNat_inj]
      rw [← hlen] at hblt
      rcases Nat.lt_trichotomy c.toNat d.toNat with hlt | heq | hgt
      · have hstep : (c.toNat - 48) * 10 ^ a.length + 10 ^ a.length ≤
            (d.toNat - 48) * 10 ^ a.length := by
          rw [← Nat.succ_mul]
          exact Nat.mul_le_mul_right _ (by omega)
        omega
      · rw [heq]
        omega
      · have hstep : (d.toNat - 48) * 10 ^ a.length + 10 ^ a.length ≤
            (c.toNat - 48) * 10 ^ a.length := by
          rw [← Nat.succ_mul]
          exact Nat.mul_le_mul_right _ (by omega)
        omega

theorem eq_iff_decimal_eq {a b : Text} (h : a.length = b.length)
    (ha : ∀ c ∈ a, isDigit c = true) (hb : ∀ c ∈ b, isDigit c = true) :
    a = b ↔ decimal a = decimal b := by
  constructor
  · rintro rfl
    rfl
  · intro hvalue
    have hab : ¬a < b := fun hlt => absurd ((lt_iff_decimal_lt h ha hb).mp hlt) (by omega)
    have hba : ¬b < a := fun hlt => absurd ((lt_iff_decimal_lt h.symm hb ha).mp hlt) (by omega)
    exact List.le_antisymm hba hab

/-! ## Numerals -/

/-- The bytes of ASCII characters are their codes. -/
theorem ofString_ofList {chars : List Char} (h : ∀ c ∈ chars, c.isDigit = true) :
    ofString (String.ofList chars) = chars.map fun c => c.val.toUInt8 := by
  have hencode : chars.utf8Encode.data.toList = chars.map fun c => c.val.toUInt8 := by
    induction chars with
    | nil => rfl
    | cons c chars ih =>
      have hc : c.val ≤ 127 := by
        have hdigit := h c (by simp)
        simp only [Char.isDigit, Bool.and_eq_true, decide_eq_true_eq] at hdigit
        exact UInt32.le_trans hdigit.2 (by decide)
      have hone : String.utf8EncodeChar c = [c.val.toUInt8] := by
        have hcode : c.val.toNat ≤ 127 := UInt32.le_iff_toNat_le.mp hc
        rw [String.utf8EncodeChar, if_pos hcode]
        rfl
      rw [List.utf8Encode_cons, List.utf8Encode_singleton, hone, ByteArray.data_append]
      simp [ih fun d hd => h d (by simp [hd])]
  simpa [ofString] using hencode

theorem ofNat_eq (n : Nat) : ofNat n = (Nat.toDigits 10 n).map fun c => c.val.toUInt8 := by
  rw [ofNat, Nat.toString_eq_ofList_toDigits, ofString_ofList]
  intro c hc
  exact Nat.isDigit_of_mem_toDigits (by decide) (by decide) hc

theorem toNat_ofDigit {c : Char} (h : c.isDigit = true) :
    c.val.toUInt8.toNat = c.toNat ∧ 48 ≤ c.toNat ∧ c.toNat ≤ 57 := by
  simp only [Char.isDigit, Bool.and_eq_true, decide_eq_true_eq, ge_iff_le,
    UInt32.le_iff_toNat_le] at h
  have hrange : 48 ≤ c.toNat ∧ c.toNat ≤ 57 := h
  refine ⟨?_, hrange⟩
  show c.toNat % 2 ^ 8 = c.toNat
  omega

theorem isDigit_of_mem_ofNat {n : Nat} {c : UInt8} (h : c ∈ ofNat n) : isDigit c = true := by
  rw [ofNat_eq] at h
  obtain ⟨d, hd, rfl⟩ := List.mem_map.mp h
  have hrange := toNat_ofDigit (Nat.isDigit_of_mem_toDigits (by decide) (by decide) hd)
  simp only [isDigit, decide_eq_true_eq, UInt8.le_iff_toNat_le, hrange.1]
  exact hrange.2

theorem decimal_ofNat (n : Nat) : decimal (ofNat n) = n := by
  have hchars : ∀ (chars : List Char) (m : Nat), (∀ c ∈ chars, c.isDigit = true) →
      decimalFrom m (chars.map fun c => c.val.toUInt8) = Nat.ofDigitChars 10 chars m := by
    intro chars
    induction chars with
    | nil =>
      intro m _
      rw [List.map_nil, decimalFrom_nil, Nat.ofDigitChars_nil]
    | cons c chars ih =>
      intro m h
      rw [List.map_cons, decimalFrom_cons, Nat.ofDigitChars_cons, (toNat_ofDigit (h c (by simp))).1]
      exact ih _ fun d hd => h d (by simp [hd])
  rw [ofNat_eq, decimal, hchars _ _ fun c hc =>
    Nat.isDigit_of_mem_toDigits (by decide) (by decide) hc, Nat.ofDigitChars_ten_toDigits]

theorem length_ofNat_le_iff {n k : Nat} (hk : 0 < k) : (ofNat n).length ≤ k ↔ n < 10 ^ k := by
  rw [ofNat_eq, List.length_map]
  exact Nat.length_toDigits_le_iff (by decide) hk

theorem length_ofNat_pos (n : Nat) : 0 < (ofNat n).length := by
  rw [ofNat_eq, List.length_map]
  exact Nat.length_toDigits_pos

/-- `pad`: the numeral, with zeros before it up to a width. -/
def pad (value width : Nat) : Text :=
  List.replicate (width - (ofNat value).length) 48 ++ ofNat value

theorem isDigit_of_mem_pad {value width : Nat} {c : UInt8} (h : c ∈ pad value width) :
    isDigit c = true := by
  rcases List.mem_append.mp h with h | h
  · rw [List.eq_of_mem_replicate h]
    rfl
  · exact isDigit_of_mem_ofNat h

theorem decimal_pad (value width : Nat) : decimal (pad value width) = value := by
  rw [pad, decimal_append, decimal_replicate_zero, decimal_ofNat, Nat.zero_mul, Nat.zero_add]

theorem length_pad {value width : Nat} (hwidth : 0 < width) (h : value < 10 ^ width) :
    (pad value width).length = width := by
  have hle := (length_ofNat_le_iff hwidth).mpr h
  rw [pad, List.length_append, List.length_replicate]
  omega

/-- Two padded numerals of one width are ordered like the numbers. -/
theorem pad_lt_pad_iff {a b width : Nat} (hwidth : 0 < width) (ha : a < 10 ^ width)
    (hb : b < 10 ^ width) : pad a width < pad b width ↔ a < b := by
  rw [lt_iff_decimal_lt ((length_pad hwidth ha).trans (length_pad hwidth hb).symm)
    (fun _ => isDigit_of_mem_pad) (fun _ => isDigit_of_mem_pad), decimal_pad, decimal_pad]

theorem pad_inj {a b width : Nat} (h : pad a width = pad b width) : a = b := by
  rw [← decimal_pad a width, h, decimal_pad]

/-! ## Fields -/

/-- Padded numerals, each of a width and with a mark after it. -/
def fields : List (Nat × UInt8) → List Nat → Text
  | (width, mark) :: shape, value :: values => pad value width ++ mark :: fields shape values
  | _, _ => []

/-- Every field has a value that fits its width. -/
def Fits : List (Nat × UInt8) → List Nat → Prop
  | (width, _) :: shape, value :: values => 0 < width ∧ value < 10 ^ width ∧ Fits shape values
  | [], [] => True
  | _, _ => False

/-- Fields of fixed widths are ordered like their values. -/
theorem fields_lt_fields_iff {shape : List (Nat × UInt8)} {values values' : List Nat}
    (h : Fits shape values) (h' : Fits shape values') :
    fields shape values < fields shape values' ↔ values < values' := by
  induction shape generalizing values values' with
  | nil =>
    cases values with
    | nil =>
      cases values' with
      | nil => simp [fields]
      | cons value' values' => exact h'.elim
    | cons value values => exact h.elim
  | cons field shape ih =>
    cases values with
    | nil => exact h.elim
    | cons value values =>
      cases values' with
      | nil => exact h'.elim
      | cons value' values' =>
        obtain ⟨hwidth, hvalue, hrest⟩ := h
        obtain ⟨-, hvalue', hrest'⟩ := h'
        have hlength := (length_pad hwidth hvalue).trans (length_pad hwidth hvalue').symm
        have heq : pad value field.1 = pad value' field.1 ↔ value = value' :=
          ⟨pad_inj, fun h => by rw [h]⟩
        rw [fields, fields, append_lt_append_iff hlength, pad_lt_pad_iff hwidth hvalue hvalue', heq,
          List.cons_lt_cons_iff, List.cons_lt_cons_iff, ih hrest hrest']
        simp

end Text
