import FederationObservatory.Misc.Calendar
import FederationObservatory.Foundation.Timestamps

/-!
# Rendered timestamps

A rendered timestamp is the proleptic Gregorian date and the time of day of its instant, cut to
milliseconds, in fields of fixed widths, so that texts are ordered like instants.
-/

namespace FederationObservatory

/-! ## Machine arithmetic -/

section Arithmetic

theorem toInt_add_of_mem {a b : Int64} (h : -2 ^ 63 ≤ a.toInt + b.toInt)
    (h' : a.toInt + b.toInt < 2 ^ 63) : (a + b).toInt = a.toInt + b.toInt := by
  rw [Int64.toInt_add]
  exact Int.bmod_eq_of_le (by omega) (by omega)

theorem toInt_sub_of_mem {a b : Int64} (h : -2 ^ 63 ≤ a.toInt - b.toInt)
    (h' : a.toInt - b.toInt < 2 ^ 63) : (a - b).toInt = a.toInt - b.toInt := by
  rw [Int64.toInt_sub]
  exact Int.bmod_eq_of_le (by omega) (by omega)

theorem toInt_div_of_pos {a b : Int64} (hb : 0 < b.toInt) : (a / b).toInt = a.toInt.tdiv b.toInt := by
  refine Int64.toInt_div_of_ne_right a b ?_
  rintro rfl
  exact absurd hb (by decide)

theorem toInt_mul_of_mem {a b : Int64} (h : -2 ^ 63 ≤ a.toInt * b.toInt)
    (h' : a.toInt * b.toInt < 2 ^ 63) : (a * b).toInt = a.toInt * b.toInt := by
  rw [Int64.toInt_mul]
  exact Int.bmod_eq_of_le (by omega) (by omega)

theorem toNat_toUInt64_of_nonneg {a : Int64} (h : 0 ≤ a.toInt) :
    (a.toUInt64.toNat : Int) = a.toInt := by
  rw [Int64.toNat_toUInt64_of_le (Int64.le_iff_toInt_le.mpr h), ← Int64.toNat_toInt,
    Int.toNat_of_nonneg h]

theorem toInt_toInt64_of_lt {a : UInt64} (h : a.toNat < 2 ^ 63) : a.toInt64.toInt = a.toNat := by
  have hbits : a.toBitVec.toNat = a.toNat := rfl
  rw [← Int64.toInt_toBitVec, UInt64.toBitVec_toInt64, BitVec.toInt_eq_toNat_of_lt (by omega), hbits]

theorem toInt_div_of_nonneg {a b : Int64} (ha : 0 ≤ a.toInt) (hb : 0 < b.toInt) :
    (a / b).toInt = a.toInt / b.toInt := by
  rw [toInt_div_of_pos hb, Int.tdiv_eq_ediv_of_nonneg ha]

theorem toInt_mod_of_nonneg {a b : Int64} (ha : 0 ≤ a.toInt) :
    (a % b).toInt = a.toInt % b.toInt := by
  rw [Int64.toInt_mod, Int.tmod_eq_emod_of_nonneg ha]

theorem toInt_add_one_if {a : Int64} (p : Prop) [Decidable p] (h : -2 ^ 62 ≤ a.toInt)
    (h' : a.toInt < 2 ^ 62) : (a + if p then 1 else 0).toInt = a.toInt + if p then 1 else 0 := by
  have hzero : (0 : Int64).toInt = 0 := rfl
  have hone : (1 : Int64).toInt = 1 := rfl
  by_cases hp : p
  · rw [if_pos hp, if_pos hp, toInt_add_of_mem (by omega) (by omega), hone]
  · rw [if_neg hp, if_neg hp, toInt_add_of_mem (by omega) (by omega), hzero]

/-- The corrected division rounds down. -/
theorem toInt_floorDivide {value divisor : Int64} (h : 1 < divisor.toInt) :
    (floorDivide value divisor).1.toInt = value.toInt / divisor.toInt ∧
      (floorDivide value divisor).2.toInt = value.toInt % divisor.toInt := by
  have hquotient := toInt_div_of_pos (a := value) (by omega : 0 < divisor.toInt)
  have hremainder := Int64.toInt_mod value divisor
  have hlow := value.le_toInt
  have hhigh := divisor.toInt_lt
  have hzero : (0 : Int64).toInt = 0 := rfl
  have hone : (1 : Int64).toInt = 1 := rfl
  have hmodpos := Int.emod_nonneg value.toInt (by omega : divisor.toInt ≠ 0)
  have hmodlt := Int.emod_lt_of_pos value.toInt (by omega : 0 < divisor.toInt)
  rw [Int.tdiv_eq_ediv] at hquotient
  rw [Int.tmod_eq_emod] at hremainder
  have hnegative : value % divisor < 0 ↔ (value % divisor).toInt < 0 := Int64.lt_iff_toInt_lt
  unfold floorDivide
  dsimp only
  by_cases hexact : 0 ≤ value.toInt ∨ divisor.toInt ∣ value.toInt
  · rw [if_pos hexact] at hquotient hremainder
    have hkept : ¬value % divisor < 0 := by
      rw [hnegative]
      omega
    rw [if_neg hkept]
    exact ⟨by dsimp only; omega, by dsimp only; omega⟩
  · rw [if_neg hexact] at hquotient hremainder
    rw [Int.sign_eq_one_of_pos (by omega)] at hquotient
    have hfloor : value.toInt ≤ value.toInt / divisor.toInt := by
      refine (Int.le_ediv_iff_mul_le (by omega)).mpr ?_
      have hmul := Int.mul_le_mul_of_nonpos_left (a := value.toInt) (by omega) h.le
      rw [Int.mul_one] at hmul
      exact hmul
    have hbelow : value.toInt / divisor.toInt < 0 := Int.ediv_neg_of_neg_of_pos (by omega) (by omega)
    rw [if_pos (hnegative.mpr (by omega))]
    dsimp only
    rw [toInt_sub_of_mem (by omega) (by omega), toInt_add_of_mem (by omega) (by omega)]
    exact ⟨by omega, by omega⟩

end Arithmetic

/-! ## Days -/

section Days

variable {doe : UInt32}

/-- `yoe`. -/
def yearOfEra (doe : UInt32) : UInt32 := (doe - doe / 1460 + doe / 36524 - doe / 146096) / 365

/-- `doy`. -/
def dayOfYear (doe : UInt32) : UInt32 :=
  doe - (365 * yearOfEra doe + yearOfEra doe / 4 - yearOfEra doe / 100)

/-- `mp`. -/
def marchMonth (doe : UInt32) : UInt32 := (5 * dayOfYear doe + 2) / 153

/-- The year of an era, in unsigned arithmetic that does not wrap. -/
theorem toNat_yearOfEra (h : doe.toNat < 146097) :
    ((yearOfEra doe).toNat : Int) = Calendar.yearOfEra doe.toNat := by
  have h4 : (doe / 1460).toNat = doe.toNat / 1460 := UInt32.toNat_div ..
  have h100 : (doe / 36524).toNat = doe.toNat / 36524 := UInt32.toNat_div ..
  have h400 : (doe / 146096).toNat = doe.toNat / 146096 := UInt32.toNat_div ..
  have h365 : (365 : UInt32).toNat = 365 := rfl
  have hdays : (doe - doe / 1460 + doe / 36524 - doe / 146096).toNat =
      doe.toNat - doe.toNat / 1460 + doe.toNat / 36524 - doe.toNat / 146096 := by
    rw [UInt32.toNat_sub, UInt32.toNat_add, UInt32.toNat_sub, h4, h100, h400]
    omega
  rw [yearOfEra, UInt32.toNat_div, hdays, h365, Calendar.yearOfEra]
  omega

theorem toNat_dayOfYear (h : doe.toNat < 146097) :
    ((dayOfYear doe).toNat : Int) =
      doe.toNat - Calendar.daysBeforeYearOfEra (Calendar.yearOfEra doe.toNat) := by
  have hyear := toNat_yearOfEra h
  obtain ⟨hlow, hhigh, hzero, hlast⟩ := @Calendar.yearOfEra_mem doe.toNat (by omega)
  have h365 : (365 * yearOfEra doe).toNat = 365 * (yearOfEra doe).toNat := by
    have h365 : (365 : UInt32).toNat = 365 := rfl
    rw [UInt32.toNat_mul, h365]
    omega
  have h4 : (yearOfEra doe / 4).toNat = (yearOfEra doe).toNat / 4 := UInt32.toNat_div ..
  have h100 : (yearOfEra doe / 100).toNat = (yearOfEra doe).toNat / 100 := UInt32.toNat_div ..
  have hbefore : (365 * yearOfEra doe + yearOfEra doe / 4 - yearOfEra doe / 100).toNat =
      365 * (yearOfEra doe).toNat + (yearOfEra doe).toNat / 4 - (yearOfEra doe).toNat / 100 := by
    rw [UInt32.toNat_sub, UInt32.toNat_add, h365, h4, h100]
    omega
  rw [← hyear] at hzero hlast ⊢
  unfold Calendar.daysBeforeYearOfEra at *
  rw [dayOfYear, UInt32.toNat_sub, hbefore]
  omega

theorem toNat_dayOfYear' (h : doe.toNat < 146097) :
    ((dayOfYear doe).toNat : Int) =
      doe.toNat - Calendar.daysBeforeYearOfEra (yearOfEra doe).toNat := by
  rw [toNat_dayOfYear h, toNat_yearOfEra h]

theorem toNat_marchMonth (h : doe.toNat < 146097) :
    ((marchMonth doe).toNat : Int) = Calendar.monthOfYear (dayOfYear doe).toNat := by
  have hday := toNat_dayOfYear h
  obtain ⟨-, -, hzero, hlast⟩ := @Calendar.yearOfEra_mem doe.toNat (by omega)
  have h5 : (5 : UInt32).toNat = 5 := rfl
  have h2 : (2 : UInt32).toNat = 2 := rfl
  have h153 : (153 : UInt32).toNat = 153 := rfl
  rw [marchMonth, UInt32.toNat_div, UInt32.toNat_add, UInt32.toNat_mul, h5, h2, h153,
    Calendar.monthOfYear]
  omega

/-- `month`, as it is cast. -/
def monthOfMarch (mp : UInt32) : UInt32 := (mp.toInt32 + if mp < 10 then 3 else -9).toUInt32

theorem toNat_monthOfMarch {mp : UInt32} (h : mp.toNat < 12) :
    ((monthOfMarch mp).toNat : Int) =
      if (mp.toNat : Int) < 10 then (mp.toNat : Int) + 3 else (mp.toNat : Int) - 9 := by
  obtain ⟨k, hk, rfl⟩ : ∃ k, k < 12 ∧ mp = UInt32.ofNat k :=
    ⟨mp.toNat, h, UInt32.ofNat_toNat.symm⟩
  interval_cases k <;> rfl

/-- `d`. -/
def dayOfMonth (doe : UInt32) : UInt32 := dayOfYear doe - (153 * marchMonth doe + 2) / 5 + 1

theorem toNat_dayOfMonth (h : doe.toNat < 146097) :
    ((dayOfMonth doe).toNat : Int) =
      (dayOfYear doe).toNat - Calendar.daysBeforeMonth (marchMonth doe).toNat + 1 := by
  have hmarch := toNat_marchMonth h
  have hday : (dayOfYear doe).toNat ≤ 365 := by
    have hday := toNat_dayOfYear h
    have hlast := (@Calendar.yearOfEra_mem doe.toNat (by omega)).2.2.2
    omega
  rw [Calendar.monthOfYear] at hmarch
  rw [dayOfMonth, Calendar.daysBeforeMonth]
  generalize marchMonth doe = mp at *
  generalize dayOfYear doe = doy at *
  have h2 : (2 : UInt32).toNat = 2 := rfl
  have h5 : (5 : UInt32).toNat = 5 := rfl
  have h153 : (153 : UInt32).toNat = 153 := rfl
  have hone : (1 : UInt32).toNat = 1 := rfl
  have hbefore : ((153 * mp + 2) / 5).toNat = (153 * mp.toNat + 2) / 5 := by
    rw [UInt32.toNat_div, UInt32.toNat_add, UInt32.toNat_mul, h2, h5, h153]
    omega
  have hle : (153 * mp.toNat + 2) / 5 ≤ doy.toNat := by omega
  rw [UInt32.toNat_add, UInt32.toNat_sub, hbefore, hone]
  clear hmarch hbefore h
  omega

/-- `y`, before the correction for January and February. -/
def marchYear (doe : UInt32) (era : Int64) : Int64 := (yearOfEra doe).toUInt64.toInt64 + era * 400

theorem toInt_marchYear {era : Int64} (h : doe.toNat < 146097)
    (hera : 0 ≤ era.toInt ∧ era.toInt < 2 ^ 31) :
    (marchYear doe era).toInt = (yearOfEra doe).toNat + era.toInt * 400 := by
  have hyear : (yearOfEra doe).toNat < 400 := by
    have hyear := toNat_yearOfEra h
    have hlast := (@Calendar.yearOfEra_mem doe.toNat (by omega)).2.1
    omega
  have hwide : (yearOfEra doe).toUInt64.toNat = (yearOfEra doe).toNat := UInt32.toNat_toUInt64 _
  have hsigned : (yearOfEra doe).toUInt64.toInt64.toInt = (yearOfEra doe).toNat := by
    rw [toInt_toInt64_of_lt (by omega), hwide]
  have h400 : (400 : Int64).toInt = 400 := rfl
  have hproduct : (era * 400).toInt = era.toInt * 400 := by
    have hproduct := toInt_mul_of_mem (a := era) (b := 400)
    rw [h400] at hproduct
    exact hproduct (by omega) (by omega)
  rw [marchYear, toInt_add_of_mem (by omega) (by omega), hsigned, hproduct]

theorem toInt_year {era : Int64} (h : doe.toNat < 146097)
    (hera : 0 ≤ era.toInt ∧ era.toInt < 2 ^ 31) (p : Prop) [Decidable p] :
    (marchYear doe era + if p then 1 else 0).toInt =
      (yearOfEra doe).toNat + era.toInt * 400 + if p then 1 else 0 := by
  have hyear := toInt_marchYear h hera
  have hsmall : (yearOfEra doe).toNat < 2 ^ 32 := (yearOfEra doe).toNat_lt
  rw [toInt_add_one_if p (by omega) (by omega), hyear]

end Days

/-- `civil_from_days` finds the date of a day, where its arithmetic has room. -/
theorem civilFromDays_eq {z : Int64} (h : -719468 ≤ z.toInt) (h' : z.toInt < 2 ^ 31) :
    (civilFromDays z).1.toInt = (Calendar.date z.toInt).year ∧
      ((civilFromDays z).2.1.toNat : Int) = (Calendar.date z.toInt).month ∧
        ((civilFromDays z).2.2.toNat : Int) = (Calendar.date z.toInt).day := by
  have hoffset : (719468 : Int64).toInt = 719468 := rfl
  have hlength : (146097 : Int64).toInt = 146097 := rfl
  have hzero : (0 : Int64).toInt = 0 := rfl
  have hshift : (z + 719468).toInt = z.toInt + 719468 := toInt_add_of_mem (by omega) (by omega)
  have hera : ((z + 719468) / 146097).toInt = (z.toInt + 719468) / 146097 := by
    rw [toInt_div_of_nonneg (by omega) (by decide), hshift, hlength]
  have hpositive : 0 ≤ z + 719468 := by
    rw [Int64.le_iff_toInt_le, hshift, hzero]
    omega
  obtain ⟨doe, hdoe⟩ : ∃ doe : UInt32, doe =
      (z + 719468 - (z + 719468) / 146097 * 146097).toUInt64.toUInt32 := ⟨_, rfl⟩
  have hdays : (doe.toNat : Int) = (z.toInt + 719468) % 146097 := by
    have hmul : ((z + 719468) / 146097 * 146097).toInt =
        (z.toInt + 719468) / 146097 * 146097 := by
      have hproduct := toInt_mul_of_mem (a := (z + 719468) / 146097) (b := 146097)
      rw [hera, hlength] at hproduct
      exact hproduct (by omega) (by omega)
    have hsub : (z + 719468 - (z + 719468) / 146097 * 146097).toInt =
        (z.toInt + 719468) % 146097 := by
      rw [toInt_sub_of_mem (by omega) (by omega)]
      omega
    have hunsigned := toNat_toUInt64_of_nonneg (a := z + 719468 - (z + 719468) / 146097 * 146097)
      (by omega)
    rw [hdoe, UInt64.toNat_toUInt32]
    omega
  have hcivil : civilFromDays z =
      (marchYear doe ((z + 719468) / 146097) +
          (if monthOfMarch (marchMonth doe) ≤ 2 then 1 else 0),
        monthOfMarch (marchMonth doe), dayOfMonth doe) := by
    unfold civilFromDays
    dsimp only
    rw [if_pos hpositive, ← hdoe]
    rfl
  have hrange : doe.toNat < 146097 := by omega
  have hmarch := toNat_marchMonth hrange
  have hmarchLe : (marchMonth doe).toNat < 12 := by
    have hday := toNat_dayOfYear hrange
    have hlast := (@Calendar.yearOfEra_mem doe.toNat (by omega)).2.2.2
    rw [Calendar.monthOfYear] at hmarch
    omega
  rw [hcivil, ← Calendar.ofNumber_eq_date]
  dsimp only [Calendar.ofNumber]
  rw [← hdays, ← toNat_yearOfEra hrange, ← toNat_dayOfYear' hrange, ← hmarch,
    ← toNat_monthOfMarch hmarchLe, toNat_dayOfMonth hrange]
  refine ⟨?_, rfl, rfl⟩
  have htwo : monthOfMarch (marchMonth doe) ≤ 2 ↔
      ((monthOfMarch (marchMonth doe)).toNat : Int) ≤ 2 := by
    have h2 : (2 : UInt32).toNat = 2 := rfl
    rw [UInt32.le_iff_toNat_le, h2]
    exact (Nat.cast_le_ofNat (α := Int)).symm
  rw [toInt_year hrange (by omega), hera, if_congr htwo rfl rfl]

/-! ## Fields -/

/-- The widths of the fields of a rendered timestamp, and the marks after them. -/
def timestampShape : List (Nat × UInt8) :=
  [(4, 45), (2, 45), (2, 84), (2, 58), (2, 58), (2, 46), (3, 90)]

/-- The fields of an instant in milliseconds: the date, the time of day, and the milliseconds. -/
def timestampValues (millis : Int) : List Nat :=
  let date := Calendar.date (millis / 86400000)
  [date.year.toNat, date.month.toNat, date.day.toNat, (millis % 86400000 / 3600000).toNat,
    (millis % 3600000 / 60000).toNat, (millis % 60000 / 1000).toNat, (millis % 1000).toNat]

/-- The instants of the 64-bit range, in milliseconds. -/
def InRange (millis : Int) : Prop := -2 ^ 63 / 1000000 ≤ millis ∧ millis ≤ 2 ^ 63 / 1000000

theorem inRange_nanos (nanos : Int64) : InRange (nanos.toInt / 1000000) := by
  have hlow := nanos.le_toInt
  have hhigh := nanos.toInt_lt
  unfold InRange
  omega

/-- The years of the range have four digits. -/
theorem year_mem {millis : Int} (h : InRange millis) :
    1677 ≤ (Calendar.date (millis / 86400000)).year ∧
      (Calendar.date (millis / 86400000)).year ≤ 2262 := by
  have hfirst : Calendar.date (-106752) = ⟨1677, 9, 21⟩ := by
    rw [← Calendar.ofNumber_eq_date]
    rfl
  have hlast : Calendar.date 106752 = ⟨2262, 4, 12⟩ := by
    rw [← Calendar.ofNumber_eq_date]
    rfl
  unfold InRange at h
  have hlow := Calendar.year_le_of_le (by omega : -106752 ≤ millis / 86400000)
  have hhigh := Calendar.year_le_of_le (by omega : millis / 86400000 ≤ 106752)
  rw [hfirst] at hlow
  rw [hlast] at hhigh
  exact ⟨hlow, hhigh⟩

theorem fits_timestampValues {millis : Int} (h : InRange millis) :
    Text.Fits timestampShape (timestampValues millis) := by
  obtain ⟨hyear, hyear'⟩ := year_mem h
  obtain ⟨hmonth, hmonth', hday, hday'⟩ := Calendar.valid_date (millis / 86400000)
  have hlength : Calendar.daysInMonth (Calendar.date (millis / 86400000)).year
      (Calendar.date (millis / 86400000)).month ≤ 31 := Calendar.daysInMonth_le _ _
  simp only [timestampShape, timestampValues, Text.Fits, and_true]
  omega

/-- Later instants have greater fields. -/
theorem timestampValues_lt {s t : Int} (hs : InRange s) (ht : InRange t) (h : s < t) :
    timestampValues s < timestampValues t := by
  have hyears := year_mem hs
  have hyeart := year_mem ht
  have hvalids := Calendar.valid_date (s / 86400000)
  have hvalidt := Calendar.valid_date (t / 86400000)
  unfold Calendar.Date.Valid at hvalids hvalidt
  simp only [timestampValues, List.cons_lt_cons_iff]
  by_cases hday : s / 86400000 = t / 86400000
  · -- the time of day decides
    rw [hday]
    simp only [lt_irrefl, true_and, false_or, and_false, or_false]
    clear hyears hyeart hvalids hvalidt hs ht
    by_cases hhour : s % 86400000 / 3600000 = t % 86400000 / 3600000
    · refine .inr ⟨by omega, ?_⟩
      by_cases hminute : s % 3600000 / 60000 = t % 3600000 / 60000
      · refine .inr ⟨by omega, ?_⟩
        by_cases hsecond : s % 60000 / 1000 = t % 60000 / 1000
        · exact .inr ⟨by omega, by omega⟩
        · exact .inl (by omega)
      · exact .inl (by omega)
    · exact .inl (by omega)
  · have hbefore := Calendar.date_before (by omega : s / 86400000 < t / 86400000)
    rcases hbefore with hyear | ⟨hyear, hmonth | ⟨hmonth, hday⟩⟩
    · exact .inl (by omega)
    · exact .inr ⟨by omega, .inl (by omega)⟩
    · exact .inr ⟨by omega, .inr ⟨by omega, .inl (by omega)⟩⟩

/-! ## Texts -/

/-- The date of a rendered timestamp. -/
def dateText (date : Calendar.Date) : Text :=
  Text.pad date.year.toNat 4 ++ Text.ofString "-" ++ Text.pad date.month.toNat 2 ++
    Text.ofString "-" ++ Text.pad date.day.toNat 2

/-- The time of day that `format_timestamp` computes from a number of seconds and a fraction. -/
theorem toNat_timeOfDay {rem fraction : Int64} (hrem : 0 ≤ rem.toInt) (hfraction : 0 ≤ fraction.toInt) :
    (rem / 3600).toUInt64.toNat = (rem.toInt / 3600).toNat ∧
      (rem % 3600 / 60).toUInt64.toNat = (rem.toInt % 3600 / 60).toNat ∧
        (rem % 60).toUInt64.toNat = (rem.toInt % 60).toNat ∧
          (fraction / 1000000).toUInt64.toNat = (fraction.toInt / 1000000).toNat := by
  have h60 : (60 : Int64).toInt = 60 := rfl
  have h3600 : (3600 : Int64).toInt = 3600 := rfl
  have hmillion : (1000000 : Int64).toInt = 1000000 := rfl
  have hhours := toInt_div_of_nonneg (b := 3600) hrem (by decide)
  have hminutes := toInt_mod_of_nonneg (b := 3600) hrem
  have hseconds := toInt_mod_of_nonneg (b := 60) hrem
  have hmillis := toInt_div_of_nonneg (b := 1000000) hfraction (by decide)
  rw [h3600] at hhours hminutes
  rw [h60] at hseconds
  rw [hmillion] at hmillis
  have hsixty := toInt_div_of_nonneg (a := rem % 3600) (b := 60) (by omega) (by decide)
  rw [h60, hminutes] at hsixty
  refine ⟨?_, ?_, ?_, ?_⟩
  · have h := toNat_toUInt64_of_nonneg (a := rem / 3600) (by omega)
    omega
  · have h := toNat_toUInt64_of_nonneg (a := rem % 3600 / 60) (by omega)
    omega
  · have h := toNat_toUInt64_of_nonneg (a := rem % 60) (by omega)
    omega
  · have h := toNat_toUInt64_of_nonneg (a := fraction / 1000000) (by omega)
    omega

/-- The fields of the rendered date, with the time of day after them. -/
theorem fields_timestampValues (millis : Int) :
    Text.fields timestampShape (timestampValues millis) =
      dateText (Calendar.date (millis / 86400000)) ++ 84 ::
        Text.fields [(2, 58), (2, 58), (2, 46), (3, 90)]
          [(millis % 86400000 / 3600000).toNat, (millis % 3600000 / 60000).toNat,
            (millis % 60000 / 1000).toNat, (millis % 1000).toNat] := by
  have hdash : Text.ofString "-" = [45] := by decide +kernel
  simp only [timestampShape, timestampValues, dateText, Text.fields, hdash, List.append_assoc,
    List.cons_append, List.nil_append]

/-- A timestamp other than zero is rendered as the fields of its instant. -/
theorem formatTimestamp_eq {nanos : Int64} (h : nanos ≠ 0) :
    formatTimestamp nanos = Text.fields timestampShape (timestampValues (nanos.toInt / 1000000)) := by
  have hlow := nanos.le_toInt
  have hhigh := nanos.toInt_lt
  obtain ⟨hseconds, hfraction⟩ :=
    @toInt_floorDivide nanos 1000000000 (by decide)
  obtain ⟨hdays, hrem⟩ := @toInt_floorDivide
    (floorDivide nanos 1000000000).1 86400 (by decide)
  have hsecond : (1000000000 : Int64).toInt = 1000000000 := rfl
  have hday : (86400 : Int64).toInt = 86400 := rfl
  have hyear := year_mem (inRange_nanos nanos)
  rw [formatTimestamp, if_neg h]
  dsimp only
  generalize (floorDivide nanos 1000000000).1 = seconds at *
  generalize (floorDivide nanos 1000000000).2 = fraction at *
  generalize (floorDivide seconds 86400).1 = days at *
  generalize (floorDivide seconds 86400).2 = rem at *
  rw [hsecond] at hseconds hfraction
  rw [hday] at hdays hrem
  have hnumber : days.toInt = nanos.toInt / 1000000 / 86400000 := by
    clear hyear
    omega
  obtain ⟨hcivilYear, hcivilMonth, hcivilDay⟩ :=
    civilFromDays_eq (z := days) (by omega) (by omega)
  obtain ⟨hhours, hminutes, hsecs, hmillis⟩ :=
    @toNat_timeOfDay rem fraction (by omega) (by omega)
  rw [hnumber] at hcivilYear hcivilMonth hcivilDay
  have hdate : Text.pad (civilFromDays days).1.toUInt64.toNat 4 ++ Text.ofString "-" ++
      Text.pad (civilFromDays days).2.1.toNat 2 ++ Text.ofString "-" ++
        Text.pad (civilFromDays days).2.2.toNat 2 =
      dateText (Calendar.date (nanos.toInt / 1000000 / 86400000)) := by
    have hnonneg : 0 ≤ (civilFromDays days).1.toInt := by
      rw [hcivilYear]
      exact le_trans (by decide) hyear.1
    have hunsigned := toNat_toUInt64_of_nonneg hnonneg
    rw [dateText, ← hcivilYear, ← hcivilMonth, ← hcivilDay, ← hunsigned, Int.toNat_natCast,
      Int.toNat_natCast, Int.toNat_natCast]
  have hhour : rem.toInt / 3600 = nanos.toInt / 1000000 % 86400000 / 3600000 := by omega
  have hminute : rem.toInt % 3600 / 60 = nanos.toInt / 1000000 % 3600000 / 60000 := by omega
  have hsec : rem.toInt % 60 = nanos.toInt / 1000000 % 60000 / 1000 := by omega
  have hmilli : fraction.toInt / 1000000 = nanos.toInt / 1000000 % 1000 := by omega
  have hmarkT : Text.ofString "T" = [84] := by decide +kernel
  have hmarkColon : Text.ofString ":" = [58] := by decide +kernel
  have hmarkDot : Text.ofString "." = [46] := by decide +kernel
  have hmarkZ : Text.ofString "Z" = [90] := by decide +kernel
  rw [fields_timestampValues, hdate, hhours, hminutes, hsecs, hmillis, hhour, hminute, hsec, hmilli,
    hmarkT, hmarkColon, hmarkDot, hmarkZ]
  simp only [Text.fields, List.append_assoc, List.cons_append, List.nil_append]

theorem length_dateText {millis : Int} (h : InRange millis) :
    (dateText (Calendar.date (millis / 86400000))).length = 10 := by
  obtain ⟨hyear, hyear'⟩ := year_mem h
  obtain ⟨hmonth, hmonth', hday, hday'⟩ := Calendar.valid_date (millis / 86400000)
  have hlength := Calendar.daysInMonth_le (Calendar.date (millis / 86400000)).year
    (Calendar.date (millis / 86400000)).month
  have hdash : (Text.ofString "-").length = 1 := by decide +kernel
  simp only [dateText, List.length_append, hdash]
  rw [Text.length_pad (by decide) (by omega), Text.length_pad (by decide) (by omega),
    Text.length_pad (by decide) (by omega)]

theorem take_formatTimestamp {nanos : Int64} (h : nanos ≠ 0) :
    (formatTimestamp nanos).take 10 =
      dateText (Calendar.date (nanos.toInt / 86400000000000)) := by
  have hday : nanos.toInt / 1000000 / 86400000 = nanos.toInt / 86400000000000 := by omega
  rw [formatTimestamp_eq h, fields_timestampValues,
    List.take_left' (length_dateText (inRange_nanos nanos)), hday]

theorem formatTimestamp_lt {a b : Int64} (ha : a ≠ 0) (hb : b ≠ 0)
    (h : a.toInt / 1000000 < b.toInt / 1000000) : formatTimestamp a < formatTimestamp b := by
  rw [formatTimestamp_eq ha, formatTimestamp_eq hb,
    Text.fields_lt_fields_iff (fits_timestampValues (inRange_nanos a))
      (fits_timestampValues (inRange_nanos b))]
  exact timestampValues_lt (inRange_nanos a) (inRange_nanos b) h

/-- Rendered timestamps are ordered like instants, are equal just where the milliseconds are, and
start with the date of the instant. -/
theorem formatTimestamp_order (a b : Int64) (ha : a ≠ 0) (hb : b ≠ 0) (h : a ≤ b) :
    formatTimestamp a ≤ formatTimestamp b ∧
      (formatTimestamp a = formatTimestamp b ↔ a.toInt / 1000000 = b.toInt / 1000000) ∧
      (formatTimestamp a).take 10 = dateText (Calendar.date (a.toInt / 86400000000000)) ∧
      (formatTimestamp b).take 10 = dateText (Calendar.date (b.toInt / 86400000000000)) := by
  have hle : a.toInt / 1000000 ≤ b.toInt / 1000000 :=
    Int.ediv_le_ediv (by decide) (Int64.le_iff_toInt_le.mp h)
  refine ⟨?_, ?_, take_formatTimestamp ha, take_formatTimestamp hb⟩
  · rcases hle.eq_or_lt with heq | hlt
    · rw [formatTimestamp_eq ha, formatTimestamp_eq hb, heq]
      exact List.le_refl _
    · exact List.le_of_lt (formatTimestamp_lt ha hb hlt)
  · constructor
    · intro htext
      by_contra hne
      have hlt := formatTimestamp_lt ha hb (lt_of_le_of_ne hle hne)
      rw [htext] at hlt
      exact List.lt_irrefl _ hlt
    · intro heq
      rw [formatTimestamp_eq ha, formatTimestamp_eq hb, heq]

theorem formatTimestamp_order_before_epoch :
    formatTimestamp (-1) ≤ formatTimestamp 1 ∧
      (formatTimestamp (-1) = formatTimestamp 1 ↔
        (-1 : Int64).toInt / 1000000 = (1 : Int64).toInt / 1000000) ∧
      (formatTimestamp (-1)).take 10 =
        dateText (Calendar.date ((-1 : Int64).toInt / 86400000000000)) ∧
      (formatTimestamp 1).take 10 = dateText (Calendar.date ((1 : Int64).toInt / 86400000000000)) :=
  formatTimestamp_order (-1) 1 (by decide) (by decide) (by decide)

end FederationObservatory
