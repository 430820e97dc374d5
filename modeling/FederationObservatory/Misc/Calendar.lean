import Mathlib

/-!
# The proleptic Gregorian calendar

Dates as years, months and days, the day after a date and the day before it, and from these the date
of every day counted from 1970-01-01. Later days have later dates. A date is found from its day
number by arithmetic on years that start in March, so that the leap day is the last of its year.
-/

namespace Calendar

/-! ## Dates -/

/-- A date of the calendar. -/
@[ext] structure Date where
  year : Int
  month : Int
  day : Int
  deriving DecidableEq, Repr

/-- Every fourth year has a leap day, of the full centuries every fourth. -/
def isLeap (year : Int) : Bool := year % 4 = 0 && (year % 100 != 0 || year % 400 = 0)

def daysInMonth (year month : Int) : Int :=
  if month = 2 then if isLeap year then 29 else 28
  else if month = 4 ∨ month = 6 ∨ month = 9 ∨ month = 11 then 30
  else 31

/-- A date that the calendar has. -/
def Date.Valid (date : Date) : Prop :=
  1 ≤ date.month ∧ date.month ≤ 12 ∧ 1 ≤ date.day ∧ date.day ≤ daysInMonth date.year date.month

instance (date : Date) : Decidable date.Valid := inferInstanceAs (Decidable (_ ∧ _))

/-- The day after. -/
def Date.next (date : Date) : Date :=
  if date.day < daysInMonth date.year date.month then { date with day := date.day + 1 }
  else if date.month < 12 then { date with month := date.month + 1, day := 1 }
  else { year := date.year + 1, month := 1, day := 1 }

/-- The day before. -/
def Date.prev (date : Date) : Date :=
  if 1 < date.day then { date with day := date.day - 1 }
  else if 1 < date.month then
    { date with month := date.month - 1, day := daysInMonth date.year (date.month - 1) }
  else { year := date.year - 1, month := 12, day := 31 }

/-- The first day of 1970. -/
def epoch : Date := ⟨1970, 1, 1⟩

/-- The date of a day, counted from 1970-01-01. -/
def date : Int → Date
  | .ofNat n => Date.next^[n] epoch
  | .negSucc n => Date.prev^[n + 1] epoch

/-- Dates are compared by years, then by months, then by days. -/
def Date.Before (a b : Date) : Prop :=
  a.year < b.year ∨ a.year = b.year ∧ (a.month < b.month ∨ a.month = b.month ∧ a.day < b.day)

theorem daysInMonth_pos (year month : Int) : 28 ≤ daysInMonth year month := by
  unfold daysInMonth
  split
  · split <;> decide
  · split <;> decide

theorem daysInMonth_le (year month : Int) : daysInMonth year month ≤ 31 := by
  unfold daysInMonth
  split
  · split <;> decide
  · split <;> decide

theorem daysInMonth_january (year : Int) : daysInMonth year 1 = 31 := rfl

theorem daysInMonth_december (year : Int) : daysInMonth year 12 = 31 := rfl

theorem Date.valid_next {date : Date} (h : date.Valid) : date.next.Valid := by
  obtain ⟨hmonth, hmonth', hday, hday'⟩ := h
  unfold next
  split
  · exact ⟨hmonth, hmonth', by dsimp only; omega, by dsimp only; omega⟩
  · split
    · have hlength := daysInMonth_pos date.year (date.month + 1)
      exact ⟨by dsimp only; omega, by dsimp only; omega, le_rfl, by dsimp only; omega⟩
    · have hlength := daysInMonth_january (date.year + 1)
      exact ⟨le_rfl, by dsimp only; omega, le_rfl, by dsimp only; omega⟩

theorem Date.valid_prev {date : Date} (h : date.Valid) : date.prev.Valid := by
  obtain ⟨hmonth, hmonth', hday, hday'⟩ := h
  unfold prev
  split
  · exact ⟨hmonth, hmonth', by dsimp only; omega, by dsimp only; omega⟩
  · split
    · have hlength := daysInMonth_pos date.year (date.month - 1)
      exact ⟨by dsimp only; omega, by dsimp only; omega, by dsimp only; omega, le_rfl⟩
    · have hlength := daysInMonth_december (date.year - 1)
      exact ⟨by dsimp only; omega, le_rfl, by dsimp only; omega, by dsimp only; omega⟩

theorem Date.next_prev {date : Date} (h : date.Valid) : date.prev.next = date := by
  obtain ⟨hmonth, hmonth', hday, hday'⟩ := h
  unfold prev
  split
  · rw [next, if_pos (by dsimp only; omega)]
    simp
  · have hfirst : date.day = 1 := by omega
    split
    · rw [next, if_neg (by dsimp only; omega), if_pos (by dsimp only; omega)]
      ext <;> simp [hfirst]
    · have hjanuary : date.month = 1 := by omega
      have hlength := daysInMonth_december (date.year - 1)
      rw [next, if_neg (by dsimp only; omega), if_neg (by dsimp only; omega)]
      ext <;> simp [hfirst, hjanuary]

theorem Date.before_next (date : Date) : date.Before date.next := by
  unfold next Before
  split
  · exact .inr ⟨rfl, .inr ⟨rfl, by dsimp only; omega⟩⟩
  · split
    · exact .inr ⟨rfl, .inl (by dsimp only; omega)⟩
    · exact .inl (by dsimp only; omega)

theorem Date.before_trans {a b c : Date} (hab : a.Before b) (hbc : b.Before c) : a.Before c := by
  unfold Before at *
  omega

/-! ## Day numbers -/

theorem valid_epoch : epoch.Valid := by decide

theorem valid_date (z : Int) : (date z).Valid := by
  have hiterate : ∀ (f : Date → Date) (n : Nat), (∀ d : Date, d.Valid → (f d).Valid) →
      (f^[n] epoch).Valid := by
    intro f n hf
    induction n with
    | zero => exact valid_epoch
    | succ n ih =>
      rw [Function.iterate_succ_apply']
      exact hf _ ih
  cases z with
  | ofNat n => exact hiterate Date.next n fun _ => Date.valid_next
  | negSucc n => exact hiterate Date.prev (n + 1) fun _ => Date.valid_prev

/-- The next day has the next date. -/
theorem date_succ (z : Int) : date (z + 1) = (date z).next := by
  cases z with
  | ofNat n => exact Function.iterate_succ_apply' Date.next n epoch
  | negSucc n =>
    have hprev : date (Int.negSucc n) = (Date.prev^[n] epoch).prev :=
      Function.iterate_succ_apply' Date.prev n epoch
    have hvalid : (Date.prev^[n] epoch).Valid := by
      cases n with
      | zero => exact valid_epoch
      | succ n => exact valid_date (Int.negSucc n)
    rw [hprev, Date.next_prev hvalid]
    cases n with
    | zero => rfl
    | succ n => rfl

/-- Later days have later dates. -/
theorem date_before {z w : Int} (h : z < w) : (date z).Before (date w) := by
  obtain ⟨n, rfl⟩ : ∃ n : Nat, w = z + 1 + n := ⟨(w - z - 1).toNat, by omega⟩
  clear h
  induction n with
  | zero =>
    have hone : z + 1 + (0 : Nat) = z + 1 := by omega
    rw [hone, date_succ]
    exact Date.before_next _
  | succ n ih =>
    have hstep : z + 1 + ((n + 1 : Nat) : Int) = z + 1 + (n : Int) + 1 := by omega
    rw [hstep, date_succ]
    exact Date.before_trans ih (Date.before_next _)

/-! ## Years from March -/

/-- The days before a year, where a year starts in March. -/
def daysBefore (year : Int) : Int := 365 * year + year / 4 - year / 100 + year / 400

/-- The year of a date, where a year starts in March. -/
def Date.marchYear (date : Date) : Int := if date.month ≤ 2 then date.year - 1 else date.year

/-- The month of a date, from zero for March. -/
def Date.marchMonth (date : Date) : Int :=
  if date.month ≤ 2 then date.month + 9 else date.month - 3

/-- The days of a year before a month, from zero for March. -/
def daysBeforeMonth (month : Int) : Int := (153 * month + 2) / 5

/-- The days of a year, where it starts in March, before a date. -/
def Date.dayOfYear (date : Date) : Int := daysBeforeMonth date.marchMonth + date.day - 1

/-- The number of a date, counted from 1970-01-01. -/
def Date.number (date : Date) : Int := daysBefore date.marchYear + date.dayOfYear - 719468

/-- The year that ends before March has a leap day at its end. -/
theorem daysBefore_succ (year : Int) :
    daysBefore year = daysBefore (year - 1) + 365 + if isLeap year then 1 else 0 := by
  unfold daysBefore isLeap
  by_cases h4 : year % 4 = 0
  · by_cases h100 : year % 100 = 0
    · by_cases h400 : year % 400 = 0
      · simp [h4, h100, h400]
        omega
      · simp [h4, h100, h400]
        omega
    · simp [h4, h100]
      omega
  · simp [h4]
    omega

/-- The months from March on have the lengths of the calendar, but for the last one. -/
theorem daysBeforeMonth_succ {month : Int} (hmarch : 3 ≤ month) (hmonth : month ≤ 12) (year : Int) :
    daysBeforeMonth (month - 3 + 1) = daysBeforeMonth (month - 3) + daysInMonth year month := by
  interval_cases month <;> rfl

theorem Date.number_next {date : Date} (h : date.Valid) : date.next.number = date.number + 1 := by
  obtain ⟨hmonth, hmonth', hday, hday'⟩ := h
  unfold next
  split
  · simp only [number, dayOfYear, marchYear, marchMonth]
    omega
  · have hlast : date.day = daysInMonth date.year date.month := by omega
    simp only [number, dayOfYear, marchYear, marchMonth]
    split
    · rcases (by omega : date.month = 1 ∨ date.month = 2 ∨ 3 ≤ date.month) with
        hjanuary | hfebruary | hmarch
      · rw [hlast, hjanuary, daysInMonth_january]
        simp [daysBeforeMonth]
        omega
      · -- the leap day ends the year
        have hleap := daysBefore_succ date.year
        rw [hlast, hfebruary]
        simp only [daysInMonth, daysBeforeMonth]
        split at hleap <;> simp_all <;> omega
      · have hlength := daysBeforeMonth_succ hmarch hmonth' date.year
        dsimp only
        rw [if_neg (by omega), if_neg (by omega), if_neg (by omega), if_neg (by omega), hlast]
        have hshift : date.month + 1 - 3 = date.month - 3 + 1 := by omega
        rw [hshift, hlength]
        omega
    · have hdecember : date.month = 12 := by omega
      rw [hlast, hdecember, daysInMonth_december]
      simp [daysBeforeMonth]
      omega

theorem Date.number_prev {date : Date} (h : date.Valid) : date.prev.number = date.number - 1 := by
  have hnext := Date.number_next (Date.valid_prev h)
  rw [Date.next_prev h] at hnext
  omega

/-- The date of a day has the number of the day. -/
theorem number_date (z : Int) : (date z).number = z := by
  cases z with
  | ofNat n =>
    induction n with
    | zero => rfl
    | succ n ih =>
      have hsucc : date (Int.ofNat (n + 1)) = (date (Int.ofNat n)).next := date_succ (Int.ofNat n)
      rw [hsucc, Date.number_next (valid_date _), ih]
      rfl
  | negSucc n =>
    induction n with
    | zero => rfl
    | succ n ih =>
      have hprev : date (Int.negSucc (n + 1)) = (date (Int.negSucc n)).prev :=
        Function.iterate_succ_apply' Date.prev (n + 1) epoch
      rw [hprev, Date.number_prev (valid_date _), ih]
      rfl

/-! ## From numbers to dates -/

/-- The year of a day of an era, which are 400 years. -/
def yearOfEra (day : Int) : Int := (day - day / 1460 + day / 36524 - day / 146096) / 365

/-- The days of an era before a year of it. -/
def daysBeforeYearOfEra (year : Int) : Int := 365 * year + year / 4 - year / 100

/-- The month of a day of a year that starts in March. -/
def monthOfYear (day : Int) : Int := (5 * day + 2) / 153

/-- The date with a number. -/
def ofNumber (z : Int) : Date :=
  let era := (z + 719468) / 146097
  let dayOfEra := (z + 719468) % 146097
  let year := yearOfEra dayOfEra
  let dayOfYear := dayOfEra - daysBeforeYearOfEra year
  let marchMonth := monthOfYear dayOfYear
  let day := dayOfYear - daysBeforeMonth marchMonth + 1
  let month := if marchMonth < 10 then marchMonth + 3 else marchMonth - 9
  ⟨year + era * 400 + if month ≤ 2 then 1 else 0, month, day⟩

/-- A year is found from any of its days, in centuries, in spans of four years, and in years. -/
theorem yearOfEra_eq (century four one dayOfYear : Int) {day : Int} (hcentury : 0 ≤ century ∧ century ≤ 3)
    (hfour : 0 ≤ four ∧ four ≤ 24) (hone : 0 ≤ one ∧ one ≤ 3)
    (hdayOfYear : 0 ≤ dayOfYear ∧ dayOfYear ≤ 365)
    (hleap : dayOfYear = 365 → one = 3 ∧ (four < 24 ∨ century = 3))
    (hday : day = 36524 * century + 1461 * four + 365 * one + dayOfYear) :
    yearOfEra day = 100 * century + 4 * four + one := by
  -- whether the day is late enough in the four years for one leap day more
  have hspans : day / 1460 = 25 * century + four +
      if 1460 ≤ 24 * century + four + 365 * one + dayOfYear then 1 else 0 := by
    split <;> omega
  have hcenturies : day / 36524 - day / 146096 = century := by
    by_cases hlast : 1461 * four + 365 * one + dayOfYear = 36524
    · -- the last day of the era
      obtain rfl : century = 3 := by omega
      obtain rfl : day = 146096 := by omega
      rfl
    · have hcentury : day / 36524 = century := by omega
      have hera : day / 146096 = 0 := by omega
      omega
  unfold yearOfEra
  split at hspans <;> omega

theorem monthOfYear_eq {month day : Int}
    (hday : 0 ≤ day ∧ day < daysBeforeMonth (month + 1) - daysBeforeMonth month) :
    monthOfYear (daysBeforeMonth month + day) = month := by
  unfold monthOfYear daysBeforeMonth at *
  omega

theorem daysBefore_eq (year : Int) :
    daysBefore year = 146097 * (year / 400) +
      (365 * (year % 400) + year % 400 / 4 - year % 400 / 100) := by
  unfold daysBefore
  omega

section Valid

variable {d : Date}

/-- The days of a date lie before the next month and in a year, of which only a leap year has day
365. -/
theorem Date.dayOfYear_mem (h : d.Valid) :
    d.day ≤ daysBeforeMonth (d.marchMonth + 1) - daysBeforeMonth d.marchMonth ∧
      0 ≤ d.dayOfYear ∧ d.dayOfYear ≤ 365 ∧
      (d.dayOfYear = 365 → isLeap (d.marchYear + 1) = true) := by
  obtain ⟨hmonth, hmonth', hday, hday'⟩ := h
  unfold dayOfYear marchMonth marchYear
  rcases (by omega : d.month = 1 ∨ d.month = 2 ∨ 3 ≤ d.month) with hjanuary | hfebruary | hmarch
  · rw [hjanuary, daysInMonth_january] at hday'
    rw [if_pos (by omega), if_pos (by omega), hjanuary]
    unfold daysBeforeMonth
    omega
  · rw [hfebruary] at hday'
    rw [if_pos (by omega), if_pos (by omega), hfebruary, Int.sub_add_cancel]
    unfold daysBeforeMonth
    by_cases hleap : isLeap d.year = true
    · have hlength : daysInMonth d.year 2 = 29 := by simp [daysInMonth, hleap]
      exact ⟨by omega, by omega, by omega, fun _ => hleap⟩
    · have hlength : daysInMonth d.year 2 = 28 := by simp [daysInMonth, hleap]
      exact ⟨by omega, by omega, by omega, fun h => absurd h (by omega)⟩
  · have hlength := daysBeforeMonth_succ hmarch hmonth' d.year
    rw [if_neg (by omega), if_neg (by omega)]
    have hbefore : daysBeforeMonth (d.month - 3 + 1) ≤ 306 := by
      unfold daysBeforeMonth
      omega
    have hzero : 0 ≤ daysBeforeMonth (d.month - 3) := by
      unfold daysBeforeMonth
      omega
    exact ⟨by omega, by omega, by omega, fun h => absurd h (by omega)⟩

/-- The last year of a span of four years, but not of a century, or of an era. -/
theorem isLeap_succ {year : Int} (h : isLeap (year + 1) = true) :
    year % 400 % 4 = 3 ∧ (year % 400 % 100 / 4 < 24 ∨ year % 400 / 100 = 3) := by
  simp only [isLeap, Bool.and_eq_true, Bool.or_eq_true, decide_eq_true_eq, bne_iff_ne, ne_eq] at h
  omega

/-- A date in its era, in its year of the era, and in that year. -/
theorem era_number (h : d.Valid) :
    (d.number + 719468) / 146097 = d.marchYear / 400 ∧
      yearOfEra ((d.number + 719468) % 146097) = d.marchYear % 400 ∧
        (d.number + 719468) % 146097 - daysBeforeYearOfEra (d.marchYear % 400) = d.dayOfYear := by
  obtain ⟨-, hzero, hlast, hleap⟩ := Date.dayOfYear_mem h
  have hyear : d.number + 719468 = 146097 * (d.marchYear / 400) +
      (365 * (d.marchYear % 400) + d.marchYear % 400 / 4 - d.marchYear % 400 / 100 +
        d.dayOfYear) := by
    rw [Date.number, daysBefore_eq]
    omega
  have hdayOfEra : (d.number + 719468) % 146097 = 365 * (d.marchYear % 400) +
      d.marchYear % 400 / 4 - d.marchYear % 400 / 100 + d.dayOfYear := by omega
  refine ⟨by omega, ?_, ?_⟩
  · rw [yearOfEra_eq (d.marchYear % 400 / 100) (d.marchYear % 400 % 100 / 4)
      (d.marchYear % 400 % 4) d.dayOfYear (by omega) (by omega) (by omega) ⟨hzero, hlast⟩
      (fun hday => isLeap_succ (hleap hday)) (by omega)]
    omega
  · rw [hdayOfEra, daysBeforeYearOfEra]
    omega

/-- The arithmetic finds every date from its number. -/
theorem ofNumber_number (h : d.Valid) : ofNumber d.number = d := by
  obtain ⟨hera, hyear, hdayOfYear⟩ := era_number h
  obtain ⟨hlength, -⟩ := Date.dayOfYear_mem h
  have hday : d.dayOfYear = daysBeforeMonth d.marchMonth + (d.day - 1) := by
    rw [Date.dayOfYear]
    omega
  have hmonth : monthOfYear d.dayOfYear = d.marchMonth := by
    have hfirst := h.2.2.1
    rw [hday, monthOfYear_eq (by omega)]
  have hcalendar : (if d.marchMonth < 10 then d.marchMonth + 3 else d.marchMonth - 9) = d.month := by
    obtain ⟨hmonth, hmonth', -, -⟩ := h
    unfold Date.marchMonth
    split <;> split <;> omega
  simp only [ofNumber, hera, hyear, hdayOfYear, hmonth, hcalendar]
  ext
  · unfold Date.marchYear
    dsimp only
    split <;> omega
  · rfl
  · dsimp only
    omega

/-- The arithmetic finds the date of every day. -/
theorem ofNumber_eq_date (z : Int) : ofNumber z = date z := by
  have h := ofNumber_number (valid_date z)
  rw [number_date] at h
  exact h

/-- A day of an era lies in the year of the era that is found for it. -/
theorem yearOfEra_mem {day : Int} (h : 0 ≤ day ∧ day < 146097) :
    0 ≤ yearOfEra day ∧ yearOfEra day < 400 ∧
      0 ≤ day - daysBeforeYearOfEra (yearOfEra day) ∧
        day - daysBeforeYearOfEra (yearOfEra day) ≤ 365 := by
  have hvalid := valid_date (day - 719468)
  obtain ⟨-, hyear, hdayOfYear⟩ := era_number hvalid
  obtain ⟨-, hzero, hlast, -⟩ := Date.dayOfYear_mem hvalid
  have hday : (day - 719468 + 719468) % 146097 = day := by omega
  rw [number_date, hday] at hyear hdayOfYear
  rw [hyear]
  omega

end Valid

theorem year_le_of_le {z w : Int} (h : z ≤ w) : (date z).year ≤ (date w).year := by
  rcases h.eq_or_lt with rfl | hlt
  · exact le_rfl
  · rcases date_before hlt with hyear | hyear
    · exact hyear.le
    · exact hyear.1.le

end Calendar
