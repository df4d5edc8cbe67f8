/-!
# The calendar

Days are counted from 1 January 1970 in the proleptic Gregorian calendar,
which has a year zero and extends its leap-year rule without end in both
directions.

The conversion counts years from March, so that a leap day ends its year,
and works within eras of four hundred years, all of which have the same
number of days. `toDays_ofDays` says that no day is lost on the way, and
`isValid_ofDays` that no month is overrun.
-/

namespace CourierDispatch

/-- **A date.** -/
structure Date where
  /-- The year; the year before 1 is 0. -/
  year : Int
  /-- The month, from 1. -/
  month : Nat
  /-- The day of the month, from 1. -/
  day : Nat
  deriving DecidableEq, Repr

namespace Date

/-- The days of an era of four hundred years. -/
def eraDays : Nat := 146097

/-- The day of an era on which a year begins, counted from March. -/
def yearStart (yearOfEra : Nat) : Nat := 365 * yearOfEra + yearOfEra / 4 - yearOfEra / 100

/-- The day of the year on which a month begins, counted from March. -/
def monthStart (m : Nat) : Nat := (153 * m + 2) / 5

/-- The days between 1 March of year 0 and 1 January 1970. -/
def epochOffset : Int := 719468

/-- The year of an era in which a day of it lies: centuries of 36524 days, of
which the fourth has one more, within them spans of four years with 1461
days, and of these four years the last takes what 365 days leave. -/
def yearOfEra (dayOfEra : Nat) : Nat :=
  let century := min (dayOfEra / 36524) 3
  let dayOfCentury := dayOfEra - 36524 * century
  let quad := dayOfCentury / 1461
  let dayOfQuad := dayOfCentury - 1461 * quad
  100 * century + 4 * quad + min (dayOfQuad / 365) 3

/-- **The date of a day** counted from 1 January 1970. -/
def ofDays (days : Int) : Date :=
  let z := days + epochOffset
  let era := z / (eraDays : Int)
  let dayOfEra := (z % (eraDays : Int)).toNat
  let yearOfEra := yearOfEra dayOfEra
  let dayOfYear := dayOfEra - yearStart yearOfEra
  let m := (5 * dayOfYear + 2) / 153
  let month := if m < 10 then m + 3 else m - 9
  { year := era * 400 + yearOfEra + (if month ≤ 2 then 1 else 0)
    month := month
    day := dayOfYear - monthStart m + 1 }

/-- **The day of a date**, counted from 1 January 1970. -/
def toDays (d : Date) : Int :=
  let y := if d.month ≤ 2 then d.year - 1 else d.year
  let era := y / 400
  let yearOfEra := (y % 400).toNat
  let m := if 2 < d.month then d.month - 3 else d.month + 9
  era * (eraDays : Int) + (yearStart yearOfEra + monthStart m + (d.day - 1) : Nat) - epochOffset

/-- Every fourth year is a leap year, of the centuries every fourth. -/
def isLeapYear (y : Int) : Bool := y % 4 = 0 && (y % 100 ≠ 0 || y % 400 = 0)

/-- The number of days of a month. -/
def daysInMonth (y : Int) (m : Nat) : Nat :=
  if m = 2 then (if isLeapYear y then 29 else 28)
  else if m = 4 ∨ m = 6 ∨ m = 9 ∨ m = 11 then 30
  else 31

theorem daysInMonth_le (y : Int) (m : Nat) : daysInMonth y m ≤ 31 := by
  unfold daysInMonth
  split
  · split <;> decide
  · split <;> decide

/-- Whether there is such a date. -/
def isValid (d : Date) : Bool :=
  1 ≤ d.month && d.month ≤ 12 && 1 ≤ d.day && d.day ≤ daysInMonth d.year d.month

/-! ## No day is lost -/

/-- **The year of a day is found**: it begins no later than the day and has
at most 366 days. -/
theorem yearStart_yearOfEra {d : Nat} (h : d < eraDays) :
    yearOfEra d < 400 ∧ yearStart (yearOfEra d) ≤ d ∧ d ≤ yearStart (yearOfEra d) + 365 := by
  simp only [yearOfEra, eraDays] at *
  generalize hc : min (d / 36524) 3 = c
  generalize hq : (d - 36524 * c) / 1461 = q
  generalize hy : min ((d - 36524 * c - 1461 * q) / 365) 3 = y
  have c4 : c < 4 := by omega
  have q25 : q < 25 := by omega
  have y4 : y < 4 := by omega
  have quads : (100 * c + 4 * q + y) / 4 = 25 * c + q := by omega
  have centuries : (100 * c + 4 * q + y) / 100 = c := by omega
  unfold yearStart
  rw [quads, centuries]
  omega

/-- The date of a day has a month and a day of the month. -/
theorem month_ofDays (days : Int) : 1 ≤ (ofDays days).month ∧ (ofDays days).month ≤ 12 := by
  have hz : 0 ≤ (days + epochOffset) % (eraDays : Int) ∧
      (days + epochOffset) % (eraDays : Int) < eraDays := by
    unfold eraDays
    omega
  have hd : ((days + epochOffset) % (eraDays : Int)).toNat < eraDays := by omega
  obtain ⟨-, lo, hi⟩ := yearStart_yearOfEra hd
  simp only [ofDays]
  split <;> omega

/-- The day of a date that is given by its era, its year and month counted
from March, and its day. -/
theorem toDays_parts (era : Int) {y m : Nat} (day : Nat) (hy : y < 400) (hm : m < 12) :
    let month := if m < 10 then m + 3 else m - 9
    (Date.mk (era * 400 + y + (if month ≤ 2 then 1 else 0)) month (day + 1)).toDays =
      era * (eraDays : Int) + (yearStart y + monthStart m + day : Nat) - epochOffset := by
  have eraBack : (era * 400 + (y : Int)) / 400 = era := by omega
  have yearBack : ((era * 400 + (y : Int)) % 400).toNat = y := by omega
  by_cases h10 : m < 10
  · have a : ¬ m + 3 ≤ 2 := by omega
    have b : 2 < m + 3 := by omega
    simp only [toDays, if_pos h10, if_neg a, if_pos b, Int.add_zero, eraBack, yearBack,
      Nat.add_sub_cancel]
  · have a : m - 9 ≤ 2 := by omega
    have b : ¬ 2 < m - 9 := by omega
    have c : m - 9 + 9 = m := by omega
    have d : era * 400 + (y : Int) + 1 - 1 = era * 400 + y := by omega
    simp only [toDays, if_neg h10, if_pos a, if_neg b, d, eraBack, yearBack, c,
      Nat.add_sub_cancel]

/-- **No day is lost**: the date of a day has that day. -/
theorem toDays_ofDays (days : Int) : (ofDays days).toDays = days := by
  have hz : 0 ≤ (days + epochOffset) % (eraDays : Int) ∧
      (days + epochOffset) % (eraDays : Int) < (eraDays : Int) := by
    unfold eraDays
    omega
  have parts : (days + epochOffset) / (eraDays : Int) * (eraDays : Int) +
      (days + epochOffset) % (eraDays : Int) = days + epochOffset := by
    rw [Int.mul_comm]
    exact Int.mul_ediv_add_emod _ _
  have hd : ((days + epochOffset) % (eraDays : Int)).toNat < eraDays := by omega
  obtain ⟨y400, lo, hi⟩ := yearStart_yearOfEra hd
  simp only [ofDays]
  generalize (days + epochOffset) / (eraDays : Int) = era at parts ⊢
  generalize (days + epochOffset) % (eraDays : Int) = r at parts hz hd y400 lo hi ⊢
  generalize yearOfEra r.toNat = y at y400 lo hi ⊢
  generalize hm : (5 * (r.toNat - yearStart y) + 2) / 153 = m
  have m12 : m < 12 := by omega
  have within : monthStart m ≤ r.toNat - yearStart y := by
    unfold monthStart
    omega
  rw [toDays_parts era _ y400 m12]
  omega

/-! ## The date of a day exists -/

/-- **A year from March to February has a 366th day only if it ends in a leap day**, that
is, if the year in which it ends is a leap year. -/
theorem isLeapYear_of_last_day {d : Nat} (h : d < eraDays)
    (last : d = yearStart (yearOfEra d) + 365) (era : Int) :
    isLeapYear (era * 400 + yearOfEra d + 1) := by
  simp only [yearOfEra, eraDays] at *
  generalize hc : min (d / 36524) 3 = c at *
  generalize hq : (d - 36524 * c) / 1461 = q at *
  generalize hy : min ((d - 36524 * c - 1461 * q) / 365) 3 = y at *
  have c4 : c < 4 := by omega
  have q25 : q < 25 := by omega
  have y4 : y < 4 := by omega
  have quads : (100 * c + 4 * q + y) / 4 = 25 * c + q := by omega
  have centuries : (100 * c + 4 * q + y) / 100 = c := by omega
  unfold yearStart at last
  rw [quads, centuries] at last
  have fourth : y = 3 := by omega
  -- The last span of a century has its leap day only in the last century.
  have century : q = 24 → c = 3 := by omega
  simp only [isLeapYear, Bool.and_eq_true, Bool.or_eq_true, decide_eq_true_eq]
  omega

/-- **No month is overrun**: a day of a year counted from March is a day of its month, the
last of them only where there is a leap day. -/
theorem day_le_daysInMonth {doy : Nat} {year : Int} (h : doy ≤ 365)
    (feb : doy = 365 → isLeapYear year) :
    let m := (5 * doy + 2) / 153
    doy - monthStart m + 1 ≤ daysInMonth year (if m < 10 then m + 3 else m - 9) := by
  intro m
  have lo : 153 * m ≤ 5 * doy + 2 := by omega
  have hi : 5 * doy + 2 < 153 * m + 153 := by omega
  clear_value m
  unfold monthStart daysInMonth
  by_cases leap : doy = 365
  · have m11 : m = 11 := by omega
    subst m11 leap
    simp [feb rfl]
  · by_cases h10 : m < 10
    · rw [if_pos h10, if_neg (by omega)]
      split <;> omega
    · rw [if_neg h10]
      split
      · split <;> omega
      · rw [if_neg (by omega)]
        omega

/-- **The date of a day exists.** -/
theorem isValid_ofDays (days : Int) : (ofDays days).isValid := by
  have hd : ((days + epochOffset) % (eraDays : Int)).toNat < eraDays := by
    unfold eraDays
    omega
  obtain ⟨-, lo, hi⟩ := yearStart_yearOfEra hd
  have last := isLeapYear_of_last_day hd
  obtain ⟨hasMonth, monthLe⟩ := month_ofDays days
  have hasDay : 1 ≤ (ofDays days).day := Nat.le_add_left 1 _
  have dayLe : (ofDays days).day ≤ daysInMonth (ofDays days).year (ofDays days).month := by
    refine day_le_daysInMonth (by omega) fun whole => ?_
    simp only [ofDays, whole]
    exact last (by omega) _
  simp only [isValid, Bool.and_eq_true, decide_eq_true_eq]
  exact ⟨⟨⟨hasMonth, monthLe⟩, hasDay⟩, dayLe⟩

end Date

end CourierDispatch
