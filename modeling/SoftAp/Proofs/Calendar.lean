import Mathlib.Algebra.Order.Group.Int
import Mathlib.Tactic.Common
import SoftAp.Calendar

/-!
# Days and dates

Later dates are more days after the beginning of 1970, so a date is known by its days, and every
number of days has a date.  The date of a number of days is found in years that begin on 1 March:
such a year ends with the leap day, and its months have the same lengths in every year.
-/

namespace SoftAp.Date

/-- The number of leap days of a year. -/
def leapDays (year : Int) : Int :=
  if isLeap year then 1 else 0

/-! ## The order of dates -/

section

variable {year month later : Int}

theorem daysBeforeYear_succ (year : Int) :
    daysBeforeYear (year + 1) = daysBeforeYear year + 365 + leapDays year := by
  unfold daysBeforeYear leapDays isLeap
  simp only [Bool.and_eq_true, Bool.or_eq_true, decide_eq_true_eq, ne_eq]
  split <;> omega

theorem daysBeforeYear_mono (h : year ≤ later) : daysBeforeYear year ≤ daysBeforeYear later := by
  unfold daysBeforeYear
  omega

theorem daysInMonth_pos (year month : Int) : 0 < daysInMonth year month := by
  unfold daysInMonth
  split_ifs <;> decide

theorem daysInMonth_le (year month : Int) : daysInMonth year month ≤ 31 := by
  unfold daysInMonth
  split_ifs <;> decide

theorem daysBeforeMonth_succ (one_le : 1 ≤ month) (lt_twelve : month < 12) :
    daysBeforeMonth year (month + 1) = daysBeforeMonth year month + daysInMonth year month := by
  have hMonth : month = 1 ∨ month = 2 ∨ month = 3 ∨ month = 4 ∨ month = 5 ∨ month = 6 ∨
      month = 7 ∨ month = 8 ∨ month = 9 ∨ month = 10 ∨ month = 11 := by omega
  unfold daysBeforeMonth daysInMonth
  cases isLeap year <;>
    obtain rfl | rfl | rfl | rfl | rfl | rfl | rfl | rfl | rfl | rfl | rfl := hMonth <;> rfl

/-- The days of a month lie in front of every later month of the year. -/
theorem daysBeforeMonth_add_le (year : Int) (one_le : 1 ≤ month) (lt : month < later)
    (le_twelve : later ≤ 12) :
    daysBeforeMonth year month + daysInMonth year month ≤ daysBeforeMonth year later := by
  induction later, Int.add_one_le_of_lt lt using Int.leInduction with
  | base => rw [daysBeforeMonth_succ one_le (by omega)]
  | succ next hNext ih =>
      have hLe := ih (by omega) (by omega)
      have hPos := daysInMonth_pos year next
      rw [daysBeforeMonth_succ (by omega) (by omega)]
      omega

theorem daysBeforeMonth_nonneg (year : Int) (one_le : 1 ≤ month) (le_twelve : month ≤ 12) :
    0 ≤ daysBeforeMonth year month := by
  have hFirst : daysBeforeMonth year 1 = 0 := rfl
  rcases Int.lt_or_eq_of_le one_le with lt | rfl
  · have hLe := daysBeforeMonth_add_le year (Int.le_refl 1) lt le_twelve
    have hPos := daysInMonth_pos year 1
    omega
  · exact hFirst.ge

/-- The days of a month lie in its year. -/
theorem daysBeforeMonth_add_le_year (year : Int) (one_le : 1 ≤ month) (le_twelve : month ≤ 12) :
    daysBeforeMonth year month + daysInMonth year month ≤ 365 + leapDays year := by
  have hLast : daysBeforeMonth year 12 + 31 = 365 + leapDays year := by
    show 334 + leapDays year + 31 = _
    omega
  rcases Int.lt_or_eq_of_le le_twelve with lt_twelve | rfl
  · have hLe := daysBeforeMonth_add_le year one_le lt_twelve (Int.le_refl 12)
    omega
  · exact hLast.le

end

/-- One date is earlier than another. -/
def Before (first second : Date) : Prop :=
  first.year < second.year ∨ first.year = second.year ∧
    (first.month < second.month ∨ first.month = second.month ∧ first.day < second.day)

/-- A date lies in its year. -/
theorem toDays_mem_year {date : Date} (h : date.Valid) :
    daysBeforeYear date.year ≤ date.toDays + 719162 ∧
      date.toDays + 719162 < daysBeforeYear (date.year + 1) := by
  obtain ⟨one_le, le_twelve, hDay, hDays⟩ := h
  have hNonneg := daysBeforeMonth_nonneg date.year one_le le_twelve
  have hInYear := daysBeforeMonth_add_le_year date.year one_le le_twelve
  have hNext := daysBeforeYear_succ date.year
  unfold toDays
  omega

/-- A date is in a year or a later one exactly if it is not before the beginning of the year. -/
theorem le_year_iff {date : Date} (h : date.Valid) (year : Int) :
    year ≤ date.year ↔ daysBeforeYear year ≤ date.toDays + 719162 := by
  obtain ⟨hBegin, hEnd⟩ := toDays_mem_year h
  constructor
  · intro hYear
    exact (daysBeforeYear_mono hYear).trans hBegin
  · intro hDays
    by_contra hEarlier
    have hMono := daysBeforeYear_mono (Int.add_one_le_of_lt (Int.not_le.mp hEarlier))
    omega

/-- An earlier date is fewer days after the beginning of 1970. -/
theorem toDays_lt_toDays {first second : Date} (hFirst : first.Valid) (hSecond : second.Valid)
    (h : first.Before second) : first.toDays < second.toDays := by
  obtain ⟨-, hInYear⟩ := toDays_mem_year hFirst
  obtain ⟨hInYear', -⟩ := toDays_mem_year hSecond
  obtain ⟨year, month, day⟩ := first
  obtain ⟨year', month', day'⟩ := second
  obtain ⟨one_le, le_twelve, hDay, hDays⟩ := hFirst
  obtain ⟨one_le', le_twelve', hDay', hDays'⟩ := hSecond
  simp only [Before] at *
  rcases h with hYear | ⟨rfl, hMonth | ⟨rfl, hLess⟩⟩
  · -- the first date lies in its year, which ends before the other one begins
    have hMono := daysBeforeYear_mono (Int.add_one_le_of_lt hYear)
    omega
  · have hLe := daysBeforeMonth_add_le year one_le hMonth le_twelve'
    show daysBeforeYear year + daysBeforeMonth year month + (day - 1) - 719162 <
      daysBeforeYear year + daysBeforeMonth year month' + (day' - 1) - 719162
    omega
  · show daysBeforeYear year + daysBeforeMonth year month + (day - 1) - 719162 <
      daysBeforeYear year + daysBeforeMonth year month + (day' - 1) - 719162
    omega

/-- A date is known by its days. -/
theorem toDays_inj {first second : Date} (hFirst : first.Valid) (hSecond : second.Valid) :
    first.toDays = second.toDays ↔ first = second := by
  constructor
  · intro hDays
    have hNot : ¬first.Before second := fun h => (toDays_lt_toDays hFirst hSecond h).ne hDays
    have hNot' : ¬second.Before first := fun h => (toDays_lt_toDays hSecond hFirst h).ne' hDays
    obtain ⟨year, month, day⟩ := first
    obtain ⟨year', month', day'⟩ := second
    simp only [Before] at hNot hNot'
    obtain ⟨rfl, rfl, rfl⟩ : year = year' ∧ month = month' ∧ day = day' := by omega
    rfl
  · rintro rfl
    rfl

/-! ## Years from March to February -/

/-- The days from 1 March of the year 0 to 1 March of a year. -/
def marchDays (year : Int) : Int :=
  365 * year + year / 4 - year / 100 + year / 400

/-- The days from 1 March to the beginning of a month, which is counted from March on. -/
def monthStart (month : Int) : Int :=
  (153 * month + 2) / 5

/-- The date of a day of a year that begins on 1 March. -/
def ofMarchDay (year dayOfYear : Int) : Date :=
  let month := (5 * dayOfYear + 2) / 153
  let day := dayOfYear - monthStart month + 1
  if month < 10 then ⟨year, month + 3, day⟩ else ⟨year + 1, month - 9, day⟩

/-- Every day is one of a year that begins on 1 March and that ends with the leap day. -/
theorem ofDays_eq_ofMarchDay (days : Int) :
    ∃ year dayOfYear, ofDays days = ofMarchDay year dayOfYear ∧
      days = marchDays year + dayOfYear - 719468 ∧
      0 ≤ dayOfYear ∧ dayOfYear < 365 + leapDays (year + 1) := by
  let era := (days + 719468) / 146097
  let dayOfEra := (days + 719468) % 146097
  let century := min (dayOfEra / 36524) 3
  let dayOfCentury := dayOfEra - 36524 * century
  let fourYears := dayOfCentury / 1461
  let dayOfFourYears := dayOfCentury % 1461
  let yearOfFour := min (dayOfFourYears / 365) 3
  let dayOfYear := dayOfFourYears - 365 * yearOfFour
  let year := 400 * era + 100 * century + 4 * fourYears + yearOfFour
  refine ⟨year, dayOfYear, rfl, ?_⟩
  have hEra : days + 719468 = 146097 * era + dayOfEra ∧ 0 ≤ dayOfEra ∧ dayOfEra < 146097 := by
    omega
  -- the last century of four, the last four years and the last year of four may be a day longer
  have hCentury : 0 ≤ century ∧ century ≤ 3 ∧ 0 ≤ dayOfCentury ∧
      (dayOfCentury < 36524 ∨ century = 3 ∧ dayOfCentury = 36524) := by
    omega
  have hFourYears : dayOfCentury = 1461 * fourYears + dayOfFourYears ∧ 0 ≤ fourYears ∧
      fourYears < 25 ∧ 0 ≤ dayOfFourYears ∧ dayOfFourYears < 1461 := by
    omega
  have hYearOfFour : 0 ≤ yearOfFour ∧ yearOfFour ≤ 3 ∧ 0 ≤ dayOfYear ∧
      (dayOfYear < 365 ∨ yearOfFour = 3 ∧ dayOfYear = 365) := by
    omega
  refine ⟨?_, hYearOfFour.2.2.1, ?_⟩
  · have hFourth : year / 4 = 100 * era + 25 * century + fourYears := by omega
    have hHundredth : year / 100 = 4 * era + century := by omega
    have hFourHundredth : year / 400 = era := by omega
    unfold marchDays
    rw [hFourth, hHundredth, hFourHundredth]
    omega
  · unfold leapDays isLeap
    simp only [Bool.and_eq_true, Bool.or_eq_true, decide_eq_true_eq, ne_eq]
    split <;> omega

section

variable {year month dayOfYear : Int}

/-! The months are counted from March on, so January and February are 10 and 11. -/

theorem daysBeforeMonth_of_march_on (nonneg : 0 ≤ month) (lt_ten : month < 10) :
    daysBeforeMonth year (month + 3) = 59 + leapDays year + monthStart month := by
  have hMonth : month = 0 ∨ month = 1 ∨ month = 2 ∨ month = 3 ∨ month = 4 ∨ month = 5 ∨
      month = 6 ∨ month = 7 ∨ month = 8 ∨ month = 9 := by omega
  unfold daysBeforeMonth leapDays
  cases isLeap year <;>
    obtain rfl | rfl | rfl | rfl | rfl | rfl | rfl | rfl | rfl | rfl := hMonth <;> rfl

theorem daysInMonth_of_march_on (nonneg : 0 ≤ month) (lt_ten : month < 10) :
    daysInMonth year (month + 3) = monthStart (month + 1) - monthStart month := by
  obtain rfl | rfl | rfl | rfl | rfl | rfl | rfl | rfl | rfl | rfl : month = 0 ∨ month = 1 ∨
    month = 2 ∨ month = 3 ∨ month = 4 ∨ month = 5 ∨ month = 6 ∨ month = 7 ∨ month = 8 ∨
    month = 9 := by omega
  all_goals rfl

/-- A day of a month from March to December. -/
theorem march_on_spec (nonneg : 0 ≤ month) (lt_ten : month < 10)
    (hStart : monthStart month ≤ dayOfYear) (hEnd : dayOfYear < monthStart (month + 1)) :
    let date : Date := ⟨year, month + 3, dayOfYear - monthStart month + 1⟩
    date.Valid ∧ date.toDays = marchDays year + dayOfYear - 719468 := by
  intro date
  refine ⟨⟨?_, ?_, ?_, ?_⟩, ?_⟩
  · show 1 ≤ month + 3
    omega
  · show month + 3 ≤ 12
    omega
  · show 1 ≤ dayOfYear - monthStart month + 1
    omega
  · show dayOfYear - monthStart month + 1 ≤ daysInMonth year (month + 3)
    rw [daysInMonth_of_march_on nonneg lt_ten]
    omega
  · -- the leap day of the year lies in front of March
    have hYear : daysBeforeYear year + leapDays year = marchDays year - 365 := by
      have hSucc := daysBeforeYear_succ year
      unfold daysBeforeYear at hSucc ⊢
      unfold marchDays
      omega
    show daysBeforeYear year + daysBeforeMonth year (month + 3) +
      (dayOfYear - monthStart month + 1 - 1) - 719162 = _
    rw [daysBeforeMonth_of_march_on nonneg lt_ten]
    omega

/-- A day of January or February, which are months of the next year. -/
theorem until_february_spec (ten_le : 10 ≤ month) (lt_twelve : month < 12)
    (hStart : monthStart month ≤ dayOfYear) (hEnd : dayOfYear < monthStart (month + 1))
    (hYearEnd : dayOfYear < 365 + leapDays (year + 1)) :
    let date : Date := ⟨year + 1, month - 9, dayOfYear - monthStart month + 1⟩
    date.Valid ∧ date.toDays = marchDays year + dayOfYear - 719468 := by
  intro date
  have hYear : daysBeforeYear (year + 1) = marchDays year := by
    unfold daysBeforeYear marchDays
    omega
  obtain rfl | rfl : month = 10 ∨ month = 11 := by omega
  · change dayOfYear < 337 at hEnd
    change 306 ≤ dayOfYear at hStart
    refine ⟨⟨(by decide : (1 : Int) ≤ 10 - 9), (by decide : (10 - 9 : Int) ≤ 12), ?_, ?_⟩, ?_⟩
    · show 1 ≤ dayOfYear - 306 + 1
      omega
    · show dayOfYear - 306 + 1 ≤ 31
      omega
    · show daysBeforeYear (year + 1) + 0 + (dayOfYear - 306 + 1 - 1) - 719162 = _
      omega
  · -- February has the days that are left of the year
    have hFebruary : daysInMonth (year + 1) 2 = 28 + leapDays (year + 1) := by
      unfold leapDays daysInMonth
      cases isLeap (year + 1) <;> rfl
    change 337 ≤ dayOfYear at hStart
    refine ⟨⟨(by decide : (1 : Int) ≤ 11 - 9), (by decide : (11 - 9 : Int) ≤ 12), ?_, ?_⟩, ?_⟩
    · show 1 ≤ dayOfYear - 337 + 1
      omega
    · show dayOfYear - 337 + 1 ≤ daysInMonth (year + 1) 2
      omega
    · show daysBeforeYear (year + 1) + 31 + (dayOfYear - 337 + 1 - 1) - 719162 = _
      omega

/-- The month that is found for a day of a year holds the day. -/
theorem monthStart_le_and_lt (dayOfYear : Int) :
    monthStart ((5 * dayOfYear + 2) / 153) ≤ dayOfYear ∧
      dayOfYear < monthStart ((5 * dayOfYear + 2) / 153 + 1) := by
  unfold monthStart
  omega

/-- A day of a year that begins on 1 March has a date, which is so many days after the beginning of
1970. -/
theorem ofMarchDay_spec (nonneg : 0 ≤ dayOfYear) (lt : dayOfYear < 365 + leapDays (year + 1)) :
    (ofMarchDay year dayOfYear).Valid ∧
      (ofMarchDay year dayOfYear).toDays = marchDays year + dayOfYear - 719468 := by
  have hLeap : leapDays (year + 1) ≤ 1 := by
    unfold leapDays
    split <;> decide
  obtain ⟨hStart, hEnd⟩ := monthStart_le_and_lt dayOfYear
  simp only [ofMarchDay]
  split
  · exact march_on_spec (by omega) ‹_› hStart hEnd
  · exact until_february_spec (by omega) (by omega) hStart hEnd lt

end

/-! ## Every day has a date -/

theorem ofDays_spec (days : Int) : (ofDays days).Valid ∧ (ofDays days).toDays = days := by
  obtain ⟨year, dayOfYear, hDate, hDays, hNonneg, hLt⟩ := ofDays_eq_ofMarchDay days
  rw [hDate, hDays]
  exact ofMarchDay_spec hNonneg hLt

/-- The date of a number of days is the one date of the calendar that has them. -/
theorem ofDays_eq_iff {days : Int} {date : Date} (h : date.Valid) :
    ofDays days = date ↔ date.toDays = days := by
  obtain ⟨hValid, hDays⟩ := ofDays_spec days
  rw [← toDays_inj hValid h, hDays, eq_comm]

/-- The beginning of 1970, and the leap day of a year that is a multiple of 400. -/
example : ofDays 0 = ⟨1970, 1, 1⟩ ∧ ofDays 11016 = ⟨2000, 2, 29⟩ := by decide

end SoftAp.Date
