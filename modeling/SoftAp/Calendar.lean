/-!
# The calendar

Dates of the proleptic Gregorian calendar, and the days since 1 January 1970.  To find the date of
a day, the count is moved to 1 March of the year 0, so that the leap day is the last day of a year,
and cut into periods of 400, 100, 4 and 1 years.
-/

namespace SoftAp

/-- A date. -/
structure Date where
  year : Int
  month : Int
  day : Int
  deriving DecidableEq, Repr

namespace Date

/-- Whether a year has a leap day. -/
def isLeap (year : Int) : Bool :=
  year % 4 = 0 && (year % 100 ≠ 0 || year % 400 = 0)

/-- The number of days of a month. -/
def daysInMonth (year month : Int) : Int :=
  if month = 2 then if isLeap year then 29 else 28
  else if month = 4 ∨ month = 6 ∨ month = 9 ∨ month = 11 then 30
  else 31

/-- Whether a date is one of the calendar. -/
def Valid (date : Date) : Prop :=
  1 ≤ date.month ∧ date.month ≤ 12 ∧ 1 ≤ date.day ∧ date.day ≤ daysInMonth date.year date.month

/-- The days from 1 January of the year 1 to 1 January of a year. -/
def daysBeforeYear (year : Int) : Int :=
  365 * (year - 1) + (year - 1) / 4 - (year - 1) / 100 + (year - 1) / 400

/-- The days of a year in front of a month. -/
def daysBeforeMonth (year month : Int) : Int :=
  let leap : Int := if isLeap year then 1 else 0
  if month ≤ 1 then 0
  else if month = 2 then 31
  else if month = 3 then 59 + leap
  else if month = 4 then 90 + leap
  else if month = 5 then 120 + leap
  else if month = 6 then 151 + leap
  else if month = 7 then 181 + leap
  else if month = 8 then 212 + leap
  else if month = 9 then 243 + leap
  else if month = 10 then 273 + leap
  else if month = 11 then 304 + leap
  else 334 + leap

/-- The days from 1 January 1970 to a date. -/
def toDays (date : Date) : Int :=
  daysBeforeYear date.year + daysBeforeMonth date.year date.month + (date.day - 1) - 719162

/-- The date a number of days after 1 January 1970. -/
def ofDays (days : Int) : Date :=
  let shifted := days + 719468
  let era := shifted / 146097
  let dayOfEra := shifted % 146097
  let century := min (dayOfEra / 36524) 3
  let dayOfCentury := dayOfEra - 36524 * century
  let fourYears := dayOfCentury / 1461
  let dayOfFourYears := dayOfCentury % 1461
  let yearOfFour := min (dayOfFourYears / 365) 3
  let dayOfYear := dayOfFourYears - 365 * yearOfFour
  let year := 400 * era + 100 * century + 4 * fourYears + yearOfFour
  let month := (5 * dayOfYear + 2) / 153
  let day := dayOfYear - (153 * month + 2) / 5 + 1
  if month < 10 then ⟨year, month + 3, day⟩ else ⟨year + 1, month - 9, day⟩

end Date

end SoftAp
