/-!
# Civil dates

Days of the Gregorian calendar, extended to all years, as numbers counted from 1 January 1970.

## Main definitions

- `CivilDate`: year, month and day.
- `CivilDate.dayNumber`, `CivilDate.ofDayNumber`: the count of days and back.
- `CivilDate.IsValid`: the month has that day, in a year of four digits.
-/

namespace FleetToken

/-- A day by year, month and day of the month. -/
structure CivilDate where
  /-- The year. -/
  year : Int
  /-- The month, from one to twelve. -/
  month : Nat
  /-- The day of the month, from one on. -/
  day : Nat
deriving DecidableEq

namespace CivilDate

/-- Whether a year has a 29 February. -/
def isLeapYear (year : Int) : Bool :=
  year % 4 == 0 && (year % 100 != 0 || year % 400 == 0)

/-- The days of a month. -/
def daysInMonth (year : Int) (month : Nat) : Nat :=
  if month = 2 then if isLeapYear year then 29 else 28
  else if month = 4 ∨ month = 6 ∨ month = 9 ∨ month = 11 then 30
  else 31

/-- The first year that four digits write. It is not represented, since the year 1 is the first. -/
def yearZero : Int := 0

/-- The first year that is represented. -/
def minYear : Int := 1

/-- The last year that is represented. -/
def maxYear : Int := 9999

/-- The date exists, in a year that four digits write. -/
def IsValid (d : CivilDate) : Bool :=
  yearZero ≤ d.year && d.year ≤ maxYear && 1 ≤ d.month && d.month ≤ 12 && 1 ≤ d.day
    && d.day ≤ daysInMonth d.year d.month

/-- The days from 1 January 1970 to the date. Years are counted from March, so that a leap day
ends its year. -/
def dayNumber (d : CivilDate) : Int :=
  let year := if d.month ≤ 2 then d.year - 1 else d.year
  let month : Int := if d.month ≤ 2 then d.month + 9 else (d.month : Int) - 3
  let century := year / 400
  let yearOfCentury := year % 400
  let dayOfYear := (153 * month + 2) / 5 + d.day - 1
  century * 146097 + yearOfCentury * 365 + yearOfCentury / 4 - yearOfCentury / 100 + dayOfYear
    - 719468

/-- The date that is a number of days after 1 January 1970. -/
def ofDayNumber (n : Int) : CivilDate :=
  let shifted := n + 719468
  let century := shifted / 146097
  let dayOfCentury := shifted % 146097
  let yearOfCentury :=
    (dayOfCentury - dayOfCentury / 1460 + dayOfCentury / 36524 - dayOfCentury / 146096) / 365
  let dayOfYear := dayOfCentury - (365 * yearOfCentury + yearOfCentury / 4 - yearOfCentury / 100)
  let marchMonth := (5 * dayOfYear + 2) / 153
  let day := dayOfYear - (153 * marchMonth + 2) / 5 + 1
  let month := if marchMonth < 10 then marchMonth + 3 else marchMonth - 9
  let year := yearOfCentury + century * 400 + if month ≤ 2 then 1 else 0
  ⟨year, month.toNat, day.toNat⟩

end CivilDate

end FleetToken
