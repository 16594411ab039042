/-!
# `Gatekeeper.Time.Calendar`: days and dates

The Gregorian calendar, carried backwards and forwards over the years that this
library knows. A day is numbered from 1970-01-01, which is day zero.

* `Date`: a year, a month and a day of it.
* `Date.toDay`, `Date.ofDay`: the number of a date, and back.
-/

set_option autoImplicit false

namespace Gatekeeper.Time

/-- Whether the year has a 29th of February. -/
def isLeapYear (year : Int) : Bool :=
  year % 4 = 0 && (year % 100 ≠ 0 || year % 400 = 0)

/-- The lengths of a year's months. -/
def monthLengths (leap : Bool) : List Nat :=
  [31, if leap then 29 else 28, 31, 30, 31, 30, 31, 31, 30, 31, 30, 31]

/-- The first year of this library. -/
def minYear : Int := -262143

/-- The last year of this library. -/
def maxYear : Int := 262142

/-- A date. Months and days count from one. -/
structure Date where
  year : Int
  month : Nat
  day : Nat
  deriving DecidableEq, Repr

namespace Date

/-- Whether the calendar of this library has the date. -/
def isValid (date : Date) : Bool :=
  minYear ≤ date.year && date.year ≤ maxYear && 1 ≤ date.month && date.month ≤ 12 &&
    1 ≤ date.day && date.day ≤ (monthLengths (isLeapYear date.year)).getD (date.month - 1) 0

/-- The days between 0001-01-01 and the first day of a year. -/
def daysBeforeYear (year : Int) : Int :=
  let past := year - 1
  365 * past + past / 4 - past / 100 + past / 400

/-- The days between 0001-01-01 and 1970-01-01. -/
def epochDay : Int := 719162

/-- The number of a date. -/
def toDay (date : Date) : Int :=
  let months := (monthLengths (isLeapYear date.year)).take (date.month - 1)
  let dayOfYear := months.foldl (· + ·) (date.day - 1)
  daysBeforeYear date.year + (dayOfYear : Nat) - epochDay

/-- The month and the day of a month, both from one, of the day with a number from
zero within the given months, the first of which has the number `month`. -/
def splitDay (month : Nat) : List Nat → Nat → Nat × Nat
  | [], n => (month, n + 1)
  | length :: rest, n =>
    if n < length then (month, n + 1) else splitDay (month + 1) rest (n - length)

/-- The date of a day. Cycles of 400 years have one length; in a cycle, centuries
have 36524 days but the last may have one more, and so on for four years and for
one. -/
def ofDay (day : Int) : Date :=
  let n := day + epochDay
  let inCycle := (n % 146097).toNat
  let century := min (inCycle / 36524) 3
  let inCentury := inCycle - century * 36524
  let four := inCentury / 1461
  let inFour := inCentury % 1461
  let one := min (inFour / 365) 3
  let inYear := inFour - one * 365
  let year := n / 146097 * 400 + (century * 100 + four * 4 + one : Nat) + 1
  let (month, dayOfMonth) := splitDay 1 (monthLengths (isLeapYear year)) inYear
  ⟨year, month, dayOfMonth⟩

end Date

end Gatekeeper.Time
