import Phrasebook.Text.Digit

/-!
Dates of the Gregorian calendar from year 1 to year 9999, counted in days from 1 January of year 1,
which is day 1 and a Monday.
-/

namespace Phrasebook.Calendar

structure Date where
  year : Nat
  month : Nat
  day : Nat
deriving DecidableEq, Repr

def lastYear : Nat := 9999

def isLeapYear (year : Nat) : Bool :=
  year % 4 = 0 && (year % 100 ≠ 0 || year % 400 = 0)

def daysInMonth (year month : Nat) : Nat :=
  if month = 2 then (if isLeapYear year then 29 else 28)
  else if month = 4 || month = 6 || month = 9 || month = 11 then 30
  else 31

def daysBeforeMonth (year : Nat) : Nat → Nat
  | 0 | 1 => 0
  | month + 1 => daysBeforeMonth year month + daysInMonth year month

/-- The days from the first day of year 1 up to a year; earlier years count down. -/
def daysBeforeYear (year : Int) : Int :=
  let past := year - 1
  past * 365 + past.fdiv 4 - past.fdiv 100 + past.fdiv 400

namespace Date

/-- The date of these parts, if the calendar has it. -/
def ofParts? (year month day : Nat) : Option Date :=
  if 1 ≤ year && year ≤ lastYear && 1 ≤ month && month ≤ 12 && 1 ≤ day
      && day ≤ daysInMonth year month then
    some ⟨year, month, day⟩
  else none

/-- The number of the day, from 1 on. -/
def ordinal (date : Date) : Int :=
  daysBeforeYear date.year + daysBeforeMonth date.year date.month + date.day

/-- The number of the weekday, from 0 for Monday. -/
def weekday (date : Date) : Nat :=
  ((date.ordinal + 6) % 7).toNat

/-- The year that holds a day: within a cycle of 400 years, centuries, leap cycles and single years
are counted off, and the last day of a cycle belongs to its last year. -/
def yearOfOrdinal (n : Nat) : Nat :=
  let past := n - 1
  let inCycle := past % 146097
  let centuries := min (inCycle / 36524) 3
  let inCentury := inCycle - centuries * 36524
  let inFour := inCentury % 1461
  (past / 146097) * 400 + centuries * 100 + (inCentury / 1461) * 4 + min (inFour / 365) 3 + 1

/-- The date of a day from day 1 on. -/
def ofOrdinal (n : Nat) : Date :=
  let year := yearOfOrdinal n
  let inYear := n - (daysBeforeYear year).toNat
  let month := (((List.range 12).map (· + 1)).filter fun m => daysBeforeMonth year m < inYear).length
  ⟨year, month, inYear - daysBeforeMonth year month⟩

/-- The day number of the Monday of week 1, the week that holds the year's first Thursday. -/
def firstMonday (year : Nat) : Int :=
  let first := daysBeforeYear year + 1
  let weekday := (first + 6) % 7
  if weekday ≤ 3 then first - weekday else first - weekday + 7

/-- The day number of a weekday, from 1 for Monday, in a week of a year.  A year has 53 weeks when it
starts on a Thursday, or on a Wednesday in a leap year.  The day may lie outside the calendar. -/
def ofWeek? (year week weekday : Nat) : Option Int :=
  let start := (daysBeforeYear year + 1 + 6) % 7
  let weeks := if start = 3 || (start = 2 && isLeapYear year) then 53 else 52
  if 1 ≤ week && week ≤ weeks && 1 ≤ weekday && weekday ≤ 7 then
    some (firstMonday year + ((week - 1) * 7 + (weekday - 1) : Nat))
  else none

/-- The text `2024-01-15`. -/
def text (date : Date) : String :=
  Text.padded 4 date.year ++ "-" ++ Text.padded 2 date.month ++ "-" ++ Text.padded 2 date.day

end Date

end Phrasebook.Calendar
