import Phrasebook.Calendar.Date
import Phrasebook.Number.Double

/-!
Times of day to the microsecond, with or without an offset from coordinated universal time, and
moments, which add a date.  A moment is also found from a number of seconds since the start of 1970.
-/

namespace Phrasebook.Calendar

open Number

/-- A time of day; the offset counts microseconds east of coordinated universal time. -/
structure Clock where
  hour : Nat
  minute : Nat
  second : Nat
  microsecond : Nat
  offset : Option Int
deriving DecidableEq, Repr

def microsPerSecond : Int := 1000000

def secondsPerDay : Int := 86400

namespace Clock

def midnight : Clock := ⟨0, 0, 0, 0, none⟩

/-- The time of these parts, if a day has it.  An offset is shorter than a day. -/
def ofParts? (hour minute second microsecond : Nat) (offset : Option Int) : Option Clock :=
  let near := offset.all fun span => span.natAbs < (secondsPerDay * microsPerSecond).toNat
  if hour < 24 && minute < 60 && second < 60 && microsecond < 1000000 && near then
    some ⟨hour, minute, second, microsecond, offset⟩
  else none

def micros (clock : Clock) : Int :=
  ((clock.hour * 60 + clock.minute) * 60 + clock.second : Nat) * microsPerSecond + clock.microsecond

/-- Whether two times are equal: with offsets they are compared as universal time, where different
offsets have to differ by whole seconds, and a time with an offset never equals one without. -/
def same (a b : Clock) : Bool :=
  match a.offset, b.offset with
  | some m, some n =>
      a.micros - m == b.micros - n && (m == n || a.microsecond == b.microsecond)
  | none, none => a.micros == b.micros
  | _, _ => false

/-- An offset as text: `+05:30`, with seconds and microseconds where there are any. -/
def offsetText (span : Int) : String :=
  let size := span.natAbs
  let seconds := size / 1000000
  let base := (if span < 0 then "-" else "+") ++ Text.padded 2 (seconds / 3600) ++ ":"
    ++ Text.padded 2 (seconds / 60 % 60)
  if size % 60000000 = 0 then base
  else
    let base := base ++ ":" ++ Text.padded 2 (seconds % 60)
    if size % 1000000 = 0 then base else base ++ "." ++ Text.padded 6 (size % 1000000)

/-- The text `13:05:09`, with microseconds where there are any, and the offset. -/
def text (clock : Clock) : String :=
  Text.padded 2 clock.hour ++ ":" ++ Text.padded 2 clock.minute ++ ":" ++ Text.padded 2 clock.second
    ++ (if clock.microsecond = 0 then "" else "." ++ Text.padded 6 clock.microsecond)
    ++ (clock.offset.map offsetText).getD ""

end Clock

structure Moment where
  date : Date
  clock : Clock
deriving DecidableEq, Repr

namespace Moment

/-- Why a number of seconds is no moment of the calendar. -/
inductive Missed where
  /-- The number is not a number. -/
  | undefined
  /-- The number lies beyond `2 ^ 63` seconds. -/
  | uncountable
  /-- The year does not fit into a number of 32 bits. -/
  | unnumbered
  /-- The year lies outside the calendar. -/
  | outsideYears
deriving DecidableEq, Repr

def epochDay : Int := daysBeforeYear 1970 + 1

/-- The moment of a count of microseconds since the start of 1970. -/
def ofMicros (total : Int) : Except Missed Moment :=
  let seconds := total.fdiv microsPerSecond
  let day := seconds.fdiv secondsPerDay + epochDay
  if seconds < -(twoTo 63 : Int) || (twoTo 63 : Int) < seconds then throw .uncountable
  else if day ≤ daysBeforeYear (1900 - twoTo 31) || daysBeforeYear (1900 + twoTo 31) < day then
    throw .unnumbered
  else if day < 1 || daysBeforeYear (lastYear + 1) < day then throw .outsideYears
  else
    let inDay := (seconds.fmod secondsPerDay).toNat
    let micros := (total.fmod microsPerSecond).toNat
    pure ⟨Date.ofOrdinal day.toNat, ⟨inDay / 3600, inDay / 60 % 60, inDay % 60, micros, some 0⟩⟩

/-- The moment of a number of seconds since the start of 1970, in universal time.  The fraction of a
second is multiplied by a million as a floating-point number, then rounded to a whole count. -/
def ofSeconds : Double → Except Missed Moment
  | .nan => throw .undefined
  | .infinite _ => throw .uncountable
  | .finite negative mantissa exponent =>
      let (num, den) := Double.ratio mantissa exponent
      let micros :=
        match Double.ofRatio false (num % den * 1000000) den with
        | .finite _ mantissa exponent =>
            let (num, den) := Double.ratio mantissa exponent
            roundHalfEven num den
        | _ => 0
      let total : Int := ((num / den * 1000000 + micros : Nat) : Int)
      ofMicros (if negative then -total else total)

/-- The microseconds since the start of the calendar, less the offset. -/
def micros (moment : Moment) : Int :=
  moment.date.ordinal * secondsPerDay * microsPerSecond + moment.clock.micros
    - moment.clock.offset.getD 0

/-- Whether two moments are equal; one with an offset never equals one without. -/
def same (a b : Moment) : Bool :=
  a.clock.offset.isSome == b.clock.offset.isSome && a.micros == b.micros

/-- The text `2024-01-15 13:05:09`. -/
def text (moment : Moment) : String :=
  moment.date.text ++ " " ++ moment.clock.text

end Moment

end Phrasebook.Calendar
