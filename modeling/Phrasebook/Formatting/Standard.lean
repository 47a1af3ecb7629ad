import Phrasebook.Calendar.Iso
import Phrasebook.Convention.Data
import Phrasebook.Formatter.Config
import Phrasebook.Formatting.DatePattern
import Phrasebook.Formatting.NumberPattern
import Phrasebook.Locale.Resolution

/-!
The standard formatters: numbers, dates and times in the conventions of a locale.

Dates and times are taken from dates, times, texts in ISO 8601, and numbers, which count
milliseconds since the start of 1970 in universal time.

That a default is made from the settings alone, and never fails to be made, is what theorems rest on.
What a formatter then writes is left to a locale library, which `Convention`, `Locale.Resolution` and
the two kinds of patterns stand for; it is outside what is proved.
-/

namespace Phrasebook

open Number Calendar

/-- The standard formatters.  A number formatter keeps the currency it was made for. -/
inductive Standard where
  | number (currency : String)
  | date
  | time
deriving DecidableEq, Repr

namespace Standard

def localeOf (value : Value) : Except Fault Locale.Identifier := do
  Locale.resolve (← Locale.tagOf value)

def conventionsOf (id : Locale.Identifier) : Except Fault Conventions :=
  match id.dataName? with
  | some name => pure (.ofDataName name)
  | none => throw .missingLocaleData

def ofRefusal {α : Type} : Except Decimal.Refusal α → Except Fault α
  | .ok value => .ok value
  | .error reason => .error (.decimal reason)

def decimalOf : Value → Except Fault Decimal
  | .decimal n => pure n
  | value =>
      match Decimal.ofText? value.plain with
      | some n => pure n
      | none => throw (.decimal .invalid)

/-- Formats a number as an integer, a share, an amount, or as it is.  The pattern of integers belongs
to no locale, so that conventions are needed for it only once the number is measured. -/
def formatNumber (currency : String) (value locale param : Value) : Except Fault String := do
  let id ← localeOf locale
  match param with
  | .str "integer" => do
      let (negative, figure) ← ofRefusal (NumberPattern.integer.measure none (← decimalOf value))
      pure (NumberPattern.integer.write (← conventionsOf id) none negative figure)
  | _ => do
      let conventions ← conventionsOf id
      let n ← decimalOf value
      ofRefusal <|
        match param with
        | .str "percent" =>
            (NumberPattern.ofText conventions.percentPattern).format conventions none n
        | .str "currency" =>
            (NumberPattern.ofText conventions.currencyPattern).format conventions (some currency) n
        | _ => (NumberPattern.ofText conventions.decimalPattern).format conventions none n

def widthOf : Value → Width
  | .str "short" => .short
  | .str "long" => .long
  | .str "full" => .full
  | _ => .medium

def ofMissed : Except Moment.Missed Moment → Except Fault Moment
  | .ok moment => .ok moment
  | .error .undefined | .error .outsideYears => .error .outsideCalendar
  | .error .uncountable => .error .tooLarge
  | .error .unnumbered => .error .clockFailure

/-- The moment of a whole number of milliseconds; one that no floating-point number comes near is
too large. -/
def ofMillis (millis : Int) : Except Fault Moment :=
  ofMissed (Moment.ofSeconds (Double.ofRatio (millis < 0) millis.natAbs 1000))

def ofFloatMillis : Double → Except Fault Moment
  | .finite negative mantissa exponent =>
      let (num, den) := Double.ratio mantissa exponent
      ofMissed (Moment.ofSeconds (Double.ofRatio negative num (den * 1000)))
  | other => ofMissed (Moment.ofSeconds other)

/-- What was read from a text in ISO 8601. -/
def ofIso {α : Type} (text : String) : Except IsoError α → Except Fault α
  | .ok value => .ok value
  | .error .malformed => .error (.malformedMoment text)
  | .error .outOfRange => .error .outsideCalendar

def momentOf : Value → Except Fault (Date × Option Clock)
  | .date day => pure (day, none)
  | .moment moment => pure (moment.date, some moment.clock)
  | .bool value => do withClock (← ofMillis value.toNat)
  | .int millis => do withClock (← ofMillis millis)
  | .float millis => do withClock (← ofFloatMillis millis)
  | .str text => do withClock (← ofIso text (Iso.moment text))
  | value => throw (.unformattable value.typeName "date")
where
  withClock (moment : Moment) : Except Fault (Date × Option Clock) :=
    pure (moment.date, some moment.clock)

def formatDate (value locale param : Value) : Except Fault String := do
  let (day, _) ← momentOf value
  let conventions ← conventionsOf (← localeOf locale)
  pure (conventions.dateText (widthOf param) day)

/-- The time of day that a value shows; a date alone has none. -/
def clockOf : Value → Except Fault Clock
  | .clock clock => pure clock
  | value => do
      match ← momentOf value with
      | (_, some clock) => pure clock
      | (_, none) => throw (.unformattable value.typeName "time")

def formatTime (value locale param : Value) : Except Fault String := do
  let clock ← clockOf value
  let conventions ← conventionsOf (← localeOf locale)
  pure (conventions.timeText (widthOf param) clock)

def format (standard : Standard) (value locale param : Value) : Except Fault String :=
  match standard with
  | .number currency => formatNumber currency value locale param
  | .date => formatDate value locale param
  | .time => formatTime value locale param

/-- A formatter takes a value, a locale, and at most one parameter. -/
def call (standard : Standard) : List Value → Except Fault String
  | [value, locale] => standard.format value locale .null
  | [value, locale, param] => standard.format value locale param
  | _ => throw .notCallable

/-- How the standard formatters are made from the settings, by key. -/
def makers : List (String × (Settings → Standard)) := [
  ("number", fun settings => .number settings.currency),
  ("date", fun _ => .date),
  ("time", fun _ => .time)]

end Standard

/-- The default entry that makes a standard formatter, among formatters of type `φ`. -/
def DefaultEntry.ofMaker {φ : Type} (formatter : φ) (wrap : Standard → φ)
    (make : Settings → Standard) : DefaultEntry φ :=
  { formatter := formatter, make := some fun settings _ => .ok (some (wrap (make settings))) }

end Phrasebook
