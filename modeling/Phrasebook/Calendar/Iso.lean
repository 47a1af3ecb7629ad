import Phrasebook.Calendar.Clock

/-!
Reading dates and times in the notations of ISO 8601: calendar dates and week dates, with or without
hyphens, then after any one character a time with or without colons, and an offset.

A text of the wrong shape is told apart from one of the right shape that names no day or time.  Only
the standard formatters read such texts, so this is outside what is proved.
-/

namespace Phrasebook.Calendar

open Text

inductive IsoError where
  /-- The text does not have the shape of a date and time. -/
  | malformed
  /-- A part has a value that the calendar or the clock does not have. -/
  | outOfRange
deriving DecidableEq, Repr

namespace Iso

/-- Whether a text goes on here: a null character ends it like the end of the text. -/
def goesOn : List Char → Bool
  | [] => false
  | c :: _ => c.toNat != 0

def digits? (count : Nat) (chars : List Char) : Option (Nat × List Char) :=
  let digits := chars.take count
  if digits.length = count && digits.all isAsciiDigit then
    some (readDigits digits, chars.drop count)
  else none

/-- The microseconds that a fraction writes: digits after the sixth are cut.  The flag tells whether
anything but digits follows. -/
def fraction? (chars : List Char) : Option (Nat × Bool) :=
  let count := min 6 chars.length
  (digits? count chars).map fun (size, rest) =>
    (size * Number.tenTo (6 - count), goesOn (rest.dropWhile isAsciiDigit))

/-- Hour, minute and second as far as they are given, the microseconds, and whether characters are
left over. -/
structure Fields where
  fields : List Nat
  microsecond : Nat
  leftover : Bool

def Fields.cons (field : Nat) (rest : Fields) : Fields :=
  { rest with fields := field :: rest.fields }

/-- Reads at most so many more two-digit fields.  The character after the first field decides
whether colons separate the fields; a single ASCII character may be left over. -/
def fields? : Nat → Option Bool → List Char → Option Fields
  | 0, _, chars => (fraction? chars).map fun (micros, leftover) => ⟨[], micros, leftover⟩
  | left + 1, separated, a :: b :: rest =>
      if isAsciiDigit a && isAsciiDigit b then
        let field := readDigits [a, b]
        match rest with
        | [] => some ⟨[field], 0, false⟩
        | [last] => if last.toNat < 0x80 then some ⟨[field], 0, goesOn [last]⟩ else none
        | mark :: after =>
            let separated := separated.getD (mark == ':')
            if separated && mark == ':' then (fields? left (some separated) after).map (.cons field)
            else if mark == '.' || mark == ',' then
              (fraction? after).map fun (micros, leftover) => ⟨[field], micros, leftover⟩
            else if separated then none
            else (fields? left (some separated) rest).map (.cons field)
      else none
  | _ + 1, _, _ => none

def isOffsetMark (c : Char) : Bool :=
  c == '+' || c == '-' || c == 'Z'

/-- The offset that follows a time, in microseconds: nothing, the letter for universal time, or a
sign and a time.  An offset of less than a second is none at all. -/
def offset? : List Char → Option (Option Int)
  | [] => some none
  | 'Z' :: rest => if goesOn rest then none else some (some 0)
  | sign :: rest =>
      match fields? 3 none rest with
      | some read =>
          if read.leftover then none
          else
            let hour := read.fields.getD 0 0
            let minute := read.fields.getD 1 0
            let second := read.fields.getD 2 0
            let seconds := hour * 3600 + minute * 60 + second
            let size : Int :=
              if seconds = 0 then 0 else (seconds * 1000000 + read.microsecond : Nat)
            some (some (if sign == '-' then -size else size))
      | none => none

/-- Reads a time of day.  In front of an offset, characters left over after the fields are passed
by. -/
def clock (chars : List Char) : Except IsoError Clock :=
  let before := chars.takeWhile (!isOffsetMark ·)
  let after := chars.dropWhile (!isOffsetMark ·)
  match fields? 3 none before, offset? after with
  | some read, some offset =>
      if read.leftover && after.isEmpty then throw .malformed
      else
        match Clock.ofParts? (read.fields.getD 0 0) (read.fields.getD 1 0) (read.fields.getD 2 0)
            read.microsecond offset with
        | some clock => pure clock
        | none => throw .outOfRange
  | _, _ => throw .malformed

/-- Where the date ends: the position of the character between date and time.  After a week date
without hyphens, times come in pairs of digits, so the number of digits tells whether the first one
is a weekday. -/
def dateLength? (chars : List Char) : Option Nat :=
  let length := chars.length
  let at? (i : Nat) : Option Char := chars[i]?
  let digitAt (i : Nat) : Bool := (at? i).any isAsciiDigit
  if length < 7 then none
  else if length = 7 then some 7
  else if at? 4 == some '-' then
    if at? 5 == some 'W' then
      if at? 8 == some '-' then
        if length = 9 then none
        else if digitAt 10 then some 8
        else some 10
      else some 8
    else some 10
  else if at? 4 == some 'W' then
    let stop := 7 + ((chars.drop 7).takeWhile isAsciiDigit).length
    if stop < 9 then some stop else if stop % 2 = 0 then some 7 else some 8
  else some 8

/-- A date as it was read: by month and day, or by the number of a day found from its week. -/
inductive DateParts where
  | monthDay (year month day : Nat)
  | ordinal (day : Int)

/-- The hyphen that has to stand here when the date is written with hyphens. -/
def hyphen? (hyphens : Bool) (chars : List Char) : Option (List Char) :=
  if hyphens then
    match chars with
    | '-' :: rest => some rest
    | _ => none
  else some chars

def dateParts? (chars : List Char) : Option DateParts := do
  let (year, rest) ← digits? 4 chars
  let hyphens := rest.head? == some '-'
  let rest := if hyphens then rest.drop 1 else rest
  match rest with
  | 'W' :: rest =>
      let (week, rest) ← digits? 2 rest
      let weekday ←
        if rest.isEmpty then pure 1
        else (hyphen? hyphens rest).bind fun rest => (digits? 1 rest).map (·.1)
      (Date.ofWeek? year week weekday).map .ordinal
  | rest =>
      let (month, rest) ← digits? 2 rest
      let rest ← hyphen? hyphens rest
      let (day, _) ← digits? 2 rest
      pure (.monthDay year month day)

def DateParts.date : DateParts → Except IsoError Date
  | .monthDay year month day =>
      match Date.ofParts? year month day with
      | some date => pure date
      | none => throw .outOfRange
  | .ordinal day =>
      if day < 1 || daysBeforeYear (lastYear + 1) < day then throw .outOfRange
      else pure (Date.ofOrdinal day.toNat)

/-- Reads a date alone, which takes seven, eight or ten bytes. -/
def date (text : String) : Except IsoError Date :=
  let size := text.utf8ByteSize
  if size = 7 || size = 8 || size = 10 then
    match dateParts? text.toList with
    | some parts => parts.date
    | none => throw .malformed
  else throw .malformed

/-- Reads a time of day alone, after the letter for times if it is there. -/
def timeOfDay (text : String) : Except IsoError Clock :=
  match text.toList with
  | 'T' :: rest => clock rest
  | chars => clock chars

/-- Reads a date and, after one character, a time; a date alone means its midnight. -/
def moment (text : String) : Except IsoError Moment := do
  let chars := text.toList
  match dateLength? chars with
  | none => throw .malformed
  | some length =>
      match dateParts? (chars.take length) with
      | none => throw .malformed
      | some parts =>
          let rest := chars.drop length
          let clock ← if rest.isEmpty then pure Clock.midnight else clock (rest.drop 1)
          pure ⟨← parts.date, clock⟩

end Iso

end Phrasebook.Calendar
