import Phrasebook.Calendar.Clock
import Phrasebook.Convention.Basic

/-!
Date and time patterns such as `d MMM y`: runs of one ASCII letter stand for a field, and their
length for its form; all other characters stand for themselves.  Of the fields of a locale library
those are here that the conventions of `Convention.Data` use; they are outside what is proved.
-/

namespace Phrasebook

open Calendar

inductive DatePiece where
  | literal (c : Char)
  | field (letter : Char) (count : Nat)
deriving DecidableEq, Repr

namespace DatePiece

/-- The pieces of a pattern; a letter that continues a run lengthens it. -/
def ofChars : List Char → List DatePiece
  | [] => []
  | c :: rest =>
      if Text.isAsciiLetter c then
        match ofChars rest with
        | .field letter count :: pieces =>
            if letter == c then .field letter (count + 1) :: pieces
            else .field c 1 :: .field letter count :: pieces
        | pieces => .field c 1 :: pieces
      else .literal c :: ofChars rest

/-- A text from a list of names, by its place. -/
def named (names : List String) (place : Nat) : String :=
  names.getD place ""

def yearText (year count : Nat) : String :=
  if count = 2 then Text.padded 2 (year % 100) else Text.padded count year

def monthText (conventions : Conventions) (month count : Nat) : String :=
  if count = 3 then named conventions.shortMonths (month - 1)
  else if count = 4 then named conventions.months (month - 1)
  else Text.padded count month

/-- Sign and digits of hours and minutes; hours are counted downwards, so that the minutes of a
negative offset count up from the hour below. -/
def offsetText (micros : Int) (between : String) : String :=
  let seconds := micros.fdiv 1000000
  let hours := seconds.fdiv 3600
  let minutes := (seconds.fmod 3600).toNat / 60
  (if hours < 0 then "-" else "+") ++ Text.padded 2 hours.natAbs ++ between ++ Text.padded 2 minutes

/-- The name of universal time, or an offset from it. -/
def zoneText (conventions : Conventions) (offset : Option Int) (count : Nat) : String :=
  let micros := offset.getD 0
  if count = 4 then
    if micros = 0 then conventions.universalTime
    else conventions.offsetAround.1 ++ offsetText micros ":" ++ conventions.offsetAround.2
  else if micros = 0 then conventions.universalTimeShort
  else offsetText micros ""

def dateField (conventions : Conventions) (date : Date) (letter : Char) (count : Nat) : String :=
  if letter == 'y' then yearText date.year count
  else if letter == 'M' then monthText conventions date.month count
  else if letter == 'd' then Text.padded count date.day
  else if letter == 'E' then named conventions.weekdays date.weekday
  else ""

def clockField (conventions : Conventions) (clock : Clock) (letter : Char) (count : Nat) : String :=
  if letter == 'H' then Text.padded count clock.hour
  else if letter == 'h' then
    Text.padded count (if clock.hour % 12 = 0 then 12 else clock.hour % 12)
  else if letter == 'm' then Text.padded count clock.minute
  else if letter == 's' then Text.padded count clock.second
  else if letter == 'a' then named conventions.dayHalves (clock.hour / 12)
  else if letter == 'z' then zoneText conventions clock.offset count
  else ""

def fill (fieldText : Char → Nat → String) (pieces : List DatePiece) : String :=
  String.join (pieces.map fun
    | .literal c => String.ofList [c]
    | .field letter count => fieldText letter count)

end DatePiece

def Conventions.dateText (conventions : Conventions) (width : Width) (date : Date) : String :=
  DatePiece.fill (DatePiece.dateField conventions date)
    (DatePiece.ofChars (conventions.datePatterns.get width).toList)

def Conventions.timeText (conventions : Conventions) (width : Width) (clock : Clock) : String :=
  DatePiece.fill (DatePiece.clockField conventions clock)
    (DatePiece.ofChars (conventions.timePatterns.get width).toList)

end Phrasebook
