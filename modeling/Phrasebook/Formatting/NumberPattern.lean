import Phrasebook.Convention.Basic
import Phrasebook.Number.Decimal

/-!
Number patterns such as `#,##0.00`: what stands before and after a number, how its digits are
grouped, and how many digits follow the point.  A pattern with a percent sign shows hundredths.  A
part after a semicolon gives the surroundings of negative numbers; without one, a hyphen goes in
front.  Apostrophes around a part of the text are not shown.

This much of a locale library is what the standard formatters call.  It is outside what is proved.
-/

namespace Phrasebook

open Number

structure NumberPattern where
  positive : String × String
  negative : String × String
  /-- The size of the group next to the point, and of all further groups. -/
  groups : Nat × Nat
  leastFraction : Nat
  mostFraction : Nat
  /-- The power of ten by which the number is multiplied. -/
  scale : Int

namespace NumberPattern

def isNumberChar (c : Char) : Bool :=
  Text.isAsciiDigit c || c == '@' || c == '#' || c == '.' || c == ','

/-- The text before the number, the number, and the text after it. -/
def split (chars : List Char) : List Char × List Char × List Char :=
  let before := chars.takeWhile (!isNumberChar ·)
  let rest := chars.dropWhile (!isNumberChar ·)
  (before, rest.takeWhile isNumberChar, rest.dropWhile isNumberChar)

/-- The sizes of groups, counted between the last two commas and the end of the whole digits.
Without a comma, groups are too long to occur. -/
def groupSizes (whole : List Char) : Nat × Nat :=
  let fromEnd := whole.reverse
  let first := (fromEnd.takeWhile (· != ',')).length
  let rest := (fromEnd.dropWhile (· != ',')).drop 1
  if first = whole.length then (1000, 1000)
  else if rest.contains ',' then (first, (rest.takeWhile (· != ',')).length)
  else (first, first)

def ofText (text : String) : NumberPattern :=
  let chars := text.toList
  let (before, number, after) := split (chars.takeWhile (· != ';'))
  let negative :=
    match chars.dropWhile (· != ';') with
    | _ :: rest =>
        let (before, _, after) := split rest
        (String.ofList before, String.ofList after)
    | [] => ("-" ++ String.ofList before, String.ofList after)
  let fraction := (number.dropWhile (· != '.')).drop 1
  { positive := (String.ofList before, String.ofList after)
    negative := negative
    groups := groupSizes (number.takeWhile (· != '.'))
    leastFraction := fraction.count '0'
    mostFraction := fraction.count '0' + fraction.count '#'
    scale := if (before ++ after).contains '%' then 2 else 0 }

def integer : NumberPattern := ofText "#,##0"

/-- Characters in groups from the end on, given in reverse: the first group has one size and all
others have another.  The first argument bounds the number of groups. -/
def groupReversed : Nat → Nat → Nat → List Char → List Char → List Char
  | 0, _, _, _, chars => chars
  | bound + 1, size, next, mark, chars =>
      if chars.length ≤ size then chars
      else chars.take size ++ mark ++ groupReversed bound next next mark (chars.drop size)

/-- A text with the group mark between groups of its characters. -/
def group (groups : Nat × Nat) (mark : String) (text : String) : String :=
  let chars := text.toList.reverse
  String.ofList
    (groupReversed chars.length groups.1 groups.2 mark.toList.reverse chars).reverse

/-- The fraction with its mark: padded to the least number of digits, without zeros at the end
beyond that, and left out when it says nothing. -/
def fractionText (least most : Nat) (mark : String) (digits : List Char) : String :=
  let padded := digits ++ List.replicate (least - digits.length) '0'
  if most = 0 || (least = 0 && padded.all (· == '0')) then ""
  else
    let extra := ((padded.drop least).reverse.dropWhile (· == '0')).reverse
    mark ++ String.ofList (padded.take least ++ extra)

/-- Whole and fractional digits of a coefficient with so many places after the point. -/
def placeDigits (coefficient places : Nat) : List Char × List Char :=
  let digits := Nat.toDigits 10 coefficient
  let digits := List.replicate (places + 1 - digits.length) '0' ++ digits
  (digits.take (digits.length - places), digits.drop (digits.length - places))

/-- What a pattern shows of a number, before any convention of a locale. -/
inductive Figure where
  | infinite
  /-- The characters before the point and after it. -/
  | digits (whole fraction : List Char)

/-- The figure of a magnitude with so many places after the point.  Not-a-number is written as a
word, with the fraction of zero. -/
def Figure.ofMagnitude (places : Nat) : Decimal → Except Decimal.Refusal Figure
  | .infinite _ => pure .infinite
  | .nan negative signalling payload =>
      pure (.digits (Decimal.nan negative signalling payload).text.toList ['0'])
  | .finite _ coefficient exponent => do
      let (whole, fraction) := placeDigits (← Decimal.atPlaces coefficient exponent places) places
      pure (.digits whole (if fraction.isEmpty then ['0'] else fraction))

/-- The least and the most digits after the point.  With a currency, its digits count instead of
those of the pattern. -/
def places (pattern : NumberPattern) (currency : Option String) : Nat × Nat :=
  match currency.filter (!·.isEmpty) with
  | some code => (currencyDigits code, currencyDigits code)
  | none => (pattern.leastFraction, pattern.mostFraction)

/-- What a pattern shows of a number, and whether the number is negative. -/
def measure (pattern : NumberPattern) (currency : Option String) (number : Decimal) :
    Except Decimal.Refusal (Bool × Figure) := do
  let scaled ← number.scaled pattern.scale
  let figure ← Figure.ofMagnitude (pattern.places currency).2 (← scaled.magnitude)
  pure (scaled.isNegative, figure)

/-- The text without the apostrophes around parts of it; two apostrophes with nothing between them
stand for one, and one without a partner stays.  The first argument is the part since an open
apostrophe, in reverse. -/
def unquotedFrom : Option (List Char) → List Char → List Char
  | none, [] => []
  | some part, [] => '\'' :: part.reverse
  | none, c :: rest => if c == '\'' then unquotedFrom (some []) rest else c :: unquotedFrom none rest
  | some part, c :: rest =>
      if c == '\'' then (if part.isEmpty then ['\''] else part.reverse) ++ unquotedFrom none rest
      else unquotedFrom (some (c :: part)) rest

def unquoted (text : String) : String :=
  String.ofList (unquotedFrom none text.toList)

def figureText (pattern : NumberPattern) (conventions : Conventions) (currency : Option String) :
    Figure → String
  | .infinite => "∞"
  | .digits whole fraction =>
      let (least, most) := pattern.places currency
      group pattern.groups conventions.groupMark (String.ofList whole)
        ++ fractionText least most conventions.decimalMark fraction

/-- The text of a measured number.  The symbol of a currency takes the place of the currency sign. -/
def write (pattern : NumberPattern) (conventions : Conventions) (currency : Option String)
    (negative : Bool) (figure : Figure) : String :=
  let (before, after) := if negative then pattern.negative else pattern.positive
  let text := before ++ pattern.figureText conventions currency figure ++ after
  unquoted
    (match currency with
    | some code => text.replace "¤" (conventions.currencySymbol code)
    | none => text)

def format (pattern : NumberPattern) (conventions : Conventions) (currency : Option String)
    (number : Decimal) : Except Decimal.Refusal String := do
  let (negative, figure) ← pattern.measure currency number
  pure (pattern.write conventions currency negative figure)

end NumberPattern

end Phrasebook
