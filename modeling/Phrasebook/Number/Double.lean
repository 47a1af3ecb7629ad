import Phrasebook.Number.Numeral
import Phrasebook.Number.Power
import Phrasebook.Text.Blank

/-!
Binary floating-point numbers of 64 bits, by value instead of by bit pattern.  A finite number is a
mantissa times a power of two; the constructor `Double.ofRatio` rounds a quotient to the nearest
such number, a half to the even mantissa, so every number it makes has the one mantissa and exponent
that the format gives it.  Not-a-number has one form, because no text of this library shows more.
-/

namespace Phrasebook.Number

/-- `finite negative mantissa exponent` is `mantissa · 2 ^ exponent` with its sign. -/
inductive Double where
  | nan
  | infinite (negative : Bool)
  | finite (negative : Bool) (mantissa : Nat) (exponent : Int)
deriving DecidableEq, Repr

namespace Double

def leastExponent : Int := -1074

def greatestExponent : Int := 971

/-- The number of mantissas below the largest: mantissas of normal numbers are at least half of it. -/
def mantissaBound : Nat := twoTo 53

/-- The exponent at which `num / den` has a mantissa of 53 bits, or the least exponent. -/
def exponentOf (num den : Nat) : Int :=
  let guess : Int := (num.log2 : Int) - (den.log2 : Int) - 53
  let scaled := num * twoTo (-guess).toNat / (den * twoTo guess.toNat)
  max (if mantissaBound ≤ scaled then guess + 1 else guess) leastExponent

/-- The number nearest to `num / den`; too large a quotient gives infinity. -/
def ofRatio (negative : Bool) (num den : Nat) : Double :=
  if num = 0 then .finite negative 0 leastExponent
  else
    let exponent := exponentOf num den
    let mantissa := roundHalfEven (num * twoTo (-exponent).toNat) (den * twoTo exponent.toNat)
    let carried := mantissa = mantissaBound
    let exponent := if carried then exponent + 1 else exponent
    let mantissa := if carried then mantissaBound / 2 else mantissa
    if greatestExponent < exponent then .infinite negative else .finite negative mantissa exponent

/-- The number nearest to a numeral.  Powers of ten far outside the format are not computed. -/
def ofNumeral (n : Numeral) : Double :=
  let magnitude : Int := Text.digitCount n.coefficient + n.exponent
  if n.coefficient = 0 || magnitude < -400 then .finite n.negative 0 leastExponent
  else if 400 < magnitude then .infinite n.negative
  else ofRatio n.negative (n.coefficient * tenTo n.exponent.toNat) (tenTo (-n.exponent).toNat)

def ofInt (n : Int) : Double :=
  ofRatio (n < 0) n.natAbs 1

/-- Whether a character may stand around a number: the blanks but for the information separators. -/
def isMargin (c : Char) : Bool :=
  Text.isBlank c && !(0x1c ≤ c.toNat && c.toNat ≤ 0x1f)

/-- Whether every underscore stands between two digits.  The flag tells whether a digit came just
before. -/
def underscoresDivide : Bool → List Char → Bool
  | _, [] => true
  | afterDigit, c :: rest =>
      if c == '_' then afterDigit && rest.head?.any Text.isAsciiDigit && underscoresDivide false rest
      else underscoresDivide (Text.isAsciiDigit c) rest

/-- Reads a numeral, or in any case of letters the name of a number that no numeral writes.  Digits
may be of any script and have underscores between them, and blanks may stand around the number. -/
def ofText? (text : String) : Option Double :=
  let chars := (Text.trimBy isMargin text.toList).map Text.asciiDigit
  let (negative, rest) := Numeral.readSign chars
  let word := String.ofList (rest.map Char.toLower)
  if word == "inf" || word == "infinity" then some (.infinite negative)
  else if word == "nan" then some .nan
  else if underscoresDivide false rest then
    (Numeral.readUnsigned negative (rest.filter (· != '_'))).map ofNumeral
  else none

/-- The magnitude of a finite number as an exact quotient. -/
def ratio (mantissa : Nat) (exponent : Int) : Nat × Nat :=
  (mantissa * twoTo exponent.toNat, twoTo (-exponent).toNat)

/-- The integer a number is equal to, if there is one. -/
def toInt? : Double → Option Int
  | .finite negative mantissa exponent =>
      let (num, den) := ratio mantissa exponent
      if num % den = 0 then some (if negative then -((num / den : Nat) : Int) else (num / den : Nat))
      else none
  | _ => none

def isZero : Double → Bool
  | .finite _ mantissa _ => mantissa == 0
  | _ => false

end Double

end Phrasebook.Number
