import Phrasebook.Number.Double

/-!
The shortest decimal text of a binary floating-point number: the fewest digits that read back as the
number, and among texts of that length the nearest to it.

The reals that read back as a finite number form an interval around it.  `shortest` tries decimal
grids of one, two, … seventeen digits; on each grid only the two neighbours of the number can lie in
the interval when any point of the grid does.
-/

namespace Phrasebook.Number

/-- The reals that round to a number: from `low / unit` to `high / unit` around `mid / unit`, with
the ends when `closed`. -/
structure RoundingInterval where
  low : Nat
  mid : Nat
  high : Nat
  unit : Nat
  closed : Bool

namespace RoundingInterval

/-- Below a power of two the numbers lie twice as dense as above it.  A tie goes to the even
mantissa, so the ends belong to the interval of an even one. -/
def around (mantissa : Nat) (exponent : Int) : RoundingInterval :=
  let step := twoTo exponent.toNat
  let denser := mantissa = Double.mantissaBound / 2 ∧ Double.leastExponent < exponent
  { low := (4 * mantissa - if denser then 1 else 2) * step
    mid := 4 * mantissa * step
    high := (4 * mantissa + 2) * step
    unit := 4 * twoTo (-exponent).toNat
    closed := mantissa % 2 = 0 }

/-- Whether `point · 10 ^ exponent` rounds to the number. -/
def holds (interval : RoundingInterval) (point : Nat) (exponent : Int) : Bool :=
  let position := point * interval.unit * tenTo exponent.toNat
  let scale := tenTo (-exponent).toNat
  if interval.closed then interval.low * scale ≤ position && position ≤ interval.high * scale
  else interval.low * scale < position && position < interval.high * scale

/-- The power of ten of the number's leading digit. -/
def magnitude (interval : RoundingInterval) : Int :=
  if interval.unit ≤ interval.mid then (Text.digitCount (interval.mid / interval.unit) : Int) - 1
  else -(Text.digitCount ((interval.unit - 1) / interval.mid) : Int)

/-- The nearest point of the grid of `count` digits that rounds to the number. -/
def onGrid (interval : RoundingInterval) (count : Nat) : Option (Nat × Int) :=
  let exponent := interval.magnitude - ((count : Int) - 1)
  let num := interval.mid * tenTo (-exponent).toNat
  let den := interval.unit * tenTo exponent.toNat
  let below := num / den
  match interval.holds below exponent, interval.holds (below + 1) exponent with
  | true, true => some (roundHalfEven num den, exponent)
  | true, false => some (below, exponent)
  | false, true => some (below + 1, exponent)
  | false, false => none

end RoundingInterval

/-- Digits and exponent of the shortest decimal that reads back as a positive number.  Seventeen
digits always suffice.  Only ten units of the first grid end in a zero, which is not written. -/
def shortest (mantissa : Nat) (exponent : Int) : Nat × Int :=
  let interval := RoundingInterval.around mantissa exponent
  let (digits, power) :=
    ((List.range 17).findSome? fun fewer => interval.onGrid (fewer + 1)).getD (mantissa, exponent)
  if digits = 10 then (1, power + 1) else (digits, power)

namespace Double

/-- How floating-point numbers are written: positional from the first power of ten up to the second,
otherwise with an exponent of at least so many digits. -/
structure Style where
  positionalFrom : Int
  positionalBelow : Int
  exponentWidth : Nat

def style : Style := ⟨-4, 16, 2⟩

/-- Digits and exponent as text; a positional number keeps a digit after its point. -/
def writeDigits (digits : List Char) (exponent : Int) : String :=
  let magnitude := exponent + digits.length - 1
  if style.positionalFrom ≤ magnitude ∧ magnitude < style.positionalBelow then
    if 0 ≤ exponent then
      String.ofList (digits ++ List.replicate exponent.toNat '0') ++ ".0"
    else if 0 ≤ magnitude then
      String.ofList (digits.take (magnitude.toNat + 1)) ++ "."
        ++ String.ofList (digits.drop (magnitude.toNat + 1))
    else "0." ++ String.ofList (List.replicate (-magnitude - 1).toNat '0' ++ digits)
  else
    let fraction := digits.drop 1
    String.ofList (digits.take 1) ++ (if fraction.isEmpty then "" else "." ++ String.ofList fraction)
      ++ "e" ++ (if magnitude < 0 then "-" else "+")
      ++ Text.padded style.exponentWidth magnitude.natAbs

def finiteText (negative : Bool) (mantissa : Nat) (exponent : Int) : String :=
  let body :=
    if mantissa = 0 then "0.0"
    else
      let (digits, power) := shortest mantissa exponent
      writeDigits (Nat.toDigits 10 digits) power
  if negative then "-" ++ body else body

def text : Double → String
  | .nan => "nan"
  | .infinite negative => if negative then "-inf" else "inf"
  | .finite negative mantissa exponent => finiteText negative mantissa exponent

end Double

end Phrasebook.Number
