import Phrasebook.Number.Double

/-!
Decimal numbers with a sign, a coefficient and a power of ten, as the decimal arithmetic
specification has them.  Reading a text is exact; arithmetic keeps `precision` significant digits
and rounds a half to the even neighbour.
-/

namespace Phrasebook.Number

/-- A decimal number.  Not-a-number carries a sign and diagnostic digits, and may be signalling, in
which case every operation refuses it. -/
inductive Decimal where
  | finite (negative : Bool) (coefficient : Nat) (exponent : Int)
  | infinite (negative : Bool)
  | nan (negative : Bool) (signalling : Bool) (payload : Nat)
deriving DecidableEq, Repr

namespace Decimal

open Text

def precision : Nat := 28

/-- The power of ten of the leading digit of the largest result. -/
def greatestMagnitude : Int := 999999

/-- The power of ten of the leading digit of the largest number that can be read. -/
def greatestReadable : Int := 999999999999999999

/-- The least power of ten of the last digit of a number that can be read. -/
def leastReadable : Int := -1999999999999999997

/-- The power of ten of the leading digit; zero has one digit. -/
def leadingPower (coefficient : Nat) (exponent : Int) : Int :=
  exponent + (max 1 (Text.digitCount coefficient) : Nat) - 1

inductive Refusal where
  | invalid
  | overflow
deriving DecidableEq, Repr

/-- ASCII form of a numeral's text: digits of every script become ASCII digits, and underscores are
dropped. -/
def plainDigits (chars : List Char) : List Char :=
  (chars.filter (· != '_')).map asciiDigit

/-- The digits that may follow the word for not-a-number. -/
def readPayload? (chars : List Char) : Option Nat :=
  if chars.all isAsciiDigit then some (readDigits chars) else none

/-- What a text says once a word for a number stands at its head, in any case of letters. -/
def afterWord? (word : String) (chars : List Char) : Option (List Char) :=
  let size := word.length
  if (chars.take size).map Char.toLower == word.toList then some (chars.drop size) else none

def readSpecial? (negative : Bool) (chars : List Char) : Option Decimal :=
  if (afterWord? "infinity" chars) == some [] || (afterWord? "inf" chars) == some [] then
    some (.infinite negative)
  else
    match afterWord? "nan" chars, afterWord? "snan" chars with
    | some rest, _ => (readPayload? rest).map (.nan negative false)
    | none, some rest => (readPayload? rest).map (.nan negative true)
    | none, none => none

/-- Reads a decimal number between blanks; a finite one exactly, or not at all. -/
def ofText? (text : String) : Option Decimal :=
  let (negative, rest) := Numeral.readSign (plainDigits (trimChars text.toList))
  match Numeral.readUnsigned negative rest with
  | some n =>
      if n.exponent < leastReadable || greatestReadable < leadingPower n.coefficient n.exponent then
        none
      else some (.finite negative n.coefficient n.exponent)
  | none => readSpecial? negative rest

def ofInt (n : Int) : Decimal :=
  .finite (n < 0) n.natAbs 0

/-- The text of a coefficient and exponent: positional unless the exponent is positive or the
leading digit stands more than six places after the point. -/
def finiteText (coefficient : Nat) (exponent : Int) : String :=
  let digits := Nat.toDigits 10 coefficient
  let left : Int := exponent + digits.length
  let point := if exponent ≤ 0 ∧ -6 < left then left else 1
  let body :=
    if point ≤ 0 then "0." ++ String.ofList (List.replicate (-point).toNat '0' ++ digits)
    else if digits.length ≤ point.toNat then
      String.ofList (digits ++ List.replicate (point.toNat - digits.length) '0')
    else String.ofList (digits.take point.toNat) ++ "." ++ String.ofList (digits.drop point.toNat)
  if left = point then body
  else body ++ "E" ++ (if left < point then "-" else "+") ++ toString (left - point).natAbs

/-- The text of a number; one that is finite reads back as the same sign, coefficient and
exponent. -/
def text : Decimal → String
  | .finite negative coefficient exponent => sign negative ++ finiteText coefficient exponent
  | .infinite negative => sign negative ++ "Infinity"
  | .nan negative signalling payload =>
      sign negative ++ (if signalling then "sNaN" else "NaN")
        ++ (if payload = 0 then "" else toString payload)
where
  sign (negative : Bool) : String := if negative then "-" else ""

def isNegative : Decimal → Bool
  | .finite negative _ _ | .infinite negative | .nan negative _ _ => negative

def isZero : Decimal → Bool
  | .finite _ coefficient _ => coefficient == 0
  | _ => false

/-- The coefficient without its last digits, rounded; a number far below the last place kept is
zero without computing the power of ten. -/
def dropDigits (coefficient count : Nat) : Nat :=
  if digitCount coefficient + 1 < count then 0 else roundHalfEven coefficient (tenTo count)

/-- A number rounded to the precision of results.  Of the diagnostic digits of not-a-number the last
ones are kept. -/
def rounded : Decimal → Except Refusal Decimal
  | .finite negative coefficient exponent => do
      let surplus := digitCount coefficient - precision
      let kept := dropDigits coefficient surplus
      let carry : Nat := if precision < digitCount kept then 1 else 0
      let kept := kept / tenTo carry
      let power := exponent + surplus + carry
      if kept ≠ 0 ∧ greatestMagnitude < leadingPower kept power then throw .overflow
      else pure (.finite negative kept power)
  | .nan negative signalling payload =>
      if signalling then throw .invalid
      else pure (.nan negative false (payload % tenTo precision))
  | .infinite negative => pure (.infinite negative)

def scaled (n : Decimal) (power : Int) : Except Refusal Decimal :=
  match n with
  | .finite negative coefficient exponent => rounded (.finite negative coefficient (exponent + power))
  | other => rounded other

/-- The coefficient and exponent of equal value with no zero at the end. -/
def stripZeros (coefficient : Nat) (exponent : Int) : Nat × Int :=
  if coefficient = 0 then (0, 0)
  else
    let zeros := ((Nat.toDigits 10 coefficient).reverse.takeWhile (· == '0')).length
    (coefficient / tenTo zeros, exponent + zeros)

/-- The magnitude of a number in its shortest form.  Not-a-number keeps its sign. -/
def magnitude (n : Decimal) : Except Refusal Decimal := do
  match ← rounded n with
  | .finite _ coefficient exponent =>
      let (coefficient, exponent) := stripZeros coefficient exponent
      pure (.finite false coefficient exponent)
  | .infinite _ => pure (.infinite false)
  | other => pure other

/-- A coefficient scaled to exactly so many places after the point; refused when that takes more
digits than results keep. -/
def atPlaces (coefficient : Nat) (exponent : Int) (places : Nat) : Except Refusal Nat :=
  let shift := exponent + places
  if 0 ≤ shift then
    if coefficient = 0 then pure 0
    else if precision < digitCount coefficient + shift.toNat then throw .invalid
    else pure (coefficient * tenTo shift.toNat)
  else
    let kept := dropDigits coefficient (-shift).toNat
    if precision < digitCount kept then throw .invalid else pure kept

/-- The form that numbers of equal value share, however they were written. -/
structure Exact where
  negative : Bool
  coefficient : Nat
  exponent : Int
deriving DecidableEq

def exact (negative : Bool) (coefficient : Nat) (exponent : Int) : Exact :=
  let (coefficient, exponent) := stripZeros coefficient exponent
  ⟨negative && coefficient != 0, coefficient, exponent⟩

end Decimal

/-- Every finite binary number is a decimal number too: `2 ^ -k` is `5 ^ k · 10 ^ -k`. -/
def Double.exact (negative : Bool) (mantissa : Nat) (exponent : Int) : Decimal.Exact :=
  let down := (-exponent).toNat
  Decimal.exact negative (mantissa * twoTo exponent.toNat * Nat.pow 5 down) (-(down : Int))

end Phrasebook.Number
