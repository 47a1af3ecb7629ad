import Phrasebook.Text.Digit

/-!
Numerals: a sign, a whole coefficient and a power of ten, as a reader finds them in text.  Every
numeral has one exact value, and the numbers of this library are read from it.
-/

namespace Phrasebook.Number

/-- The number `coefficient · 10 ^ exponent`, negated when `negative`. -/
structure Numeral where
  negative : Bool
  coefficient : Nat
  exponent : Int
deriving DecidableEq, Repr

/-- The quotient of two naturals as the nearest integer; a half goes to the even neighbour. -/
def roundHalfEven (num den : Nat) : Nat :=
  let quotient := num / den
  let rest := num % den
  if 2 * rest < den then quotient
  else if den < 2 * rest then quotient + 1
  else quotient + quotient % 2

namespace Numeral

open Text

/-- A sign in front of a text, and what follows it. -/
def readSign : List Char → Bool × List Char
  | '+' :: rest => (false, rest)
  | '-' :: rest => (true, rest)
  | chars => (false, chars)

/-- The exponent part `e12`, `E+3` or `e-4` that ends a numeral; no text means zero. -/
def readExponent : List Char → Option Int
  | [] => some 0
  | mark :: rest =>
      if mark == 'e' || mark == 'E' then
        let (negative, digits) := readSign rest
        if digits.isEmpty || !digits.all isAsciiDigit then none
        else some (if negative then -(readDigits digits : Int) else readDigits digits)
      else none

/-- Reads an unsigned numeral: digits with at most one point among or beside them, then an exponent.
At least one digit is needed. -/
def readUnsigned (negative : Bool) (chars : List Char) : Option Numeral :=
  let whole := chars.takeWhile isAsciiDigit
  let rest := chars.dropWhile isAsciiDigit
  let (fraction, tail) :=
    match rest with
    | '.' :: after => (after.takeWhile isAsciiDigit, after.dropWhile isAsciiDigit)
    | _ => ([], rest)
  if whole.isEmpty && fraction.isEmpty then none
  else (readExponent tail).map fun exponent =>
    ⟨negative, readDigits (whole ++ fraction), exponent - fraction.length⟩

def ofChars? (chars : List Char) : Option Numeral :=
  let (negative, rest) := readSign chars
  readUnsigned negative rest

end Numeral

end Phrasebook.Number
