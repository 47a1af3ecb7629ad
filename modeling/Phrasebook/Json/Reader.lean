import Phrasebook.Json.Basic
import Phrasebook.Text.Digit

/-!
Reading JSON text.  Each reader takes the characters in front of it and returns what it read together
with the characters that follow.  A number without fraction and exponent is an integer of any size.
The words that the writer uses for numbers without a JSON text are read too.
-/

namespace Phrasebook.Json

open Number Text

def isSpace (c : Char) : Bool :=
  c == ' ' || c == '\n' || c == '\t' || c == '\r'

def skipSpace (chars : List Char) : List Char :=
  chars.dropWhile isSpace

/-- The character that a single-letter escape stands for. -/
def unescape? (c : Char) : Option Char :=
  if c == '"' || c == '\\' || c == '/' then some c
  else if c == 'n' then some '\n'
  else if c == 'r' then some '\r'
  else if c == 't' then some '\t'
  else if c == 'b' then some '\x08'
  else if c == 'f' then some '\x0c'
  else none

/-- The code unit that four hexadecimal digits write. -/
def unit? (a b c d : Char) : Option Nat := do
  let a ← hexValue? a
  let b ← hexValue? b
  let c ← hexValue? c
  let d ← hexValue? d
  pure (((a * 16 + b) * 16 + c) * 16 + d)

/-- The character of a code point that is not a surrogate. -/
def scalar? (n : Nat) : Option Char :=
  if n.isValidChar then some (Char.ofNat n) else none

/-- The character beyond U+FFFF that two surrogates write. -/
def pair? (high low : Nat) : Option Char :=
  if 0xD800 ≤ high && high < 0xDC00 && 0xDC00 ≤ low && low < 0xE000 then
    scalar? (0x10000 + (high - 0xD800) * 0x400 + (low - 0xDC00))
  else none

/-- Reads a string whose opening quotation mark is already taken. -/
def readString : List Char → Option (List Char × List Char)
  | [] => none
  | '"' :: rest => some ([], rest)
  | '\\' :: 'u' :: a :: b :: c :: d :: rest =>
      match (unit? a b c d).bind scalar? with
      | some char => (readString rest).map fun (text, after) => (char :: text, after)
      | none =>
          match rest with
          | '\\' :: 'u' :: e :: f :: g :: h :: after =>
              match (unit? a b c d).bind fun high => (unit? e f g h).bind (pair? high) with
              | some char => (readString after).map fun (text, after) => (char :: text, after)
              | none => none
          | _ => none
  | '\\' :: escape :: rest =>
      match unescape? escape with
      | some char => (readString rest).map fun (text, after) => (char :: text, after)
      | none => none
  | char :: rest =>
      if char.toNat < 0x20 || char == '\\' then none
      else (readString rest).map fun (text, after) => (char :: text, after)

/-- The digits of a whole number: no zero stands in front of another digit. -/
def wholeDigits? (chars : List Char) : Option (List Char × List Char) :=
  let digits := chars.takeWhile isAsciiDigit
  if digits.isEmpty || (digits.head? == some '0' && digits.length != 1) then none
  else some (digits, chars.dropWhile isAsciiDigit)

/-- The digits after a point, when a point stands there. -/
def fractionDigits? : List Char → Option (List Char × List Char)
  | '.' :: rest =>
      let digits := rest.takeWhile isAsciiDigit
      if digits.isEmpty then none else some (digits, rest.dropWhile isAsciiDigit)
  | chars => some ([], chars)

/-- The exponent, when the letter for it stands there. -/
def exponent? (chars : List Char) : Option (Option Int × List Char) :=
  match chars with
  | mark :: rest =>
      if mark == 'e' || mark == 'E' then
        let (negative, after) := Numeral.readSign rest
        let digits := after.takeWhile isAsciiDigit
        if digits.isEmpty then none
        else
          let size : Int := readDigits digits
          some (some (if negative then -size else size), after.dropWhile isAsciiDigit)
      else some (none, chars)
  | [] => some (none, [])

def readNumber (negative : Bool) (chars : List Char) : Option (Json × List Char) := do
  let (whole, rest) ← wholeDigits? chars
  let (fraction, rest) ← fractionDigits? rest
  let (exponent, rest) ← exponent? rest
  if fraction.isEmpty && exponent.isNone then
    let size : Int := readDigits whole
    pure (.int (if negative then -size else size), rest)
  else
    let power := exponent.getD 0 - fraction.length
    pure (.float (Double.ofNumeral ⟨negative, readDigits (whole ++ fraction), power⟩), rest)

/-- Reads a value that is neither a string, an array nor an object. -/
def readScalar : List Char → Option (Json × List Char)
  | 'n' :: 'u' :: 'l' :: 'l' :: rest => some (.null, rest)
  | 't' :: 'r' :: 'u' :: 'e' :: rest => some (.bool true, rest)
  | 'f' :: 'a' :: 'l' :: 's' :: 'e' :: rest => some (.bool false, rest)
  | 'N' :: 'a' :: 'N' :: rest => some (.float .nan, rest)
  | 'I' :: 'n' :: 'f' :: 'i' :: 'n' :: 'i' :: 't' :: 'y' :: rest =>
      some (.float (.infinite false), rest)
  | '-' :: 'I' :: 'n' :: 'f' :: 'i' :: 'n' :: 'i' :: 't' :: 'y' :: rest =>
      some (.float (.infinite true), rest)
  | '-' :: rest => readNumber true rest
  | chars => readNumber false chars

/-- Reads the name of a member and the colon after it. -/
def readName : List Char → Option (String × List Char)
  | '"' :: rest => do
      let (name, rest) ← readString rest
      match skipSpace rest with
      | ':' :: rest => pure (String.ofList name, rest)
      | _ => none
  | _ => none

mutual

/-- Reads one value.  The first argument bounds the steps and is spent one at a time. -/
def readValue : Nat → List Char → Option (Json × List Char)
  | 0, _ => none
  | steps + 1, chars =>
      match skipSpace chars with
      | '"' :: rest => do
          let (text, rest) ← readString rest
          pure (.str (String.ofList text), rest)
      | '[' :: rest => do
          let (items, rest) ← readItems steps rest
          pure (.arr items, rest)
      | '{' :: rest => do
          let (members, rest) ← readMembers steps rest
          pure (.obj members, rest)
      | rest => readScalar rest

/-- Reads the items of an array after its opening bracket, with the closing one. -/
def readItems : Nat → List Char → Option (List Json × List Char)
  | 0, _ => none
  | steps + 1, chars =>
      match skipSpace chars with
      | ']' :: rest => some ([], rest)
      | rest => do
          let (item, rest) ← readValue steps rest
          let (items, rest) ← readItemTail steps rest
          pure (item :: items, rest)

def readItemTail : Nat → List Char → Option (List Json × List Char)
  | 0, _ => none
  | steps + 1, chars =>
      match skipSpace chars with
      | ']' :: rest => some ([], rest)
      | ',' :: rest => do
          let (item, rest) ← readValue steps rest
          let (items, rest) ← readItemTail steps rest
          pure (item :: items, rest)
      | _ => none

/-- Reads the members of an object after its opening brace, with the closing one. -/
def readMembers : Nat → List Char → Option (List (String × Json) × List Char)
  | 0, _ => none
  | steps + 1, chars =>
      match skipSpace chars with
      | '}' :: rest => some ([], rest)
      | rest => do
          let (name, rest) ← readName rest
          let (value, rest) ← readValue steps rest
          let (members, rest) ← readMemberTail steps rest
          pure ((name, value) :: members, rest)

def readMemberTail : Nat → List Char → Option (List (String × Json) × List Char)
  | 0, _ => none
  | steps + 1, chars =>
      match skipSpace chars with
      | '}' :: rest => some ([], rest)
      | ',' :: rest => do
          let (name, rest) ← readName (skipSpace rest)
          let (value, rest) ← readValue steps rest
          let (members, rest) ← readMemberTail steps rest
          pure ((name, value) :: members, rest)
      | _ => none

end

/-- Reads a text that holds one value and nothing else but blanks.  Every two steps take a character,
so twice the length of the text is enough of them. -/
def read? (text : String) : Option Json :=
  let chars := text.toList
  match readValue (2 * chars.length + 2) chars with
  | some (json, rest) => if (skipSpace rest).isEmpty then some json else none
  | none => none

end Phrasebook.Json
