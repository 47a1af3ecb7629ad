import Phrasebook.Json.Basic
import Phrasebook.Number.Shortest

/-!
The text of a JSON value.  Characters beyond ASCII stand for themselves; a quotation mark, a
backslash and the control characters below U+0020 are escaped.  Numbers that JSON has no text for
are written as the words `NaN`, `Infinity` and `-Infinity`.
-/

namespace Phrasebook.Json

open Number

/-- What stands between items and between a name and its value. -/
structure Layout where
  comma : List Char
  colon : List Char

/-- No blanks at all. -/
def Layout.compact : Layout := ⟨[','], [':']⟩

/-- One blank after each comma and colon. -/
def Layout.spaced : Layout := ⟨[',', ' '], [':', ' ']⟩

def escapeChar (c : Char) : List Char :=
  if c == '"' then ['\\', '"']
  else if c == '\\' then ['\\', '\\']
  else if c == '\n' then ['\\', 'n']
  else if c == '\r' then ['\\', 'r']
  else if c == '\t' then ['\\', 't']
  else if c == '\x08' then ['\\', 'b']
  else if c == '\x0c' then ['\\', 'f']
  else if c.toNat < 0x20 then '\\' :: 'u' :: Text.hexDigits 4 c.toNat
  else [c]

def stringChars (text : List Char) : List Char :=
  '"' :: (text.flatMap escapeChar ++ ['"'])

/-- Integers of any size are written out.  An interpreter may refuse to write one of thousands of
digits; there is no such limit here. -/
def intChars (n : Int) : List Char :=
  if n < 0 then '-' :: Nat.toDigits 10 n.natAbs else Nat.toDigits 10 n.natAbs

def boolChars : Bool → List Char
  | true => ['t', 'r', 'u', 'e']
  | false => ['f', 'a', 'l', 's', 'e']

def nullChars : List Char := ['n', 'u', 'l', 'l']

def floatText : Double → String
  | .nan => "NaN"
  | .infinite negative => if negative then "-Infinity" else "Infinity"
  | .finite negative mantissa exponent => Double.finiteText negative mantissa exponent

mutual

def chars (layout : Layout) : Json → List Char
  | .null => nullChars
  | .bool value => boolChars value
  | .int value => intChars value
  | .float value => (floatText value).toList
  | .str text => stringChars text.toList
  | .arr items => '[' :: (itemChars layout items ++ [']'])
  | .obj members => '{' :: (memberChars layout members ++ ['}'])

def itemChars (layout : Layout) : List Json → List Char
  | [] => []
  | item :: rest => chars layout item ++ itemTailChars layout rest

def itemTailChars (layout : Layout) : List Json → List Char
  | [] => []
  | item :: rest => layout.comma ++ (chars layout item ++ itemTailChars layout rest)

def memberChars (layout : Layout) : List (String × Json) → List Char
  | [] => []
  | (name, value) :: rest =>
      stringChars name.toList ++ (layout.colon ++ (chars layout value ++ memberTailChars layout rest))

def memberTailChars (layout : Layout) : List (String × Json) → List Char
  | [] => []
  | (name, value) :: rest =>
      layout.comma ++ (stringChars name.toList ++
        (layout.colon ++ (chars layout value ++ memberTailChars layout rest)))

end

def write (layout : Layout) (json : Json) : String :=
  String.ofList (json.chars layout)

end Phrasebook.Json
