import Phrasebook.Text.Digit
import Phrasebook.Text.Letter

/-!
Locale identifiers: a language, and after underscores a script, a territory and a variant, each
optional; a modifier may follow an at sign.  An encoding name after a point is passed by.

Case is brought to the usual form of each subtag.  Case mappings are those of Unicode where the
result matters: a mapping that leaves ASCII cannot name a locale, so such characters stay.

Identifiers are those of a locale library, as the formatters and the search for a locale need them.
Compiling works on tags (`Locale.Tag`); what is here is outside what is proved.
-/

namespace Phrasebook.Locale

open Text

structure Identifier where
  language : String
  territory : Option String := none
  script : Option String := none
  variant : Option String := none
  modifier : Option String := none
deriving DecidableEq, Repr

/-- Lower case.  The Kelvin sign is a letter k; the dotted capital I becomes two characters, the second no letter. -/
def lowerChar (c : Char) : List Char :=
  match c.toNat with
  | 0x212a => ['k']
  | 0x130 => ['i', '\u0307']
  | _ => [c.toLower]

/-- Upper case, with the ligatures taken apart. -/
def upperChar (c : Char) : List Char :=
  match c.toNat with
  | 0xdf => ['S', 'S']
  | 0x131 => ['I']
  | 0x17f => ['S']
  | 0xfb00 => ['F', 'F']
  | 0xfb01 => ['F', 'I']
  | 0xfb02 => ['F', 'L']
  | 0xfb03 => ['F', 'F', 'I']
  | 0xfb04 => ['F', 'F', 'L']
  | 0xfb05 | 0xfb06 => ['S', 'T']
  | _ => [c.toUpper]

def lower (chars : List Char) : List Char :=
  chars.flatMap lowerChar

def upper (chars : List Char) : List Char :=
  chars.flatMap upperChar

/-- The first character in upper case, all others in lower case. -/
def titleCase : List Char → List Char
  | [] => []
  | first :: rest => (upperChar first).take 1 ++ lower ((upperChar first).drop 1 ++ rest)

namespace Identifier

def splitAt (separator : Char) : List Char → List (List Char)
  | [] => [[]]
  | c :: rest =>
      match splitAt separator rest with
      | part :: parts => if c == separator then [] :: part :: parts else (c :: part) :: parts
      | [] => [[c]]

def takeScript : List (List Char) → Option String × List (List Char)
  | part :: rest =>
      if part.length = 4 && part.all isLetter then (some (String.ofList (titleCase part)), rest)
      else (none, part :: rest)
  | [] => (none, [])

def takeTerritory : List (List Char) → Option String × List (List Char)
  | part :: rest =>
      if part.length = 2 && part.all isLetter then (some (String.ofList (upper part)), rest)
      else if part.length = 3 && part.all isDigit then (some (String.ofList part), rest)
      else (none, part :: rest)
  | [] => (none, [])

/-- Whether a subtag has the form of a variant: four characters from a digit on, or five and more
from a letter on. -/
def isVariant : List Char → Bool
  | [] => false
  | first :: rest => (rest.length = 3 && isDigit first) || (4 ≤ rest.length && isLetter first)

/-- When the next subtag has the form of a variant, the last one is taken for it. -/
def takeVariant (parts : List (List Char)) : Option String × List (List Char) :=
  match parts.head?, parts.getLast? with
  | some next, some last =>
      if isVariant next then (some (String.ofList (upper last)), parts.dropLast) else (none, parts)
  | _, _ => (none, parts)

/-- Reads an identifier; nothing may be left over. -/
def ofText? (text : String) : Option Identifier :=
  let chars := text.toList
  let base := (chars.takeWhile (· != '@')).takeWhile (· != '.')
  let modifier := (chars.dropWhile (· != '@')).drop 1
  let parts := splitAt '_' base
  let language := lower (parts.headD [])
  if language.isEmpty || !language.all isLetter then none
  else
    let (script, parts) := takeScript (parts.drop 1)
    let (territory, parts) := takeTerritory parts
    let (variant, parts) := takeVariant parts
    if !parts.isEmpty then none
    else some
      { language := String.ofList language
        territory := territory
        script := script
        variant := variant
        modifier := if modifier.isEmpty then none else some (String.ofList modifier) }

def baseText (id : Identifier) : String :=
  String.intercalate "_"
    (([some id.language, id.script, id.territory, id.variant].filterMap (·)).filter (!·.isEmpty))

def text (id : Identifier) : String :=
  id.baseText ++ ((id.modifier.map ("@" ++ ·)).getD "")

end Identifier

end Phrasebook.Locale
