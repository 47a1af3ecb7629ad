import Phrasebook.Json.Writer
import Phrasebook.Target.Reserved
import Phrasebook.Text.Blank
import Phrasebook.Text.Letter

/-!
Names in emitted source.  A property name stands bare when it is an ASCII identifier and not a
reserved word, and as a JSON string otherwise.  A function name is made from any text: runs of
characters that no identifier may hold become one underscore, and an underscore goes in front of a
digit and of a reserved word.
-/

namespace Phrasebook.Target

open Text

def isIdentifierStart (c : Char) : Bool :=
  isAsciiLetter c || c == '_' || c == '$'

def isIdentifierChar (c : Char) : Bool :=
  isIdentifierStart c || isAsciiDigit c

def isIdentifier : List Char → Bool
  | [] => false
  | first :: rest => isIdentifierStart first && rest.all isIdentifierChar

/-- Whether a property name needs no quotation marks. -/
def isBareProperty (key : String) : Bool :=
  isIdentifier key.toList && !reservedProperties.contains key

/-- A key in front of its value in an object literal. -/
def propertyChars (key : String) : List Char :=
  if isBareProperty key then key.toList else Json.stringChars key.toList

/-- A member read from a receiver. -/
def memberChars (receiver : List Char) (key : String) : List Char :=
  if isBareProperty key then receiver ++ '.' :: key.toList
  else receiver ++ '[' :: (Json.stringChars key.toList ++ [']'])

/-- A property name, after its receiver if there is one. -/
def propertyName (key : String) (receiver : Option String) : String :=
  match receiver.filter (!·.isEmpty) with
  | some receiver => String.ofList (memberChars receiver.toList key)
  | none => String.ofList (propertyChars key)

def isWordChar (c : Char) : Bool :=
  isAsciiLetter c || isAsciiDigit c || c == '_'

/-- The text with one underscore for each run of other characters.  The flag tells whether the
character before belongs to such a run. -/
def wordChars : Bool → List Char → List Char
  | _, [] => []
  | inRun, c :: rest =>
      if isWordChar c then c :: wordChars false rest
      else if inRun then wordChars true rest
      else '_' :: wordChars true rest

/-- The name of a function made from a text. -/
def functionName (key : String) : String :=
  let word := String.ofList (wordChars false (trimChars key.toList))
  if reservedFunctions.contains word || (word.toList.head?.any isAsciiDigit) then "_" ++ word
  else word

end Phrasebook.Target
