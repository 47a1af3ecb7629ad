import Phrasebook.Text.Printable
import Phrasebook.Text.Digit

/-!
Quoted text as diagnostics show it.  The mark is a single quote, unless the text has a single quote
and no double quote.  The mark and the backslash are escaped, and so is every unprintable character,
by its code point.
-/

namespace Phrasebook.Text

def quoteMark (chars : List Char) : Char :=
  if chars.contains '\'' && !chars.contains '"' then '"' else '\''

def escapeQuoted (mark c : Char) : List Char :=
  if c == mark || c == '\\' then ['\\', c]
  else if c == '\n' then ['\\', 'n']
  else if c == '\r' then ['\\', 'r']
  else if c == '\t' then ['\\', 't']
  else if isPrintable c then [c]
  else if c.toNat < 0x100 then '\\' :: 'x' :: hexDigits 2 c.toNat
  else if c.toNat < 0x10000 then '\\' :: 'u' :: hexDigits 4 c.toNat
  else '\\' :: 'U' :: hexDigits 8 c.toNat

def quotedChars (chars : List Char) : List Char :=
  let mark := quoteMark chars
  mark :: chars.flatMap (escapeQuoted mark) ++ [mark]

/-- The text between quotation marks, with what cannot be printed escaped. -/
def quoted (text : String) : String :=
  String.ofList (quotedChars text.toList)

end Phrasebook.Text
