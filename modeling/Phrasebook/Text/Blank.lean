import Phrasebook.Text.CharSet

/-!
Blank characters and the text between them.  Blank are the characters of the Unicode property
`White_Space` together with the four information separators U+001C to U+001F; zero-width
characters are not blank.
-/

namespace Phrasebook.Text

def blanks : CharSet :=
  ⟨[(0x9, 0xd), (0x1c, 0x20), (0x85, 0x85), (0xa0, 0xa0), (0x1680, 0x1680), (0x2000, 0x200a),
    (0x2028, 0x2029), (0x202f, 0x202f), (0x205f, 0x205f), (0x3000, 0x3000)]⟩

def isBlank (c : Char) : Bool :=
  blanks.contains c

/-- The text without the characters of a class at its two ends. -/
def trimBy (isMargin : Char → Bool) (chars : List Char) : List Char :=
  ((chars.dropWhile isMargin).reverse.dropWhile isMargin).reverse

/-- The text without the blank characters at its two ends. -/
def trimChars (chars : List Char) : List Char :=
  trimBy isBlank chars

def trim (text : String) : String :=
  String.ofList (trimChars text.toList)

end Phrasebook.Text
