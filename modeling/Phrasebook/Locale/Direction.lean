import Phrasebook.Locale.Tag

/-!
The writing direction of locales.  A locale is written from right to left when its tag, spelt with
hyphens, starts in one of the ways of a table; the language `ks` is told apart from three languages
with longer codes by the letter that follows.
-/

namespace Phrasebook.Locale

structure TagStart where
  letters : String
  /-- The characters that may not follow. -/
  except : String

namespace TagStart

def spelling (start : TagStart) : String :=
  if start.except.isEmpty then start.letters
  else start.letters ++ "($|[^" ++ start.except ++ "])"

def holds (start : TagStart) (tag : List Char) : Bool :=
  let letters := start.letters.toList
  letters.isPrefixOf tag &&
    ((tag.drop letters.length).head?.all fun next => !start.except.toList.contains next)

end TagStart

/-- The version of the locale data that the table was taken from. -/
def directionDataVersion : String := "CLDR 27-28"

def rightToLeftStarts : List TagStart := [
  ⟨"ar", ""⟩, ⟨"ckb", ""⟩, ⟨"fa", ""⟩, ⟨"he", ""⟩, ⟨"ks", "bfh"⟩, ⟨"lrc", ""⟩, ⟨"mzn", ""⟩,
  ⟨"pa-Arab", ""⟩, ⟨"ps", ""⟩, ⟨"ug", ""⟩, ⟨"ur", ""⟩, ⟨"uz-Arab", ""⟩, ⟨"yi", ""⟩]

def isRightToLeft (tag : String) : Bool :=
  rightToLeftStarts.any (·.holds (withHyphens tag).toList)

def rightToLeftMark : String := "\u200f"

def leftToRightMark : String := "\u200e"

/-- The mark that sets text apart in a message of this locale.  Without a locale the text runs from
left to right. -/
def directionMark (locale : Option String) : String :=
  if locale.any fun tag => !tag.isEmpty && isRightToLeft tag then rightToLeftMark
  else leftToRightMark

end Phrasebook.Locale
