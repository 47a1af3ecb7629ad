import Phrasebook.Locale.Identifier

/-!
The conventions by which a locale writes numbers, dates and times: patterns in the syntax of the
Unicode Common Locale Data Repository, and the words and marks that fill them.  Like the patterns
themselves they belong to a locale library, and are outside what is proved.
-/

namespace Phrasebook

/-- The widths in which dates and times are written. -/
inductive Width where
  | short
  | medium
  | long
  | full
deriving DecidableEq, Repr

/-- One pattern for each width. -/
structure WidthPatterns where
  short : String
  medium : String
  long : String
  full : String

def WidthPatterns.get (patterns : WidthPatterns) : Width → String
  | .short => patterns.short
  | .medium => patterns.medium
  | .long => patterns.long
  | .full => patterns.full

structure Conventions where
  decimalPattern : String
  percentPattern : String
  currencyPattern : String
  decimalMark : String
  groupMark : String
  currencySymbols : List (String × String)
  datePatterns : WidthPatterns
  timePatterns : WidthPatterns
  shortMonths : List String
  months : List String
  /-- From Monday on. -/
  weekdays : List String
  /-- The halves of the day, where times are written with them. -/
  dayHalves : List String
  universalTimeShort : String
  universalTime : String
  /-- What stands before and after an offset from universal time. -/
  offsetAround : String × String

/-- The sign of a currency; a code without one stands for itself. -/
def Conventions.currencySymbol (conventions : Conventions) (code : String) : String :=
  (conventions.currencySymbols.lookup code).getD code

/-- The digits after the point in amounts of a currency. -/
def currencyDigits (code : String) : Nat :=
  if code == "JPY" then 0 else if code == "KWD" then 3 else 2

end Phrasebook
