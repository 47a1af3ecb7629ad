/-!
Sets of characters, given as the tables of the Unicode Character Database give them: by inclusive
ranges of code points.
-/

namespace Phrasebook.Text

/-- A set of characters as inclusive ranges of code points. -/
structure CharSet where
  ranges : List (Nat × Nat)

namespace CharSet

def contains (set : CharSet) (c : Char) : Bool :=
  set.ranges.any fun range => range.1 ≤ c.toNat && c.toNat ≤ range.2

end CharSet

end Phrasebook.Text
