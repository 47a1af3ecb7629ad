/-!
Powers of the two bases in which numbers are written.
-/

namespace Phrasebook.Number

/-- `2 ^ n`. -/
def twoTo (n : Nat) : Nat := Nat.pow 2 n

/-- `10 ^ n`. -/
def tenTo (n : Nat) : Nat := Nat.pow 10 n

end Phrasebook.Number
