import Phrasebook.Fault
import Phrasebook.Value.Text

/-!
Sets of values.  A set may hold every value except lists, entries and catalogs, and parts that hold
one of these.  Numbers are the same when they are equal, whatever their types; not-a-number is
never the same as another.
-/

namespace Phrasebook.Value

open Number

mutual

/-- Whether a value may be a member of a set. -/
def isHashable : Value → Bool
  | .list _ | .map _ | .catalog _ => false
  | .decimal (.nan _ signalling _) => !signalling
  | .text value => isHashable value
  | .argument arg => isHashable arg
  | .case key body => isHashable key && areHashable body
  | .select arg cases => isHashable arg && areHashable cases
  | .plural arg cases offset => isHashable arg && areHashable cases && isHashable offset
  | .ordinal arg cases => isHashable arg && areHashable cases
  | .call key arg params => isHashable key && isHashable arg && areHashable params
  | .message tokens => areHashable tokens
  | _ => true

def areHashable : List Value → Bool
  | [] => true
  | value :: rest => isHashable value && areHashable rest

end

/-- The exact value of a finite number; truth values count as one and zero. -/
def quantity? : Value → Option Decimal.Exact
  | .bool value => some (Decimal.exact false value.toNat 0)
  | .int value => some (Decimal.exact (value < 0) value.natAbs 0)
  | .float (.finite negative mantissa exponent) => some (Double.exact negative mantissa exponent)
  | .decimal (.finite negative coefficient exponent) =>
      some (Decimal.exact negative coefficient exponent)
  | _ => none

def infinite? : Value → Option Bool
  | .float (.infinite negative) | .decimal (.infinite negative) => some negative
  | _ => none

mutual

/-- Whether two values are one member of a set. -/
def same (a b : Value) : Bool :=
  match a, b with
  | .null, .null => true
  | .str s, .str t => s == t
  | .date s, .date t => s == t
  | .moment s, .moment t => s.same t
  | .clock s, .clock t => s.same t
  | .text x, .text y => same x y
  | .argument x, .argument y => same x y
  | .octothorpe, .octothorpe => true
  | .case x xs, .case y ys => same x y && sameAll xs ys
  | .select x xs, .select y ys => same x y && sameAll xs ys
  | .plural x xs o, .plural y ys p => same x y && sameAll xs ys && same o p
  | .ordinal x xs, .ordinal y ys => same x y && sameAll xs ys
  | .call k x xs, .call l y ys => same k l && same x y && sameAll xs ys
  | .message xs, .message ys => sameAll xs ys
  | x, y =>
      match x.quantity?, y.quantity? with
      | some m, some n => m == n
      | none, none =>
          match x.infinite?, y.infinite? with
          | some m, some n => m == n
          | _, _ => false
      | _, _ => false

def sameAll : List Value → List Value → Bool
  | [], [] => true
  | x :: xs, y :: ys => same x y && sameAll xs ys
  | _, _ => false

end

/-- The set with one more member.  The member put first stays. -/
def insert (set : List Value) (value : Value) : Except Fault (List Value) :=
  if !value.isHashable then throw .unhashable
  else pure (if set.any (same · value) then set else set ++ [value])

/-- The members of a set for display: texts in order of code points, then all others in order of
their shown forms. -/
def sorted (set : List Value) : List Value :=
  let texts := set.filterMap fun | .str s => some s | _ => none
  let others := set.filter fun | .str _ => false | _ => true
  (texts.mergeSort (fun s t => decide (s ≤ t))).map .str
    ++ others.mergeSort (fun a b => decide (a.shown ≤ b.shown))

end Phrasebook.Value

namespace Phrasebook

instance : BEq Key :=
  ⟨fun a b => a.toValue.same b.toValue⟩

end Phrasebook
