import Phrasebook.Event
import Phrasebook.TemplateError

/-!
Depth guards.  A guard counts how deep a walk over a template has gone, and refuses to go beyond its
limit.  A refused entry leaves the count as it was.

Walks are recursive, and each level of one also takes frames of the stack, usually more than one.  A
walk that finds too few of them fails with a fault, whatever the limit on nesting allows.  Only what
the levels themselves take is counted; the frames below a walk, and those of the short calls it makes
on the way, are left to the number of free frames that a guard starts with.  Reading a template from
plain data is recursive as well, and is modelled without a stack.
-/

namespace Phrasebook

structure Guard where
  limit : Int
  depth : Int
  /-- The frames that are left for going deeper. -/
  free : Nat
deriving DecidableEq, Repr

namespace Guard

/-- The limit on nesting unless another is asked for. -/
def defaultLimit : Int := 100

/-- The frames of the whole stack.  This is what the interpreter sets unless it is told otherwise, and
nothing here changes it. -/
def frameLimit : Int := 1000

/-- The frames kept free for calls around a walk unless another number is asked for. -/
def defaultReserve : Int := 50

/-- A requested limit, lowered to what the frames allow; lowering it is reported.  A level is taken for
a single frame here. -/
def clamp (requested reserve : Int) : Int × List Event :=
  let safe := frameLimit - reserve
  if safe < requested then (safe, [.clampedDepth requested frameLimit safe]) else (requested, [])

/-- A guard at depth zero, with the whole stack free. -/
def ofLimit (requested : Int) : Guard :=
  ⟨(clamp requested defaultReserve).1, 0, frameLimit.toNat⟩

/-- Goes one level deeper, which takes so many frames. -/
def enter (guard : Guard) (frames : Nat) : Except Failure Guard :=
  if guard.limit ≤ guard.depth then throw (.template (.depthLimitExceeded guard.limit))
  else if guard.free < frames then throw (.fault .outOfFrames)
  else pure { guard with depth := guard.depth + 1, free := guard.free - frames }

def leave (guard : Guard) (frames : Nat) : Guard :=
  { guard with depth := guard.depth - 1, free := guard.free + frames }

def reset (guard : Guard) : Guard :=
  { guard with depth := 0 }

end Guard

end Phrasebook
