import Phrasebook.Guard

/-!
Attempts: steps on a state that either return or fail, and keep what they did to the state in both
cases.  Failing therefore undoes nothing, and what has to be undone is undone by `Attempt.afterwards`.
-/

namespace Phrasebook

/-- A step on states of type `σ`. -/
def Attempt (σ α : Type) : Type := σ → Except Failure α × σ

namespace Attempt

variable {σ α β : Type}

def run (attempt : Attempt σ α) (state : σ) : Except Failure α × σ :=
  attempt state

protected def pure (value : α) : Attempt σ α :=
  fun state => (.ok value, state)

protected def bind (attempt : Attempt σ α) (next : α → Attempt σ β) : Attempt σ β := fun state =>
  match attempt state with
  | (.ok value, after) => next value after
  | (.error failure, after) => (.error failure, after)

instance : Monad (Attempt σ) where
  pure := Attempt.pure
  bind := Attempt.bind

def fail (failure : Failure) : Attempt σ α :=
  fun state => (.error failure, state)

def reject (error : TemplateError) : Attempt σ α :=
  fail (.template error)

def refuse (fault : Fault) : Attempt σ α :=
  fail (.fault fault)

def ofExcept : Except Fault α → Attempt σ α
  | .ok value => Attempt.pure value
  | .error fault => refuse fault

/-- The value of an optional field, which a fault answers when it is not there. -/
def require (fault : Fault) : Option α → Attempt σ α
  | some value => Attempt.pure value
  | none => refuse fault

def view (look : σ → α) : Attempt σ α :=
  fun state => (.ok (look state), state)

def update (change : σ → σ) : Attempt σ Unit :=
  fun state => (.ok (), change state)

/-- Changes the state after an attempt, whether it returned or failed. -/
def afterwards (change : σ → σ) (attempt : Attempt σ α) : Attempt σ α := fun state =>
  let (outcome, after) := attempt state
  (outcome, change after)

def mapFailure (change : Failure → Failure) (attempt : Attempt σ α) : Attempt σ α := fun state =>
  match attempt state with
  | (.ok value, after) => (.ok value, after)
  | (.error failure, after) => (.error (change failure), after)

/-- Runs an attempt one level deeper, which takes so many frames.  A refused entry fails before anything
is done; after an entry the level is left again, however the attempt ends. -/
def guarded (guard : σ → Guard) (withGuard : Guard → σ → σ) (frames : Nat) (attempt : Attempt σ α) :
    Attempt σ α := fun state =>
  match (guard state).enter frames with
  | .error failure => (.error failure, state)
  | .ok entered =>
      afterwards (fun after => withGuard ((guard after).leave frames) after) attempt
        (withGuard entered state)

end Attempt

end Phrasebook
