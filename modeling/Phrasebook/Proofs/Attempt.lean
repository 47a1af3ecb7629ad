import Phrasebook.Attempt

/-!
How attempts compose.  A sequence goes on with the value of an attempt that returns, and ends with the
failure of one that does not.
-/

namespace Phrasebook.Attempt

variable {σ α β : Type} {attempt : Attempt σ α} {next : α → Attempt σ β} {state after : σ}

@[simp] theorem run_apply (attempt : Attempt σ α) (state : σ) :
    attempt.run state = attempt state := rfl

@[simp] theorem require_some (fault : Fault) (value : α) :
    (require fault (some value) : Attempt σ α) = pure value := rfl

theorem bind_of_ok {value : α} (returned : attempt state = (.ok value, after)) :
    (attempt >>= next) state = next value after := by
  change Attempt.bind attempt next state = _
  simp only [Attempt.bind, returned]

theorem bind_of_error {failure : Failure} (failed : attempt state = (.error failure, after)) :
    (attempt >>= next) state = (.error failure, after) := by
  change Attempt.bind attempt next state = _
  simp only [Attempt.bind, failed]

@[simp] theorem pure_bind (value : α) (next : α → Attempt σ β) :
    (pure value >>= next) = next value := rfl

@[simp] theorem view_bind (look : σ → α) (next : α → Attempt σ β) (state : σ) :
    (view look >>= next) state = next (look state) state := rfl

theorem bind_assoc {γ : Type} (attempt : Attempt σ α) (next : α → Attempt σ β)
    (last : β → Attempt σ γ) :
    (attempt >>= next >>= last) = attempt >>= fun value => next value >>= last := by
  funext state
  cases result : attempt state with
  | mk outcome after =>
      cases outcome with
      | error failure =>
          rw [bind_of_error result, bind_of_error (bind_of_error result)]
      | ok value =>
          rw [bind_of_ok result]
          change Attempt.bind (attempt >>= next) last state = Attempt.bind (next value) last after
          simp only [Attempt.bind, bind_of_ok result]

theorem bind_pure_unit (attempt : Attempt σ Unit) : (attempt >>= fun _ => pure ()) = attempt := by
  funext state
  cases result : attempt state with
  | mk outcome after =>
      cases outcome with
      | ok value =>
          rw [bind_of_ok result]
          rfl
      | error failure => rw [bind_of_error result]

theorem mapFailure_of_ok {change : Failure → Failure} {value : α}
    (returned : attempt state = (.ok value, after)) :
    mapFailure change attempt state = (.ok value, after) := by
  simp only [mapFailure, returned]

theorem mapFailure_of_error {change : Failure → Failure} {failure : Failure}
    (failed : attempt state = (.error failure, after)) :
    mapFailure change attempt state = (.error (change failure), after) := by
  simp only [mapFailure, failed]

section Guarded

variable {guard : σ → Guard} {withGuard : Guard → σ → σ} {frames : Nat}

theorem guarded_of_refused {failure : Failure} (attempt : Attempt σ α)
    (refused : (guard state).enter frames = .error failure) :
    guarded guard withGuard frames attempt state = (.error failure, state) := by
  simp only [guarded, refused]

theorem guarded_of_entered {inner : Guard} (attempt : Attempt σ α)
    (entered : (guard state).enter frames = .ok inner) :
    guarded guard withGuard frames attempt state =
      let inside := attempt (withGuard inner state)
      (inside.1, withGuard ((guard inside.2).leave frames) inside.2) := by
  simp only [guarded, entered, afterwards]

end Guarded

end Phrasebook.Attempt
