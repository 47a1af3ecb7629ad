import Mathlib.Logic.Relation
import Phrasebook.Proofs.Attempt

/-!
Contracts of attempts.  A contract over one run says by which moves an attempt may change its state and
in which ways it may fail.  A contract over two runs says that two attempts, or twice the same one, lead
from states which are alike to the same outcome and to states which are alike again.  Both are kept by
every way of composing attempts.
-/

namespace Phrasebook.Attempt

open Relation

variable {σ α β : Type}

theorem bind_cases (attempt : Attempt σ α) (next : α → Attempt σ β) (state : σ) :
    (∃ value after, attempt state = (.ok value, after) ∧
      (attempt >>= next) state = next value after) ∨
    ∃ failure after, attempt state = (.error failure, after) ∧
      (attempt >>= next) state = (.error failure, after) := by
  cases result : attempt state with
  | mk outcome after =>
      cases outcome with
      | ok value => exact .inl ⟨value, after, rfl, bind_of_ok result⟩
      | error failure => exact .inr ⟨failure, after, rfl, bind_of_error result⟩

theorem mapFailure_cases (change : Failure → Failure) (attempt : Attempt σ α) (state : σ) :
    (∃ value after, attempt state = (.ok value, after) ∧
      mapFailure change attempt state = (.ok value, after)) ∨
    ∃ failure after, attempt state = (.error failure, after) ∧
      mapFailure change attempt state = (.error (change failure), after) := by
  cases result : attempt state with
  | mk outcome after =>
      cases outcome with
      | ok value => exact .inl ⟨value, after, rfl, mapFailure_of_ok result⟩
      | error failure => exact .inr ⟨failure, after, rfl, mapFailure_of_error result⟩

/-- What the contract says about a run from one state. -/
structure ObeysAt (move : σ → σ → Prop) (blame : Failure → Prop) (attempt : Attempt σ α)
    (state : σ) : Prop where
  moves : ReflTransGen move state (attempt state).2
  fails : ∀ failure, (attempt state).1 = .error failure → blame failure

def Obeys (move : σ → σ → Prop) (blame : Failure → Prop) (attempt : Attempt σ α) : Prop :=
  ∀ state, attempt.ObeysAt move blame state

section Contract

variable {move : σ → σ → Prop} {blame : Failure → Prop} {attempt : Attempt σ α}
  {next : α → Attempt σ β} {state : σ}

theorem ObeysAt.of_ok {value : α} {after : σ} (returned : attempt state = (.ok value, after))
    (moves : ReflTransGen move state after) : attempt.ObeysAt move blame state :=
  ⟨by rwa [returned], by simp [returned]⟩

theorem ObeysAt.bind (first : attempt.ObeysAt move blame state)
    (second : ∀ value after, attempt state = (.ok value, after) →
      (next value).ObeysAt move blame after) : (attempt >>= next).ObeysAt move blame state := by
  obtain ⟨moves, fails⟩ := first
  rcases bind_cases attempt next state with
    ⟨value, after, ran, goesOn⟩ | ⟨failure, after, ran, ends⟩
  · have rest := second value after ran
    rw [ran] at moves
    exact ⟨by rw [goesOn]; exact moves.trans rest.moves, by rw [goesOn]; exact rest.fails⟩
  · rw [ran] at moves fails
    refine ⟨by rw [ends]; exact moves, fun other failed => ?_⟩
    rw [ends] at failed
    cases failed
    exact fails failure rfl

namespace Obeys

theorem pure (value : α) : (Pure.pure value : Attempt σ α).Obeys move blame :=
  fun _ => ⟨.refl, fun _ failed => nomatch failed⟩

theorem view (look : σ → α) : (Attempt.view look).Obeys move blame :=
  fun _ => ⟨.refl, fun _ failed => nomatch failed⟩

theorem update {change : σ → σ} (moves : ∀ state, move state (change state)) :
    (Attempt.update change).Obeys move blame :=
  fun state => ⟨.single (moves state), fun _ failed => nomatch failed⟩

theorem fail {failure : Failure} (blamed : blame failure) :
    (Attempt.fail failure : Attempt σ α).Obeys move blame := by
  refine fun _ => ⟨.refl, fun other failed => ?_⟩
  cases failed
  exact blamed

theorem ofExcept (faults : ∀ fault, blame (.fault fault)) (result : Except Fault α) :
    (Attempt.ofExcept result : Attempt σ α).Obeys move blame := by
  cases result with
  | ok value => exact pure value
  | error fault => exact fail (faults fault)

theorem require (faults : ∀ fault, blame (.fault fault)) (fault : Fault) (field : Option α) :
    (Attempt.require fault field : Attempt σ α).Obeys move blame := by
  cases field with
  | some value => exact pure value
  | none => exact fail (faults fault)

theorem bind (first : attempt.Obeys move blame)
    (second : ∀ value, (next value).Obeys move blame) : (attempt >>= next).Obeys move blame :=
  fun state => (first state).bind fun value after _ => second value after

theorem mapFailure {change : Failure → Failure} {other : Failure → Prop}
    (obeys : attempt.Obeys move blame) (carried : ∀ failure, blame failure → other (change failure)) :
    (Attempt.mapFailure change attempt).Obeys move other := by
  intro state
  obtain ⟨moves, fails⟩ := obeys state
  rcases mapFailure_cases change attempt state with ⟨_, _, ran, mapped⟩ | ⟨reason, _, ran, mapped⟩
  · rw [ran] at moves
    exact ⟨by rwa [mapped], by simp [mapped]⟩
  · rw [ran] at moves fails
    refine ⟨by rwa [mapped], fun failure failed => ?_⟩
    rw [mapped] at failed
    cases failed
    exact carried reason (fails reason rfl)

theorem weaken {other : Failure → Prop} (obeys : attempt.Obeys move blame)
    (weaker : ∀ failure, blame failure → other failure) : attempt.Obeys move other :=
  fun state => ⟨(obeys state).moves, fun failure failed =>
    weaker failure ((obeys state).fails failure failed)⟩

/-- An attempt that may make no move leaves the state as it is. -/
theorem unchanged (obeys : attempt.Obeys (fun _ _ => False) blame) {outcome : Except Failure α}
    {after : σ} (ran : attempt state = (outcome, after)) : after = state := by
  have moves := (obeys state).moves
  rw [ran] at moves
  cases moves with
  | refl => rfl
  | tail _ impossible => exact impossible.elim

end Obeys

end Contract

/-- From states that are alike, the second attempt leads to the outcome of the first and to a state
that is alike again. -/
def Matches (alike : σ → σ → Prop) (attempt counterpart : Attempt σ α) : Prop :=
  ∀ one other, alike one other →
    (counterpart other).1 = (attempt one).1 ∧ alike (attempt one).2 (counterpart other).2

namespace Matches

variable {alike : σ → σ → Prop} {attempt counterpart : Attempt σ α}
  {next nextCounterpart : α → Attempt σ β}

theorem pure (value : α) : Matches alike (Pure.pure value : Attempt σ α) (Pure.pure value) :=
  fun _ _ same => ⟨rfl, same⟩

theorem fail (failure : Failure) :
    Matches alike (Attempt.fail failure : Attempt σ α) (Attempt.fail failure) :=
  fun _ _ same => ⟨rfl, same⟩

theorem update {change counterchange : σ → σ}
    (kept : ∀ one other, alike one other → alike (change one) (counterchange other)) :
    Matches alike (Attempt.update change) (Attempt.update counterchange) :=
  fun one other same => ⟨rfl, kept one other same⟩

theorem require (fault : Fault) (field : Option α) :
    Matches alike (Attempt.require fault field : Attempt σ α) (Attempt.require fault field) := by
  cases field with
  | some value => exact pure value
  | none => exact fail (.fault fault)

theorem bind (first : Matches alike attempt counterpart)
    (second : ∀ value, Matches alike (next value) (nextCounterpart value)) :
    Matches alike (attempt >>= next) (counterpart >>= nextCounterpart) := by
  intro one other same
  obtain ⟨outcomes, states⟩ := first one other same
  cases there : counterpart other with
  | mk outcome otherAfter =>
      rcases bind_cases attempt next one with
        ⟨value, after, ran, goesOn⟩ | ⟨failure, after, ran, ends⟩
      · rw [ran, there] at outcomes states
        cases outcomes
        rw [goesOn, bind_of_ok there]
        exact second value after otherAfter states
      · rw [ran, there] at outcomes states
        cases outcomes
        rw [ends, bind_of_error there]
        exact ⟨rfl, states⟩

theorem mapFailure (change : Failure → Failure) (pairs : Matches alike attempt counterpart) :
    Matches alike (Attempt.mapFailure change attempt) (Attempt.mapFailure change counterpart) := by
  intro one other same
  obtain ⟨outcomes, states⟩ := pairs one other same
  cases there : counterpart other with
  | mk outcome otherAfter =>
      rcases mapFailure_cases change attempt one with
        ⟨value, after, ran, mapped⟩ | ⟨failure, after, ran, mapped⟩
      · rw [ran, there] at outcomes states
        cases outcomes
        rw [mapped, mapFailure_of_ok there]
        exact ⟨rfl, states⟩
      · rw [ran, there] at outcomes states
        cases outcomes
        rw [mapped, mapFailure_of_error there]
        exact ⟨rfl, states⟩

end Matches

/-- States that are alike lead to the same outcome and to states that are alike again. -/
abbrev Agrees (alike : σ → σ → Prop) (attempt : Attempt σ α) : Prop :=
  Matches alike attempt attempt

end Phrasebook.Attempt
