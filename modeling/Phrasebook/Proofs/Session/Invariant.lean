import Phrasebook.Proofs.Compiler.Acceptance
import Phrasebook.Proofs.Compiler.Conduct
import Phrasebook.Session

/-!
What holds of every compiler of a session after any operations, whether they returned or failed: its
guard is at rest, the plural helper is noted exactly when the rules of some locale are, and every
formatter it noted is registered.
-/

namespace Phrasebook

open Target

namespace Session

variable {φ : Type}

/-- A session of fresh compilers, one for each limit on nesting. -/
def ofLimits (config : Config φ) (limits : List Int) : Session φ :=
  ⟨config, limits.map .ofLimit⟩

/-- The session after some operations, each on the compiler of its index. -/
def run (session : Session φ) : List (Nat × Operation φ) → Session φ
  | [] => session
  | (index, operation) :: rest => (session.perform index operation).session.run rest

end Session

/-- The tables of a compiler fit each other and the configuration it shares. -/
structure Compiler.Consistent {φ : Type} (config : Config φ) (compiler : Compiler) : Prop where
  rules : .plural ∈ compiler.helpers ↔ compiler.locales ≠ []
  registered : ∀ key ∈ compiler.formatters, (config.registry.get? key).isSome

section Steps

variable {φ : Type}

theorem Compiler.Consistent.retained {before after : Config φ} {compiler : Compiler}
    (consistent : compiler.Consistent before) (retained : before.Retained after) :
    compiler.Consistent after :=
  ⟨consistent.rules, fun key member => retained key (consistent.registered key member)⟩

theorem Compiler.consistent_empty (config : Config φ) (guard : Guard) :
    Compiler.Consistent config { guard := guard } :=
  ⟨by simp, by simp⟩

theorem Desk.Move.consistent {before after : Desk φ} (move : Move before after)
    (consistent : before.compiler.Consistent before.config) :
    after.compiler.Consistent after.config := by
  cases move with
  | locale tag => exact ⟨consistent.rules, consistent.registered⟩
  | helper other => exact ⟨by simpa [other.symm] using consistent.rules, consistent.registered⟩
  | rules tag =>
      refine ⟨iff_of_true (by simp) ?_, consistent.registered⟩
      exact List.ne_nil_of_mem (List.mem_insert_self)
  | resolve key events => exact consistent.retained (before.config.resolve_retained key)
  | formatter registered =>
      refine ⟨consistent.rules, fun key member => ?_⟩
      rcases List.mem_insert_iff.mp member with rfl | old
      · exact registered
      · exact consistent.registered key old
  | report events => exact ⟨consistent.rules, consistent.registered⟩

theorem Desk.Moves.consistent {before after : Desk φ} (moves : Moves before after)
    (consistent : before.compiler.Consistent before.config) :
    after.compiler.Consistent after.config := by
  induction moves with
  | refl => exact consistent
  | tail _ move ih => exact move.consistent ih

namespace Operation

open Attempt.Obeys Compilation

/-- The formatters and the settings stay as they are, except for defaults that are supplied. -/
def KeepsConfig : Operation φ → Prop
  | .configure _ | .addFormatter _ _ => False
  | _ => True

/-- What an operation can do to the desk of its compiler. -/
theorem step_cases (operation : Operation φ) (desk : Desk φ) :
    (operation.KeepsConfig ∧ desk.Moves (operation.step desk).2) ∨
    (operation = .reset ∧ (operation.step desk).2 = { desk with compiler := desk.compiler.reset }) ∨
    (∃ change, operation = .configure change ∧ (operation.step desk).2 =
      { desk with config := { desk.config with settings := change desk.config.settings } }) ∨
    ∃ name formatter events, operation = .addFormatter name formatter ∧ (operation.step desk).2 =
      { desk with config := desk.config.add name formatter, events := events } := by
  have makes {attempt : Compilation φ (Answer φ)} {blame : Failure → Prop}
      (obeys : attempt.Obeys Desk.Move blame) : desk.Moves (attempt desk).2 := (obeys desk).moves
  cases operation with
  | compile template locale scope =>
      exact .inl ⟨trivial, makes ((compile_obeys scope locale template).bind fun _ => pure _)⟩
  | compileToken token context =>
      exact .inl ⟨trivial, makes ((compileExpr_obeys token context).bind fun _ => pure _)⟩
  | compileCases choice context =>
      exact .inl ⟨trivial, makes ((compileChoiceCases_obeys choice context).bind fun _ => pure _)⟩
  | setLocale locale => exact .inl ⟨trivial, .single (.locale desk locale)⟩
  | reset => exact .inr (.inl ⟨rfl, rfl⟩)
  | configure change => exact .inr (.inr (.inl ⟨change, rfl, rfl⟩))
  | addFormatter name formatter => exact .inr (.inr (.inr ⟨name, formatter, _, rfl, rfl⟩))
  | resolve key => exact .inl ⟨trivial, makes ((resolveFormatter_obeys key).bind fun _ => pure _)⟩

theorem step_retained (operation : Operation φ) (desk : Desk φ) :
    desk.config.Retained (operation.step desk).2.config := by
  rcases operation.step_cases desk with
    ⟨_, moves⟩ | ⟨_, after⟩ | ⟨_, _, after⟩ | ⟨name, formatter, _, _, after⟩
  · exact moves.reached.retained
  · rw [after]
    exact .refl _
  · rw [after]
    exact fun _ => id
  · rw [after]
    exact desk.config.add_retained name formatter

theorem step_consistent (operation : Operation φ) {desk : Desk φ}
    (consistent : desk.compiler.Consistent desk.config) :
    (operation.step desk).2.compiler.Consistent (operation.step desk).2.config := by
  rcases operation.step_cases desk with
    ⟨_, moves⟩ | ⟨_, after⟩ | ⟨_, _, after⟩ | ⟨name, formatter, _, _, after⟩
  · exact moves.consistent consistent
  · rw [after]
    exact Compiler.consistent_empty _ _
  · rw [after]
    exact ⟨consistent.rules, consistent.registered⟩
  · rw [after]
    exact consistent.retained (desk.config.add_retained name formatter)

/-- A guard at rest is at rest again after an operation, under the same limit. -/
theorem step_guard (operation : Operation φ) {desk : Desk φ} {limit : Int}
    (rests : desk.compiler.guard = .ofLimit limit) :
    (operation.step desk).2.compiler.guard = .ofLimit limit := by
  rcases operation.step_cases desk with
    ⟨_, moves⟩ | ⟨_, after⟩ | ⟨_, _, after⟩ | ⟨_, _, _, _, after⟩
  · rw [moves.guard, rests]
  · rw [after, Compiler.reset, rests]
    rfl
  · rw [after, rests]
  · rw [after, rests]

end Operation

end Steps

namespace Session

variable {φ : Type} {session : Session φ}

def deskOf (session : Session φ) (compiler : Compiler) : Desk φ :=
  { config := session.config, compiler := compiler }

theorem perform_of_some {index : Nat} {compiler : Compiler}
    (found : session.compilers[index]? = some compiler) (operation : Operation φ) :
    (session.perform index operation).session =
      ⟨(operation.step (session.deskOf compiler)).2.config,
        session.compilers.set index (operation.step (session.deskOf compiler)).2.compiler⟩ := by
  simp [perform, found, deskOf]

theorem perform_of_none {index : Nat} (absent : session.compilers[index]? = none)
    (operation : Operation φ) : (session.perform index operation).session = session := by
  simp [perform, absent]

/-- An operation on one compiler changes no other. -/
theorem perform_other (session : Session φ) {index other : Nat} (different : other ≠ index)
    (operation : Operation φ) :
    (session.perform index operation).session.compilers[other]? = session.compilers[other]? := by
  cases found : session.compilers[index]? with
  | none => rw [perform_of_none found]
  | some compiler => rw [perform_of_some found, List.getElem?_set_ne different.symm]

/-- Every guard is that of a fresh compiler with its limit. -/
def RestsAt (session : Session φ) (limits : List Int) : Prop :=
  ∀ index : Nat, session.compilers[index]?.map (·.guard) = limits[index]?.map .ofLimit

theorem restsAt_ofLimits (config : Config φ) (limits : List Int) :
    (ofLimits config limits).RestsAt limits := by
  intro index
  simp [ofLimits, Function.comp_def, Compiler.ofLimit]

theorem perform_restsAt {limits : List Int} (rests : session.RestsAt limits) (index : Nat)
    (operation : Operation φ) : (session.perform index operation).session.RestsAt limits := by
  intro other
  by_cases same : other = index
  · subst same
    cases found : session.compilers[other]? with
    | none => rw [perform_of_none found, rests other]
    | some compiler =>
        have guard := rests other
        rw [found, Option.map_some] at guard
        obtain ⟨limit, _, atRest⟩ := Option.map_eq_some_iff.mp guard.symm
        obtain ⟨bound, _⟩ := List.getElem?_eq_some_iff.mp found
        rw [perform_of_some found, List.getElem?_set_self bound, Option.map_some, ← guard, ← atRest]
        exact congrArg some (operation.step_guard atRest.symm)
  · rw [session.perform_other same, rests other]

theorem run_restsAt {limits : List Int} (rests : session.RestsAt limits)
    (history : List (Nat × Operation φ)) : (session.run history).RestsAt limits := by
  induction history generalizing session with
  | nil => exact rests
  | cons step rest ih => exact ih (perform_restsAt rests step.1 step.2)

theorem perform_consistent
    (consistent : ∀ compiler ∈ session.compilers, compiler.Consistent session.config)
    (index : Nat) (operation : Operation φ) :
    ∀ compiler ∈ (session.perform index operation).session.compilers,
      compiler.Consistent (session.perform index operation).session.config := by
  cases found : session.compilers[index]? with
  | none =>
      rw [perform_of_none found]
      exact consistent
  | some acting =>
      rw [perform_of_some found]
      intro compiler member
      rcases List.mem_or_eq_of_mem_set member with old | rfl
      · exact (consistent compiler old).retained (operation.step_retained (session.deskOf acting))
      · exact operation.step_consistent (consistent acting (List.mem_of_getElem? found))

theorem run_consistent
    (consistent : ∀ compiler ∈ session.compilers, compiler.Consistent session.config)
    (history : List (Nat × Operation φ)) :
    ∀ compiler ∈ (session.run history).compilers,
      compiler.Consistent (session.run history).config := by
  induction history generalizing session with
  | nil => exact consistent
  | cons step rest ih => exact ih (perform_consistent consistent step.1 step.2)

end Session

/-- After any operations on fresh compilers that share a configuration, every one of them is at rest,
and its tables fit each other and the registered formatters. -/
theorem session_stays_consistent {φ : Type} (config : Config φ) (limits : List Int)
    (history : List (Nat × Operation φ)) (compiler : Compiler)
    (member : compiler ∈ ((Session.ofLimits config limits).run history).compilers) :
    compiler.guard.depth = 0 ∧
      (∀ helper ∈ compiler.helpers, helper.name ∈ ["select", "plural", "number"]) ∧
      (.plural ∈ compiler.helpers ↔ compiler.locales ≠ []) ∧
      ∀ key ∈ compiler.formatters, ∃ formatter,
        ((Session.ofLimits config limits).run history).config.registry.get? key = some formatter := by
  have consistent : ∀ fresh ∈ (Session.ofLimits config limits).compilers,
      fresh.Consistent config := by
    intro fresh inside
    obtain ⟨limit, _, rfl⟩ := List.mem_map.mp inside
    exact Compiler.consistent_empty config _
  have fits := Session.run_consistent consistent history compiler member
  obtain ⟨index, found⟩ := List.mem_iff_getElem?.mp member
  have guard := Session.run_restsAt (Session.restsAt_ofLimits config limits) history index
  rw [found, Option.map_some] at guard
  obtain ⟨limit, _, atRest⟩ := Option.map_eq_some_iff.mp guard.symm
  refine ⟨by rw [← atRest]; rfl, ?_, fits.rules, fun key noted => ?_⟩
  · intro helper _
    cases helper <;> decide
  · exact Option.isSome_iff_exists.mp (fits.registered key noted)

/-- The first compiler compiles the template, and then fails on a choice without cases; the second
fails on the template, which is too deep for it. -/
def Session.mishaps : List (Nat × Operation Unit) :=
  [(0, .compile Template.guests.toValue (some "en") (.tags ["ar"])),
    (1, .compile Template.guests.toValue (some "en") (.tags ["ar"])),
    (0, .compileCases (.select .null []) .null)]

theorem mishaps_stay_consistent :
    ∃ compiler ∈ ((Session.ofLimits (Desk.sample 0).config [3, 1]).run Session.mishaps).compilers,
      compiler.locales = ["ar"] ∧ "number" ∈ compiler.formatters ∧
        compiler.guard.depth = 0 ∧ .plural ∈ compiler.helpers ∧
        ∃ formatter, ((Session.ofLimits (Desk.sample 0).config [3, 1]).run
          Session.mishaps).config.registry.get? "number" = some formatter := by
  refine ⟨_, List.mem_cons_self, rfl, List.mem_cons_self, ?_⟩
  obtain ⟨rests, _, rules, registered⟩ := session_stays_consistent (Desk.sample 0).config [3, 1]
    Session.mishaps _ List.mem_cons_self
  exact ⟨rests, rules.mpr (List.cons_ne_nil _ _), registered "number" List.mem_cons_self⟩

end Phrasebook
