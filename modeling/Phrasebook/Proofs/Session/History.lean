import Phrasebook.Proofs.Compiler.Catalog
import Phrasebook.Proofs.Session.Invariant

/-!
What a compilation leads to does not depend on what was done before: the guards are at rest, the locale
is set anew, and the defaults that were supplied meanwhile are those that would be supplied now.  Only a
default that fails on account of what is registered can tell.
-/

namespace Phrasebook

theorem Operation.step_alike {φ : Type} {operation : Operation φ} (keeps : operation.KeepsConfig)
    (desk : Desk φ) (ignore : desk.config.DefaultsIgnoreRegistry) :
    desk.config.Alike (operation.step desk).2.config := by
  rcases operation.step_cases desk with
    ⟨_, moves⟩ | ⟨_, after⟩ | ⟨change, changes, _⟩ | ⟨name, formatter, _, adds, _⟩
  · exact moves.reached.alike ignore
  · rw [after]
    exact .refl ignore
  · rw [changes] at keeps
    exact keeps.elim
  · rw [adds] at keeps
    exact keeps.elim

namespace Session

variable {φ : Type} {session : Session φ}

theorem perform_alike {operation : Operation φ} (keeps : operation.KeepsConfig)
    (ignore : session.config.DefaultsIgnoreRegistry) (index : Nat) :
    session.config.Alike (session.perform index operation).session.config := by
  cases found : session.compilers[index]? with
  | none =>
      rw [perform_of_none found]
      exact .refl ignore
  | some compiler =>
      rw [perform_of_some found]
      exact Operation.step_alike keeps (session.deskOf compiler) ignore

theorem run_alike {session : Session φ} (ignore : session.config.DefaultsIgnoreRegistry)
    {history : List (Nat × Operation φ)} (quiet : ∀ step ∈ history, step.2.KeepsConfig) :
    session.config.Alike (session.run history).config := by
  induction history generalizing session with
  | nil => exact .refl ignore
  | cons step rest ih =>
      obtain ⟨keeps, later⟩ := List.forall_mem_cons.mp quiet
      have first := perform_alike keeps ignore step.1
      exact first.trans (ih first.ignore_other later)

/-- Compilers with the same limit, at rest, in sessions with like configurations compile alike. -/
theorem perform_compile_agrees {other : Session φ} {index place : Nat} {one two : Compiler}
    (found : session.compilers[index]? = some one) (placed : other.compilers[place]? = some two)
    (guard : two.guard = one.guard) (alike : session.config.Alike other.config)
    (names : List String) (locale : Option String) (template : Template) :
    (other.perform place (.compile template.toValue locale (.tags names))).outcome =
      (session.perform index (.compile template.toValue locale (.tags names))).outcome := by
  have agrees : (Operation.compile template.toValue locale (.tags names) : Operation φ).step.Agrees
      Desk.Alike :=
    (template.compile_agrees (Desk.alike_likeness φ) Desk.Alike.marks names locale).bind fun result =>
      .pure (Answer.compiled result)
  have outcomes := (agrees (session.deskOf one) (other.deskOf two) ⟨guard, alike⟩).1
  rw [perform, placed, perform, found]
  exact outcomes

end Session

/-- Whatever was compiled before on compilers that share a configuration, a compilation leads to what
it leads to on a fresh compiler with the same limit; and what is done with one compiler leaves the
others as they are. -/
theorem compile_forgets_history {φ : Type} (config : Config φ) (limits : List Int)
    (prelude history : List (Nat × Operation φ)) (index : Nat) (limit : Int)
    (quiet : ∀ step ∈ history, step.2.KeepsConfig)
    (ignore : ((Session.ofLimits config limits).run prelude).config.DefaultsIgnoreRegistry)
    (chosen : limits[index]? = some limit) (names : List String) (locale : String) (template : Template) :
    ((((Session.ofLimits config limits).run prelude).run history).perform index
        (.compile template.toValue (some locale) (.tags names))).outcome =
      ((Session.start ((Session.ofLimits config limits).run prelude).config 1 limit).perform 0
        (.compile template.toValue (some locale) (.tags names))).outcome ∧
    ∀ (session : Session φ) (acting other : Nat) (operation : Operation φ), other ≠ acting →
      (session.perform acting operation).session.compilers[other]? = session.compilers[other]? := by
  refine ⟨?_, fun session acting other operation different => session.perform_other different operation⟩
  have rests := Session.run_restsAt
    (Session.run_restsAt (Session.restsAt_ofLimits config limits) prelude) history index
  rw [chosen, Option.map_some] at rests
  obtain ⟨compiler, found, guard⟩ := Option.map_eq_some_iff.mp rests
  have alike := Session.run_alike ignore quiet
  have fresh : (Session.start ((Session.ofLimits config limits).run prelude).config 1
      limit).compilers[0]? = some (.ofLimit limit) := rfl
  exact Session.perform_compile_agrees fresh found guard alike names (some locale) template

/-- After the mishaps the first compiler compiles and the second fails, as fresh ones do. -/
theorem mishaps_are_forgotten :
    (((Session.ofLimits (Desk.sample 0).config [3, 1]).run Session.mishaps).perform 0
        (.compile Template.guests.toValue (some "en") (.tags ["ar"]))).outcome =
      ((Session.start (Desk.sample 0).config 1 3).perform 0
        (.compile Template.guests.toValue (some "en") (.tags ["ar"]))).outcome ∧
    (((Session.ofLimits (Desk.sample 0).config [3, 1]).run Session.mishaps).perform 1
        (.compile Template.guests.toValue (some "en") (.tags ["ar"]))).outcome =
      ((Session.start (Desk.sample 0).config 1 1).perform 0
        (.compile Template.guests.toValue (some "en") (.tags ["ar"]))).outcome := by
  have quiet : ∀ step ∈ Session.mishaps, step.2.KeepsConfig := by
    simp [Session.mishaps, Operation.KeepsConfig]
  have ignore := (Desk.sample_defaultsReturn 0).ignoreRegistry
  exact ⟨(compile_forgets_history (Desk.sample 0).config [3, 1] [] Session.mishaps 0 3 quiet ignore rfl
      ["ar"] "en" .guests).1,
    (compile_forgets_history (Desk.sample 0).config [3, 1] [] Session.mishaps 1 1 quiet ignore rfl
      ["ar"] "en" .guests).1⟩

/-- A message that a fresh compiler compiles is refused after another one, which had a default supplied:
with it among the registered formatters, their keys cannot be put in order. -/
theorem listing_default_remembers_history :
    let compile (key : String) : Operation Unit :=
      .compile (Template.message [.call key "x" []]).toValue (some "en") (.tags [])
    let config := (Desk.unordered 0).config
    (compile "plain").KeepsConfig ∧
    (∃ answer, ((Session.start config 1 3).perform 0 (compile "listing")).outcome = .ok answer) ∧
    (((Session.ofLimits config [3]).run [(0, compile "plain")]).perform 0 (compile "listing")).outcome =
      .error (.fault .notComparable) :=
  ⟨trivial, ⟨_, rfl⟩, rfl⟩

end Phrasebook
