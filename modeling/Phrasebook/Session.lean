import Phrasebook.Compiler.Template

/-!
Sessions: several compilers that share one configuration, and the operations on them.  An operation
that fails keeps what it did before it failed.
-/

namespace Phrasebook

open Target

structure Session (φ : Type) where
  config : Config φ
  compilers : List Compiler

/-- What can be done with one of the compilers or with the configuration. -/
inductive Operation (φ : Type) where
  | compile (template : Value) (locale : Option String) (scope : LocaleScope)
  | compileToken (token context : Value)
  | compileCases (choice context : Value)
  | setLocale (locale : Option String)
  | reset
  | configure (change : Settings → Settings)
  | addFormatter (name : String) (formatter : φ)
  | resolve (key : Value)

inductive Answer (φ : Type) where
  | done
  | compiled (result : Compiled)
  | expr (expr : Expr)
  | formatter (formatter : Option φ)

namespace Operation

variable {φ : Type}

def step : Operation φ → Compilation φ (Answer φ)
  | .compile template locale scope => do
      pure (.compiled (← Compilation.compile scope locale template))
  | .compileToken token context => do pure (.expr (← Compilation.compileExpr token context))
  | .compileCases choice context => do
      pure (.expr (← Compilation.compileChoiceCases choice context))
  | .setLocale locale => do
      Compilation.setLocale locale
      pure .done
  | .reset => do
      Compilation.updateCompiler Compiler.reset
      pure .done
  | .configure change => do
      Attempt.update fun desk =>
        { desk with config := { desk.config with settings := change desk.config.settings } }
      pure .done
  | .addFormatter name formatter => do
      Attempt.update fun desk => { desk with config := desk.config.add name formatter }
      Compilation.report (.addedFormatter name)
      pure .done
  | .resolve key => do pure (.formatter (← Compilation.resolveFormatter key))

end Operation

namespace Session

variable {φ : Type}

/-- A session of so many compilers with the same limit on nesting. -/
def start (config : Config φ) (count : Nat) (limit : Int) : Session φ :=
  ⟨config, List.replicate count (.ofLimit limit)⟩

/-- What an operation on one of the compilers leads to: its outcome, the session afterwards, and
what is reported. -/
structure Result (φ : Type) where
  outcome : Except Failure (Answer φ)
  session : Session φ
  events : List Event

/-- Performs an operation on one of the compilers; there is no other session state to change when
there is no such compiler. -/
def perform (session : Session φ) (index : Nat) (operation : Operation φ) : Result φ :=
  match session.compilers[index]? with
  | none => ⟨.error (.fault .notIndexable), session, []⟩
  | some compiler =>
      let (outcome, desk) := operation.step.run { config := session.config, compiler := compiler }
      ⟨outcome, ⟨desk.config, session.compilers.set index desk.compiler⟩, desk.events⟩

end Session

end Phrasebook
