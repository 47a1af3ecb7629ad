import Phrasebook.Attempt
import Phrasebook.Formatter.Config
import Phrasebook.Target.Expr

/-!
Compilers.  A compiler knows the locale whose plural rules govern what it compiles, and collects
what the emitted source has to be linked with: helpers, locales whose plural rules are called, and
formatters.  The tables only grow until the compiler is reset.
-/

namespace Phrasebook

open Target

structure Compiler where
  locale : Option String := none
  helpers : List Helper := []
  locales : List String := []
  formatters : List String := []
  guard : Guard
deriving DecidableEq, Repr

namespace Compiler

def ofLimit (limit : Int) : Compiler :=
  { guard := .ofLimit limit }

/-- A compiler with its tables empty, no locale, and its guard at depth zero. -/
def reset (compiler : Compiler) : Compiler :=
  { guard := compiler.guard.reset }

end Compiler

/-- What compiling works on: a compiler, the configuration it shares, and what was reported. -/
structure Desk (φ : Type) where
  config : Config φ
  compiler : Compiler
  events : List Event := []

abbrev Compilation (φ α : Type) := Attempt (Desk φ) α

namespace Compilation

variable {φ α : Type}

def updateCompiler (change : Compiler → Compiler) : Compilation φ Unit :=
  Attempt.update fun desk => { desk with compiler := change desk.compiler }

def report (event : Event) : Compilation φ Unit :=
  Attempt.update fun desk => { desk with events := desk.events ++ [event] }

def needHelper (helper : Helper) : Compilation φ Unit :=
  updateCompiler fun compiler => { compiler with helpers := compiler.helpers.insert helper }

def needLocale (locale : String) : Compilation φ Unit :=
  updateCompiler fun compiler => { compiler with locales := compiler.locales.insert locale }

def needFormatter (key : String) : Compilation φ Unit :=
  updateCompiler fun compiler => { compiler with formatters := compiler.formatters.insert key }

def setLocale (locale : Option String) : Compilation φ Unit :=
  updateCompiler fun compiler => { compiler with locale := locale }

def currentLocale : Compilation φ String := do
  Attempt.require .noLocale (← Attempt.view fun desk => desk.compiler.locale)

/-- The frames of one catalog in another: its entries are compiled in a single call. -/
def catalogFrames : Nat := 1

/-- The frames of one choice in another: a call for the choice, one for its cases, and one for the
parts of a case. -/
def caseFrames : Nat := 3

def nested (frames : Nat) (step : Compilation φ α) : Compilation φ α :=
  Attempt.guarded (fun desk => desk.compiler.guard)
    (fun guard desk => { desk with compiler := { desk.compiler with guard := guard } }) frames step

/-- The formatter of a key, supplied from the defaults if need be. -/
def resolveFormatter (key : Value) : Compilation φ (Option φ) := fun desk =>
  let resolution := desk.config.resolve key
  let after : Desk φ :=
    { desk with config := resolution.config, events := desk.events ++ resolution.events }
  match resolution.outcome with
  | .ok formatter => (.ok formatter, after)
  | .error fault => (.error (.fault fault), after)

end Compilation

end Phrasebook
