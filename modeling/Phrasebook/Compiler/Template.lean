import Phrasebook.Compiler.Token

/-!
Compiling templates.  A message becomes a function; a catalog becomes the compiled templates under
the same keys in the same order.  A key that denotes a locale with plural rules of its own is the
locale of everything below it.
-/

namespace Phrasebook

open Target

inductive LocaleScope where
  /-- These keys. -/
  | tags (names : List String)
  /-- Every text that occurs in this one. -/
  | occurringIn (text : String)
  /-- A value that cannot be asked. -/
  | unusable
deriving DecidableEq, Repr

namespace LocaleScope

/-- Whether some characters occur in others without a gap. -/
def occurs (sought : List Char) : List Char → Bool
  | [] => sought.isEmpty
  | c :: rest => sought.isPrefixOf (c :: rest) || occurs sought rest

def contains (scope : LocaleScope) (key : String) : Except Fault Bool :=
  match scope with
  | .tags names => pure (names.contains key)
  | .occurringIn text => pure (occurs key.toList text.toList)
  | .unusable => throw .notACollection

/-- The scope that a value expresses: the texts of a list, the keys of entries, or the texts that
occur in a text. -/
def ofValue : Value → LocaleScope
  | .list items => .tags (items.filterMap fun | .str tag => some tag | _ => none)
  | .map entries => .tags (entries.filterMap fun | (.str tag, _) => some tag | _ => none)
  | .str text => .occurringIn text
  | _ => .unusable

end LocaleScope

inductive Compiled where
  | function (body : Expr)
  | catalog (entries : List (String × Compiled))
deriving Repr

namespace Compilation

variable {φ : Type}

mutual

/-- Compiles a template whose messages are in this locale unless a key says otherwise. -/
def compile (scope : LocaleScope) (locale : Option String) : Value → Compilation φ Compiled
  | .message tokens => do
      setLocale locale
      let parts ← compileTokens .null tokens
      report (.compiledMessage locale tokens.length)
      pure (.function (.joined parts))
  | .catalog entries => do
      pure (.catalog (← nested catalogFrames (compileEntries scope locale entries)))
  | template => Attempt.reject (.unrecognizedToken template)

/-- Compiles the entries of a catalog; an error is reported from the key where it happened. -/
def compileEntries (scope : LocaleScope) (locale : Option String) :
    List (String × Value) → Compilation φ (List (String × Compiled))
  | [] => pure []
  | (key, branch) :: rest => do
      let isLocale ← Attempt.ofExcept (scope.contains key)
      let head ← Attempt.mapFailure (.within key)
        (compile scope (if isLocale then some key else locale) branch)
      let tail ← compileEntries scope locale rest
      pure ((key, head) :: tail)

end

end Compilation

end Phrasebook
