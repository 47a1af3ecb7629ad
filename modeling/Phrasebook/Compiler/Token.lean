import Phrasebook.Compiler.Basic
import Phrasebook.Locale.Direction
import Phrasebook.Value.Literal

/-!
Compiling the parts of a message to the parts of an expression.

A number sign means the argument of the nearest plural or ordinal choice around it, which is passed
down as the context; outside of any it is literal text, and the context is `Value.null`.
-/

namespace Phrasebook

open Target

namespace Value

def fallbackKey : String := "other"

/-- The text of a number sign that belongs to no plural. -/
def octothorpeText : String := "#"

def asText : Value → Except Fault String
  | .str s => pure s
  | _ => throw .notText

def isFallbackKey : Value → Bool
  | .str s => s == fallbackKey
  | _ => false

/-- An offset as a literal: whole numbers without a fraction, and zero for an absent one. -/
def offsetLiteral (offset : Value) : Except Fault Expr := do
  let offset :=
    match offset with
    | .float x => (x.toInt?.map Value.int).getD offset
    | _ => offset
  pure (.literal (← (if offset.isGiven then offset else .int 0).toJson))

/-- Parameters of a call as arguments: none, the one, or all of them as an array. -/
def paramLiterals : List Value → Except Fault (List Expr)
  | [] => pure []
  | [param] => do pure [.literal (← param.toJson)]
  | params => do pure [.literal (← (Value.list params).toJson)]

def choiceName : Value → String
  | .select _ _ => "select"
  | .ordinal _ _ => "selectordinal"
  | _ => "plural"

end Value

namespace Compilation

variable {φ : Type}

/-- A value read from the data of a message. -/
def dataRead (arg : Value) : Compilation φ Expr := do
  pure (.read (← Attempt.ofExcept arg.asText))

def caseKeys : List Value → Compilation φ (List Value)
  | [] => pure []
  | case :: rest => do
      let key ← Attempt.require .noSuchField case.key?
      let keys ← caseKeys rest
      pure (key :: keys)

/-- The value of an argument, between marks of the writing direction if these are wanted. -/
def compileArgument (arg : Value) : Compilation φ (List Expr) := do
  let read ← dataRead arg
  let marked ← Attempt.view fun desk => desk.config.settings.bidi
  if marked then
    let mark ← Attempt.view fun desk => Locale.directionMark desk.compiler.locale
    pure (read.between mark)
  else pure [read]

/-- Notes that the plural rules of the current locale are called, and names their function. -/
def pluralRules : Compilation φ Expr := do
  let locale ← currentLocale
  needLocale locale
  needHelper .plural
  pure (.name (functionName locale))

/-- The number that a number sign stands for in its context. -/
def compileOctothorpe (context : Value) : Compilation φ (List Expr) :=
  match context with
  | .null => pure [.text Value.octothorpeText]
  | plural => do
      needHelper .number
      let arg ← dataRead (← Attempt.require .noSuchField plural.arg?)
      let offset ← Attempt.require .noSuchField plural.offset?
      if offset.isGiven then
        let literal ← Attempt.ofExcept offset.offsetLiteral
        pure [.helper .number [arg, literal]]
      else pure [.helper .number [arg]]

def compileCall (key arg : Value) (params : List Value) : Compilation φ (List Expr) := do
  match ← resolveFormatter key with
  | none =>
      let locale ← Attempt.view fun desk => desk.compiler.locale
      Attempt.reject (.unresolvedFormatter key locale)
  | some _ =>
      let read ← dataRead arg
      let locale ← currentLocale
      let literals ← Attempt.ofExcept (Value.paramLiterals params)
      let name ← Attempt.ofExcept key.asText
      needFormatter name
      pure [.call (.member .formatters name) (read :: .text locale :: literals)]

/-- The cases of a choice as an object, given how their entries are compiled.  One case has to be for
everything else. -/
def caseObject (choice : Value) (cases : List Value)
    (entries : Compilation φ (List (String × Expr))) : Compilation φ Expr := do
  let keys ← caseKeys cases
  if keys.any Value.isFallbackKey then pure (.object (← nested caseFrames entries))
  else Attempt.reject (.missingFallbackCase choice.choiceName (choice.arg?.getD .null) keys)

mutual

/-- Compiles one part; an argument between marks gives three parts of the expression. -/
def compileToken (context : Value) : Value → Compilation φ (List Expr)
  | .text value => do pure [.literal (← Attempt.ofExcept value.toJson)]
  | .argument arg => compileArgument arg
  | .octothorpe => compileOctothorpe context
  | .select arg cases => do
      let object ← caseObject (.select arg cases) cases (compileCaseList context cases)
      needHelper .select
      let read ← dataRead arg
      pure [.helper .select [read, object]]
  | .ordinal arg cases => do
      let object ← caseObject (.ordinal arg cases) cases
        (compileCaseList (.ordinal arg cases) cases)
      let rules ← pluralRules
      let read ← dataRead arg
      pure [.helper .plural [read, .literal (.int 0), rules, object, .literal (.int 1)]]
  | .plural arg cases offset => do
      let object ← caseObject (.plural arg cases offset) cases
        (compileCaseList (.plural arg cases offset) cases)
      let rules ← pluralRules
      let read ← dataRead arg
      let shift ← Attempt.ofExcept offset.offsetLiteral
      pure [.helper .plural [read, shift, rules, object]]
  | .call key arg params => compileCall key arg params
  | token => Attempt.reject (.unrecognizedToken token)
termination_by structural token => token

def compileTokens (context : Value) : List Value → Compilation φ (List Expr)
  | [] => pure []
  | token :: rest => do
      let head ← compileToken context token
      let tail ← compileTokens context rest
      pure (head ++ tail)
termination_by structural tokens => tokens

def compileCaseList (context : Value) : List Value → Compilation φ (List (String × Expr))
  | [] => pure []
  | case :: rest => do
      let head ← compileCase context case
      let tail ← compileCaseList context rest
      pure (head :: tail)
termination_by structural cases => cases

/-- Compiles one case.  A call has a key too, but no body. -/
def compileCase (context : Value) : Value → Compilation φ (String × Expr)
  | .case key body => do
      let name ← Attempt.ofExcept key.asText
      let parts ← compileTokens context body
      pure (name, .joined parts)
  | .call key _ _ => do
      let _ ← Attempt.ofExcept key.asText
      Attempt.refuse .noSuchField
  | _ => Attempt.refuse .noSuchField
termination_by structural case => case

end

def compileExpr (token context : Value) : Compilation φ Expr := do
  pure (.joined (← compileToken context token))

/-- Compiles the cases of a choice that stands by itself. -/
def compileChoiceCases (choice context : Value) : Compilation φ Expr := do
  let cases ← Attempt.require .noSuchField choice.cases?
  caseObject choice cases (compileCaseList context cases)

end Compilation

end Phrasebook
