import Phrasebook.Value.Text

/-!
Diagnostics: what is wrong with a template, where, and what to do about it.  A diagnostic quotes the
keys of the template as they are, so the argument and the formatter it names may be any value.
-/

namespace Phrasebook

/-- What is wrong: a template that breaks the contract with its parser (1000 on), a surrounding that
lacks something (2000 on), or a limit that was reached (3000 on). -/
inductive DiagnosticCode where
  | missingFallbackCase
  | unrecognizedToken
  | malformedToken
  | unresolvedFormatter
  | maxDepthExceeded
deriving DecidableEq, Repr

namespace DiagnosticCode

def all : List DiagnosticCode :=
  [missingFallbackCase, unrecognizedToken, malformedToken, unresolvedFormatter, maxDepthExceeded]

def name : DiagnosticCode → String
  | missingFallbackCase => "MISSING_FALLBACK_CASE"
  | unrecognizedToken => "UNRECOGNIZED_TOKEN"
  | malformedToken => "MALFORMED_TOKEN"
  | unresolvedFormatter => "UNRESOLVED_FORMATTER"
  | maxDepthExceeded => "MAX_DEPTH_EXCEEDED"

def number : DiagnosticCode → Nat
  | missingFallbackCase => 1001
  | unrecognizedToken => 1002
  | malformedToken => 1003
  | unresolvedFormatter => 2001
  | maxDepthExceeded => 3001

def ofName? (name : String) : Option DiagnosticCode :=
  all.find? fun code => code.name == name

end DiagnosticCode

structure Diagnostic where
  code : DiagnosticCode
  message : String
  hint : Option String := none
  helpUrl : Option String := none
  /-- The kind of the part at fault. -/
  tokenType : Option String := none
  /-- The argument of the part at fault. -/
  argumentName : Value := .null
  /-- The formatter that a call names. -/
  formatterKey : Value := .null
  /-- The locale in effect. -/
  locale : Option String := none
  severity : String := "error"
  /-- The catalog keys that lead to the message at fault, from the root down. -/
  path : Option (List String) := none
deriving Repr

namespace Diagnostic

/-- The page that explains choices and their cases. -/
def guideUrl : String := "https://unicode-org.github.io/icu/userguide/format_parse/messages/"

def missingFallbackCase (tokenType : String) (arg : Value) (keys : List Value) : Diagnostic :=
  let present := commaSeparated (keys.map Value.shown)
  { code := .missingFallbackCase
    message := "No 'other' case in " ++ tokenType ++ " on '" ++ arg.plain ++ "' (cases: "
      ++ (if present.isEmpty then "none" else present) ++ ")"
    hint := some "Add an 'other' case; it is selected when no other key matches"
    helpUrl := some guideUrl
    tokenType := some tokenType
    argumentName := arg }

def unresolvedFormatter (key : Value) (locale : Option String) : Diagnostic :=
  { code := .unresolvedFormatter
    message := "Formatting function '" ++ key.plain ++ "' not found"
    hint := some "Register the formatter on the config, or enable intl_support for defaults"
    tokenType := some "function"
    formatterKey := key
    locale := locale }

/-- A value where only a part of a template has a meaning. -/
def unrecognizedToken (token : Value) : Diagnostic :=
  { code := .unrecognizedToken
    message := "Parser error for token " ++ token.shown
    hint := some "The parser and compiler disagree on the token set; check their versions"
    tokenType := some token.typeName }

/-- Data of a known kind that lacks a field or holds a wrong one. -/
def malformedToken (token : Value) (detail : String) : Diagnostic :=
  { code := .malformedToken
    message := "Malformed token " ++ token.shown ++ ": " ++ detail
    hint := some "Tokens must follow the parser's JSON output format" }

def maxDepthExceeded (limit : Int) : Diagnostic :=
  { code := .maxDepthExceeded
    message := "Maximum nesting depth (" ++ toString limit ++ ") exceeded"
    hint := some "Flatten nested select/plural cases or catalog branches" }

/-- The diagnostic seen from one catalog further out. -/
def within (key : String) (diagnostic : Diagnostic) : Diagnostic :=
  { diagnostic with path := some (key :: diagnostic.path.getD []) }

end Diagnostic

end Phrasebook
