import Phrasebook.Diagnostic.Renderer

/-!
The errors of templates.  An error has a kind, and either a plain text or a diagnostic, whose
rendering is then its text.  While an error passes outwards through catalogs, each one adds its key
to the path of the diagnostic.
-/

namespace Phrasebook

inductive ErrorKind where
  | messageFormat
  | compilation
  | missingFallbackCase
  | unresolvedFormatter
  | unrecognizedToken
  | malformedToken
  | depthLimitExceeded
deriving DecidableEq, Repr

namespace ErrorKind

def all : List ErrorKind :=
  [messageFormat, compilation, missingFallbackCase, unresolvedFormatter, unrecognizedToken,
    malformedToken, depthLimitExceeded]

def name : ErrorKind → String
  | messageFormat => "MessageFormatError"
  | compilation => "CompilationError"
  | missingFallbackCase => "MissingFallbackCaseError"
  | unresolvedFormatter => "UnresolvedFormatterError"
  | unrecognizedToken => "UnrecognizedTokenError"
  | malformedToken => "MalformedTokenError"
  | depthLimitExceeded => "DepthLimitExceededError"

def ofName? (name : String) : Option ErrorKind :=
  all.find? fun kind => kind.name == name

/-- A kind and the more general kinds it belongs to, up to the most general. -/
def ancestry : ErrorKind → List ErrorKind
  | messageFormat => [messageFormat]
  | compilation => [compilation, messageFormat]
  | kind => [kind, compilation, messageFormat]

end ErrorKind

inductive ErrorReport where
  | plain (text : String)
  | diagnostic (diagnostic : Diagnostic)
deriving Repr

structure TemplateError where
  kind : ErrorKind
  report : ErrorReport
deriving Repr

namespace TemplateError

def diagnostic? (error : TemplateError) : Option Diagnostic :=
  match error.report with
  | .plain _ => none
  | .diagnostic diagnostic => some diagnostic

def message (error : TemplateError) : String :=
  match error.report with
  | .plain text => text
  | .diagnostic diagnostic => diagnostic.report

/-- The error seen from one catalog further out; a plain text stays as it is. -/
def within (key : String) (error : TemplateError) : TemplateError :=
  match error.report with
  | .plain _ => error
  | .diagnostic diagnostic => { error with report := .diagnostic (diagnostic.within key) }

def missingFallbackCase (tokenType : String) (arg : Value) (keys : List Value) : TemplateError :=
  ⟨.missingFallbackCase, .diagnostic (.missingFallbackCase tokenType arg keys)⟩

def unresolvedFormatter (key : Value) (locale : Option String) : TemplateError :=
  ⟨.unresolvedFormatter, .diagnostic (.unresolvedFormatter key locale)⟩

def unrecognizedToken (token : Value) : TemplateError :=
  ⟨.unrecognizedToken, .diagnostic (.unrecognizedToken token)⟩

def malformedToken (token : Value) (detail : String) : TemplateError :=
  ⟨.malformedToken, .diagnostic (.malformedToken token detail)⟩

def depthLimitExceeded (limit : Int) : TemplateError :=
  ⟨.depthLimitExceeded, .diagnostic (.maxDepthExceeded limit)⟩

end TemplateError

/-- How an operation on templates fails: by an error of the template, or by a fault. -/
inductive Failure where
  | template (error : TemplateError)
  | fault (fault : Fault)
deriving Repr

/-- The failure seen from one catalog further out; a fault does not record where it happened. -/
def Failure.within (key : String) : Failure → Failure
  | .template error => .template (error.within key)
  | .fault reason => .fault reason

end Phrasebook
