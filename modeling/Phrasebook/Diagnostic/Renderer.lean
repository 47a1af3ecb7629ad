import Phrasebook.Diagnostic.Basic
import Phrasebook.Value.Literal

/-!
Rendering diagnostics: over several lines for people, on one line for logs, or as JSON for tools.
Optional fields that are absent or empty are left out.
-/

namespace Phrasebook

inductive RenderStyle where
  /-- A headline, then one line for each thing known about the error. -/
  | rust
  /-- The code and the message. -/
  | simple
  /-- An object with the fields of the diagnostic. -/
  | json
deriving DecidableEq, Repr

def RenderStyle.ofName? : String → Option RenderStyle
  | "rust" => some .rust
  | "simple" => some .simple
  | "json" => some .json
  | _ => none

/-- How to render.  Without a style nothing is rendered. -/
structure Renderer where
  style : Option RenderStyle := some .rust
  /-- Whether message and hint are cut to a length. -/
  sanitize : Bool := false
  /-- Whether the severity is coloured for a terminal. -/
  color : Bool := false
  /-- The length to cut to.  A negative length counts from the end of the text. -/
  maxLength : Int := 100

namespace Renderer

/-- The first characters of a text; a negative count leaves out so many at the end. -/
def firstChars (count : Int) (text : String) : String :=
  let kept := if 0 ≤ count then count.toNat else text.length - count.natAbs
  String.ofList (text.toList.take kept)

def cut (renderer : Renderer) (text : String) : String :=
  if renderer.sanitize && renderer.maxLength < (text.length : Int) then
    firstChars renderer.maxLength text ++ "..."
  else text

/-- Everything but a warning counts as an error. -/
def severityText (renderer : Renderer) (diagnostic : Diagnostic) : String :=
  let isWarning := diagnostic.severity == "warning"
  let word := if isWarning then "warning" else "error"
  if renderer.color then
    "\x1b[1;" ++ (if isWarning then "33" else "31") ++ "m" ++ word ++ "\x1b[0m"
  else word

def present (text : Option String) : Option String :=
  text.filter (!·.isEmpty)

def details (renderer : Renderer) (diagnostic : Diagnostic) : List String :=
  let given (value : Value) : Option String := if value.isGiven then some value.plain else none
  let line (label : String) (text : Option String) : Option String := text.map (label ++ ·)
  let path := (diagnostic.path.filter (!·.isEmpty)).map (String.intercalate ".")
  [line "  --> " path,
    line "  = token: " (present diagnostic.tokenType),
    line "  = argument: " (given diagnostic.argumentName),
    line "  = formatter: " (given diagnostic.formatterKey),
    line "  = locale: " (present diagnostic.locale),
    line "  = help: " ((present diagnostic.hint).map renderer.cut),
    line "  = note: see " (present diagnostic.helpUrl)].filterMap id

def rust (renderer : Renderer) (diagnostic : Diagnostic) : String :=
  let headline := renderer.severityText diagnostic ++ "[" ++ diagnostic.code.name ++ "]: "
    ++ renderer.cut diagnostic.message
  String.intercalate "\n" (headline :: renderer.details diagnostic)

def simple (renderer : Renderer) (diagnostic : Diagnostic) : String :=
  diagnostic.code.name ++ ": " ++ renderer.cut diagnostic.message

def members (renderer : Renderer) (diagnostic : Diagnostic) :
    Except Fault (List (String × Json)) := do
  let text (name : String) (value : Option String) : List (String × Json) :=
    ((present value).map fun value => (name, Json.str value)).toList
  let data (name : String) (value : Value) : Except Fault (List (String × Json)) := do
    if value.isGiven then pure [(name, ← value.toJson)] else pure []
  let path := ((diagnostic.path.filter (!·.isEmpty)).map fun keys =>
    ("template_path", Json.arr (keys.map .str))).toList
  pure ([("code", .str diagnostic.code.name), ("code_value", .int diagnostic.code.number),
      ("message", .str (renderer.cut diagnostic.message)), ("severity", .str diagnostic.severity)]
    ++ path
    ++ text "token_type" diagnostic.tokenType
    ++ (← data "argument_name" diagnostic.argumentName)
    ++ (← data "formatter_key" diagnostic.formatterKey)
    ++ text "locale" diagnostic.locale
    ++ text "hint" ((present diagnostic.hint).map renderer.cut)
    ++ text "help_url" diagnostic.helpUrl)

def json (renderer : Renderer) (diagnostic : Diagnostic) : Except Fault String := do
  pure ((Json.obj (← renderer.members diagnostic)).write .spaced)

def render (renderer : Renderer) (diagnostic : Diagnostic) : Except Fault (Option String) :=
  match renderer.style with
  | some .rust => pure (some (renderer.rust diagnostic))
  | some .simple => pure (some (renderer.simple diagnostic))
  | some .json => do pure (some (← renderer.json diagnostic))
  | none => pure none

/-- Several diagnostics with a blank line between them; nothing rendered cannot be joined. -/
def renderAll (renderer : Renderer) (diagnostics : List Diagnostic) : Except Fault String := do
  let texts ← diagnostics.mapM fun diagnostic => do
    match ← renderer.render diagnostic with
    | some text => pure text
    | none => throw .notText
  pure (String.intercalate "\n\n" texts)

end Renderer

/-- The rendering that an error carries as its text. -/
def Diagnostic.report (diagnostic : Diagnostic) : String :=
  Renderer.rust {} diagnostic

end Phrasebook
