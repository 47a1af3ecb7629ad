import Phrasebook.TemplateError

/-!
Loading templates from the data that message parsers emit.  A list of tokens is a message, entries
are a catalog; a text is the source of a message and needs a parser.  Tokens are texts, or entries
whose `type` names the kind of part and whose other fields hold its contents.  The fields are taken
as they are, except that the keys of cases and catalogs become texts.
-/

namespace Phrasebook.Template

abbrev Parser := String → Value

/-- Why the fields of a token cannot be loaded: one is missing, or loading one fails. -/
inductive FieldError where
  | missing (field : String)
  | failed (failure : Failure)

def unrecognized {α : Type} (token : Value) : Except Failure α :=
  throw (.template (.unrecognizedToken token))

def malformed {α : Type} (token : Value) (detail : String) : Except Failure α :=
  throw (.template (.malformedToken token detail))

def field? (name : String) (entries : List (Key × Value)) : Option Value :=
  (entries.find? fun entry => decide (entry.1 = .str name)).map (·.2)

def field (name : String) (entries : List (Key × Value)) : Except FieldError Value :=
  match field? name entries with
  | some value => pure value
  | none => throw (.missing name)

/-- The parameters of a call: absent and empty ones are none. -/
def loadParams (entries : List (Key × Value)) : Except FieldError (List Value) :=
  match field? "params" entries with
  | some params =>
      if params.isGiven then
        match params.items? with
        | some items => pure items
        | none => throw (.failed (.fault .notIterable))
      else pure []
  | none => pure []

/-- The offset of a plural: absent and empty ones are zero. -/
def loadOffset (entries : List (Key × Value)) : Value :=
  match field? "offset" entries with
  | some offset => if offset.isGiven then offset else .int 0
  | none => .int 0

/-- Reports a missing field as an error of the token it is missing from. -/
def reportMissing (token : Value) : Except FieldError Value → Except Failure Value
  | .ok value => .ok value
  | .error (.missing name) => malformed token ("missing field " ++ Text.quoted name)
  | .error (.failed failure) => .error failure

def asField {α : Type} : Except Failure α → Except FieldError α
  | .ok value => .ok value
  | .error failure => .error (.failed failure)

mutual

def loadToken : Value → Except Failure Value
  | .str text => pure (.text (.str text))
  | .map entries =>
      reportMissing (.map entries)
        (match field? "type" entries with
        | some (.str "argument") => do pure (.argument (← field "arg" entries))
        | some (.str "select") => do
            let arg ← field "arg" entries
            let cases ← loadCasesField entries
            pure (.select arg cases)
        | some (.str "plural") => do
            let arg ← field "arg" entries
            let cases ← loadCasesField entries
            pure (.plural arg cases (loadOffset entries))
        | some (.str "selectordinal") => do
            let arg ← field "arg" entries
            let cases ← loadCasesField entries
            pure (.ordinal arg cases)
        | some (.str "function") => do
            let key ← field "key" entries
            let arg ← field "arg" entries
            let params ← loadParams entries
            pure (.call key arg params)
        | some (.str "octothorpe") => pure .octothorpe
        | _ => asField (unrecognized (.map entries)))
  | token => unrecognized token

/-- Loads the field `cases`. -/
def loadCasesField : List (Key × Value) → Except FieldError (List Value)
  | [] => throw (.missing "cases")
  | (key, value) :: rest => if key = .str "cases" then loadCases value else loadCasesField rest

/-- Loads cases.  The characters of a text and the keys of entries are gone through too, but none of
them is a case. -/
def loadCases : Value → Except FieldError (List Value)
  | .list items => loadCaseList items
  | .str text => if text.isEmpty then pure [] else throw (.failed (.fault .notIndexable))
  | .map entries => if entries.isEmpty then pure [] else throw (.failed (.fault .notIndexable))
  | _ => throw (.failed (.fault .notIterable))

def loadCaseList : List Value → Except FieldError (List Value)
  | [] => pure []
  | case :: rest => do
      let head ← loadCase case
      let tail ← loadCaseList rest
      pure (head :: tail)

/-- Loads one case; a case without `tokens` says nothing. -/
def loadCase : Value → Except FieldError Value
  | .map entries => do
      let key ← field "key" entries
      let body ← loadBodyField entries
      pure (.case (.str key.plain) body)
  | _ => throw (.failed (.fault .notIndexable))

/-- Loads the field `tokens`. -/
def loadBodyField : List (Key × Value) → Except FieldError (List Value)
  | [] => pure []
  | (key, value) :: rest =>
      if key = .str "tokens" then asField (loadTokens value) else loadBodyField rest

/-- Loads tokens.  A text counts as its characters, entries as their keys. -/
def loadTokens : Value → Except Failure (List Value)
  | .list items => loadTokenList items
  | .str text => pure (text.toList.map fun c => .text (.str (String.ofList [c])))
  | .map entries => loadKeys entries
  | _ => throw (.fault .notIterable)

def loadTokenList : List Value → Except Failure (List Value)
  | [] => pure []
  | token :: rest => do
      let head ← loadToken token
      let tail ← loadTokenList rest
      pure (head :: tail)

/-- Loads the keys of entries as tokens; only texts are tokens. -/
def loadKeys : List (Key × Value) → Except Failure (List Value)
  | [] => pure []
  | (key, _) :: rest =>
      match key with
      | .str text => do
          let tail ← loadKeys rest
          pure (.text (.str text) :: tail)
      | other => unrecognized other.toValue

end

mutual

def load (parser : Option Parser) : Value → Except Failure Value
  | .str source =>
      match parser with
      | some parse => do pure (.message (← loadTokens (parse source)))
      | none => malformed (.str source) "raw message source requires a parser"
  | .map entries => do pure (.catalog (Entries.ofList (← loadEntries parser entries)))
  | .list items => do pure (.message (← loadTokenList items))
  | other => malformed other "expected a token list or a mapping"

def loadEntries (parser : Option Parser) :
    List (Key × Value) → Except Failure (List (String × Value))
  | [] => pure []
  | (key, value) :: rest => do
      let head ← load parser value
      let tail ← loadEntries parser rest
      pure ((key.plain, head) :: tail)

end

end Phrasebook.Template
