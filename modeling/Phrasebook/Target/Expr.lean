import Phrasebook.Target.Name

/-!
Expressions of emitted source, and their text.  The language is the part of ECMAScript that compiled
messages need: literals, names, members of the two objects a message function can see, calls, object
literals, and concatenation.
-/

namespace Phrasebook.Target

/-- The objects whose members emitted source reads. -/
inductive Receiver where
  /-- The data of a message, its function's parameter. -/
  | data
  /-- The formatters linked to the messages. -/
  | formatters
deriving DecidableEq, Repr

def Receiver.name : Receiver → String
  | .data => "d"
  | .formatters => "fmt"

/-- The functions that emitted source calls by name. -/
inductive Helper where
  | select
  | plural
  | number
deriving DecidableEq, Repr

namespace Helper

def all : List Helper := [select, plural, number]

def name : Helper → String
  | select => "select"
  | plural => "plural"
  | number => "number"

end Helper

inductive Expr where
  | literal (value : Json)
  | name (identifier : String)
  | member (receiver : Receiver) (key : String)
  | call (callee : Expr) (args : List Expr)
  | object (entries : List (String × Expr))
  /-- Two parts or more; a concatenation is no part of another. -/
  | concat (parts : List Expr)
deriving Repr

namespace Expr

def text (value : String) : Expr :=
  .literal (.str value)

def read (key : String) : Expr :=
  .member .data key

def helper (helper : Helper) (args : List Expr) : Expr :=
  .call (.name helper.name) args

/-- The parts of an expression that stands between two marks. -/
def between (mark : String) (expr : Expr) : List Expr :=
  [text mark, expr, text mark]

/-- The parts of a body as one expression.  A body of no parts is the empty text. -/
def joined : List Expr → Expr
  | [] => text ""
  | [part] => part
  | parts => .concat parts

mutual

def chars : Expr → List Char
  | .literal value => value.chars .compact
  | .name identifier => identifier.toList
  | .member receiver key => memberChars receiver.name.toList key
  | .call callee args => chars callee ++ '(' :: (argChars args ++ [')'])
  | .object entries => '{' :: ' ' :: (entryChars entries ++ [' ', '}'])
  | .concat parts => partChars parts

def argChars : List Expr → List Char
  | [] => []
  | arg :: rest => chars arg ++ argTailChars rest

def argTailChars : List Expr → List Char
  | [] => []
  | arg :: rest => ',' :: ' ' :: (chars arg ++ argTailChars rest)

def entryChars : List (String × Expr) → List Char
  | [] => []
  | (key, value) :: rest => propertyChars key ++ ':' :: ' ' :: (chars value ++ entryTailChars rest)

def entryTailChars : List (String × Expr) → List Char
  | [] => []
  | (key, value) :: rest =>
      ',' :: ' ' :: (propertyChars key ++ ':' :: ' ' :: (chars value ++ entryTailChars rest))

def partChars : List Expr → List Char
  | [] => []
  | part :: rest => chars part ++ partTailChars rest

def partTailChars : List Expr → List Char
  | [] => []
  | part :: rest => ' ' :: '+' :: ' ' :: (chars part ++ partTailChars rest)

end

def source (expr : Expr) : String :=
  String.ofList expr.chars

/-- The function of a message, which returns the value of its body. -/
def functionChars (body : Expr) : List Char :=
  "function(".toList ++ (Receiver.data.name.toList ++ (") \x7b return ".toList
    ++ (body.chars ++ "; \x7d".toList)))

def functionSource (body : Expr) : String :=
  String.ofList body.functionChars

end Expr

end Phrasebook.Target
