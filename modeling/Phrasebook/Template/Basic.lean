import Phrasebook.Value.Basic

/-!
Well-formed templates.  Texts, arguments, keys and parameters are texts, offsets are numbers, a
choice holds cases, and a catalog holds templates.  The library works on values, which need not be
well formed; `Template.toValue` is the value of a template that is.
-/

namespace Phrasebook

/-- What a plural choice takes away from its argument. -/
inductive Offset where
  | int (value : Int)
  | float (value : Number.Double)

def Offset.toValue : Offset → Value
  | .int value => .int value
  | .float value => .float value

mutual

inductive Token where
  | text (text : String)
  | argument (arg : String)
  | octothorpe
  | select (arg : String) (cases : List Case)
  | plural (arg : String) (cases : List Case) (offset : Offset)
  | ordinal (arg : String) (cases : List Case)
  | call (key arg : String) (params : List String)

inductive Case where
  | mk (key : String) (body : List Token)

end

inductive Template where
  | message (tokens : List Token)
  | catalog (entries : List (String × Template))

mutual

def Token.toValue : Token → Value
  | .text s => .text (.str s)
  | .argument arg => .argument (.str arg)
  | .octothorpe => .octothorpe
  | .select arg cases => .select (.str arg) (Case.toValues cases)
  | .plural arg cases offset => .plural (.str arg) (Case.toValues cases) offset.toValue
  | .ordinal arg cases => .ordinal (.str arg) (Case.toValues cases)
  | .call key arg params => .call (.str key) (.str arg) (params.map .str)

def Token.toValues : List Token → List Value
  | [] => []
  | token :: rest => token.toValue :: Token.toValues rest

def Case.toValue : Case → Value
  | .mk key body => .case (.str key) (Token.toValues body)

def Case.toValues : List Case → List Value
  | [] => []
  | case :: rest => case.toValue :: Case.toValues rest

end

mutual

def Template.toValue : Template → Value
  | .message tokens => .message (Token.toValues tokens)
  | .catalog entries => .catalog (Template.toBranches entries)

def Template.toBranches : List (String × Template) → List (String × Value)
  | [] => []
  | (key, branch) :: rest => (key, branch.toValue) :: Template.toBranches rest

end

end Phrasebook
