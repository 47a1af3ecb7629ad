import Phrasebook.Calendar.Clock
import Phrasebook.Entries
import Phrasebook.Number.Decimal

/-!
Values: plain data, and the parts of message templates.

A part is built without any check.  The fields that hold one thing, such as an argument, the key of a
case or an offset, may hold any value.  The fields that hold several (cases, the body of a case,
parameters, the parts of a message) are always lists, of any values, and the keys of a catalog are
always texts: parts with something else there are not modelled.

The operations that use a field refuse a value they cannot work on, at the moment they reach it; what
they did before stays done.  The well-formed templates are those of `Phrasebook.Template`.
-/

namespace Phrasebook

open Number Calendar

inductive Key where
  | null
  | bool (value : Bool)
  | int (value : Int)
  | float (value : Double)
  | str (text : String)
  | decimal (value : Decimal)
  | date (value : Date)
  | moment (value : Moment)
  | clock (value : Clock)
deriving DecidableEq, Repr

inductive Value where
  | null
  | bool (value : Bool)
  | int (value : Int)
  | float (value : Double)
  | str (text : String)
  | list (items : List Value)
  | map (entries : List (Key × Value))
  | decimal (value : Decimal)
  | date (value : Date)
  | moment (value : Moment)
  | clock (value : Clock)
  /-- Literal text of a message. -/
  | text (value : Value)
  /-- The value of an argument. -/
  | argument (arg : Value)
  /-- The number sign inside a plural case. -/
  | octothorpe
  /-- One case of a choice: the key that selects it and what it says. -/
  | case (key : Value) (body : List Value)
  /-- A choice by the value of an argument. -/
  | select (arg : Value) (cases : List Value)
  /-- A choice by the cardinal category of an argument less an offset. -/
  | plural (arg : Value) (cases : List Value) (offset : Value)
  /-- A choice by the ordinal category of an argument. -/
  | ordinal (arg : Value) (cases : List Value)
  /-- An argument shown by a formatter. -/
  | call (key : Value) (arg : Value) (params : List Value)
  /-- A message: parts in order. -/
  | message (tokens : List Value)
  /-- A catalog: templates by key, in order. -/
  | catalog (entries : List (String × Value))
deriving Repr, Inhabited

namespace Key

def toValue : Key → Value
  | .null => .null
  | .bool value => .bool value
  | .int value => .int value
  | .float value => .float value
  | .str text => .str text
  | .decimal value => .decimal value
  | .date value => .date value
  | .moment value => .moment value
  | .clock value => .clock value

end Key

namespace Value

/-- The name of a value's type as diagnostics show it. -/
def typeName : Value → String
  | .null => "NoneType"
  | .bool _ => "bool"
  | .int _ => "int"
  | .float _ => "float"
  | .str _ => "str"
  | .list _ => "list"
  | .map _ => "dict"
  | .decimal _ => "Decimal"
  | .date _ => "date"
  | .moment _ => "datetime"
  | .clock _ => "time"
  | .text _ => "Text"
  | .argument _ => "Argument"
  | .octothorpe => "Octothorpe"
  | .case _ _ => "Case"
  | .select _ _ => "Select"
  | .plural _ _ _ => "Plural"
  | .ordinal _ _ => "SelectOrdinal"
  | .call _ _ _ => "FunctionCall"
  | .message _ => "Message"
  | .catalog _ => "Catalog"

def toKey? : Value → Option Key
  | .null => some .null
  | .bool value => some (.bool value)
  | .int value => some (.int value)
  | .float value => some (.float value)
  | .str s => some (.str s)
  | .decimal value => some (.decimal value)
  | .date value => some (.date value)
  | .moment value => some (.moment value)
  | .clock value => some (.clock value)
  | _ => none

/-- Whether a value counts as given: empty, zero and absent values do not. -/
def isGiven : Value → Bool
  | .null => false
  | .bool value => value
  | .int value => value != 0
  | .float value => !value.isZero
  | .str s => !s.isEmpty
  | .list items => !items.isEmpty
  | .map entries => !entries.isEmpty
  | .decimal value => !value.isZero
  | _ => true

/-- The items of a value that can be gone through: of a text its characters, of entries their
keys. -/
def items? : Value → Option (List Value)
  | .list items => some items
  | .str s => some (s.toList.map fun c => .str (String.ofList [c]))
  | .map entries => some (entries.map fun entry => entry.1.toValue)
  | _ => none

def arg? : Value → Option Value
  | .argument arg | .select arg _ | .plural arg _ _ | .ordinal arg _ | .call _ arg _ => some arg
  | _ => none

/-- The offset of a plural part; ordinals never shift their argument. -/
def offset? : Value → Option Value
  | .plural _ _ offset => some offset
  | .ordinal _ _ => some (.int 0)
  | _ => none

def cases? : Value → Option (List Value)
  | .select _ cases | .plural _ cases _ | .ordinal _ cases => some cases
  | _ => none

def key? : Value → Option Value
  | .case key _ | .call key _ _ => some key
  | _ => none

end Value

end Phrasebook
