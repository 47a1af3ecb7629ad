import Phrasebook.Fault
import Phrasebook.Json.Writer
import Phrasebook.Value.Basic

/-!
The JSON form of plain data.  Numbers, truth values and the empty value are allowed as keys and
become texts; parts of templates, decimals, dates and times have no JSON form.
-/

namespace Phrasebook

def Key.name : Key → Except Fault String
  | .null => pure "null"
  | .bool value => pure (if value then "true" else "false")
  | .int value => pure (toString value)
  | .float value => pure (Json.floatText value)
  | .str text => pure text
  | _ => throw .notSerializable

namespace Value

mutual

def toJson : Value → Except Fault Json
  | .null => pure .null
  | .bool value => pure (.bool value)
  | .int value => pure (.int value)
  | .float value => pure (.float value)
  | .str s => pure (.str s)
  | .list items => do pure (.arr (← toJsonAll items))
  | .map entries => do pure (.obj (← toJsonEntries entries))
  | _ => throw .notSerializable

def toJsonAll : List Value → Except Fault (List Json)
  | [] => pure []
  | value :: rest => do
      let head ← toJson value
      let tail ← toJsonAll rest
      pure (head :: tail)

def toJsonEntries : List (Key × Value) → Except Fault (List (String × Json))
  | [] => pure []
  | (key, value) :: rest => do
      let name ← key.name
      let head ← toJson value
      let tail ← toJsonEntries rest
      pure ((name, head) :: tail)

end

end Value

end Phrasebook
