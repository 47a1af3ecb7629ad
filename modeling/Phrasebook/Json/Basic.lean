import Phrasebook.Number.Double

/-!
JSON values.  An object keeps its members in the order in which they stand in the text, and may
repeat a name.
-/

namespace Phrasebook

open Number

inductive Json where
  | null
  | bool (value : Bool)
  | int (value : Int)
  | float (value : Double)
  | str (text : String)
  | arr (items : List Json)
  | obj (members : List (String × Json))
deriving Repr, Inhabited

namespace Json

def get? (json : Json) (name : String) : Option Json :=
  match json with
  | .obj members => members.lookup name
  | _ => none

end Json

end Phrasebook
