/-!
Entries in the order in which their keys were first put.  Putting a key that is there already
changes its value in place; keys are compared by their `BEq` instance, and the key put first stays.
-/

namespace Phrasebook.Entries

def put [BEq κ] : List (κ × ν) → κ → ν → List (κ × ν)
  | [], key, value => [(key, value)]
  | (present, held) :: rest, key, value =>
      if present == key then (present, value) :: rest else (present, held) :: put rest key value

def ofList [BEq κ] (pairs : List (κ × ν)) : List (κ × ν) :=
  pairs.foldl (fun entries pair => put entries pair.1 pair.2) []

end Phrasebook.Entries
