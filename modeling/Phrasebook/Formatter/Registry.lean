import Phrasebook.Entries
import Phrasebook.Value.Same

/-!
Registries of formatters: one formatter for each key, in the order in which the keys were first
registered.

Formatters are registered and called under texts.  A registry that is made from other data may have
keys that are no texts; they are listed with the rest, but no message can call what they stand for.
-/

namespace Phrasebook

namespace Key

def whole? : Key → Option Int
  | .bool value => some value.toNat
  | .int value => some value
  | _ => none

/-- Whether a key comes no later than another in order: texts by their code points, whole numbers by
their size.  Other keys, and keys of different kinds, cannot be compared. -/
def before? : Key → Key → Option Bool
  | .str s, .str t => some (decide (s ≤ t))
  | a, b =>
      match a.whole?, b.whole? with
      | some m, some n => some (decide (m ≤ n))
      | _, _ => none

end Key

structure Registry (φ : Type) where
  entries : List (Key × φ)

namespace Registry

variable {φ : Type}

def empty : Registry φ := ⟨[]⟩

/-- Later pairs of the same key win. -/
def ofEntries (pairs : List (Key × φ)) : Registry φ :=
  ⟨Entries.ofList pairs⟩

def ofList (pairs : List (String × φ)) : Registry φ :=
  ofEntries (pairs.map fun pair => (.str pair.1, pair.2))

/-- Puts a formatter under a key, in place of an earlier one. -/
def register (registry : Registry φ) (key : String) (formatter : φ) : Registry φ :=
  ⟨Entries.put registry.entries (.str key) formatter⟩

/-- The formatters under texts. -/
def texts (registry : Registry φ) : List (String × φ) :=
  registry.entries.filterMap fun
    | (.str key, formatter) => some (key, formatter)
    | _ => none

def get? (registry : Registry φ) (key : String) : Option φ :=
  registry.texts.lookup key

/-- The texts that formatters are registered under. -/
def keys (registry : Registry φ) : List String :=
  registry.texts.map (·.1)

/-- Every key, in the order in which they were first registered. -/
def listing (registry : Registry φ) : List Key :=
  registry.entries.map (·.1)

def size (registry : Registry φ) : Nat :=
  registry.entries.length

/-- The formatter under any value as key. -/
def resolve (registry : Registry φ) : Value → Except Fault (Option φ)
  | .str key => pure (registry.get? key)
  | value =>
      if value.isHashable then
        pure (value.toKey?.bind fun key => registry.entries.lookup key)
      else throw .unhashable

def contains (registry : Registry φ) (key : Value) : Except Fault Bool := do
  pure (← registry.resolve key).isSome

def sortedKeys (registry : Registry φ) : Except Fault (List Key) :=
  if registry.listing.Pairwise fun a b => (a.before? b).isSome then
    pure (registry.listing.mergeSort fun a b => (a.before? b).getD true)
  else throw .notComparable

/-- The registry as diagnostics show it: its keys in order. -/
def shown (registry : Registry φ) : Except Fault String := do
  let keys ← registry.sortedKeys
  pure ("FormatterRegistry(formatters=" ++ (Value.list (keys.map Key.toValue)).shown ++ ")")

end Registry

end Phrasebook
