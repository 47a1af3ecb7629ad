import Phrasebook.Event
import Phrasebook.Formatter.Registry

/-!
Configurations: the settings that compilers share, the formatters registered so far, and the table
of defaults that supplies a formatter on first use.

An entry of the table is a formatter, or makes one from the configuration as it is then, settings and
registered formatters.  Which of the two is seen by running it: an entry that can be called with the
configuration alone is run, and what it makes is used when that is a formatter; otherwise the entry
itself is.
-/

namespace Phrasebook

structure Settings where
  /-- Whether arguments are set between marks of the writing direction. -/
  bidi : Bool := false
  /-- Whether the table of defaults may be used. -/
  intl : Bool := true
  /-- The currency of amounts. -/
  currency : String := "USD"
deriving DecidableEq, Repr

structure DefaultEntry (φ : Type) where
  /-- The entry itself as a formatter. -/
  formatter : φ
  /-- Calls the entry with the settings and the registry, if it can be called so.  The result is a
  formatter, or something else. -/
  make : Option (Settings → Registry φ → Except Fault (Option φ))

/-- The formatter that an entry stands for in a configuration, with what is reported meanwhile. -/
def DefaultEntry.instantiate {φ : Type} (entry : DefaultEntry φ) (settings : Settings)
    (registry : Registry φ) : Except Fault φ × List Event :=
  match entry.make with
  | none => (.ok entry.formatter, [])
  | some make =>
      match make settings registry with
      | .error fault => (.error fault, [])
      | .ok (some product) => (.ok product, [])
      | .ok none => (.ok entry.formatter, [.notAFactory])

structure Config (φ : Type) where
  settings : Settings := {}
  registry : Registry φ := .empty
  defaults : List (String × DefaultEntry φ)
  /-- The keys whose default entry was called, in order. -/
  calls : List String := []

namespace Config

variable {φ : Type}

/-- What became of a request for a formatter: the answer, the configuration afterwards, and what is
reported. -/
structure Resolution (φ : Type) where
  outcome : Except Fault (Option φ)
  config : Config φ
  events : List Event

/-- Supplies a formatter from the table of defaults and registers it. -/
def supply (config : Config φ) (key : String) (entry : DefaultEntry φ) : Resolution φ :=
  let calls := if entry.make.isSome then config.calls ++ [key] else config.calls
  match entry.instantiate config.settings config.registry with
  | (.error fault, events) => ⟨.error fault, { config with calls := calls }, events⟩
  | (.ok formatter, events) =>
      ⟨.ok (some formatter),
        { config with registry := config.registry.register key formatter, calls := calls },
        events ++ [.instantiatedDefault key]⟩

/-- The formatter registered under a key, or else the one that the table of defaults supplies. -/
def resolve (config : Config φ) (key : Value) : Resolution φ :=
  match config.registry.resolve key with
  | .error fault => ⟨.error fault, config, []⟩
  | .ok (some formatter) => ⟨.ok (some formatter), config, []⟩
  | .ok none =>
      match key with
      | .str name =>
          match if config.settings.intl then config.defaults.lookup name else none with
          | some entry => config.supply name entry
          | none => ⟨.ok none, config, []⟩
      | _ => ⟨.ok none, config, []⟩

def add (config : Config φ) (name : String) (formatter : φ) : Config φ :=
  { config with registry := config.registry.register name formatter }

end Config

end Phrasebook
