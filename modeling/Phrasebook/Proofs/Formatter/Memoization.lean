import Mathlib.Logic.Relation
import Phrasebook.Proofs.Formatter.Resolution

/-!
A default that has been supplied cannot be told from one that has not, as long as the settings stay and
no entry of the table fails on account of what is registered.  Resolving a key registers its default at
most, and where a registered default answers, the table would have answered again.
-/

namespace Phrasebook.Config

variable {φ : Type}

/-- The same texts resolve under both configurations and the others fail in the same way, now and after
further resolutions. -/
structure Alike (one other : Config φ) : Prop where
  settings : other.settings = one.settings
  defaults : other.defaults = one.defaults
  ignore : one.DefaultsIgnoreRegistry
  outcome : ∀ key : String, (other.resolve (.str key)).outcome.map Option.isSome =
    (one.resolve (.str key)).outcome.map Option.isSome

namespace Alike

variable {first second third : Config φ}

theorem refl {config : Config φ} (ignore : config.DefaultsIgnoreRegistry) : config.Alike config :=
  ⟨rfl, rfl, ignore, fun _ => rfl⟩

theorem ignore_other (alike : first.Alike second) : second.DefaultsIgnoreRegistry := by
  rw [DefaultsIgnoreRegistry, alike.settings, alike.defaults]
  exact alike.ignore

theorem symm (alike : first.Alike second) : second.Alike first :=
  ⟨alike.settings.symm, alike.defaults.symm, alike.ignore_other, fun key => (alike.outcome key).symm⟩

theorem trans (one : first.Alike second) (two : second.Alike third) : first.Alike third :=
  ⟨two.settings.trans one.settings, two.defaults.trans one.defaults, one.ignore,
    fun key => (two.outcome key).trans (one.outcome key)⟩

end Alike

theorem text_or_not (key : Value) : (∃ name, key = .str name) ∨ ∀ name, key ≠ .str name :=
  (em _).imp_right fun noText name same => noText ⟨name, same⟩

/-- The table of defaults has texts as keys only. -/
theorem resolve_of_not_str (config : Config φ) {key : Value} (other : ∀ name, key ≠ .str name) :
    config.resolve key = ⟨config.registry.resolve key, config, []⟩ := by
  unfold resolve
  cases config.registry.resolve key with
  | error fault => rfl
  | ok found =>
      cases found with
      | some formatter => rfl
      | none =>
          cases key with
          | str name => exact absurd rfl (other name)
          | _ => rfl

/-- What the table of defaults answers for a key that is not registered. -/
def defaultOutcome (config : Config φ) (key : String) : Except Fault (Option φ) :=
  match if config.settings.intl then config.defaults.lookup key else none with
  | some entry => (entry.instantiate config.settings config.registry).1.map some
  | none => .ok none

theorem resolve_str_outcome (config : Config φ) (key : String) :
    (config.resolve (.str key)).outcome =
      match config.registry.get? key with
      | some formatter => .ok (some formatter)
      | none => config.defaultOutcome key := by
  rcases config.resolve_cases key with
    ⟨formatter, registered, resolved⟩ | ⟨absent, resolved⟩ | ⟨entry, absent, allowed, listed, resolved⟩
  · rw [resolved, registered]
  · rw [Offers, not_or, not_and] at absent
    have unregistered : config.registry.get? key = none := by simpa using absent.1
    rw [resolved, unregistered]
    cases allowed : config.settings.intl with
    | false => simp [defaultOutcome, allowed]
    | true =>
        have unlisted : config.defaults.lookup key = none :=
          Option.not_isSome_iff_eq_none.mp (absent.2 allowed)
        simp [defaultOutcome, allowed, unlisted]
  · rw [resolved, absent]
    simp only [defaultOutcome, allowed, listed, if_true, supply]
    cases entry.instantiate config.settings config.registry with
    | mk product events => cases product <;> rfl

/-- Whether a text resolves: because it is registered, or by the table. -/
theorem resolve_str_known (config : Config φ) (key : String) :
    (config.resolve (.str key)).outcome.map Option.isSome =
      if (config.registry.get? key).isSome then .ok true
      else match if config.settings.intl then config.defaults.lookup key else none with
        | some entry => (entry.verdict config.settings config.registry).map fun _ => true
        | none => .ok false := by
  rw [resolve_str_outcome]
  cases config.registry.get? key with
  | some formatter => rfl
  | none =>
      rw [defaultOutcome]
      cases (if config.settings.intl then config.defaults.lookup key else none) with
      | none => rfl
      | some entry =>
          change Except.map _ (Except.map some _) = Except.map _ (DefaultEntry.verdict _ _ _)
          rw [DefaultEntry.verdict]
          cases (entry.instantiate config.settings config.registry).1 <;> rfl

theorem supply_alike {config : Config φ} {key : String} {entry : DefaultEntry φ}
    (ignore : config.DefaultsIgnoreRegistry) (allowed : config.settings.intl = true)
    (listed : config.defaults.lookup key = some entry) :
    config.Alike (config.supply key entry).config := by
  rcases config.supply_cases key entry with ⟨formatter, events, made, supplied⟩ | ⟨_, _, _, supplied⟩
  · rw [supplied]
    refine ⟨rfl, rfl, ignore, fun sought => ?_⟩
    simp only [resolve_str_known, add, Registry.get?_register]
    by_cases same : sought = key
    · subst same
      simp [allowed, listed, DefaultEntry.verdict, made, Except.map]
    · have other : (sought == key) = false := by simp [same]
      rw [other]
      cases found : if config.settings.intl then config.defaults.lookup sought else none with
      | none => rfl
      | some default =>
          rw [allowed, if_pos rfl] at found
          simp only [Bool.false_eq_true, if_false]
          rw [ignore sought default found config.registry]
  · rw [supplied]
    exact ⟨rfl, rfl, ignore, fun sought => by simp only [resolve_str_known]⟩

/-- Resolving a key leaves the configuration as it is or supplies a default. -/
theorem resolve_config_cases (config : Config φ) (key : Value) :
    (config.resolve key).config = config ∨
      ∃ name entry, config.registry.get? name = none ∧ config.settings.intl = true ∧
        config.defaults.lookup name = some entry ∧
        (config.resolve key).config = (config.supply name entry).config := by
  rcases text_or_not key with ⟨name, rfl⟩ | noText
  · rcases config.resolve_cases name with
      ⟨_, _, resolved⟩ | ⟨_, resolved⟩ | ⟨entry, absent, allowed, listed, resolved⟩
    · exact .inl (by rw [resolved])
    · exact .inl (by rw [resolved])
    · exact .inr ⟨name, entry, absent, allowed, listed, by rw [resolved]⟩
  · left
    rw [config.resolve_of_not_str noText]

/-- Resolving a key changes nothing that a later resolution could tell. -/
theorem resolve_alike {config : Config φ} (ignore : config.DefaultsIgnoreRegistry) (key : Value) :
    config.Alike (config.resolve key).config := by
  rcases config.resolve_config_cases key with same | ⟨_, _, _, allowed, listed, supplied⟩
  · rw [same]
    exact .refl ignore
  · rw [supplied]
    exact supply_alike ignore allowed listed

/-- The keys of the first configuration are registered in the second, too. -/
def Retained (before after : Config φ) : Prop :=
  ∀ key, (before.registry.get? key).isSome → (after.registry.get? key).isSome

theorem Retained.refl (config : Config φ) : config.Retained config :=
  fun _ => id

theorem Retained.trans {first second third : Config φ} (one : first.Retained second)
    (two : second.Retained third) : first.Retained third :=
  fun key found => two key (one key found)

theorem add_retained (config : Config φ) (name : String) (formatter : φ) :
    config.Retained (config.add name formatter) := by
  intro key found
  simp only [add, Registry.get?_register]
  split
  · rfl
  · exact found

theorem resolve_retained (config : Config φ) (key : Value) :
    config.Retained (config.resolve key).config := by
  rcases config.resolve_config_cases key with same | ⟨name, entry, _, _, _, supplied⟩
  · rw [same]
    exact .refl config
  · rw [supplied]
    rcases config.supply_cases name entry with ⟨formatter, _, _, supplied⟩ | ⟨_, _, _, supplied⟩
    · rw [supplied]
      exact config.add_retained name formatter
    · rw [supplied]
      exact .refl config

/-- What resolving some keys one after another can make of a configuration. -/
def Reached : Config φ → Config φ → Prop :=
  Relation.ReflTransGen fun before after => ∃ key, after = (before.resolve key).config

theorem Reached.alike {before after : Config φ} (ignore : before.DefaultsIgnoreRegistry)
    (reached : before.Reached after) : before.Alike after := by
  induction reached with
  | refl => exact .refl ignore
  | tail _ step ih =>
      obtain ⟨key, rfl⟩ := step
      exact ih.trans (resolve_alike ih.ignore_other key)

theorem Reached.retained {before after : Config φ} (reached : before.Reached after) :
    before.Retained after := by
  induction reached with
  | refl => exact .refl _
  | tail _ step ih =>
      obtain ⟨key, rfl⟩ := step
      exact ih.trans (resolve_retained _ key)

/-- A text that resolves to a formatter has that formatter registered afterwards. -/
theorem registered_of_resolve {config : Config φ} {key : String} {formatter : φ}
    (resolved : (config.resolve (.str key)).outcome = .ok (some formatter)) :
    (config.resolve (.str key)).config.registry.get? key = some formatter := by
  rcases config.resolve_cases key with
    ⟨found, registered, same⟩ | ⟨absent, same⟩ | ⟨entry, absent, allowed, listed, same⟩
  · rw [same] at resolved ⊢
    cases resolved
    exact registered
  · rw [same] at resolved
    cases resolved
  · rw [same] at resolved ⊢
    rcases config.supply_cases key entry with ⟨product, _, _, supplied⟩ | ⟨_, _, _, supplied⟩
    · rw [supplied] at resolved ⊢
      cases resolved
      simp [add, Registry.get?_register]
    · rw [supplied] at resolved
      cases resolved

end Phrasebook.Config
