import Phrasebook.Formatter.Config
import Phrasebook.Proofs.Entries

/-!
What resolving a formatter does to a configuration.  It may register a default, and that is all that
later resolutions can tell: the settings and the table of defaults stay, and the keys on offer are the
same before and after.  So are the keys that can be resolved, as long as no default entry fails on
account of what is registered.
-/

namespace Phrasebook

theorem Value.same_str (value : Value) (text : String) :
    value.same (.str text) = true ↔ value = .str text := by
  cases value with
  | float number => cases number <;> simp [same, quantity?, infinite?]
  | decimal number => cases number <;> simp [same, quantity?, infinite?]
  | _ => simp [same, quantity?, infinite?]

theorem Key.beq_str (key : Key) (text : String) : (key == .str text) = true ↔ key = .str text := by
  change key.toValue.same (.str text) = true ↔ _
  rw [Value.same_str]
  cases key <;> simp [toValue]

namespace Registry

variable {φ : Type}

theorem texts_put (entries : List (Key × φ)) (key : String) (formatter : φ) :
    texts ⟨Entries.put entries (.str key) formatter⟩ = Entries.put (texts ⟨entries⟩) key formatter := by
  induction entries with
  | nil => rfl
  | cons entry rest ih =>
      obtain ⟨present, held⟩ := entry
      unfold texts at ih ⊢
      by_cases same : present = .str key
      · subst same
        simp [Entries.put, (Key.beq_str _ _).mpr rfl]
      · have kept : (present == .str key) = false :=
          Bool.eq_false_iff.mpr fun equal => same ((Key.beq_str _ _).mp equal)
        cases present with
        | str text =>
            have different : (text == key) = false := by simpa using same
            simp [Entries.put, kept, different, ih]
        | _ => simp [Entries.put, kept, ih]

@[simp] theorem texts_register (registry : Registry φ) (key : String) (formatter : φ) :
    (registry.register key formatter).texts = Entries.put registry.texts key formatter :=
  texts_put registry.entries key formatter

theorem texts_ofList (pairs : List (String × φ)) : (ofList pairs).texts = Entries.ofList pairs := by
  induction pairs using List.reverseRecOn with
  | nil => rfl
  | append_singleton pairs last ih =>
      rw [Entries.ofList_concat, ← ih, ofList, ofEntries, List.map_append, List.map_singleton,
        Entries.ofList_concat, texts_put]
      rfl

theorem get?_register (registry : Registry φ) (key sought : String) (formatter : φ) :
    (registry.register key formatter).get? sought =
      if sought == key then some formatter else registry.get? sought := by
  rw [get?, texts_register, Entries.lookup_put]
  rfl

theorem keys_eq_filterMap (registry : Registry φ) :
    registry.keys = registry.listing.filterMap fun | .str key => some key | _ => none := by
  rw [keys, texts, listing, List.map_filterMap, List.filterMap_map]
  congr 1
  funext entry
  obtain ⟨key, formatter⟩ := entry
  cases key <;> rfl

theorem isSome_get? (registry : Registry φ) (key : String) :
    (registry.get? key).isSome = registry.keys.contains key := by
  rw [get?, keys]
  induction registry.texts with
  | nil => rfl
  | cons entry rest ih =>
      obtain ⟨first, formatter⟩ := entry
      rw [List.lookup_cons, List.map_cons, List.contains_cons, ← ih]
      cases key == first <;> rfl

theorem listing_register_of_absent {registry : Registry φ} {key : String}
    (absent : registry.get? key = none) (formatter : φ) :
    (registry.register key formatter).listing = registry.listing ++ [.str key] := by
  have fresh : .str key ∉ registry.listing := by
    intro member
    have missing := registry.isSome_get? key
    rw [absent, keys_eq_filterMap] at missing
    have found : key ∈ registry.listing.filterMap fun | .str key => some key | _ => none :=
      List.mem_filterMap.mpr ⟨_, member, rfl⟩
    rw [List.contains_iff_mem.mpr found] at missing
    cases missing
  obtain ⟨entries⟩ := registry
  clear absent
  unfold listing register at *
  induction entries with
  | nil => rfl
  | cons entry rest ih =>
      rw [List.map_cons, List.mem_cons, not_or] at fresh
      have different : (entry.1 == .str key) = false :=
        Bool.eq_false_iff.mpr fun same => fresh.1 ((Key.beq_str _ _).mp same).symm
      simp [Entries.put, different, ih fresh.2]

end Registry

/-- Whether an entry fails in a configuration, and how. -/
def DefaultEntry.verdict {φ : Type} (entry : DefaultEntry φ) (settings : Settings)
    (registry : Registry φ) : Except Fault Unit :=
  (entry.instantiate settings registry).1.map fun _ => ()

namespace Config

variable {φ : Type}

/-- The key is registered, or stands in the table of defaults while that may be used. -/
def Offers (config : Config φ) (key : String) : Prop :=
  (config.registry.get? key).isSome ∨
    (config.settings.intl = true ∧ (config.defaults.lookup key).isSome)

/-- No default entry fails when it is run under the current settings, whatever is registered. -/
def DefaultsReturn (config : Config φ) : Prop :=
  ∀ key entry, config.defaults.lookup key = some entry →
    ∀ registry, entry.verdict config.settings registry = .ok ()

/-- What a default entry makes may depend on what is registered, but not whether it fails, nor how. -/
def DefaultsIgnoreRegistry (config : Config φ) : Prop :=
  ∀ key entry, config.defaults.lookup key = some entry →
    ∀ registry other, entry.verdict config.settings other = entry.verdict config.settings registry

theorem DefaultsReturn.ignoreRegistry {config : Config φ} (sound : config.DefaultsReturn) :
    config.DefaultsIgnoreRegistry := by
  intro key entry listed registry other
  rw [sound key entry listed, sound key entry listed]

def Supplies (config : Config φ) (key : String) : Prop :=
  ∃ formatter, (config.resolve (.str key)).outcome = .ok (some formatter)

theorem resolve_cases (config : Config φ) (key : String) :
    (∃ formatter, config.registry.get? key = some formatter ∧
      config.resolve (.str key) = ⟨.ok (some formatter), config, []⟩) ∨
    (¬ config.Offers key ∧ config.resolve (.str key) = ⟨.ok none, config, []⟩) ∨
    (∃ entry, config.registry.get? key = none ∧ config.settings.intl = true ∧
      config.defaults.lookup key = some entry ∧
      config.resolve (.str key) = config.supply key entry) := by
  cases registered : config.registry.get? key with
  | some formatter =>
      exact .inl ⟨formatter, rfl, by simp [resolve, Registry.resolve, registered, pure, Except.pure]⟩
  | none =>
      right
      cases allowed : config.settings.intl with
      | false =>
          left
          simp [Offers, registered, allowed, resolve, Registry.resolve, pure, Except.pure]
      | true =>
          cases listed : config.defaults.lookup key with
          | none =>
              left
              simp [Offers, registered, allowed, listed, resolve, Registry.resolve, pure, Except.pure]
          | some entry =>
              right
              exact ⟨entry, rfl, rfl, rfl, by
                simp [resolve, Registry.resolve, registered, allowed, listed, pure, Except.pure]⟩

/-- The calls of default entries after this entry has been run. -/
def callsAfter (config : Config φ) (key : String) (entry : DefaultEntry φ) : List String :=
  if entry.make.isSome then config.calls ++ [key] else config.calls

/-- All that running an entry of the table can do. -/
theorem supply_cases (config : Config φ) (key : String) (entry : DefaultEntry φ) :
    (∃ formatter events, entry.instantiate config.settings config.registry = (.ok formatter, events) ∧
      config.supply key entry = ⟨.ok (some formatter),
        { config.add key formatter with calls := config.callsAfter key entry },
        events ++ [.instantiatedDefault key]⟩) ∨
    ∃ fault events, entry.instantiate config.settings config.registry = (.error fault, events) ∧
      config.supply key entry =
        ⟨.error fault, { config with calls := config.callsAfter key entry }, events⟩ := by
  cases made : entry.instantiate config.settings config.registry with
  | mk product events =>
      cases product with
      | ok formatter => exact .inl ⟨formatter, events, rfl, by rw [supply, made]; rfl⟩
      | error fault => exact .inr ⟨fault, events, rfl, by rw [supply, made]; rfl⟩

/-- A request for a text adds its key at the end of the listing, if it resolves and is not yet
there. -/
theorem listing_resolve (config : Config φ) (key : String) :
    (config.resolve (.str key)).config.registry.listing =
      if config.registry.keys.contains key then config.registry.listing
      else match (config.resolve (.str key)).outcome.map Option.isSome with
        | .ok true => config.registry.listing ++ [.str key]
        | _ => config.registry.listing := by
  rw [← Registry.isSome_get?]
  rcases config.resolve_cases key with
    ⟨formatter, registered, resolved⟩ | ⟨_, resolved⟩ | ⟨entry, absent, _, _, resolved⟩
  · rw [resolved, registered]
    rfl
  · rw [resolved]
    exact (ite_self _).symm
  · rcases config.supply_cases key entry with ⟨formatter, _, _, supplied⟩ | ⟨fault, _, _, supplied⟩
    · rw [resolved, absent, supplied]
      exact Registry.listing_register_of_absent absent formatter
    · rw [resolved, absent, supplied]
      rfl

/-- An entry of the table of defaults answers for a key that is not registered. -/
def DefaultAnswers (config : Config φ) (key : String) : Prop :=
  config.settings.intl = true ∧ ∃ entry, config.defaults.lookup key = some entry ∧
    entry.verdict config.settings config.registry = .ok ()

theorem supplies_iff (config : Config φ) (key : String) :
    config.Supplies key ↔ (config.registry.get? key).isSome ∨ config.DefaultAnswers key := by
  rcases config.resolve_cases key with
    ⟨formatter, registered, resolved⟩ | ⟨absent, resolved⟩ | ⟨entry, absent, allowed, listed, resolved⟩
  · simp [Supplies, resolved, registered]
  · have none : ¬ config.DefaultAnswers key := by
      intro answers
      obtain ⟨allowed, entry, listed, _⟩ := answers
      exact absent (.inr ⟨allowed, by simp [listed]⟩)
    have unregistered : ¬ (config.registry.get? key).isSome := fun found => absent (.inl found)
    simp [Supplies, resolved, none, unregistered]
  · rcases config.supply_cases key entry with ⟨product, events, made, supplied⟩ | ⟨_, _, made, supplied⟩
    · have answers : entry.verdict config.settings config.registry = .ok () := by
        simp [DefaultEntry.verdict, made, Except.map]
      exact iff_of_true ⟨product, by rw [resolved, supplied]⟩ (.inr ⟨allowed, entry, listed, answers⟩)
    · simp [Supplies, DefaultAnswers, DefaultEntry.verdict, Except.map, resolved, supplied, absent,
        listed, made]

theorem not_defaultsReturn_of_resolve {config : Config φ} {key : String} {fault : Fault}
    (failed : (config.resolve (.str key)).outcome = .error fault) : ¬ config.DefaultsReturn := by
  intro sound
  rcases config.resolve_cases key with
    ⟨formatter, registered, resolved⟩ | ⟨absent, resolved⟩ | ⟨entry, absent, allowed, listed, resolved⟩
  · simp [resolved] at failed
  · simp [resolved] at failed
  · have returns := sound key entry listed config.registry
    rcases config.supply_cases key entry with ⟨_, _, _, supplied⟩ | ⟨_, _, made, _⟩
    · simp [resolved, supplied] at failed
    · simp [DefaultEntry.verdict, made, Except.map] at returns

theorem not_offers_of_resolve {config : Config φ} {key : String}
    (unknown : (config.resolve (.str key)).outcome = .ok none) : ¬ config.Offers key := by
  rcases config.resolve_cases key with
    ⟨formatter, registered, resolved⟩ | ⟨absent, resolved⟩ | ⟨entry, absent, allowed, listed, resolved⟩
  · simp [resolved] at unknown
  · exact absent
  · rcases config.supply_cases key entry with ⟨_, _, _, supplied⟩ | ⟨_, _, _, supplied⟩ <;>
      simp [resolved, supplied] at unknown

/-- The second configuration differs from the first only in what resolving may change. -/
structure Grown (before after : Config φ) : Prop where
  settings : after.settings = before.settings
  defaults : after.defaults = before.defaults
  offers : ∀ key, after.Offers key ↔ before.Offers key
  supplies : before.DefaultsIgnoreRegistry → ∀ key, after.Supplies key ↔ before.Supplies key

theorem Grown.refl (config : Config φ) : config.Grown config :=
  ⟨rfl, rfl, fun _ => Iff.rfl, fun _ _ => Iff.rfl⟩

theorem Grown.defaultsReturn {before after : Config φ} (grown : before.Grown after) :
    after.DefaultsReturn ↔ before.DefaultsReturn := by
  simp only [DefaultsReturn, grown.settings, grown.defaults]

theorem Grown.ignoreRegistry {before after : Config φ} (grown : before.Grown after) :
    after.DefaultsIgnoreRegistry ↔ before.DefaultsIgnoreRegistry := by
  simp only [DefaultsIgnoreRegistry, grown.settings, grown.defaults]

theorem Grown.trans {first second third : Config φ}
    (one : first.Grown second) (two : second.Grown third) : first.Grown third :=
  ⟨two.settings.trans one.settings, two.defaults.trans one.defaults,
    fun key => (two.offers key).trans (one.offers key),
    fun ignore key => (two.supplies (one.ignoreRegistry.mpr ignore) key).trans (one.supplies ignore key)⟩

theorem supply_grown {config : Config φ} {key : String} {entry : DefaultEntry φ}
    (allowed : config.settings.intl = true) (listed : config.defaults.lookup key = some entry) :
    config.Grown (config.supply key entry).config := by
  rcases config.supply_cases key entry with ⟨product, events, made, supplied⟩ | ⟨_, _, _, supplied⟩
  · rw [supplied]
    refine ⟨rfl, rfl, fun sought => ?_, fun ignore sought => ?_⟩
    · simp only [Offers, add, Registry.get?_register]
      by_cases same : sought = key
      · subst same
        exact iff_of_true (.inl (by simp)) (.inr ⟨allowed, by simp [listed]⟩)
      · have other : (sought == key) = false := by simp [same]
        simp [other]
    · simp only [supplies_iff, add, Registry.get?_register]
      by_cases same : sought = key
      · subst same
        have answers : entry.verdict config.settings config.registry = .ok () := by
          simp [DefaultEntry.verdict, made, Except.map]
        exact iff_of_true (.inl (by simp)) (.inr ⟨allowed, entry, listed, answers⟩)
      · have other : (sought == key) = false := by simp [same]
        rw [other]
        refine or_congr_right (and_congr_right fun _ => exists_congr fun found => ?_)
        exact and_congr_right fun present => by rw [ignore sought found present config.registry]
  · rw [supplied]
    exact ⟨rfl, rfl, fun sought => Iff.rfl, fun _ sought => by simp only [supplies_iff, DefaultAnswers]⟩

theorem resolve_grown (config : Config φ) (key : String) :
    config.Grown (config.resolve (.str key)).config := by
  rcases config.resolve_cases key with
    ⟨formatter, registered, resolved⟩ | ⟨absent, resolved⟩ | ⟨entry, absent, allowed, listed, resolved⟩
  · rw [resolved]
    exact .refl config
  · rw [resolved]
    exact .refl config
  · rw [resolved]
    exact supply_grown allowed listed

end Config

end Phrasebook
