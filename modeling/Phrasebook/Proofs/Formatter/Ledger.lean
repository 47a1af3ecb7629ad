import Phrasebook.Formatting.Standard
import Phrasebook.Proofs.Formatter.Memoization

/-!
Whole runs of requests to a configuration.  A ledger keeps every registration that was ever made,
oldest first, and answers a request by the last one for its key, or else from the table of defaults
under the settings and with the registry of that moment.  A configuration answers as the ledger of its
run does, and its registry is what the ledger amounts to.
-/

namespace Phrasebook

variable {φ : Type}

namespace Config

inductive Request (φ : Type) where
  | add (key : String) (formatter : φ)
  | resolve (key : String)
  | configure (change : Settings → Settings)

def serve (config : Config φ) : Request φ → Config φ
  | .add key formatter => config.add key formatter
  | .resolve key => (config.resolve (.str key)).config
  | .configure change => { config with settings := change config.settings }

def serveAll (config : Config φ) (history : List (Request φ)) : Config φ :=
  history.foldl serve config

end Config

structure Ledger (φ : Type) where
  settings : Settings
  defaults : List (String × DefaultEntry φ)
  /-- Every registration, oldest first. -/
  registrations : List (String × φ)

namespace Ledger

def last? (ledger : Ledger φ) (key : String) : Option φ :=
  ledger.registrations.reverse.lookup key

/-- What a request for the formatter of a key is answered. -/
def answer (ledger : Ledger φ) (key : String) : Except Fault (Option φ) :=
  match ledger.last? key with
  | some formatter => .ok (some formatter)
  | none =>
      match if ledger.settings.intl then ledger.defaults.lookup key else none with
      | some entry => (entry.instantiate ledger.settings (.ofList ledger.registrations)).1.map some
      | none => .ok none

def register (ledger : Ledger φ) (key : String) (formatter : φ) : Ledger φ :=
  { ledger with registrations := ledger.registrations ++ [(key, formatter)] }

/-- The ledger after a request.  Only a formatter that was not registered before is registered by
being asked for. -/
def record (ledger : Ledger φ) : Config.Request φ → Ledger φ
  | .add key formatter => ledger.register key formatter
  | .resolve key =>
      match ledger.last? key, ledger.answer key with
      | none, .ok (some formatter) => ledger.register key formatter
      | _, _ => ledger
  | .configure change => { ledger with settings := change ledger.settings }

def recordAll (ledger : Ledger φ) (history : List (Config.Request φ)) : Ledger φ :=
  history.foldl record ledger

/-- The configuration is what the ledger amounts to. -/
structure Describes (ledger : Ledger φ) (config : Config φ) : Prop where
  settings : config.settings = ledger.settings
  defaults : config.defaults = ledger.defaults
  registry : config.registry = .ofList ledger.registrations

namespace Describes

variable {ledger : Ledger φ} {config : Config φ}

theorem get? (describes : ledger.Describes config) (key : String) :
    config.registry.get? key = ledger.last? key := by
  rw [describes.registry, Registry.get?, Registry.texts_ofList]
  exact Entries.lookup_ofList ledger.registrations key

theorem answer (describes : ledger.Describes config) (key : String) :
    (config.resolve (.str key)).outcome = ledger.answer key := by
  have outcome := config.resolve_str_outcome key
  rw [describes.get?, Config.defaultOutcome, describes.settings, describes.defaults,
    describes.registry] at outcome
  exact outcome

theorem register (describes : ledger.Describes config) (key : String) (formatter : φ) :
    config.registry.register key formatter =
      .ofList (ledger.register key formatter).registrations := by
  rw [describes.registry, Registry.ofList, Registry.ofEntries, Registry.register, Registry.ofList,
    Registry.ofEntries, Ledger.register, List.map_append, List.map_singleton, Entries.ofList_concat]

theorem resolve (describes : ledger.Describes config) (key : String) :
    (ledger.record (.resolve key)).Describes (config.resolve (.str key)).config := by
  have found := describes.get? key
  have answered := describes.answer key
  rcases config.resolve_cases key with
    ⟨formatter, registered, resolved⟩ | ⟨absent, resolved⟩ | ⟨entry, absent, allowed, listed, resolved⟩
  · rw [registered] at found
    rw [resolved, record, ← found]
    exact describes
  · rw [resolved] at answered
    rw [resolved, record, ← answered]
    cases ledger.last? key <;> exact describes
  · rw [absent] at found
    rcases config.supply_cases key entry with ⟨formatter, _, _, supplied⟩ | ⟨_, _, _, supplied⟩
    · rw [resolved, supplied] at answered
      rw [resolved, supplied, record, ← found, ← answered]
      exact ⟨describes.settings, describes.defaults, describes.register key formatter⟩
    · rw [resolved, supplied] at answered
      rw [resolved, supplied, record, ← found, ← answered]
      exact ⟨describes.settings, describes.defaults, describes.registry⟩

theorem serve (describes : ledger.Describes config) (request : Config.Request φ) :
    (ledger.record request).Describes (config.serve request) := by
  cases request with
  | add key formatter =>
      exact ⟨describes.settings, describes.defaults, describes.register key formatter⟩
  | resolve key => exact describes.resolve key
  | configure change =>
      exact ⟨congrArg change describes.settings, describes.defaults, describes.registry⟩

theorem serveAll (describes : ledger.Describes config) (history : List (Config.Request φ)) :
    (ledger.recordAll history).Describes (config.serveAll history) := by
  induction history generalizing ledger config with
  | nil => exact describes
  | cons request rest ih => exact ih (describes.serve request)

end Describes

end Ledger

namespace Config

variable {config : Config φ} {key : String} {formatter : φ}

/-- Resolving a key that is registered changes nothing, and asks no default. -/
theorem resolve_of_registered (registered : config.registry.get? key = some formatter) :
    config.resolve (.str key) = ⟨.ok (some formatter), config, []⟩ := by
  rcases config.resolve_cases key with
    ⟨found, present, resolved⟩ | ⟨absent, _⟩ | ⟨_, absent, _⟩
  · rw [registered] at present
    cases present
    exact resolved
  · exact absurd (.inl (Option.isSome_of_eq_some registered)) absent
  · rw [registered] at absent
    cases absent

theorem supply_other (other : String) (entry : DefaultEntry φ) (different : key ≠ other) :
    (config.supply other entry).config.registry.get? key = config.registry.get? key ∧
      (config.supply other entry).config.calls.count key = config.calls.count key := by
  have unequal : (other == key) = false := beq_false_of_ne different.symm
  have calls : (config.callsAfter other entry).count key = config.calls.count key := by
    unfold callsAfter
    split
    · rw [List.count_append, List.count_singleton, unequal]
      rfl
    · rfl
  rcases config.supply_cases other entry with ⟨formatter, _, _, supplied⟩ | ⟨_, _, _, supplied⟩
  · rw [supplied]
    exact ⟨by simp [add, Registry.get?_register, different], calls⟩
  · rw [supplied]
    exact ⟨rfl, calls⟩

theorem serve_resolve_other (other : String) (different : key ≠ other) :
    (config.serve (.resolve other)).registry.get? key = config.registry.get? key ∧
      (config.serve (.resolve other)).calls.count key = config.calls.count key := by
  rcases config.resolve_cases other with
    ⟨_, _, resolved⟩ | ⟨_, resolved⟩ | ⟨entry, _, _, _, resolved⟩
  · rw [serve, resolved]
    exact ⟨rfl, rfl⟩
  · rw [serve, resolved]
    exact ⟨rfl, rfl⟩
  · rw [serve, resolved]
    exact supply_other other entry different

/-- While a key is registered no request runs its default entry, and only an added formatter takes the
place of the registered one. -/
theorem serve_of_registered (registered : config.registry.get? key = some formatter)
    (request : Request φ) :
    (config.serve request).calls.count key = config.calls.count key ∧
      ((config.serve request).registry.get? key = some formatter ∨
        ∃ added, request = .add key added ∧
          (config.serve request).registry.get? key = some added) := by
  cases request with
  | add other added =>
      refine ⟨rfl, ?_⟩
      by_cases same : key = other
      · subst same
        exact .inr ⟨added, rfl, by simp [serve, add, Registry.get?_register]⟩
      · left
        rw [← registered]
        simp [serve, add, Registry.get?_register, same]
  | resolve other =>
      by_cases same : key = other
      · subst same
        rw [serve, resolve_of_registered registered]
        exact ⟨rfl, .inl registered⟩
      · obtain ⟨kept, calls⟩ := config.serve_resolve_other other same
        exact ⟨calls, .inl (kept.trans registered)⟩
  | configure change => exact ⟨rfl, .inl registered⟩

theorem calls_serveAll_of_registered (registered : config.registry.get? key = some formatter)
    (later : List (Request φ)) : (config.serveAll later).calls.count key = config.calls.count key := by
  induction later generalizing config formatter with
  | nil => rfl
  | cons request rest ih =>
      obtain ⟨calls, kept | ⟨added, _, replaced⟩⟩ := serve_of_registered registered request
      · exact (ih kept).trans calls
      · exact (ih replaced).trans calls

theorem serveAll_of_registered (registered : config.registry.get? key = some formatter)
    {later : List (Request φ)} (untouched : ∀ other, .add key other ∉ later) :
    (config.serveAll later).registry.get? key = some formatter := by
  induction later generalizing config with
  | nil => exact registered
  | cons request rest ih =>
      obtain ⟨_, kept | ⟨added, same, _⟩⟩ := serve_of_registered registered request
      · exact ih kept fun other member => untouched other (List.mem_cons_of_mem _ member)
      · exact absurd (same ▸ List.mem_cons_self) (untouched added)

theorem resolve_registry_of_none (unknown : ∀ formatter,
    (config.resolve (.str key)).outcome ≠ .ok (some formatter)) :
    (config.resolve (.str key)).config.registry = config.registry := by
  rcases config.resolve_cases key with
    ⟨formatter, _, resolved⟩ | ⟨_, resolved⟩ | ⟨entry, _, _, _, resolved⟩
  · rw [resolved]
  · rw [resolved]
  · rw [resolved] at unknown ⊢
    rcases config.supply_cases key entry with ⟨formatter, _, _, supplied⟩ | ⟨_, _, _, supplied⟩
    · rw [supplied] at unknown
      exact absurd rfl (unknown formatter)
    · rw [supplied]

end Config

/-- After any requests a key resolves as the ledger of the run says.  Once it has resolved, its default
is never run again, and it keeps its formatter until another one is added; if it does not resolve, the
registry stays as it is; and the registry has every registered key once, in the order of their first
registrations. -/
theorem resolution_follows_ledger (settings : Settings) (registered : List (String × φ))
    (defaults : List (String × DefaultEntry φ)) (history : List (Config.Request φ)) (key : String) :
    let now := Config.serveAll
      { settings := settings, registry := .ofList registered, defaults := defaults } history
    let ledger := Ledger.recordAll ⟨settings, defaults, registered⟩ history
    let resolution := now.resolve (.str key)
    resolution.outcome = ledger.answer key ∧
    (∀ formatter, resolution.outcome = .ok (some formatter) →
      resolution.config.registry.get? key = some formatter ∧
      ∀ later, (resolution.config.serveAll later).calls.count key = resolution.config.calls.count key ∧
        ((∀ other, .add key other ∉ later) →
          ((resolution.config.serveAll later).resolve (.str key)).outcome = .ok (some formatter))) ∧
    ((∀ formatter, resolution.outcome ≠ .ok (some formatter)) →
      resolution.config.registry = now.registry) ∧
    now.registry.keys = (ledger.registrations.map Prod.fst).eraseDups ∧ now.registry.keys.Nodup := by
  intro now ledger resolution
  have describes : ledger.Describes now :=
    Ledger.Describes.serveAll ⟨rfl, rfl, rfl⟩ history
  have keys : now.registry.keys = (Entries.ofList ledger.registrations).map Prod.fst := by
    rw [describes.registry, Registry.keys, Registry.texts_ofList]
  refine ⟨describes.answer key, fun formatter resolved => ?_, Config.resolve_registry_of_none, ?_, ?_⟩
  · have present := Config.registered_of_resolve resolved
    refine ⟨present, fun later => ⟨Config.calls_serveAll_of_registered present later, fun untouched => ?_⟩⟩
    rw [Config.resolve_of_registered (Config.serveAll_of_registered present untouched)]
  · rw [keys, Entries.keys_ofList]
  · rw [keys]
    exact Entries.keys_ofList_nodup _

def Standard.defaults : List (String × DefaultEntry Standard) :=
  Standard.makers.map fun maker => (maker.1, .ofMaker .date id maker.2)

/-- The number formatter keeps the currency it was first resolved under, also when the currency changes
and the defaults are turned off. -/
theorem number_keeps_its_currency :
    let resolution := Config.resolve { registry := .ofList [], defaults := Standard.defaults } (.str "number")
    let later := resolution.config.serveAll
      [.resolve "date", .configure fun settings => { settings with currency := "EUR", intl := false }]
    resolution.outcome = .ok (some (.number "USD")) ∧ later.settings.currency = "EUR" ∧
      (later.resolve (.str "number")).outcome = .ok (some (.number "USD")) ∧
      later.calls.count "number" = 1 := by
  intro resolution later
  have first : resolution.outcome = .ok (some (.number "USD")) := rfl
  obtain ⟨_, follows⟩ := (resolution_follows_ledger {} [] Standard.defaults [] "number").2.1 _ first
  obtain ⟨calls, keeps⟩ := follows
    [.resolve "date", .configure fun settings => { settings with currency := "EUR", intl := false }]
  exact ⟨first, rfl, keeps (by simp), calls⟩

end Phrasebook
