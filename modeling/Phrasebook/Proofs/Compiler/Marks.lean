import Phrasebook.Proofs.Compiler.Conduct
import Phrasebook.Proofs.Formatter.Ledger

/-!
Marks of the writing direction as a matter of the source alone.  A template that is compiled with marks
gives what the template with the marks written out as texts gives without them.  The two runs go side
by side: their configurations differ in the setting, and so perhaps in the formatters they register,
but not in which keys are registered.
-/

namespace Phrasebook

open Target

/-- The mark that stands around arguments in messages of this locale. -/
def Locale.mark (locale : String) : String :=
  if locale ≠ "" ∧ isRightToLeft locale = true then "\u200f" else "\u200e"

theorem Locale.directionMark_some (locale : String) : directionMark (some locale) = mark locale := by
  simp [directionMark, mark, rightToLeftMark, leftToRightMark]

mutual

/-- A part with the marks around shown arguments written out.  An argument that a choice or a call reads
is not shown as it is, and gets none. -/
def Token.marked (mark : String) : Token → List Token
  | .argument arg => [.text mark, .argument arg, .text mark]
  | .text text => [.text text]
  | .octothorpe => [.octothorpe]
  | .select arg cases => [.select arg (Case.marked mark cases)]
  | .plural arg cases offset => [.plural arg (Case.marked mark cases) offset]
  | .ordinal arg cases => [.ordinal arg (Case.marked mark cases)]
  | .call key arg params => [.call key arg params]

def Token.markedBody (mark : String) : List Token → List Token
  | [] => []
  | token :: rest => token.marked mark ++ Token.markedBody mark rest

def Case.marked (mark : String) : List Case → List Case
  | [] => []
  | .mk key body :: rest => .mk key (Token.markedBody mark body) :: Case.marked mark rest

end

namespace Template

mutual

/-- The template with each message changed, by a change that may depend on the keys leading to it. -/
def mapMessages (change : List String → List Token → List Token) : Template → Template
  | .message tokens => .message (change [] tokens)
  | .catalog entries => .catalog (mapBranches change entries)

def mapBranches (change : List String → List Token → List Token) :
    List (String × Template) → List (String × Template)
  | [] => []
  | (key, branch) :: rest =>
      (key, branch.mapMessages fun path => change (key :: path)) :: mapBranches change rest

end

/-- The marks are those of the locale that the message is in. -/
def marking (names : List String) (locale : String) (path : List String) : List Token → List Token :=
  Token.markedBody (Locale.mark (effectiveLocale names locale path))

def marked (names : List String) (locale : String) (template : Template) : Template :=
  template.mapMessages (marking names locale)

theorem marking_cons (names : List String) (locale key : String) :
    (fun path => marking names locale (key :: path)) =
      marking names (if names.contains key then key else locale) := by
  funext path
  rw [marking, marking, effectiveLocale_cons]

end Template

theorem Case.map_key_marked (mark : String) (cases : List Case) :
    (Case.marked mark cases).map Case.key = cases.map Case.key := by
  induction cases with
  | nil => rfl
  | cons case rest ih =>
      obtain ⟨key, body⟩ := case
      rw [Case.marked, List.map_cons, List.map_cons, ih]
      rfl

/-- Of its cases, the route of a choice shows the keys and what lies inside. -/
theorem Route.choice_congr {cases others : List Case} (keys : others.map Case.key = cases.map Case.key)
    (name arg : String) (inner rest : Route) :
    Route.choice others (Case.missing name arg others) inner rest =
      Route.choice cases (Case.missing name arg cases) inner rest := by
  have fallback (list : List Case) : (list.any fun case => case.key == Value.fallbackKey) =
      (list.map Case.key).any (· == Value.fallbackKey) := by
    rw [List.any_map]
    rfl
  have shown (list : List Case) : (list.map fun case => Value.str case.key) =
      (list.map Case.key).map Value.str := by
    rw [List.map_map]
    rfl
  rw [Route.choice, Route.choice, Case.missing, Case.missing, fallback, fallback, shown, shown, keys]

section Expansion

variable (locale : Option String)

mutual

theorem Token.expands (count : Option Count) : (token : Token) →
    Token.routes locale count (token.marked (Locale.directionMark locale)) = token.route locale count ∧
      Token.emittedParts locale false count (token.marked (Locale.directionMark locale)) =
        token.emitted locale true count
  | .text _ => ⟨rfl, rfl⟩
  | .argument _ => ⟨rfl, rfl⟩
  | .octothorpe => ⟨Token.routes_singleton _ _ _, rfl⟩
  | .select arg cases => by
      obtain ⟨routes, entries⟩ := Case.expands count cases
      rw [Token.marked, Token.routes_singleton, Token.emittedParts_singleton, Token.route, Token.route,
        Route.choice_congr (Case.map_key_marked _ cases), routes, Token.emitted, Token.emitted, entries]
      exact ⟨rfl, rfl⟩
  | .plural arg cases offset => by
      obtain ⟨routes, entries⟩ := Case.expands (some ⟨arg, offset⟩) cases
      rw [Token.marked, Token.routes_singleton, Token.emittedParts_singleton, Token.route, Token.route,
        Route.choice_congr (Case.map_key_marked _ cases), routes, Token.emitted, Token.emitted, entries]
      exact ⟨rfl, rfl⟩
  | .ordinal arg cases => by
      obtain ⟨routes, entries⟩ := Case.expands (some ⟨arg, .int 0⟩) cases
      rw [Token.marked, Token.routes_singleton, Token.emittedParts_singleton, Token.route, Token.route,
        Route.choice_congr (Case.map_key_marked _ cases), routes, Token.emitted, Token.emitted, entries]
      exact ⟨rfl, rfl⟩
  | .call _ _ _ => ⟨rfl, rfl⟩

theorem Token.bodyExpands (count : Option Count) : (tokens : List Token) →
    Token.routes locale count (Token.markedBody (Locale.directionMark locale) tokens) =
        Token.routes locale count tokens ∧
      Token.emittedParts locale false count (Token.markedBody (Locale.directionMark locale) tokens) =
        Token.emittedParts locale true count tokens
  | [] => ⟨rfl, rfl⟩
  | token :: rest => by
      obtain ⟨route, parts⟩ := Token.expands count token
      obtain ⟨routes, tail⟩ := Token.bodyExpands count rest
      rw [Token.markedBody, Token.routes_append, Token.emittedParts_append, route, parts, routes, tail]
      exact ⟨rfl, rfl⟩

theorem Case.expands (count : Option Count) : (cases : List Case) →
    Case.routes locale count (Case.marked (Locale.directionMark locale) cases) =
        Case.routes locale count cases ∧
      Case.emitted locale false count (Case.marked (Locale.directionMark locale) cases) =
        Case.emitted locale true count cases
  | [] => ⟨rfl, rfl⟩
  | .mk key body :: rest => by
      obtain ⟨route, parts⟩ := Token.bodyExpands count body
      obtain ⟨routes, tail⟩ := Case.expands count rest
      rw [Case.marked, Case.routes, Case.routes, route, routes, Case.emitted, Case.emitted, parts, tail]
      exact ⟨rfl, rfl⟩

end

end Expansion

namespace Template

variable (names : List String)

mutual

theorem emitted_marked (locale : String) : (template : Template) →
    (template.marked names locale).emitted names false (some locale) =
      template.emitted names true (some locale)
  | .message tokens => by
      have parts := (Token.bodyExpands (some locale) none tokens).2
      rw [Locale.directionMark_some] at parts
      exact congrArg (fun body => Compiled.function (.joined body)) parts
  | .catalog entries => congrArg Compiled.catalog (branchesEmitted_marked locale entries)

theorem branchesEmitted_marked (locale : String) : (entries : List (String × Template)) →
    branchesEmitted names false (some locale) (mapBranches (marking names locale) entries) =
      branchesEmitted names true (some locale) entries
  | [] => rfl
  | (key, branch) :: rest => by
      have head := emitted_marked (if names.contains key then key else locale) branch
      rw [mapBranches, marking_cons, branchesEmitted, branchesEmitted, branchesEmitted_marked locale rest,
        ← apply_ite some, ← head, marked]

end

variable {φ : Type} {alike : Desk φ → Desk φ → Prop}

mutual

/-- The routes differ only in how many parts a message is reported to have. -/
theorem follow_marked (likeness : Desk.Likeness alike) (locale : String) : (template : Template) →
    (template.route names (some locale)).follow.Matches alike
      ((template.marked names locale).route names (some locale)).follow
  | .message tokens => by
      have routes := (Token.bodyExpands (some locale) none tokens).1
      rw [Locale.directionMark_some] at routes
      have report := Compilation.report_matches likeness (.compiledMessage (some locale) tokens.length)
        (.compiledMessage (some locale) (Token.markedBody (Locale.mark locale) tokens).length)
      change Attempt.Matches alike _ (Route.follow (.step _ (Token.routes _ _ _ ++ _)))
      simp only [marking, effectiveLocale_nil, route, Route.follow, Route.follow_append, routes]
      exact (Demand.meet_agrees likeness _).bind fun _ =>
        (Route.follow_agrees likeness _).bind fun _ => report.bind fun _ => .pure _
  | .catalog entries =>
      (Compilation.nested_matches likeness _ (follow_markedBranches likeness locale entries)).bind
        fun _ => .pure _

theorem follow_markedBranches (likeness : Desk.Likeness alike) (locale : String) :
    (entries : List (String × Template)) →
    (branchRoutes names (some locale) entries).follow.Matches alike
      (branchRoutes names (some locale) (mapBranches (marking names locale) entries)).follow
  | [] => .pure _
  | (key, branch) :: rest => by
      have head := follow_marked likeness (if names.contains key then key else locale) branch
      rw [mapBranches, marking_cons, branchRoutes, branchRoutes, ← apply_ite some]
      exact (head.mapFailure _).bind fun _ => follow_markedBranches likeness locale rest

end

end Template

namespace Config

variable {φ : Type}

/-- What an entry of the table makes may depend on marks, but not whether it fails, nor how.  The
registered formatters may depend on marks as well, though not their keys. -/
def DefaultsOverlookMarks (config : Config φ) : Prop :=
  ∀ key entry, config.defaults.lookup key = some entry →
    ∀ registry other, other.listing = registry.listing →
      entry.verdict { config.settings with bidi := true } registry =
        entry.verdict { config.settings with bidi := false } other

/-- The configurations resolve the same keys, to formatters that may differ. -/
structure Twin (one other : Config φ) : Prop where
  intl : other.settings.intl = one.settings.intl
  defaults : other.defaults = one.defaults
  listing : other.registry.listing = one.registry.listing
  faults : ∀ key entry, one.defaults.lookup key = some entry →
    ∀ here there, there.listing = here.listing →
      entry.verdict other.settings there = entry.verdict one.settings here

namespace Twin

variable {one other : Config φ}

theorem keys (twin : one.Twin other) : other.registry.keys = one.registry.keys := by
  rw [Registry.keys_eq_filterMap, Registry.keys_eq_filterMap, twin.listing]

theorem outcome (twin : one.Twin other) (key : String) :
    (other.resolve (.str key)).outcome.map Option.isSome =
      (one.resolve (.str key)).outcome.map Option.isSome := by
  rw [resolve_str_known, resolve_str_known, Registry.isSome_get?, Registry.isSome_get?, twin.keys,
    twin.intl, twin.defaults]
  cases found : if one.settings.intl then one.defaults.lookup key else none with
  | none => rfl
  | some entry =>
      have listed : one.defaults.lookup key = some entry := by
        split at found
        · exact found
        · cases found
      simp only
      rw [twin.faults key entry listed _ _ twin.listing]

theorem resolve (twin : one.Twin other) (key : String) :
    (one.resolve (.str key)).config.Twin (other.resolve (.str key)).config := by
  have grown := one.resolve_grown key
  have otherGrown := other.resolve_grown key
  refine ⟨?_, ?_, ?_, ?_⟩
  · rw [grown.settings, otherGrown.settings, twin.intl]
  · rw [grown.defaults, otherGrown.defaults, twin.defaults]
  · rw [listing_resolve, listing_resolve, twin.keys, twin.listing, twin.outcome]
  · rw [grown.settings, grown.defaults, otherGrown.settings]
    exact twin.faults

end Twin

end Config

namespace Desk

variable {φ : Type}

structure Twin (one other : Desk φ) : Prop where
  compiler : other.compiler = one.compiler
  config : one.config.Twin other.config

theorem twin_likeness (φ : Type) : Likeness (Twin : Desk φ → Desk φ → Prop) where
  guard twin := by rw [twin.compiler]
  compiler change _ twin := ⟨congrArg change twin.compiler, twin.config⟩
  events _ _ twin := ⟨twin.compiler, twin.config⟩
  outcome key twin := twin.config.outcome key
  config key twin := ⟨twin.compiler, twin.config.resolve key⟩

def withMarks (bidi : Bool) (desk : Desk φ) : Desk φ :=
  { desk with config := { desk.config with settings := { desk.config.settings with bidi := bidi } } }

theorem withMarks_twin {desk : Desk φ} (overlook : desk.config.DefaultsOverlookMarks) :
    (desk.withMarks true).Twin (desk.withMarks false) :=
  ⟨rfl, rfl, rfl, rfl, fun key entry listed here there same =>
    (overlook key entry listed here there same).symm⟩

end Desk

/-- Compiling with marks is compiling without them what has them written out: the outcome, the compiler
afterwards and the keys of the registry are the same. -/
theorem marks_are_written_out {φ : Type} (desk : Desk φ) (names : List String) (locale : String)
    (template : Template) (overlook : desk.config.DefaultsOverlookMarks) :
    let on := Compilation.compile (.tags names) (some locale) template.toValue (desk.withMarks true)
    let off := Compilation.compile (.tags names) (some locale) (template.marked names locale).toValue
      (desk.withMarks false)
    off.1 = on.1 ∧ off.2.compiler = on.2.compiler ∧
      off.2.config.registry.keys = on.2.config.registry.keys := by
  intro on off
  -- The two runs follow their routes side by side, from desks that are twins.
  have follows := (template.follow_marked names (Desk.twin_likeness φ) locale).bind fun _ =>
    .pure (template.emitted names true (some locale))
  obtain ⟨outcomes, twins⟩ := follows _ _ (Desk.withMarks_twin overlook)
  have marks : on = _ := template.traces true names (some locale) (desk.withMarks true) rfl
  have writtenOut : off = _ :=
    (template.marked names locale).traces false names (some locale) (desk.withMarks false) rfl
  rw [template.emitted_marked names locale] at writtenOut
  rw [marks, writtenOut]
  exact ⟨outcomes, twins.compiler, twins.config.keys⟩

/-- A desk whose defaults are the standard formatters. -/
def Desk.standard (limit : Int) : Desk Standard :=
  { config := { defaults := Standard.defaults }, compiler := .ofLimit limit }

theorem Standard.exists_ofMaker {makers : List (String × (Settings → Standard))} {key : String}
    {entry : DefaultEntry Standard}
    (listed : (makers.map fun maker => (maker.1, .ofMaker .date id maker.2)).lookup key = some entry) :
    ∃ make, entry = .ofMaker .date id make := by
  induction makers with
  | nil => cases listed
  | cons maker rest ih =>
      rw [List.map_cons, List.lookup_cons] at listed
      cases same : key == maker.1 with
      | true =>
          rw [same] at listed
          cases listed
          exact ⟨maker.2, rfl⟩
      | false =>
          rw [same] at listed
          exact ih listed

theorem Desk.standard_overlooksMarks (limit : Int) :
    (Desk.standard limit).config.DefaultsOverlookMarks := by
  intro key entry listed registry other _
  obtain ⟨make, rfl⟩ := Standard.exists_ofMaker listed
  rfl

/-- Of two messages one is written from right to left; its choice reads its argument without marks. -/
def Template.greetings : Template :=
  .catalog [
    ("ar", .message [.select "g" [.mk "other" [.argument "name"]], .call "number" "n" []]),
    ("en", .message [.argument "name"])]

theorem greetings_are_marked :
    (Desk.standard 5).config.DefaultsOverlookMarks ∧
    (Compilation.compile (.tags ["ar", "en"]) (some "en")
      (Template.greetings.marked ["ar", "en"] "en").toValue ((Desk.standard 5).withMarks false)).1 =
      .ok (.catalog [
        ("ar", .function (.concat [
          .helper .select [.read "g", .object [("other", .concat
            [.text "\u200f", .read "name", .text "\u200f"])]],
          .call (.member .formatters "number") [.read "n", .text "ar"]])),
        ("en", .function (.concat [.text "\u200e", .read "name", .text "\u200e"]))]) := by
  have overlook := Desk.standard_overlooksMarks 5
  have arabic : Locale.directionMark (some "ar") = "\u200f" := by decide +kernel
  have english : Locale.directionMark (some "en") = "\u200e" := by decide +kernel
  refine ⟨overlook, ?_⟩
  rw [(marks_are_written_out (Desk.standard 5) ["ar", "en"] "en" .greetings overlook).1, ← arabic,
    ← english]
  rfl

/-- A desk whose only default cannot be made when marks are wanted. -/
def Desk.markless (limit : Int) : Desk Unit :=
  { config :=
      { defaults := [("number", ⟨(), some fun settings _ =>
          if settings.bidi then .error (.raised .invalidValue "no marks") else .ok (some ())⟩)] }
    compiler := .ofLimit limit }

/-- A message without arguments has no marks to write out, and compiles without marks only. -/
theorem markless_default_fails_with_marks :
    let template := Template.message [.call "number" "n" []]
    (Compilation.compile (.tags []) (some "en") template.toValue ((Desk.markless 5).withMarks true)).1 =
      .error (.fault (.raised .invalidValue "no marks")) ∧
    ∃ compiled, (Compilation.compile (.tags []) (some "en") (template.marked [] "en").toValue
      ((Desk.markless 5).withMarks false)).1 = .ok compiled :=
  ⟨rfl, _, rfl⟩

end Phrasebook
