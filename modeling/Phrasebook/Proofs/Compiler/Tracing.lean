import Phrasebook.Proofs.Compiler.Following
import Phrasebook.Proofs.Template.Contents

/-!
Compiling a well-formed template is following its route and then returning what is emitted for it.
Both are plain functions of the template, of the locales that its keys denote and of whether arguments
stand between marks; the desk decides only how far the route can be followed.
-/

namespace Phrasebook

open Target

/-- What a number sign counts: an argument less an offset. -/
structure Count where
  arg : String
  offset : Offset

/-- What number signs count in the context of a plural choice, or of none. -/
inductive Value.Counts : Value → Option Count → Prop where
  | nothing : Counts .null none
  | plural (arg : String) (cases : List Value) (offset : Offset) :
      Counts (.plural (.str arg) cases offset.toValue) (some ⟨arg, offset⟩)
  | ordinal (arg : String) (cases : List Value) :
      Counts (.ordinal (.str arg) cases) (some ⟨arg, .int 0⟩)

/-- An offset as emitted source writes it: a whole number without a fraction. -/
def Offset.toJson : Offset → Json
  | .int value => .int value
  | .float value => (value.toInt?.map Json.int).getD (.float value)

/-- The call that shows a count; an offset of zero is left out. -/
def Count.emitted (count : Count) : Expr :=
  .helper .number (if count.offset.toValue.isGiven then
    [.read count.arg, .literal count.offset.toJson] else [.read count.arg])

def Token.paramLiterals : List String → List Expr
  | [] => []
  | [param] => [.text param]
  | params => [.literal (.arr (params.map Json.str))]

/-- The route of a choice: nothing after a missing case is reached. -/
def Route.choice (cases : List Case) (error : TemplateError) (inner rest : Route) : Route :=
  if cases.any (fun case => case.key == Value.fallbackKey) then
    .deeper Compilation.caseFrames inner rest
  else .step (.fallback error) (.deeper Compilation.caseFrames inner rest)

def Case.missing (choice arg : String) (cases : List Case) : TemplateError :=
  .missingFallbackCase choice (.str arg) (cases.map fun case => .str case.key)

section Tokens

variable (locale : Option String) (bidi : Bool)

mutual

def Token.route (count : Option Count) : Token → Route
  | .text _ | .argument _ => .done
  | .octothorpe => if count.isSome then .step (.helper .number) .done else .done
  | .select arg cases =>
      .choice cases (Case.missing "select" arg cases) (Case.routes count cases)
        (.step (.helper .select) .done)
  | .plural arg cases offset =>
      .choice cases (Case.missing "plural" arg cases) (Case.routes (some ⟨arg, offset⟩) cases)
        (.step (.rules locale) .done)
  | .ordinal arg cases =>
      .choice cases (Case.missing "selectordinal" arg cases)
        (Case.routes (some ⟨arg, .int 0⟩) cases) (.step (.rules locale) .done)
  | .call key _ _ => .step (.formatter key locale) .done

def Token.routes (count : Option Count) : List Token → Route
  | [] => .done
  | token :: rest => token.route count ++ Token.routes count rest

def Case.routes (count : Option Count) : List Case → Route
  | [] => .done
  | .mk _ body :: rest => Token.routes count body ++ Case.routes count rest

end

mutual

/-- What is emitted for a part; an argument between marks gives three parts. -/
def Token.emitted (count : Option Count) : Token → List Expr
  | .text text => [.text text]
  | .argument arg =>
      if bidi then (Expr.read arg).between (Locale.directionMark locale) else [.read arg]
  | .octothorpe => [(count.map Count.emitted).getD (.text Value.octothorpeText)]
  | .select arg cases => [.helper .select [.read arg, .object (Case.emitted count cases)]]
  | .plural arg cases offset =>
      [.helper .plural [.read arg, .literal offset.toJson, .name (functionName (locale.getD "")),
        .object (Case.emitted (some ⟨arg, offset⟩) cases)]]
  | .ordinal arg cases =>
      [.helper .plural [.read arg, .literal (.int 0), .name (functionName (locale.getD "")),
        .object (Case.emitted (some ⟨arg, .int 0⟩) cases), .literal (.int 1)]]
  | .call key arg params =>
      [.call (.member .formatters key)
        (.read arg :: .text (locale.getD "") :: Token.paramLiterals params)]

def Token.emittedParts (count : Option Count) : List Token → List Expr
  | [] => []
  | token :: rest => token.emitted count ++ Token.emittedParts count rest

def Case.emitted (count : Option Count) : List Case → List (String × Expr)
  | [] => []
  | .mk key body :: rest => (key, .joined (Token.emittedParts count body)) :: Case.emitted count rest

end

variable (count : Option Count)

theorem Token.routes_append (first last : List Token) :
    Token.routes locale count (first ++ last) =
      Token.routes locale count first ++ Token.routes locale count last := by
  induction first with
  | nil => rfl
  | cons token rest ih => rw [List.cons_append, Token.routes, Token.routes, ih, Route.append_assoc]

theorem Token.emittedParts_append (first last : List Token) :
    Token.emittedParts locale bidi count (first ++ last) =
      Token.emittedParts locale bidi count first ++ Token.emittedParts locale bidi count last := by
  induction first with
  | nil => rfl
  | cons token rest ih =>
      rw [List.cons_append, Token.emittedParts, Token.emittedParts, ih, List.append_assoc]

theorem Token.routes_singleton (token : Token) :
    Token.routes locale count [token] = token.route locale count :=
  Route.append_done _

theorem Token.emittedParts_singleton (token : Token) :
    Token.emittedParts locale bidi count [token] = token.emitted locale bidi count :=
  List.append_nil _

end Tokens

namespace Template

section Templates

variable (names : List String)

mutual

def route (locale : Option String) : Template → Route
  | .message tokens =>
      .step (.message locale) (Token.routes locale none tokens ++
        .step (.report (.compiledMessage locale tokens.length)) .done)
  | .catalog entries => .deeper Compilation.catalogFrames (branchRoutes locale entries) .done

def branchRoutes (locale : Option String) : List (String × Template) → Route
  | [] => .done
  | (key, branch) :: rest =>
      .branch key (branch.route (if names.contains key then some key else locale))
        (branchRoutes locale rest)

end

mutual

def emitted (bidi : Bool) (locale : Option String) : Template → Compiled
  | .message tokens => .function (.joined (Token.emittedParts locale bidi none tokens))
  | .catalog entries => .catalog (branchesEmitted bidi locale entries)

def branchesEmitted (bidi : Bool) (locale : Option String) :
    List (String × Template) → List (String × Compiled)
  | [] => []
  | (key, branch) :: rest =>
      (key, branch.emitted bidi (if names.contains key then some key else locale)) ::
        branchesEmitted bidi locale rest

end

end Templates

end Template

namespace Route

def Still (route : Route) : Prop :=
  ∀ demand ∈ route.demands, ∀ locale, demand ≠ .message locale

theorem still_done : Route.done.Still :=
  fun _ member => absurd member List.not_mem_nil

theorem still_step {demand : Demand} (other : ∀ locale, demand ≠ .message locale) :
    (Route.step demand .done).Still := by
  intro found member
  rw [List.mem_singleton.mp member]
  exact other

@[simp] theorem choice_append (cases : List Case) (error : TemplateError) (inner rest last : Route) :
    Route.choice cases error inner rest ++ last = .choice cases error inner (rest ++ last) := by
  unfold choice
  split <;> rfl

theorem Still.append {first last : Route} (one : first.Still) (two : last.Still) :
    (first ++ last).Still := by
  intro demand member
  rw [demands_append] at member
  rcases List.mem_append.mp member with member | member
  · exact one demand member
  · exact two demand member

theorem Still.choice {inner rest : Route} (cases : List Case) (error : TemplateError)
    (one : inner.Still) (two : rest.Still) : (Route.choice cases error inner rest).Still := by
  have both : (Route.deeper Compilation.caseFrames inner rest).Still := by
    intro demand member
    rcases List.mem_append.mp member with member | member
    · exact one demand member
    · exact two demand member
  unfold Route.choice
  split
  · exact both
  · intro demand member
    rcases List.mem_cons.mp member with same | member
    · subst demand
      exact nofun
    · exact both demand member

/-- A scene that holds before the route is followed still holds afterwards. -/
def Keeps (φ : Type) (scene : Option String → Settings → Prop) (route : Route) : Prop :=
  ∀ desk : Desk φ, scene desk.compiler.locale desk.config.settings →
    scene (route.follow desk).2.compiler.locale (route.follow desk).2.config.settings

theorem foldl_note_locale {demands : List Demand} (compiler : Compiler)
    (still : ∀ demand ∈ demands, ∀ locale, demand ≠ .message locale) :
    (demands.foldl Demand.note compiler).locale = compiler.locale := by
  induction demands generalizing compiler with
  | nil => rfl
  | cons demand rest ih =>
      rw [List.foldl_cons, ih _ fun other member => still other (List.mem_cons_of_mem _ member)]
      cases demand with
      | message locale => exact absurd rfl (still _ List.mem_cons_self locale)
      | _ => rfl

theorem Still.keeps {φ : Type} {route : Route} (still : route.Still)
    (scene : Option String → Settings → Prop) : route.Keeps φ scene := by
  intro desk holds
  have follows := route.follow_follows desk
  obtain ⟨met, within, _, noted⟩ := follows.notes
  have locale := foldl_note_locale desk.compiler fun demand member =>
    still demand (within.mem member)
  rw [noted, locale, follows.config.settings]
  exact holds

theorem keeps_settings (φ : Type) (route : Route) (scene : Settings → Prop) :
    route.Keeps φ fun _ settings => scene settings := by
  intro desk holds
  rw [(route.follow_follows desk).config.settings]
  exact holds

end Route

/-- In this scene, the attempt follows the route and then returns the value. -/
def Traces {φ α : Type} (scene : Option String → Settings → Prop) (attempt : Compilation φ α)
    (route : Route) (value : α) : Prop :=
  ∀ desk, scene desk.compiler.locale desk.config.settings →
    attempt desk = (route.follow >>= fun _ => pure value) desk

namespace Traces

variable {φ α β : Type} {scene : Option String → Settings → Prop} {attempt : Compilation φ α}
  {route : Route} {value : α}

theorem of_returns
    (returns : ∀ desk, scene desk.compiler.locale desk.config.settings →
      attempt desk = (.ok value, desk)) : Traces scene attempt .done value := by
  intro desk holds
  rw [returns desk holds]
  rfl

theorem meet (demand : Demand) : Traces scene (demand.meet : Compilation φ Unit) (.step demand .done) () := by
  intro desk _
  cases met : demand.meet desk with
  | mk outcome after =>
      cases outcome with
      | ok done =>
          rw [Route.follow, Attempt.bind_assoc, Attempt.bind_of_ok met]
          rfl
      | error failure =>
          rw [Route.follow, Attempt.bind_assoc, Attempt.bind_of_error met]

theorem bind {next : α → Compilation φ β} {last : Route} {result : β}
    (first : Traces scene attempt route value) (keeps : route.Keeps φ scene)
    (second : Traces scene (next value) last result) :
    Traces scene (attempt >>= next) (route ++ last) result := by
  intro desk holds
  rw [Route.follow_append, Attempt.bind_assoc]
  have traced := first desk holds
  have kept := keeps desk holds
  cases followed : route.follow desk with
  | mk outcome after =>
      cases outcome with
      | ok done =>
          rw [Attempt.bind_of_ok followed] at traced
          rw [followed] at kept
          rw [Attempt.bind_of_ok followed, Attempt.bind_of_ok traced, second after kept]
      | error failure =>
          rw [Attempt.bind_of_error followed] at traced
          rw [Attempt.bind_of_error followed, Attempt.bind_of_error traced]

theorem map (finish : α → β) (traces : Traces scene attempt route value) :
    Traces scene (attempt >>= fun found => pure (finish found)) route (finish value) := by
  intro desk holds
  have traced := traces desk holds
  cases followed : route.follow desk with
  | mk outcome after =>
      cases outcome with
      | ok done =>
          rw [Attempt.bind_of_ok followed] at traced
          rw [Attempt.bind_of_ok followed, Attempt.bind_of_ok traced]
      | error failure =>
          rw [Attempt.bind_of_error followed] at traced
          rw [Attempt.bind_of_error followed, Attempt.bind_of_error traced]

theorem nested (frames : Nat) (traces : Traces scene attempt route value) :
    Traces scene (Compilation.nested frames attempt) (.deeper frames route .done) value := by
  intro desk holds
  rw [Route.follow, Attempt.bind_assoc]
  cases entered : desk.compiler.guard.enter frames with
  | error failure =>
      rw [Compilation.nested_of_refused attempt entered,
        Attempt.bind_of_error (Compilation.nested_of_refused route.follow entered)]
  | ok guard =>
      have traced := traces (desk.withGuard guard) holds
      have below := Compilation.nested_of_entered route.follow entered
      rw [Compilation.nested_of_entered attempt entered]
      cases followed : route.follow (desk.withGuard guard) with
      | mk outcome after =>
          rw [followed] at below
          cases outcome with
          | ok done =>
              rw [Attempt.bind_of_ok followed] at traced
              rw [Attempt.bind_of_ok below, traced]
              rfl
          | error failure =>
              rw [Attempt.bind_of_error followed] at traced
              rw [Attempt.bind_of_error below, traced]

theorem branch (key : String) (traces : Traces scene attempt route value) :
    Traces scene (Attempt.mapFailure (.within key) attempt) (.branch key route .done) value := by
  intro desk holds
  have traced := traces desk holds
  rw [Route.follow, Attempt.bind_assoc]
  cases followed : route.follow desk with
  | mk outcome after =>
      cases outcome with
      | ok done =>
          rw [Attempt.bind_of_ok followed] at traced
          rw [Attempt.bind_of_ok (Attempt.mapFailure_of_ok followed),
            Attempt.mapFailure_of_ok traced]
          rfl
      | error failure =>
          rw [Attempt.bind_of_error followed] at traced
          rw [Attempt.bind_of_error (Attempt.mapFailure_of_error followed),
            Attempt.mapFailure_of_error traced]

theorem fallback {error : TemplateError} {rest : Route}
    (rejects : attempt = Attempt.reject error) :
    Traces scene attempt (.step (.fallback error) rest) value := by
  intro desk _
  rw [rejects]
  rfl

/-- What the attempt leads to, said by its route. -/
theorem cases (traces : Traces scene attempt route value) (desk : Desk φ)
    (holds : scene desk.compiler.locale desk.config.settings) :
    (∃ after, attempt desk = (.ok value, after) ∧ Follows route desk (.ok ()) after) ∨
    ∃ failure after, attempt desk = (.error failure, after) ∧
      Follows route desk (.error failure) after := by
  have traced := traces desk holds
  have follows := route.follow_follows desk
  cases followed : route.follow desk with
  | mk outcome after =>
      rw [followed] at follows
      cases outcome with
      | ok done =>
          rw [Attempt.bind_of_ok followed] at traced
          exact .inl ⟨after, traced, follows⟩
      | error failure =>
          rw [Attempt.bind_of_error followed] at traced
          exact .inr ⟨failure, after, traced, follows⟩

theorem follows_of_ok (traces : Traces scene attempt route value) {desk after : Desk φ} {result : α}
    (holds : scene desk.compiler.locale desk.config.settings)
    (returned : attempt desk = (.ok result, after)) :
    result = value ∧ Follows route desk (.ok ()) after := by
  rcases traces.cases _ holds with ⟨_, returns, follows⟩ | ⟨_, _, fails, _⟩
  · rw [returned] at returns
    cases returns
    exact ⟨rfl, follows⟩
  · rw [returned] at fails
    cases fails

theorem follows_of_error (traces : Traces scene attempt route value) {desk after : Desk φ}
    {failure : Failure} (holds : scene desk.compiler.locale desk.config.settings)
    (failed : attempt desk = (.error failure, after)) :
    Follows route desk (.error failure) after := by
  rcases traces.cases _ holds with ⟨_, returns, _⟩ | ⟨_, _, fails, follows⟩
  · rw [failed] at returns
    cases returns
  · rw [failed] at fails
    cases fails
    exact follows

end Traces

/-- The locale in effect, and whether arguments stand between marks. -/
def Scene (locale : Option String) (bidi : Bool) (tag : Option String) (settings : Settings) : Prop :=
  tag = locale ∧ settings.bidi = bidi

theorem Traces.message {φ α : Type} {bidi : Bool} {attempt : Compilation φ α} {route : Route}
    {value : α} (locale : Option String) (traces : Traces (Scene locale bidi) attempt route value) :
    Traces (fun _ settings => settings.bidi = bidi)
      (Compilation.setLocale locale >>= fun _ => attempt) (.step (.message locale) route) value := by
  intro desk holds
  rw [Route.follow, Attempt.bind_assoc]
  exact traces { desk with compiler := { desk.compiler with locale := locale } } ⟨rfl, holds⟩

theorem Number.Double.toInt?_of_isZero {x : Number.Double} (zero : x.isZero = true) :
    x.toInt? = some 0 := by
  cases x with
  | nan => simp [isZero] at zero
  | infinite negative => simp [isZero] at zero
  | finite negative mantissa exponent =>
      have none : mantissa = 0 := by simpa [isZero] using zero
      cases negative <;> simp [toInt?, ratio, none]

theorem Offset.offsetLiteral_toValue (offset : Offset) :
    offset.toValue.offsetLiteral = .ok (.literal offset.toJson) := by
  cases offset with
  | int value =>
      by_cases zero : value = 0
      · subst value
        rfl
      · have given : (value != 0) = true := by simpa using zero
        simp [toValue, toJson, Value.offsetLiteral, Value.isGiven, given, Value.toJson, bind,
          Except.bind, pure, Except.pure]
  | float x =>
      cases whole : x.toInt? with
      | some value =>
          by_cases zero : value = 0
          · subst value
            simp [toValue, toJson, Value.offsetLiteral, whole, Value.isGiven, Value.toJson, bind,
              Except.bind, pure, Except.pure]
          · have given : (value != 0) = true := by simpa using zero
            simp [toValue, toJson, Value.offsetLiteral, whole, Value.isGiven, given, Value.toJson, bind,
              Except.bind, pure, Except.pure]
      | none =>
          have given : x.isZero = false := by
            cases zero : x.isZero with
            | false => rfl
            | true => simp [Number.Double.toInt?_of_isZero zero] at whole
          simp [toValue, toJson, Value.offsetLiteral, whole, Value.isGiven, given, Value.toJson, bind,
            Except.bind, pure, Except.pure]

theorem Value.toJsonAll_strings (texts : List String) :
    Value.toJsonAll (texts.map Value.str) = .ok (texts.map Json.str) := by
  induction texts with
  | nil => rfl
  | cons text rest ih =>
      simp [Value.toJsonAll, ih, Value.toJson, bind, Except.bind, pure, Except.pure]

theorem Token.paramLiterals_strings (params : List String) :
    Value.paramLiterals (params.map Value.str) = .ok (Token.paramLiterals params) := by
  match params with
  | [] => rfl
  | [param] => rfl
  | first :: second :: rest =>
      have all := Value.toJsonAll_strings (first :: second :: rest)
      simp only [List.map_cons] at all
      simp [Value.paramLiterals, Token.paramLiterals, Value.toJson, all, bind, Except.bind, pure,
        Except.pure]

theorem Token.length_toValues (tokens : List Token) :
    (Token.toValues tokens).length = tokens.length := by
  induction tokens with
  | nil => rfl
  | cons token rest ih => simp [Token.toValues, ih]

namespace Compilation

variable {φ : Type}

theorem caseKeys_toValues (cases : List Case) :
    (caseKeys (Case.toValues cases) : Compilation φ (List Value)) =
      pure (cases.map fun case => .str case.key) := by
  induction cases with
  | nil => rfl
  | cons case rest ih =>
      obtain ⟨key, body⟩ := case
      simp only [Case.toValues, Case.toValue, caseKeys, Value.key?, Attempt.require_some,
        Attempt.pure_bind, ih]
      rfl

theorem anyFallback_keys (cases : List Case) :
    (cases.map fun case => Value.str case.key).any Value.isFallbackKey =
      cases.any fun case => case.key == Value.fallbackKey := by
  simp [List.any_map, Function.comp_def, Value.isFallbackKey]

theorem caseObject_traces {scene : Option String → Settings → Prop}
    {entries : Compilation φ (List (String × Expr))} {inner : Route} {emitted : List (String × Expr)}
    (choice : Value) (cases : List Case) {arg : String} (has : choice.arg? = some (.str arg))
    (traces : Traces scene entries inner emitted) :
    Traces scene (caseObject choice (Case.toValues cases) entries)
      (.choice cases (Case.missing choice.choiceName arg cases) inner .done) (.object emitted) := by
  unfold caseObject Route.choice
  rw [caseKeys_toValues, Attempt.pure_bind, anyFallback_keys]
  cases cases.any fun case => case.key == Value.fallbackKey with
  | true =>
      exact (traces.nested caseFrames).map Expr.object
  | false =>
      apply Traces.fallback
      simp [Case.missing, has]

theorem choice_traces {scene : Option String → Settings → Prop} {α : Type} {value : α}
    {entries : Compilation φ (List (String × Expr))} {inner rest : Route}
    {emitted : List (String × Expr)} {next : Expr → Compilation φ α} {arg : String}
    (choice : Value) (cases : List Case) (has : choice.arg? = some (.str arg))
    (traces : Traces scene entries inner emitted) (still : inner.Still)
    (last : Traces scene (next (.object emitted)) rest value) :
    Traces scene (caseObject choice (Case.toValues cases) entries >>= next)
      (.choice cases (Case.missing choice.choiceName arg cases) inner rest) value := by
  have object := caseObject_traces choice cases has traces
  have kept := Route.Still.choice cases (Case.missing choice.choiceName arg cases) still
    Route.still_done
  have traced := object.bind (kept.keeps scene) last
  rw [Route.choice_append] at traced
  exact traced

theorem dataRead_str (arg : String) :
    (dataRead (.str arg) : Compilation φ Expr) = pure (.read arg) := rfl

theorem compileArgument_traces (locale : Option String) (bidi : Bool) (count : Option Count)
    (arg : String) :
    Traces (Scene locale bidi) (compileArgument (.str arg) : Compilation φ (List Expr)) .done
      (Token.emitted locale bidi count (.argument arg)) := by
  apply Traces.of_returns
  intro desk holds
  have tag : desk.compiler.locale = locale := holds.1
  have marked : desk.config.settings.bidi = bidi := holds.2
  rw [compileArgument, dataRead_str, Attempt.pure_bind, Attempt.view_bind, marked, Token.emitted]
  cases bidi with
  | false => rfl
  | true =>
      simp only [if_true]
      rw [Attempt.view_bind, tag]
      rfl

theorem pluralRules_traces (locale : Option String) (bidi : Bool) :
    Traces (Scene locale bidi) (pluralRules : Compilation φ Expr) (.step (.rules locale) .done)
      (.name (functionName (locale.getD ""))) := by
  intro desk holds
  have tag : desk.compiler.locale = locale := holds.1
  rw [pluralRules, currentLocale, Attempt.bind_assoc, Attempt.view_bind, tag]
  cases locale <;> rfl

theorem compileOctothorpe_traces {context : Value} {count : Option Count} (locale : Option String)
    (bidi : Bool) (counts : context.Counts count) :
    Traces (Scene locale bidi) (compileOctothorpe context : Compilation φ (List Expr))
      (Token.route locale count .octothorpe) (Token.emitted locale bidi count .octothorpe) := by
  cases counts with
  | nothing => exact .of_returns fun _ _ => rfl
  | ordinal arg cases => exact (Traces.meet (.helper .number)).map _
  | plural arg cases offset =>
      have opened : (compileOctothorpe (.plural (.str arg) cases offset.toValue) :
          Compilation φ (List Expr)) = (needHelper .number >>= fun _ =>
            if offset.toValue.isGiven then do
              let literal ← Attempt.ofExcept offset.toValue.offsetLiteral
              pure [.helper .number [.read arg, literal]]
            else pure [.helper .number [.read arg]]) := rfl
      rw [opened, Offset.offsetLiteral_toValue]
      simp only [Token.route, Token.emitted, Option.isSome_some, if_true, Option.map_some,
        Option.getD_some, Count.emitted]
      cases offset.toValue.isGiven <;> exact (Traces.meet (.helper .number)).map _

theorem resolveFormatter_compiler (key : Value) (desk : Desk φ) :
    (resolveFormatter key desk).2.compiler = desk.compiler := by
  simp only [resolveFormatter]
  cases (desk.config.resolve key).outcome <;> rfl

theorem compileCall_traces (locale : Option String) (bidi : Bool) (count : Option Count)
    (key arg : String) (params : List String) :
    Traces (Scene locale bidi)
      (compileCall (.str key) (.str arg) (params.map .str) : Compilation φ (List Expr))
      (Token.route locale count (.call key arg params))
      (Token.emitted locale bidi count (.call key arg params)) := by
  intro desk holds
  have tag : (resolveFormatter (.str key) desk).2.compiler.locale = locale := by
    rw [resolveFormatter_compiler]
    exact holds.1
  simp only [Token.route, Route.follow, Demand.meet, compileCall, Attempt.bind_assoc,
    Token.paramLiterals_strings]
  cases resolved : resolveFormatter (.str key) desk with
  | mk outcome after =>
      rw [resolved] at tag
      cases outcome with
      | error failure => rw [Attempt.bind_of_error resolved, Attempt.bind_of_error resolved]
      | ok found =>
          rw [Attempt.bind_of_ok resolved, Attempt.bind_of_ok resolved]
          cases found with
          | none =>
              change (Attempt.view _ >>= _ : Compilation φ (List Expr)) after = _
              rw [Attempt.view_bind, tag]
              rfl
          | some formatter =>
              change (currentLocale >>= fun tag => needFormatter key >>= fun _ => pure
                [.call (.member .formatters key)
                  (.read arg :: .text tag :: Token.paramLiterals params)] :
                Compilation φ (List Expr)) after = _
              rw [currentLocale, Attempt.bind_assoc, Attempt.view_bind, tag]
              cases locale <;> rfl

end Compilation

section Still

variable (locale : Option String)

mutual

theorem Token.route_still (count : Option Count) :
    (token : Token) → (token.route locale count).Still
  | .text _ => Route.still_done
  | .argument _ => Route.still_done
  | .octothorpe => by
      cases count with
      | none => exact Route.still_done
      | some count => exact Route.still_step nofun
  | .select _ cases => .choice _ _ (Case.routes_still count cases) (Route.still_step nofun)
  | .plural _ cases _ => .choice _ _ (Case.routes_still _ cases) (Route.still_step nofun)
  | .ordinal _ cases => .choice _ _ (Case.routes_still _ cases) (Route.still_step nofun)
  | .call _ _ _ => Route.still_step nofun

theorem Token.routes_still (count : Option Count) :
    (tokens : List Token) → (Token.routes locale count tokens).Still
  | [] => Route.still_done
  | token :: rest => (token.route_still count).append (Token.routes_still count rest)

theorem Case.routes_still (count : Option Count) :
    (cases : List Case) → (Case.routes locale count cases).Still
  | [] => Route.still_done
  | .mk _ body :: rest => (Token.routes_still count body).append (Case.routes_still count rest)

end

end Still

section Tracing

variable {φ : Type} (locale : Option String) (bidi : Bool)

mutual

theorem Token.traces {context : Value} {count : Option Count} (counts : context.Counts count) :
    (token : Token) → Traces (Scene locale bidi)
      (Compilation.compileToken context token.toValue : Compilation φ (List Expr))
      (token.route locale count) (token.emitted locale bidi count)
  | .text _ => .of_returns fun _ _ => rfl
  | .argument arg => Compilation.compileArgument_traces locale bidi count arg
  | .octothorpe => Compilation.compileOctothorpe_traces locale bidi counts
  | .select arg cases => by
      rw [Token.toValue, Compilation.compileToken]
      exact Compilation.choice_traces (.select (.str arg) (Case.toValues cases)) cases rfl
        (Case.traces counts cases) (Case.routes_still locale count cases)
        ((Traces.meet (.helper .select)).map _)
  | .plural arg cases offset => by
      have entries := Case.traces (.plural arg (Case.toValues cases) offset) cases
      rw [Token.toValue, Compilation.compileToken, Offset.offsetLiteral_toValue]
      exact Compilation.choice_traces (.plural (.str arg) (Case.toValues cases) offset.toValue) cases
        rfl entries (Case.routes_still locale _ cases)
        ((Compilation.pluralRules_traces locale bidi).map _)
  | .ordinal arg cases => by
      rw [Token.toValue, Compilation.compileToken]
      exact Compilation.choice_traces (.ordinal (.str arg) (Case.toValues cases)) cases rfl
        (Case.traces (.ordinal arg (Case.toValues cases)) cases) (Case.routes_still locale _ cases)
        ((Compilation.pluralRules_traces locale bidi).map _)
  | .call key arg params => Compilation.compileCall_traces locale bidi count key arg params

theorem Token.bodyTraces {context : Value} {count : Option Count} (counts : context.Counts count) :
    (tokens : List Token) → Traces (Scene locale bidi)
      (Compilation.compileTokens context (Token.toValues tokens) : Compilation φ (List Expr))
      (Token.routes locale count tokens) (Token.emittedParts locale bidi count tokens)
  | [] => .of_returns fun _ _ => rfl
  | token :: rest => by
      have head := Token.traces counts token
      have tail := Token.bodyTraces counts rest
      rw [Token.toValues, Compilation.compileTokens]
      exact head.bind ((token.route_still locale count).keeps _) (tail.map _)

theorem Case.traces {context : Value} {count : Option Count} (counts : context.Counts count) :
    (cases : List Case) → Traces (Scene locale bidi)
      (Compilation.compileCaseList context (Case.toValues cases) :
        Compilation φ (List (String × Expr)))
      (Case.routes locale count cases) (Case.emitted locale bidi count cases)
  | [] => .of_returns fun _ _ => rfl
  | .mk key body :: rest => by
      have parts := Token.bodyTraces counts body
      have tail := Case.traces counts rest
      have still := Token.routes_still locale count body
      have head := parts.map fun found => (key, Expr.joined found)
      rw [Case.toValues, Case.toValue, Compilation.compileCaseList, Compilation.compileCase]
      exact head.bind (still.keeps _) (tail.map _)

end

variable (names : List String)

mutual

theorem Template.traces (locale : Option String) :
    (template : Template) → Traces (fun _ settings => settings.bidi = bidi)
      (Compilation.compile (.tags names) locale template.toValue : Compilation φ Compiled)
      (template.route names locale) (template.emitted names bidi locale)
  | .message tokens => by
      have still := Token.routes_still locale none tokens
      rw [Template.toValue, Compilation.compile, Token.length_toValues]
      exact .message locale ((Token.bodyTraces locale bidi .nothing tokens).bind (still.keeps _)
        ((Traces.meet (.report (.compiledMessage locale tokens.length))).map _))
  | .catalog entries =>
      ((Template.branchTraces locale entries).nested Compilation.catalogFrames).map Compiled.catalog

theorem Template.branchTraces (locale : Option String) :
    (entries : List (String × Template)) → Traces (fun _ settings => settings.bidi = bidi)
      (Compilation.compileEntries (.tags names) locale (Template.toBranches entries) :
        Compilation φ (List (String × Compiled)))
      (Template.branchRoutes names locale entries)
      (Template.branchesEmitted names bidi locale entries)
  | [] => .of_returns fun _ _ => rfl
  | (key, branch) :: rest => by
      have head := (Template.traces (if names.contains key then some key else locale) branch).branch key
      have tail := Template.branchTraces locale rest
      exact head.bind (Route.keeps_settings φ _ _) (tail.map _)

end

end Tracing

namespace Template

variable {φ : Type} {names : List String} {locale : Option String} {template : Template}
  {desk after : Desk φ}

theorem follows_of_ok {compiled : Compiled}
    (returned : Compilation.compile (.tags names) locale template.toValue desk =
      (.ok compiled, after)) :
    compiled = template.emitted names desk.config.settings.bidi locale ∧
      Follows (template.route names locale) desk (.ok ()) after :=
  (template.traces desk.config.settings.bidi names locale).follows_of_ok rfl returned

theorem follows_of_error {failure : Failure}
    (failed : Compilation.compile (.tags names) locale template.toValue desk =
      (.error failure, after)) :
    Follows (template.route names locale) desk (.error failure) after :=
  (template.traces desk.config.settings.bidi names locale).follows_of_error rfl failed

end Template

end Phrasebook
