import Phrasebook.Proofs.Compiler.Tracing
import Phrasebook.Proofs.Contract
import Phrasebook.Proofs.Formatter.Memoization

/-!
How compiling conducts itself at its desk, whatever values it is given.  Each change it makes is one
of a few moves; none of them touches the guard, and a formatter is noted only when it is registered.
Nor does compiling look at more of a desk than its guard and its configuration.
-/

namespace Phrasebook

open Target Relation

namespace Desk

variable {φ : Type}

/-- One change that compiling can make. -/
inductive Move : Desk φ → Desk φ → Prop where
  | locale (desk : Desk φ) (tag : Option String) :
      Move desk { desk with compiler := { desk.compiler with locale := tag } }
  | helper (desk : Desk φ) {needed : Helper} (other : needed ≠ .plural) :
      Move desk { desk with compiler :=
        { desk.compiler with helpers := desk.compiler.helpers.insert needed } }
  /-- The plural rules of a locale and the helper that calls them are noted together. -/
  | rules (desk : Desk φ) (tag : String) :
      Move desk { desk with compiler :=
        { desk.compiler with
          locales := desk.compiler.locales.insert tag
          helpers := desk.compiler.helpers.insert .plural } }
  | resolve (desk : Desk φ) (key : Value) (events : List Event) :
      Move desk { desk with config := (desk.config.resolve key).config, events := events }
  | formatter (desk : Desk φ) {key : String} (registered : (desk.config.registry.get? key).isSome) :
      Move desk { desk with compiler :=
        { desk.compiler with formatters := desk.compiler.formatters.insert key } }
  | report (desk : Desk φ) (events : List Event) : Move desk { desk with events := events }

abbrev Moves : Desk φ → Desk φ → Prop := ReflTransGen Move

variable {before after : Desk φ}

theorem Move.guard (move : Move before after) : after.compiler.guard = before.compiler.guard := by
  cases move <;> rfl

theorem Move.reached (move : Move before after) : before.config.Reached after.config := by
  cases move with
  | resolve key events => exact .single ⟨key, rfl⟩
  | _ => exact .refl

theorem Moves.guard (moves : Moves before after) :
    after.compiler.guard = before.compiler.guard := by
  induction moves with
  | refl => rfl
  | tail _ move ih => exact move.guard.trans ih

/-- Of the configuration nothing changes but what resolving keys may change. -/
theorem Moves.reached (moves : Moves before after) : before.config.Reached after.config := by
  induction moves with
  | refl => exact .refl
  | tail _ move ih => exact ih.trans move.reached

theorem Move.withGuard (guard : Guard) (move : Move before after) :
    Move (before.withGuard guard) (after.withGuard guard) := by
  cases move with
  | locale tag => exact .locale _ tag
  | helper other => exact .helper _ other
  | rules tag => exact .rules _ tag
  | resolve key events => exact .resolve _ key events
  | formatter registered => exact .formatter (before.withGuard guard) registered
  | report events => exact .report _ events

/-- Moves made one level deeper are moves at this level once the level is left. -/
theorem Moves.left {frames : Nat} {guard : Guard}
    (entered : before.compiler.guard.enter frames = .ok guard)
    (moves : Moves (before.withGuard guard) after) : Moves before (after.left frames) := by
  have lifted := moves.lift (withGuard before.compiler.guard) fun _ _ move => move.withGuard _
  have inside : after.compiler.guard = guard := moves.guard
  rw [Desk.left, inside, Guard.leave_of_enter entered]
  exact lifted

/-- Related desks show the same of what compiling looks at, the guard and whether a key resolves, and
stay related whatever it changes at both. -/
structure Likeness (alike : Desk φ → Desk φ → Prop) : Prop where
  guard {one other : Desk φ} : alike one other → other.compiler.guard = one.compiler.guard
  compiler {one other : Desk φ} (change : Compiler → Compiler)
    (steady : ∀ here there : Compiler, there.guard = here.guard →
      (change there).guard = (change here).guard) : alike one other →
    alike { one with compiler := change one.compiler } { other with compiler := change other.compiler }
  events {one other : Desk φ} (here there : List Event) : alike one other →
    alike { one with events := here } { other with events := there }
  outcome {one other : Desk φ} (key : String) : alike one other →
    (other.config.resolve (.str key)).outcome.map Option.isSome =
      (one.config.resolve (.str key)).outcome.map Option.isSome
  config {one other : Desk φ} (key : String) : alike one other →
    alike { one with config := (one.config.resolve (.str key)).config }
      { other with config := (other.config.resolve (.str key)).config }

/-- The desks cannot be told apart by what they make of a template. -/
structure Alike (one other : Desk φ) : Prop where
  guard : other.compiler.guard = one.compiler.guard
  config : one.config.Alike other.config

/-- The desks have the same of all that compiling looks at. -/
structure Equipped (one other : Desk φ) : Prop where
  guard : other.compiler.guard = one.compiler.guard
  config : other.config = one.config

theorem alike_likeness (φ : Type) : Likeness (Alike : Desk φ → Desk φ → Prop) where
  guard alike := alike.guard
  compiler _ steady alike := ⟨steady _ _ alike.guard, alike.config⟩
  events _ _ alike := ⟨alike.guard, alike.config⟩
  outcome key alike := alike.config.outcome key
  config _ alike := ⟨alike.guard,
    ((Config.resolve_alike alike.config.ignore _).symm.trans alike.config).trans
      (Config.resolve_alike alike.config.ignore_other _)⟩

theorem Alike.marks {one other : Desk φ} (alike : one.Alike other) :
    other.config.settings.bidi = one.config.settings.bidi := by
  rw [alike.config.settings]

theorem Equipped.marks {one other : Desk φ} (same : one.Equipped other) :
    other.config.settings.bidi = one.config.settings.bidi := by
  rw [same.config]

theorem equipped_likeness (φ : Type) : Likeness (Equipped : Desk φ → Desk φ → Prop) where
  guard same := same.guard
  compiler _ steady same := ⟨steady _ _ same.guard, same.config⟩
  events _ _ same := ⟨same.guard, same.config⟩
  outcome key same := by rw [same.config]
  config key same := ⟨same.guard, by rw [same.config]⟩

end Desk

/-- The failure says nothing about where in a catalog it happened. -/
def Failure.IsOwn : Failure → Prop
  | .template error => ∃ diagnostic, error.report = .diagnostic diagnostic ∧
      diagnostic.path = none ∧ diagnostic.severity = "error"
  | .fault _ => True

namespace Compilation

variable {φ α : Type}

section Obeys

open Attempt.Obeys

theorem fault_isOwn (fault : Fault) : (Failure.fault fault).IsOwn :=
  trivial

theorem nested_obeys {blame : Failure → Prop} {step : Compilation φ α} (frames : Nat)
    (refusal : ∀ guard load failure, Guard.Refuses guard load failure → blame failure)
    (obeys : step.Obeys Desk.Move blame) : (nested frames step).Obeys Desk.Move blame := by
  intro desk
  cases entered : desk.compiler.guard.enter frames with
  | ok guard =>
      obtain ⟨moves, fails⟩ := obeys (desk.withGuard guard)
      have ran := nested_of_entered step entered
      exact ⟨by rw [ran]; exact Desk.Moves.left entered moves, by rw [ran]; exact fails⟩
  | error reason =>
      have ran := nested_of_refused step entered
      refine ⟨by rw [ran], fun failure failed => ?_⟩
      rw [ran] at failed
      cases failed
      exact refusal _ _ _ (Guard.refuses_of_refused entered .none)

theorem refusal_isOwn (guard : Guard) (load : Load) (failure : Failure)
    (refuses : guard.Refuses load failure) : failure.IsOwn := by
  cases refuses with
  | tooDeep _ => exact ⟨_, rfl, rfl, rfl⟩
  | outOfFrames _ => trivial

theorem setLocale_obeys {blame : Failure → Prop} (tag : Option String) :
    (setLocale tag : Compilation φ Unit).Obeys Desk.Move blame :=
  update fun desk => .locale desk tag

theorem needHelper_obeys (needed : Helper) (other : needed ≠ .plural) :
    (needHelper needed : Compilation φ Unit).Obeys Desk.Move Failure.IsOwn :=
  update fun desk => .helper desk other

theorem report_obeys {blame : Failure → Prop} (event : Event) :
    (report event : Compilation φ Unit).Obeys Desk.Move blame :=
  update fun desk => .report desk _

theorem currentLocale_obeys {move : Desk φ → Desk φ → Prop} :
    (currentLocale : Compilation φ String).Obeys move Failure.IsOwn :=
  (view _).bind fun tag => require fault_isOwn .noLocale tag

theorem pluralRules_obeys : (pluralRules : Compilation φ Expr).Obeys Desk.Move Failure.IsOwn :=
  currentLocale_obeys.bind fun tag desk => .of_ok rfl (.single (.rules desk tag))

theorem needFormatter_obeysAt {key : String} {desk : Desk φ}
    (registered : (desk.config.registry.get? key).isSome) :
    (needFormatter key : Compilation φ Unit).ObeysAt Desk.Move Failure.IsOwn desk :=
  .of_ok rfl (.single (.formatter desk registered))

theorem dataRead_obeys {move : Desk φ → Desk φ → Prop} (arg : Value) :
    (dataRead arg : Compilation φ Expr).Obeys move Failure.IsOwn :=
  (ofExcept fault_isOwn arg.asText).bind fun _ => pure _

theorem caseKeys_obeys (cases : List Value) :
    (caseKeys cases : Compilation φ (List Value)).Obeys Desk.Move Failure.IsOwn := by
  induction cases with
  | nil => exact pure []
  | cons case rest ih =>
      exact (require fault_isOwn .noSuchField case.key?).bind fun key => ih.bind fun keys => pure _

theorem compileArgument_obeys (arg : Value) :
    (compileArgument arg : Compilation φ (List Expr)).Obeys Desk.Move Failure.IsOwn := by
  refine (dataRead_obeys arg).bind fun read => (view _).bind fun marked => ?_
  cases marked with
  | false => exact pure _
  | true => exact (view _).bind fun mark => pure _

theorem compileOctothorpe_obeys (context : Value) :
    (compileOctothorpe context : Compilation φ (List Expr)).Obeys Desk.Move Failure.IsOwn := by
  unfold compileOctothorpe
  split
  · exact pure _
  · refine (needHelper_obeys .number nofun).bind fun _ => (require fault_isOwn _ _).bind fun arg =>
      (dataRead_obeys arg).bind fun read => (require fault_isOwn _ _).bind fun offset => ?_
    cases offset.isGiven with
    | false => exact pure _
    | true => exact (ofExcept fault_isOwn _).bind fun literal => pure _

theorem resolveFormatter_apply (key : Value) (desk : Desk φ) :
    resolveFormatter key desk = ((desk.config.resolve key).outcome.mapError .fault,
      { desk with
        config := (desk.config.resolve key).config
        events := desk.events ++ (desk.config.resolve key).events }) := by
  rw [resolveFormatter]
  cases (desk.config.resolve key).outcome <;> rfl

theorem resolveFormatter_obeys (key : Value) :
    (resolveFormatter key : Compilation φ (Option φ)).Obeys Desk.Move Failure.IsOwn := by
  intro desk
  have resolved := resolveFormatter_apply key desk
  refine ⟨by rw [resolved]; exact .single (.resolve desk key _), fun failure failed => ?_⟩
  rw [resolved] at failed
  cases outcome : (desk.config.resolve key).outcome with
  | ok formatter =>
      rw [outcome] at failed
      cases failed
  | error fault =>
      rw [outcome] at failed
      cases failed
      trivial

theorem registered_of_resolveFormatter {key : String} {desk after : Desk φ} {formatter : φ}
    (resolved : resolveFormatter (.str key) desk = (.ok (some formatter), after)) :
    (after.config.registry.get? key).isSome := by
  rw [resolveFormatter_apply] at resolved
  cases outcome : (desk.config.resolve (.str key)).outcome with
  | error fault =>
      rw [outcome] at resolved
      cases resolved
  | ok found =>
      rw [outcome] at resolved
      cases resolved
      exact Option.isSome_of_eq_some (Config.registered_of_resolve outcome)

theorem noteFormatter_obeysAt {key : Value} {desk after : Desk φ} {formatter : φ}
    (resolved : resolveFormatter key desk = (.ok (some formatter), after))
    (emitted : String → List Expr) :
    (Attempt.ofExcept key.asText >>= fun name => needFormatter name >>= fun _ =>
      Pure.pure (emitted name) : Compilation φ (List Expr)).ObeysAt Desk.Move Failure.IsOwn after := by
  rcases Config.text_or_not key with ⟨name, rfl⟩ | noText
  · have registered := registered_of_resolveFormatter resolved
    exact (needFormatter_obeysAt registered).bind fun _ last _ => pure _ last
  · -- A formatter that is registered under something else than a text cannot be noted.
    have refused : key.asText = .error .notText := by
      cases key with
      | str name => exact absurd rfl (noText name)
      | _ => rfl
    rw [refused]
    exact fail trivial after

theorem compileCall_obeys (key arg : Value) (params : List Value) :
    (compileCall key arg params : Compilation φ (List Expr)).Obeys Desk.Move Failure.IsOwn := by
  intro desk
  refine (resolveFormatter_obeys key desk).bind fun found after resolved => ?_
  cases found with
  | none => exact ((view _).bind fun locale => fail ⟨_, rfl, rfl, rfl⟩) after
  | some formatter =>
      -- From here to the noting of the key nothing changes, so that the key is still registered then.
      refine (dataRead_obeys arg after).bind fun read afterRead ran => ?_
      obtain rfl := (dataRead_obeys arg).unchanged ran
      refine (currentLocale_obeys _).bind fun locale afterLocale ran => ?_
      obtain rfl := currentLocale_obeys.unchanged ran
      refine (ofExcept fault_isOwn (Value.paramLiterals params) _).bind fun literals afterParams ran => ?_
      obtain rfl := (ofExcept fault_isOwn _).unchanged ran
      exact noteFormatter_obeysAt resolved fun _ => _

theorem caseObject_obeys (choice : Value) (cases : List Value)
    {entries : Compilation φ (List (String × Expr))}
    (obeys : entries.Obeys Desk.Move Failure.IsOwn) :
    (caseObject choice cases entries).Obeys Desk.Move Failure.IsOwn := by
  refine (caseKeys_obeys cases).bind fun keys => ?_
  split
  · exact (nested_obeys caseFrames refusal_isOwn obeys).bind fun object => pure _
  · exact fail ⟨_, rfl, rfl, rfl⟩

mutual

theorem compileToken_obeys (context : Value) : (token : Value) →
    (compileToken context token : Compilation φ (List Expr)).Obeys Desk.Move Failure.IsOwn
  | .text value => (ofExcept fault_isOwn value.toJson).bind fun _ => pure _
  | .argument arg => compileArgument_obeys arg
  | .octothorpe => compileOctothorpe_obeys context
  | .select arg cases =>
      (caseObject_obeys _ cases (compileCaseList_obeys context cases)).bind fun _ =>
        (needHelper_obeys .select nofun).bind fun _ => (dataRead_obeys arg).bind fun _ => pure _
  | .ordinal arg cases =>
      (caseObject_obeys _ cases (compileCaseList_obeys _ cases)).bind fun _ =>
        pluralRules_obeys.bind fun _ => (dataRead_obeys arg).bind fun _ => pure _
  | .plural arg cases offset =>
      (caseObject_obeys _ cases (compileCaseList_obeys _ cases)).bind fun _ =>
        pluralRules_obeys.bind fun _ => (dataRead_obeys arg).bind fun _ =>
          (ofExcept fault_isOwn offset.offsetLiteral).bind fun _ => pure _
  | .call key arg params => compileCall_obeys key arg params
  | .null | .bool _ | .int _ | .float _ | .str _ | .list _ | .map _ | .decimal _ | .date _
  | .moment _ | .clock _ | .case _ _ | .message _ | .catalog _ => fail ⟨_, rfl, rfl, rfl⟩

theorem compileTokens_obeys (context : Value) : (tokens : List Value) →
    (compileTokens context tokens : Compilation φ (List Expr)).Obeys Desk.Move Failure.IsOwn
  | [] => pure []
  | token :: rest =>
      (compileToken_obeys context token).bind fun _ =>
        (compileTokens_obeys context rest).bind fun _ => pure _

theorem compileCaseList_obeys (context : Value) : (cases : List Value) →
    (compileCaseList context cases : Compilation φ (List (String × Expr))).Obeys Desk.Move Failure.IsOwn
  | [] => pure []
  | case :: rest =>
      (compileCase_obeys context case).bind fun _ =>
        (compileCaseList_obeys context rest).bind fun _ => pure _

theorem compileCase_obeys (context : Value) : (case : Value) →
    (compileCase context case : Compilation φ (String × Expr)).Obeys Desk.Move Failure.IsOwn
  | .case key body =>
      (ofExcept fault_isOwn key.asText).bind fun _ =>
        (compileTokens_obeys context body).bind fun _ => pure _
  | .call key _ _ => (ofExcept fault_isOwn key.asText).bind fun _ => fail trivial
  | .null | .bool _ | .int _ | .float _ | .str _ | .list _ | .map _ | .decimal _ | .date _
  | .moment _ | .clock _ | .text _ | .argument _ | .octothorpe | .select _ _ | .plural _ _ _
  | .ordinal _ _ | .message _ | .catalog _ => fail trivial

end

theorem compileExpr_obeys (token context : Value) :
    (compileExpr token context : Compilation φ Expr).Obeys Desk.Move Failure.IsOwn :=
  (compileToken_obeys context token).bind fun _ => pure _

theorem compileChoiceCases_obeys (choice context : Value) :
    (compileChoiceCases choice context : Compilation φ Expr).Obeys Desk.Move Failure.IsOwn :=
  (require fault_isOwn .noSuchField choice.cases?).bind fun cases =>
    caseObject_obeys choice cases (compileCaseList_obeys context cases)

theorem compileMessage_obeys (scope : LocaleScope) (locale : Option String) (tokens : List Value) :
    (compile scope locale (.message tokens) : Compilation φ Compiled).Obeys Desk.Move Failure.IsOwn :=
  (setLocale_obeys locale).bind fun _ => (compileTokens_obeys .null tokens).bind fun _ =>
    (report_obeys _).bind fun _ => pure _

mutual

theorem compile_obeys (scope : LocaleScope) (locale : Option String) : (template : Value) →
    (compile scope locale template : Compilation φ Compiled).Obeys Desk.Move fun _ => True
  | .message tokens => (compileMessage_obeys scope locale tokens).weaken fun _ _ => trivial
  | .catalog entries =>
      (nested_obeys catalogFrames (fun _ _ _ _ => trivial)
        (compileEntries_obeys scope locale entries)).bind fun _ => pure _
  | .null | .bool _ | .int _ | .float _ | .str _ | .list _ | .map _ | .decimal _ | .date _
  | .moment _ | .clock _ | .text _ | .argument _ | .octothorpe | .case _ _ | .select _ _
  | .plural _ _ _ | .ordinal _ _ | .call _ _ _ => fail trivial

theorem compileEntries_obeys (scope : LocaleScope) (locale : Option String) :
    (entries : List (String × Value)) →
    (compileEntries scope locale entries : Compilation φ (List (String × Compiled))).Obeys
      Desk.Move fun _ => True
  | [] => pure []
  | (_, branch) :: rest =>
      (ofExcept (fun _ => trivial) _).bind fun _ =>
        ((compile_obeys scope _ branch).mapFailure fun _ _ => trivial).bind fun _ =>
          (compileEntries_obeys scope locale rest).bind fun _ => pure _

end

end Obeys

section Matches

open Attempt.Matches

variable {alike : Desk φ → Desk φ → Prop} (likeness : Desk.Likeness alike)

include likeness

theorem nested_matches {step counterpart : Compilation φ α} (frames : Nat)
    (pairs : step.Matches alike counterpart) :
    (nested frames step).Matches alike (nested frames counterpart) := by
  intro one other same
  have guards := likeness.guard same
  cases entered : one.compiler.guard.enter frames with
  | error failure =>
      have refused := entered
      rw [← guards] at refused
      rw [nested_of_refused step entered, nested_of_refused counterpart refused]
      exact ⟨rfl, same⟩
  | ok guard =>
      have admitted := entered
      rw [← guards] at admitted
      have below : alike (one.withGuard guard) (other.withGuard guard) :=
        likeness.compiler (fun compiler => { compiler with guard := guard }) (fun _ _ _ => rfl) same
      obtain ⟨outcomes, states⟩ := pairs _ _ below
      rw [nested_of_entered step entered, nested_of_entered counterpart admitted]
      exact ⟨outcomes, likeness.compiler
        (fun compiler => { compiler with guard := compiler.guard.leave frames })
        (fun _ _ same => by simp only [same]) states⟩

theorem updateCompiler_agrees {change : Compiler → Compiler}
    (kept : ∀ compiler, (change compiler).guard = compiler.guard) :
    (updateCompiler change : Compilation φ Unit).Agrees alike :=
  update fun _ _ same => likeness.compiler change (fun here there same => by rw [kept, kept, same]) same

theorem report_matches (here there : Event) :
    (report here : Compilation φ Unit).Matches alike (report there) :=
  update fun _ _ same => likeness.events _ _ same

theorem resolves_agrees (key : String) :
    (resolveFormatter (.str key) >>= fun found => pure found.isSome :
      Compilation φ Bool).Agrees alike := by
  have applied (desk : Desk φ) :
      (resolveFormatter (.str key) >>= fun found => pure found.isSome : Compilation φ Bool) desk =
        (((desk.config.resolve (.str key)).outcome.map Option.isSome).mapError .fault,
          { desk with
            config := (desk.config.resolve (.str key)).config
            events := desk.events ++ (desk.config.resolve (.str key)).events }) := by
    have resolved := resolveFormatter_apply (.str key) desk
    cases outcome : (desk.config.resolve (.str key)).outcome with
    | ok found =>
        rw [outcome] at resolved
        exact Attempt.bind_of_ok resolved
    | error fault =>
        rw [outcome] at resolved
        exact Attempt.bind_of_error resolved
  intro one other same
  rw [applied, applied, likeness.outcome key same]
  exact ⟨rfl, likeness.events _ _ (likeness.config key same)⟩

end Matches

end Compilation

section Agreement

open Attempt.Matches Compilation

variable {φ : Type} {alike : Desk φ → Desk φ → Prop}

theorem Demand.meet_formatter_eq (key : String) (locale : Option String) :
    ((Demand.formatter key locale).meet : Compilation φ Unit) =
      (resolveFormatter (.str key) >>= fun found => Pure.pure found.isSome) >>= fun known =>
        if known then Attempt.require .noLocale locale >>= fun _ => needFormatter key
        else Attempt.reject (.unresolvedFormatter (.str key) locale) := by
  rw [Attempt.bind_assoc, Demand.meet]
  congr 1
  funext found
  cases found <;> rfl

theorem Demand.meet_agrees (likeness : Desk.Likeness alike) (demand : Demand) :
    (demand.meet : Compilation φ Unit).Agrees alike := by
  cases demand with
  | message locale => exact updateCompiler_agrees likeness fun _ => rfl
  | helper needed => exact updateCompiler_agrees likeness fun _ => rfl
  | rules locale =>
      refine (require .noLocale locale).bind fun tag => bind ?_ fun _ => ?_
      · exact updateCompiler_agrees likeness fun _ => rfl
      · exact updateCompiler_agrees likeness fun _ => rfl
  | formatter key locale =>
      rw [Demand.meet_formatter_eq]
      refine (resolves_agrees likeness key).bind fun known => ?_
      cases known with
      | false => exact fail _
      | true =>
          exact (require .noLocale locale).bind fun _ => updateCompiler_agrees likeness fun _ => rfl
  | fallback error => exact fail _
  | report event => exact report_matches likeness event event

theorem Route.follow_agrees (likeness : Desk.Likeness alike) (route : Route) :
    (route.follow : Compilation φ Unit).Agrees alike := by
  induction route with
  | done => exact pure ()
  | step demand rest ih => exact (demand.meet_agrees likeness).bind fun _ => ih
  | deeper frames inner rest inside ih =>
      exact (nested_matches likeness frames inside).bind fun _ => ih
  | branch key inner rest inside ih => exact (inside.mapFailure _).bind fun _ => ih

/-- What a template compiles to, or how it fails, is the same at desks that are alike. -/
theorem Template.compile_agrees (likeness : Desk.Likeness alike)
    (marks : ∀ {one other}, alike one other → other.config.settings.bidi = one.config.settings.bidi)
    (names : List String) (locale : Option String) (template : Template) :
    (compile (.tags names) locale template.toValue : Compilation φ Compiled).Agrees alike := by
  intro one other same
  have agrees := (template.route names locale).follow_agrees likeness
  rw [template.traces one.config.settings.bidi names locale one rfl,
    template.traces one.config.settings.bidi names locale other (marks same)]
  exact (agrees.bind fun _ => pure _) one other same

end Agreement

end Phrasebook
