import Phrasebook.Compiler.Template
import Phrasebook.Proofs.Attempt
import Phrasebook.Proofs.Formatter.Resolution
import Phrasebook.Proofs.Guard

/-!
Routes: what compiling does to its desk, without what it emits.

A route lists the demands of a template in the order in which they are met, and keeps two facts about
where a demand stands: how many levels and frames deep, and under which catalog keys.  What a run of a
compiler can do is said once, by `Follows`, with one case for each way a run goes on or ends.
-/

namespace Phrasebook

open Target

/-- One thing that a template asks of the desk. -/
inductive Demand where
  /-- A message starts, in this locale. -/
  | message (locale : Option String)
  | helper (helper : Helper)
  | rules (locale : Option String)
  | formatter (key : String) (locale : Option String)
  /-- A choice has no case for everything else. -/
  | fallback (error : TemplateError)
  | report (event : Event)

inductive Route where
  | done
  | step (demand : Demand) (rest : Route)
  /-- Part of the route lies one level deeper, which takes so many frames. -/
  | deeper (frames : Nat) (inner rest : Route)
  /-- Part of the route lies under a key of a catalog. -/
  | branch (key : String) (inner rest : Route)

namespace Demand

variable {φ : Type}

def meet : Demand → Compilation φ Unit
  | .message locale => Compilation.setLocale locale
  | .helper needed => Compilation.needHelper needed
  | .rules locale => do
      let tag ← Attempt.require .noLocale locale
      Compilation.needLocale tag
      Compilation.needHelper .plural
  | .formatter key locale => do
      match ← Compilation.resolveFormatter (.str key) with
      | none => Attempt.reject (.unresolvedFormatter (.str key) locale)
      | some _ =>
          let _ ← Attempt.require .noLocale locale
          Compilation.needFormatter key
  | .fallback error => Attempt.reject error
  | .report event => Compilation.report event

/-- What is noted in the tables of a compiler when the demand has been met. -/
def note (compiler : Compiler) : Demand → Compiler
  | .message locale => { compiler with locale := locale }
  | .helper needed => { compiler with helpers := compiler.helpers.insert needed }
  | .rules locale =>
      { compiler with
        locales := compiler.locales.insert (locale.getD "")
        helpers := compiler.helpers.insert .plural }
  | .formatter key _ => { compiler with formatters := compiler.formatters.insert key }
  | .fallback _ | .report _ => compiler

/-- The demand can be met; of the desk only the configuration matters. -/
def Meetable (config : Config φ) : Demand → Prop
  | .rules locale => locale.isSome
  | .formatter key locale => config.Supplies key ∧ locale.isSome
  | .fallback _ => False
  | .message _ | .helper _ | .report _ => True

end Demand

namespace Route

def append : Route → Route → Route
  | .done, last => last
  | .step demand rest, last => .step demand (rest.append last)
  | .deeper frames inner rest, last => .deeper frames inner (rest.append last)
  | .branch key inner rest, last => .branch key inner (rest.append last)

instance : Append Route := ⟨append⟩

@[simp] theorem done_append (last : Route) : .done ++ last = last := rfl

@[simp] theorem step_append (demand : Demand) (rest last : Route) :
    .step demand rest ++ last = .step demand (rest ++ last) := rfl

@[simp] theorem deeper_append (frames : Nat) (inner rest last : Route) :
    .deeper frames inner rest ++ last = .deeper frames inner (rest ++ last) := rfl

@[simp] theorem branch_append (key : String) (inner rest last : Route) :
    .branch key inner rest ++ last = .branch key inner (rest ++ last) := rfl

@[simp] theorem append_done (route : Route) : route ++ .done = route := by
  induction route with
  | done => rfl
  | step demand rest ih => rw [step_append, ih]
  | deeper frames inner rest _ ih => rw [deeper_append, ih]
  | branch key inner rest _ ih => rw [branch_append, ih]

theorem append_assoc (first second third : Route) :
    first ++ second ++ third = first ++ (second ++ third) := by
  induction first with
  | done => rfl
  | step demand rest ih => rw [step_append, step_append, step_append, ih]
  | deeper frames inner rest _ ih => rw [deeper_append, deeper_append, deeper_append, ih]
  | branch key inner rest _ ih => rw [branch_append, branch_append, branch_append, ih]

def demands : Route → List Demand
  | .done => []
  | .step demand rest => demand :: rest.demands
  | .deeper _ inner rest => inner.demands ++ rest.demands
  | .branch _ inner rest => inner.demands ++ rest.demands

def load : Route → Load
  | .done => .none
  | .step _ rest => rest.load
  | .deeper frames inner rest => max (inner.load.under frames) rest.load
  | .branch _ inner rest => max inner.load rest.load

@[simp] theorem demands_append (first last : Route) :
    (first ++ last).demands = first.demands ++ last.demands := by
  induction first with
  | done => rfl
  | step demand rest ih => simp [demands, ih]
  | deeper frames inner rest _ ih => simp [demands, ih]
  | branch key inner rest _ ih => simp [demands, ih]

@[simp] theorem load_append (first last : Route) :
    (first ++ last).load = max first.load last.load := by
  induction first with
  | done => simp [load]
  | step demand rest ih => simp [load, ih]
  | deeper frames inner rest _ ih => simp [load, ih, Load.max_assoc]
  | branch key inner rest _ ih => simp [load, ih, Load.max_assoc]

variable {φ : Type}

def follow : Route → Compilation φ Unit
  | .done => pure ()
  | .step demand rest => do
      demand.meet
      rest.follow
  | .deeper frames inner rest => do
      Compilation.nested frames inner.follow
      rest.follow
  | .branch key inner rest => do
      Attempt.mapFailure (.within key) inner.follow
      rest.follow

theorem follow_append (first last : Route) :
    ((first ++ last).follow : Compilation φ Unit) = first.follow >>= fun _ => last.follow := by
  induction first with
  | done => rfl
  | step demand rest ih => simp only [step_append, follow, ih, Attempt.bind_assoc]
  | deeper frames inner rest _ ih => simp only [deeper_append, follow, ih, Attempt.bind_assoc]
  | branch key inner rest _ ih => simp only [branch_append, follow, ih, Attempt.bind_assoc]

end Route

namespace Desk

variable {φ : Type}

def withGuard (guard : Guard) (desk : Desk φ) : Desk φ :=
  { desk with compiler := { desk.compiler with guard := guard } }

def left (frames : Nat) (desk : Desk φ) : Desk φ :=
  desk.withGuard (desk.compiler.guard.leave frames)

end Desk

namespace Compilation

variable {φ α : Type} {frames : Nat} {desk : Desk φ}

theorem nested_of_refused {failure : Failure} (step : Compilation φ α)
    (refused : desk.compiler.guard.enter frames = .error failure) :
    nested frames step desk = (.error failure, desk) :=
  Attempt.guarded_of_refused step refused

theorem nested_of_entered {guard : Guard} (step : Compilation φ α)
    (entered : desk.compiler.guard.enter frames = .ok guard) :
    nested frames step desk =
      ((step (desk.withGuard guard)).1, (step (desk.withGuard guard)).2.left frames) :=
  Attempt.guarded_of_entered step entered

end Compilation

/-- How following a route can go: each case is one way in which it goes on or ends. -/
inductive Follows {φ : Type} : Route → Desk φ → Except Failure Unit → Desk φ → Prop where
  | done {desk} : Follows .done desk (.ok ()) desk
  | step {demand rest desk between outcome after} :
      demand.meet desk = (.ok (), between) → Follows rest between outcome after →
        Follows (.step demand rest) desk outcome after
  | unmet {demand rest desk failure after} :
      demand.meet desk = (.error failure, after) →
        Follows (.step demand rest) desk (.error failure) after
  | deeper {frames inner rest desk guard between outcome after} :
      desk.compiler.guard.enter frames = .ok guard →
        Follows inner (desk.withGuard guard) (.ok ()) between →
        Follows rest (between.left frames) outcome after →
        Follows (.deeper frames inner rest) desk outcome after
  | deeperFails {frames inner rest desk guard failure after} :
      desk.compiler.guard.enter frames = .ok guard →
        Follows inner (desk.withGuard guard) (.error failure) after →
        Follows (.deeper frames inner rest) desk (.error failure) (after.left frames)
  | refused {frames inner rest desk failure} :
      desk.compiler.guard.enter frames = .error failure →
        Follows (.deeper frames inner rest) desk (.error failure) desk
  | branch {key inner rest desk between outcome after} :
      Follows inner desk (.ok ()) between → Follows rest between outcome after →
        Follows (.branch key inner rest) desk outcome after
  | branchFails {key inner rest desk failure after} :
      Follows inner desk (.error failure) after →
        Follows (.branch key inner rest) desk (.error (failure.within key)) after

namespace Route

variable {φ : Type}

theorem follow_follows (route : Route) (desk : Desk φ) :
    Follows route desk (route.follow desk).1 (route.follow desk).2 := by
  induction route generalizing desk with
  | done => exact .done
  | step demand rest ih =>
      cases met : demand.meet desk with
      | mk outcome between =>
          cases outcome with
          | ok value =>
              rw [follow, Attempt.bind_of_ok met]
              exact .step met (ih between)
          | error failure =>
              rw [follow, Attempt.bind_of_error met]
              exact .unmet met
  | deeper frames inner rest inside ih =>
      rw [follow]
      cases entered : desk.compiler.guard.enter frames with
      | error failure =>
          rw [Attempt.bind_of_error (Compilation.nested_of_refused inner.follow entered)]
          exact .refused entered
      | ok guard =>
          have below := inside (desk.withGuard guard)
          have nested := Compilation.nested_of_entered inner.follow entered
          cases result : inner.follow (desk.withGuard guard) with
          | mk outcome between =>
              rw [result] at below nested
              cases outcome with
              | ok value =>
                  rw [Attempt.bind_of_ok nested]
                  exact .deeper entered below (ih (between.left frames))
              | error failure =>
                  rw [Attempt.bind_of_error nested]
                  exact .deeperFails entered below
  | branch key inner rest inside ih =>
      rw [follow]
      have entered := inside desk
      cases result : inner.follow desk with
      | mk outcome between =>
          rw [result] at entered
          cases outcome with
          | ok value =>
              rw [Attempt.bind_of_ok (Attempt.mapFailure_of_ok result)]
              exact .branch entered (ih between)
          | error failure =>
              rw [Attempt.bind_of_error (Attempt.mapFailure_of_error result)]
              exact .branchFails entered

end Route

end Phrasebook
