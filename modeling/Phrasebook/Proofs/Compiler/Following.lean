import Phrasebook.Proofs.Compiler.Route

/-!
What following a route does.  It returns exactly when every demand can be met and the guard bears the
load of the whole route, as long as no default fails on account of what is registered.  It leaves the
guard as it was; and of the tables it changes exactly what the demands met so far note in them, whether
it returns or fails.
-/

namespace Phrasebook

open Target

namespace Demand

variable {φ : Type}

/-- Whether a failure is one that the demand can cause. -/
def Causes (config : Config φ) (failure : Failure) : Demand → Prop
  | .rules locale => locale = none
  | .formatter key locale =>
      (¬ config.Offers key ∧ failure.HasKind .unresolvedFormatter) ∨
        ¬ config.DefaultsReturn ∨ locale = none
  | .fallback error => failure.HasKind error.kind
  | .message _ | .helper _ | .report _ => False

structure Met (demand : Demand) (desk after : Desk φ) : Prop where
  meetable : demand.Meetable desk.config
  compiler : after.compiler = demand.note desk.compiler
  config : desk.config.Grown after.config

structure Unmet (demand : Demand) (desk : Desk φ) (failure : Failure) (after : Desk φ) : Prop where
  unmeetable : ¬ demand.Meetable desk.config
  causes : demand.Causes desk.config failure
  compiler : after.compiler = desk.compiler
  config : desk.config.Grown after.config

theorem meet_formatter (key : String) (locale : Option String) (desk : Desk φ) :
    (∃ after, (formatter key locale).meet desk = (.ok (), after) ∧
      (formatter key locale).Met desk after) ∨
    ∃ failure after, (formatter key locale).meet desk = (.error failure, after) ∧
      (formatter key locale).Unmet desk failure after := by
  have grown := desk.config.resolve_grown key
  cases outcome : (desk.config.resolve (.str key)).outcome with
  | error fault =>
      have unsupplied : ¬ desk.config.Supplies key := by simp [Config.Supplies, outcome]
      have resolved : Compilation.resolveFormatter (.str key) desk = (.error (.fault fault),
          { desk with
            config := (desk.config.resolve (.str key)).config
            events := desk.events ++ (desk.config.resolve (.str key)).events }) := by
        simp only [Compilation.resolveFormatter, outcome]
      right
      exact ⟨_, _, Attempt.bind_of_error resolved, ⟨fun able => unsupplied able.1,
        .inr (.inl (Config.not_defaultsReturn_of_resolve outcome)), rfl, grown⟩⟩
  | ok result =>
      have resolved : Compilation.resolveFormatter (.str key) desk = (.ok result,
          { desk with
            config := (desk.config.resolve (.str key)).config
            events := desk.events ++ (desk.config.resolve (.str key)).events }) := by
        simp only [Compilation.resolveFormatter, outcome]
      cases result with
      | none =>
          have unsupplied : ¬ desk.config.Supplies key := by simp [Config.Supplies, outcome]
          right
          exact ⟨_, _, Attempt.bind_of_ok resolved, ⟨fun able => unsupplied able.1,
            .inl ⟨Config.not_offers_of_resolve outcome, rfl⟩, rfl, grown⟩⟩
      | some made =>
          have supplied : desk.config.Supplies key := ⟨made, outcome⟩
          cases locale with
          | none =>
              right
              exact ⟨_, _, Attempt.bind_of_ok resolved,
                ⟨fun able => by simpa using able.2, .inr (.inr rfl), rfl, grown⟩⟩
          | some tag =>
              left
              exact ⟨_, Attempt.bind_of_ok resolved, ⟨⟨supplied, rfl⟩, rfl, grown⟩⟩

/-- Meeting a demand either returns with it noted or fails with nothing noted. -/
theorem meet_cases (demand : Demand) (desk : Desk φ) :
    (∃ after, demand.meet desk = (.ok (), after) ∧ demand.Met desk after) ∨
    ∃ failure after, demand.meet desk = (.error failure, after) ∧
      demand.Unmet desk failure after := by
  have same := Config.Grown.refl desk.config
  cases demand with
  | message locale => exact .inl ⟨_, rfl, ⟨trivial, rfl, same⟩⟩
  | helper needed => exact .inl ⟨_, rfl, ⟨trivial, rfl, same⟩⟩
  | rules locale =>
      cases locale with
      | none => exact .inr ⟨_, _, rfl, ⟨by simp [Meetable], rfl, rfl, same⟩⟩
      | some tag => exact .inl ⟨_, rfl, ⟨rfl, rfl, same⟩⟩
  | formatter key locale => exact meet_formatter key locale desk
  | fallback error => exact .inr ⟨_, _, rfl, ⟨id, rfl, rfl, same⟩⟩
  | report event => exact .inl ⟨_, rfl, ⟨trivial, rfl, same⟩⟩

theorem met_of_meet {demand : Demand} {desk after : Desk φ}
    (returned : demand.meet desk = (.ok (), after)) : demand.Met desk after := by
  rcases demand.meet_cases desk with ⟨_, meets, met⟩ | ⟨_, _, fails, _⟩
  · rw [returned] at meets
    cases meets
    exact met
  · rw [returned] at fails
    cases fails

theorem unmet_of_meet {demand : Demand} {desk after : Desk φ} {failure : Failure}
    (failed : demand.meet desk = (.error failure, after)) : demand.Unmet desk failure after := by
  rcases demand.meet_cases desk with ⟨_, meets, _⟩ | ⟨_, _, fails, unmet⟩
  · rw [failed] at meets
    cases meets
  · rw [failed] at fails
    cases fails
    exact unmet

@[simp] theorem note_guard (demand : Demand) (compiler : Compiler) :
    (demand.note compiler).guard = compiler.guard := by
  cases demand <;> rfl

theorem note_withGuard (demand : Demand) (compiler : Compiler) (guard : Guard) :
    demand.note { compiler with guard := guard } =
      { demand.note compiler with guard := guard } := by
  cases demand <;> rfl

theorem foldl_note_withGuard (demands : List Demand) (compiler : Compiler) (guard : Guard) :
    demands.foldl note { compiler with guard := guard } =
      { demands.foldl note compiler with guard := guard } := by
  induction demands generalizing compiler with
  | nil => rfl
  | cons demand rest ih => rw [List.foldl_cons, List.foldl_cons, note_withGuard, ih]

@[simp] theorem foldl_note_guard (demands : List Demand) (compiler : Compiler) :
    (demands.foldl note compiler).guard = compiler.guard := by
  induction demands generalizing compiler with
  | nil => rfl
  | cons demand rest ih => rw [List.foldl_cons, ih, note_guard]

theorem meetable_congr {before after : Config φ} (grown : before.Grown after)
    (ignore : before.DefaultsIgnoreRegistry) (demand : Demand) :
    demand.Meetable after ↔ demand.Meetable before := by
  cases demand <;> simp [Meetable, grown.supplies ignore]

theorem causes_congr {before after : Config φ} (grown : before.Grown after) (failure : Failure)
    (demand : Demand) : demand.Causes after failure ↔ demand.Causes before failure := by
  cases demand <;> simp [Causes, grown.offers, grown.defaultsReturn]

@[simp] theorem causes_within (config : Config φ) (key : String) (failure : Failure)
    (demand : Demand) :
    demand.Causes config (failure.within key) ↔ demand.Causes config failure := by
  cases demand <;> simp [Causes]

end Demand

/-- Demands met one level deeper note what they would have noted at this level. -/
theorem Desk.left_compiler {φ : Type} {desk after : Desk φ} {frames : Nat} {guard : Guard}
    {met : List Demand} (entered : desk.compiler.guard.enter frames = .ok guard)
    (noted : after.compiler = met.foldl Demand.note (desk.withGuard guard).compiler) :
    (after.left frames).compiler = met.foldl Demand.note desk.compiler := by
  have inside : after.compiler = { met.foldl Demand.note desk.compiler with guard := guard } := by
    rw [noted, Desk.withGuard, Demand.foldl_note_withGuard]
  simp only [Desk.left, Desk.withGuard, inside, Guard.leave_of_enter entered]
  rw [← Demand.foldl_note_withGuard]

/-- A failure that a guard ends a walk with, possibly seen through some keys. -/
def Guard.Stops (guard : Guard) (load : Load) (failure : Failure) : Prop :=
  (¬ guard.HasRoom load.levels ∧ failure.HasKind .depthLimitExceeded) ∨
    (¬ guard.HasFrames load.frames ∧ failure = .fault .outOfFrames)

namespace Guard

theorem Refuses.stops {guard : Guard} {load : Load} {failure : Failure}
    (refuses : guard.Refuses load failure) : guard.Stops load failure := by
  cases refuses with
  | tooDeep deep => exact .inl ⟨deep, rfl⟩
  | outOfFrames short => exact .inr ⟨short, rfl⟩

/-- What stops a walk stops every walk that asks for more. -/
theorem Stops.mono {guard other : Guard} {load larger : Load} {failure : Failure}
    (stops : guard.Stops load failure)
    (room : other.HasRoom larger.levels → guard.HasRoom load.levels)
    (enough : other.HasFrames larger.frames → guard.HasFrames load.frames) :
    other.Stops larger failure :=
  stops.imp (fun deep => ⟨mt room deep.1, deep.2⟩) fun short => ⟨mt enough short.1, short.2⟩

end Guard

/-- What the end of a run says about the demands on its way and about its load. -/
def Verdict {φ : Type} (demands : List Demand) (load : Load) (desk : Desk φ) :
    Except Failure Unit → Prop
  | .ok _ => (∀ demand ∈ demands, demand.Meetable desk.config) ∧ desk.compiler.guard.Bears load
  | .error failure =>
      (∃ demand ∈ demands, ¬ demand.Meetable desk.config ∧ demand.Causes desk.config failure) ∨
      desk.compiler.guard.Stops load failure

namespace Verdict

variable {φ : Type} {first last : List Demand} {here there : Load} {desk between : Desk φ}

theorem append {outcome : Except Failure Unit} (passed : Verdict first here desk (.ok ()))
    (ignore : desk.config.DefaultsIgnoreRegistry) (grown : desk.config.Grown between.config)
    (guard : between.compiler.guard = desk.compiler.guard)
    (verdict : Verdict last there between outcome) :
    Verdict (first ++ last) (max here there) desk outcome := by
  cases outcome with
  | ok value =>
      refine ⟨?_, (Guard.bears_max _ _ _).mpr ⟨passed.2, guard ▸ verdict.2⟩⟩
      intro demand member
      rcases List.mem_append.mp member with member | member
      · exact passed.1 demand member
      · exact (Demand.meetable_congr grown ignore demand).mp (verdict.1 demand member)
  | error failure =>
      rcases verdict with ⟨demand, member, unmeetable, causes⟩ | stops
      · refine .inl ⟨demand, List.mem_append_right _ member, ?_, ?_⟩
        · rwa [← Demand.meetable_congr grown ignore]
        · rwa [← Demand.causes_congr grown]
      · rw [guard] at stops
        exact .inr (stops.mono (fun room => ((Guard.hasRoom_max _ _ _).mp room).2)
          fun enough => ((Guard.hasFrames_max _ _ _).mp enough).2)

theorem stop {failure : Failure} (failed : Verdict first here desk (.error failure)) :
    Verdict (first ++ last) (max here there) desk (.error failure) := by
  rcases failed with ⟨demand, member, unmeetable, causes⟩ | stops
  · exact .inl ⟨demand, List.mem_append_left _ member, unmeetable, causes⟩
  · exact .inr (stops.mono (fun room => ((Guard.hasRoom_max _ _ _).mp room).1)
      fun enough => ((Guard.hasFrames_max _ _ _).mp enough).1)

theorem leave {frames : Nat} {guard : Guard} {outcome : Except Failure Unit}
    (entered : desk.compiler.guard.enter frames = .ok guard)
    (verdict : Verdict first here (desk.withGuard guard) outcome) :
    Verdict first (here.under frames) desk outcome := by
  cases outcome with
  | ok value => exact ⟨verdict.1, (Guard.bears_of_enter entered here).mp verdict.2⟩
  | error failure =>
      rcases verdict with unmet | stops
      · exact .inl unmet
      · exact .inr (stops.mono (Guard.hasRoom_of_enter entered _).mpr
          (Guard.hasFrames_of_enter entered _).mpr)

theorem within {failure : Failure} (key : String)
    (verdict : Verdict first here desk (.error failure)) :
    Verdict first here desk (.error (failure.within key)) := by
  rcases verdict with ⟨demand, member, unmeetable, causes⟩ | deep | ⟨short, rfl⟩
  · exact .inl ⟨demand, member, unmeetable, (Demand.causes_within _ _ _ _).mpr causes⟩
  · exact .inr (.inl ⟨deep.1, (Failure.hasKind_within _ _ _).mpr deep.2⟩)
  · exact .inr (.inr ⟨short, rfl⟩)

end Verdict

namespace Follows

variable {φ : Type} {route : Route} {desk after : Desk φ} {outcome : Except Failure Unit}

theorem config (follows : Follows route desk outcome after) :
    desk.config.Grown after.config := by
  induction follows with
  | done => exact .refl _
  | step met _ ih => exact (Demand.met_of_meet met).config.trans ih
  | unmet failed => exact (Demand.unmet_of_meet failed).config
  | deeper _ _ _ inner rest => exact inner.trans rest
  | deeperFails _ _ inner => exact inner
  | refused _ => exact .refl _
  | branch _ _ inner rest => exact inner.trans rest
  | branchFails _ inner => exact inner

/-- The demands met before the end of a run, and what they noted.  A run that returns has met all. -/
theorem notes (follows : Follows route desk outcome after) :
    ∃ met, met <+: route.demands ∧ (outcome = .ok () → met = route.demands) ∧
      after.compiler = met.foldl Demand.note desk.compiler := by
  induction follows with
  | done => exact ⟨[], List.prefix_refl _, fun _ => rfl, rfl⟩
  | @step demand rest desk between outcome after returned _ ih =>
      obtain ⟨met, within, all, noted⟩ := ih
      refine ⟨demand :: met, by simpa [Route.demands] using within, ?_, ?_⟩
      · intro ok
        simp [Route.demands, all ok]
      · rw [noted, List.foldl_cons, (Demand.met_of_meet returned).compiler]
  | unmet failed =>
      exact ⟨[], List.nil_prefix, by simp, (Demand.unmet_of_meet failed).compiler⟩
  | @deeper frames inner rest desk guard between outcome after entered _ _ inside ih =>
      obtain ⟨first, _, whole, firstNoted⟩ := inside
      obtain ⟨met, within, all, noted⟩ := ih
      have returned := Desk.left_compiler entered firstNoted
      refine ⟨inner.demands ++ met, by simpa [Route.demands] using within, ?_, ?_⟩
      · intro ok
        simp [Route.demands, all ok]
      · rw [noted, returned, whole rfl, List.foldl_append]
  | @deeperFails frames inner rest desk guard failure after entered _ inside =>
      obtain ⟨met, within, _, noted⟩ := inside
      exact ⟨met, within.trans (List.prefix_append _ _), by simp, Desk.left_compiler entered noted⟩
  | refused _ => exact ⟨[], List.nil_prefix, by simp, rfl⟩
  | @branch key inner rest desk between outcome after _ _ inside ih =>
      obtain ⟨first, _, whole, firstNoted⟩ := inside
      obtain ⟨met, within, all, noted⟩ := ih
      refine ⟨inner.demands ++ met, by simpa [Route.demands] using within, ?_, ?_⟩
      · intro ok
        simp [Route.demands, all ok]
      · rw [noted, firstNoted, whole rfl, List.foldl_append]
  | @branchFails key inner rest desk failure after _ inside =>
      obtain ⟨met, within, _, noted⟩ := inside
      exact ⟨met, within.trans (List.prefix_append _ _), by simp, noted⟩

theorem compiler_of_ok (follows : Follows route desk (.ok ()) after) :
    after.compiler = route.demands.foldl Demand.note desk.compiler := by
  obtain ⟨met, _, all, noted⟩ := follows.notes
  rw [noted, all rfl]

theorem guard (follows : Follows route desk outcome after) :
    after.compiler.guard = desk.compiler.guard := by
  obtain ⟨met, _, _, noted⟩ := follows.notes
  rw [noted, Demand.foldl_note_guard]

theorem verdict (ignore : desk.config.DefaultsIgnoreRegistry)
    (follows : Follows route desk outcome after) : Verdict route.demands route.load desk outcome := by
  induction follows with
  | done => exact ⟨by simp [Route.demands], Guard.bears_none _⟩
  | @step demand rest desk between outcome after returned _ ih =>
      have met := Demand.met_of_meet returned
      have guard : between.compiler.guard = desk.compiler.guard := by
        rw [met.compiler, Demand.note_guard]
      have passed : Verdict [demand] .none desk (.ok ()) :=
        ⟨by simpa using met.meetable, Guard.bears_none _⟩
      have rest := ih (met.config.ignoreRegistry.mpr ignore)
      simpa [Route.demands, Route.load] using passed.append ignore met.config guard rest
  | @unmet demand rest desk failure after failed =>
      have unmet := Demand.unmet_of_meet failed
      exact .inl ⟨demand, List.mem_cons_self, unmet.unmeetable, unmet.causes⟩
  | @deeper frames inner rest desk guard between outcome after entered first _ inside ih =>
      obtain ⟨met, _, _, noted⟩ := first.notes
      have restored : (between.left frames).compiler.guard = desk.compiler.guard := by
        rw [Desk.left_compiler entered noted, Demand.foldl_note_guard]
      have grown : desk.config.Grown (between.left frames).config := first.config
      exact ((inside ignore).leave entered).append ignore grown restored
        (ih (grown.ignoreRegistry.mpr ignore))
  | deeperFails entered _ inside => exact ((inside ignore).leave entered).stop
  | @refused frames inner rest desk failure refused =>
      exact .inr (Guard.refuses_of_refused refused inner.load).max_left.stops
  | branch first _ inside ih =>
      exact (inside ignore).append ignore first.config first.guard
        (ih (first.config.ignoreRegistry.mpr ignore))
  | branchFails _ inside => exact ((inside ignore).within _).stop

end Follows

end Phrasebook
