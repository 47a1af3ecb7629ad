import Phrasebook.Proofs.Compiler.Demands

/-!
Which templates are accepted.  A template compiles exactly when every choice has a case for everything
else, every formatter that is called can be supplied, nothing is nested deeper than the limit, and the
stack has frames for the nesting.  Otherwise the error names one of these conditions that the template
breaks.  The guard decides about acceptance and nothing else.

A limit is lowered as if a level took one frame.  A choice takes three, so that templates well within
the limit run out of frames.
-/

namespace Phrasebook

open Target

theorem Token.hasFallback_iff {part : Token} {cases : List Case}
    (has : part.cases? = some cases) :
    part.HasFallback ↔ (cases.any fun case => case.key == Value.fallbackKey) = true := by
  simp [HasFallback, has]

section Own

variable {φ : Type} {config : Config φ} {locale : String}

theorem Token.missing_meetable (choice arg : String) (cases : List Case) :
    (∀ demand ∈ ownDemands.missing choice arg cases, demand.Meetable config) ↔
      (cases.any fun case => case.key == Value.fallbackKey) = true := by
  unfold ownDemands.missing
  cases cases.any fun case => case.key == Value.fallbackKey <;> simp [Demand.Meetable]

theorem Token.ownDemands_meetable (part : Token) :
    (∀ demand ∈ part.ownDemands (some locale), demand.Meetable config) ↔
      part.HasFallback ∧ ∀ key arg params, part = .call key arg params → config.Supplies key := by
  cases part with
  | text text => simp [ownDemands, HasFallback, cases?]
  | argument arg => simp [ownDemands, HasFallback, cases?]
  | octothorpe => simp [ownDemands, HasFallback, cases?]
  | call key arg params => simp [ownDemands, HasFallback, cases?, Demand.Meetable]
  | select arg cases =>
      rw [ownDemands, List.forall_mem_append, missing_meetable, hasFallback_iff rfl]
      simp [Demand.Meetable]
  | plural arg cases offset =>
      rw [ownDemands, List.forall_mem_append, missing_meetable, hasFallback_iff rfl]
      simp [Demand.Meetable]
  | ordinal arg cases =>
      rw [ownDemands, List.forall_mem_append, missing_meetable, hasFallback_iff rfl]
      simp [Demand.Meetable]

end Own

namespace Template

variable {φ : Type} {config : Config φ} (names : List String) (locale : String) {template : Template}

theorem mem_parts {part : Token} :
    part ∈ template.parts ↔ ∃ leaf ∈ template.leaves, part ∈ Token.parts leaf.2 := by
  simp only [parts, List.mem_flatMap]

theorem route_meetable :
    (∀ demand ∈ (template.route names (some locale)).demands, demand.Meetable config) ↔
      template.HasFallbacks ∧ ∀ key, template.Calls key → config.Supplies key := by
  constructor
  · intro able
    have own : ∀ part ∈ template.parts, part.HasFallback ∧
        ∀ key arg params, part = .call key arg params → config.Supplies key := by
      intro part member
      obtain ⟨leaf, leafMember, member⟩ := mem_parts.mp member
      apply (Token.ownDemands_meetable part).mp
      intro demand owned
      exact able demand ((mem_route names locale template).mpr
        ⟨leaf, leafMember, .inr (.inr (.inl ⟨part, member, owned⟩))⟩)
    refine ⟨fun part member => (own part member).1, ?_⟩
    intro key called
    obtain ⟨arg, params, member⟩ := called
    exact (own _ member).2 key arg params rfl
  · intro accepted demand member
    obtain ⟨fallbacks, calls⟩ := accepted
    obtain ⟨leaf, leafMember, origin⟩ := (mem_route names locale template).mp member
    rcases origin with rfl | rfl | ⟨part, partMember, owned⟩ | ⟨rfl, _⟩
    · trivial
    · trivial
    · have inTemplate := mem_parts.mpr ⟨leaf, leafMember, partMember⟩
      apply (Token.ownDemands_meetable part).mpr _ demand owned
      refine ⟨fallbacks part inTemplate, ?_⟩
      intro key arg params same
      subst same
      exact calls key ⟨arg, params, inTemplate⟩
    · trivial

/-- A template compiles when all it demands can be had and the guard bears its load. -/
theorem compile_of_meetable {names : List String} {locale : Option String} {desk : Desk φ}
    (ignore : desk.config.DefaultsIgnoreRegistry)
    (able : ∀ demand ∈ (template.route names locale).demands, demand.Meetable desk.config)
    (bears : desk.compiler.guard.Bears template.compileLoad) :
    ∃ after, Compilation.compile (.tags names) locale template.toValue desk =
      (.ok (template.emitted names desk.config.settings.bidi locale), after) := by
  rcases (template.traces desk.config.settings.bidi names locale).cases desk rfl with
    ⟨after, compiles, _⟩ | ⟨failure, after, _, follows⟩
  · exact ⟨after, compiles⟩
  · have verdict := follows.verdict ignore
    rw [route_load] at verdict
    rcases verdict with ⟨demand, member, unmeetable, _⟩ | ⟨deep, _⟩ | ⟨short, _⟩
    · exact absurd (able demand member) unmeetable
    · exact absurd bears.1 deep
    · exact absurd bears.2 short

end Template

theorem Guard.ofLimit_hasRoom (limit : Int) (free levels : Nat) :
    ({ Guard.ofLimit limit with free := free } : Guard).HasRoom levels ↔
      (levels : Int) ≤ max (min limit 950) 0 := by
  have safe : (Guard.ofLimit limit).limit = min limit 950 := by
    by_cases large : 950 < limit
    · have least : min limit 950 = 950 := by omega
      simp [ofLimit, clamp, frameLimit, defaultReserve, large, least]
    · have least : min limit 950 = limit := by omega
      simp [ofLimit, clamp, frameLimit, defaultReserve, large, least]
  have start : (Guard.ofLimit limit).depth = 0 := rfl
  simp only [HasRoom, safe, start]
  omega

/-- A desk with this limit and one default formatter. -/
def Desk.sample (limit : Int) : Desk Unit :=
  { config := { defaults := [("number", ⟨(), none⟩)] }, compiler := .ofLimit limit }

theorem Desk.sample_defaultsReturn (limit : Int) : (Desk.sample limit).config.DefaultsReturn := by
  intro key entry listed registry
  obtain ⟨rfl, rfl⟩ : key = "number" ∧ entry = ⟨(), none⟩ := by
    cases same : key == "number" with
    | false => simp [Desk.sample, List.lookup_cons, same] at listed
    | true =>
        simp [Desk.sample, List.lookup_cons, same] at listed
        exact ⟨eq_of_beq same, listed.symm⟩
  rfl

namespace Template

variable {φ : Type} {config : Config φ}

theorem nestedSelect_hasFallbacks (n : Nat) : (message [.nestedSelect n]).HasFallbacks := by
  intro part member
  rw [parts_message] at member
  exact (Token.nestedSelect_parts n part member).1

theorem nestedSelect_not_calls (n : Nat) (key : String) : ¬ (message [.nestedSelect n]).Calls key := by
  intro called
  obtain ⟨arg, params, member⟩ := called
  rw [parts_message] at member
  exact (Token.nestedSelect_parts n _ member).2 key arg params rfl

/-- Nested selections demand nothing that could not be had. -/
theorem nestedSelect_meetable (n : Nat) :
    ∀ demand ∈ ((message [.nestedSelect n]).route [] (some "en")).demands, demand.Meetable config :=
  (route_meetable [] "en").mpr ⟨nestedSelect_hasFallbacks n,
    fun key called => absurd called (nestedSelect_not_calls n key)⟩

theorem nestedSelect_load (n : Nat) : (message [.nestedSelect n]).compileLoad = ⟨n, 3 * n⟩ := by
  simp [compileLoad, nesting, frames, Token.bodyNesting, Token.bodyFrames, Token.nestedSelect_nesting,
    Token.nestedSelect_frames, Compilation.caseFrames]

theorem nestedSelect_nesting (n : Nat) : (message [.nestedSelect n]).nesting = n :=
  congrArg Load.levels (nestedSelect_load n)

theorem nestedSelect_hasRoom {limit n : Nat} (within : n ≤ limit) (safe : limit ≤ 950) :
    (Desk.sample limit).compiler.guard.HasRoom (message [.nestedSelect n]).compileLoad.levels := by
  apply (Guard.ofLimit_hasRoom limit 1000 _).mpr
  rw [nestedSelect_load]
  change (n : Int) ≤ _
  omega

/-- Selections that the limit allows run out of frames when they need more than the stack has. -/
theorem nestedSelect_exhausts {limit n : Nat} (within : n ≤ limit) (safe : limit ≤ 950)
    (short : 1000 < 3 * n) :
    ∃ after, Compilation.compile (.tags []) (some "en") (message [.nestedSelect n]).toValue
      (Desk.sample limit) = (.error (.fault .outOfFrames), after) := by
  have ignore := (Desk.sample_defaultsReturn limit).ignoreRegistry
  have scarce : ¬ (Desk.sample limit).compiler.guard.HasFrames
      (message [.nestedSelect n]).compileLoad.frames := by
    rw [nestedSelect_load]
    exact Nat.not_le.mpr short
  rcases ((message [.nestedSelect n]).traces false [] (some "en")).cases (Desk.sample limit) rfl with
    ⟨_, _, follows⟩ | ⟨failure, after, failed, follows⟩
  · have verdict := follows.verdict ignore
    rw [route_load] at verdict
    exact absurd verdict.2.2 scarce
  · have verdict := follows.verdict ignore
    rw [route_load] at verdict
    rcases verdict with ⟨demand, member, unmeetable, _⟩ | ⟨deep, _⟩ | ⟨_, rfl⟩
    · exact absurd (nestedSelect_meetable n demand member) unmeetable
    · exact absurd (nestedSelect_hasRoom within safe) deep
    · exact ⟨after, failed⟩

end Template

end Phrasebook
