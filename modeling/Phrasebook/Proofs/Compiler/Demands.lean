import Phrasebook.Proofs.Compiler.Tracing

/-!
What a template demands, read off its contents instead of its route: every part has demands of its
own, and a number sign asks for its helper when a plural or ordinal choice stands around it.
-/

namespace Phrasebook

open Target

namespace Token

/-- The demands of a part alone, number signs apart. -/
def ownDemands (locale : Option String) : Token → List Demand
  | .select arg cases => missing "select" arg cases ++ [.helper .select]
  | .plural arg cases _ => missing "plural" arg cases ++ [.rules locale]
  | .ordinal arg cases => missing "selectordinal" arg cases ++ [.rules locale]
  | .call key _ _ => [.formatter key locale]
  | .text _ | .argument _ | .octothorpe => []
where
  missing (choice arg : String) (cases : List Case) : List Demand :=
    if cases.any (fun case => case.key == Value.fallbackKey) then []
    else [.fallback (Case.missing choice arg cases)]

/-- A number sign among these parts counts something; `counting` says that all of them stand inside
a plural or ordinal choice already. -/
def NumberShown (counting : Prop) (parts : List Token) : Prop :=
  (counting ∧ .octothorpe ∈ parts) ∨ ∃ part ∈ parts, part.IsPlural ∧ .octothorpe ∈ part.inside

def Demanded (locale : Option String) (counting : Prop) (parts : List Token) (demand : Demand) :
    Prop :=
  (∃ part ∈ parts, demand ∈ part.ownDemands locale) ∨
    (demand = .helper .number ∧ NumberShown counting parts)

variable {locale : Option String} {counting : Prop} {demand : Demand}

theorem demanded_nil : ¬ Demanded locale counting [] demand := by
  simp [Demanded, NumberShown]

theorem numberShown_append (first last : List Token) :
    NumberShown counting (first ++ last) ↔ NumberShown counting first ∨ NumberShown counting last := by
  simp only [NumberShown, List.mem_append, or_and_right, and_or_left, exists_or]
  exact or_or_or_comm

/-- A plural or ordinal choice makes everything inside it count. -/
theorem numberShown_plural {token : Token} (plural : token.IsPlural) :
    NumberShown counting (token :: token.inside) ↔ NumberShown True token.inside := by
  have different : token ≠ .octothorpe := by
    intro same
    subst same
    rcases plural with ⟨_, _, _, same⟩ | ⟨_, _, same⟩ <;> cases same
  simp only [NumberShown, List.mem_cons, true_and]
  constructor
  · intro shown
    rcases shown with ⟨_, same | member⟩ | ⟨part, rfl | member, shown⟩
    · exact absurd same.symm different
    · exact .inl member
    · exact .inl shown.2
    · exact .inr ⟨part, member, shown⟩
  · intro shown
    rcases shown with member | ⟨part, member, shown⟩
    · exact .inr ⟨token, .inl rfl, plural, member⟩
    · exact .inr ⟨part, .inr member, shown⟩

theorem demanded_append (first last : List Token) :
    Demanded locale counting (first ++ last) demand ↔
      Demanded locale counting first demand ∨ Demanded locale counting last demand := by
  simp only [Demanded, numberShown_append, List.mem_append, or_and_right, and_or_left, exists_or]
  exact or_or_or_comm

theorem demanded_plural {token : Token} (plural : token.IsPlural) :
    Demanded locale counting (token :: token.inside) demand ↔
      demand ∈ token.ownDemands locale ∨ Demanded locale True token.inside demand := by
  simp only [Demanded, numberShown_plural plural, List.mem_cons, or_and_right, exists_or,
    exists_eq_left, or_assoc]

theorem demanded_cons (token : Token) {rest : List Token} (sign : token ≠ .octothorpe)
    (plain : ¬ token.IsPlural) :
    Demanded locale counting (token :: rest) demand ↔
      demand ∈ token.ownDemands locale ∨ Demanded locale counting rest demand := by
  have alone : Demanded locale counting [token] demand ↔ demand ∈ token.ownDemands locale := by
    simp [Demanded, NumberShown, sign.symm, plain]
  rw [← alone, ← demanded_append]
  rfl

theorem not_isPlural_select (arg : String) (cases : List Case) :
    ¬ (Token.select arg cases).IsPlural := by
  intro plural
  rcases plural with ⟨_, _, _, same⟩ | ⟨_, _, same⟩ <;> cases same

end Token

theorem Route.mem_choice {demand last : Demand} {inner : Route} (choice arg : String)
    (cases : List Case) :
    demand ∈ (Route.choice cases (Case.missing choice arg cases) inner
        (.step last .done)).demands ↔
      demand ∈ Token.ownDemands.missing choice arg cases ++ [last] ∨ demand ∈ inner.demands := by
  unfold Route.choice Token.ownDemands.missing
  cases cases.any fun case => case.key == Value.fallbackKey with
  | true => simp [Route.demands, or_comm]
  | false =>
      simp only [Bool.false_eq_true, if_false, Route.demands, List.mem_cons, List.mem_append,
        List.not_mem_nil, or_false]
      rw [or_assoc]
      exact or_congr_right or_comm

theorem Route.choice_load {inner : Route} (cases : List Case) (error : TemplateError)
    (last : Demand) :
    (Route.choice cases error inner (.step last .done)).load =
      inner.load.under Compilation.caseFrames := by
  unfold Route.choice
  split <;> simp [Route.load]

section Demanded

variable {locale : Option String} {demand : Demand}

mutual

theorem Token.mem_route (count : Option Count) : (token : Token) →
    (demand ∈ (token.route locale count).demands ↔
      Token.Demanded locale count.isSome (token :: token.inside) demand)
  | .text _ => by simp [Token.route, Route.demands, Token.inside, Token.Demanded, Token.ownDemands,
      Token.NumberShown, Token.IsPlural]
  | .argument _ => by simp [Token.route, Route.demands, Token.inside, Token.Demanded,
      Token.ownDemands, Token.NumberShown, Token.IsPlural]
  | .octothorpe => by
      cases count <;> simp [Token.route, Route.demands, Token.inside, Token.Demanded,
        Token.ownDemands, Token.NumberShown, Token.IsPlural]
  | .select arg cases => by
      rw [Token.route, Route.mem_choice, Case.mem_routes count cases,
        Token.demanded_cons (.select arg cases) nofun (Token.not_isPlural_select arg cases)]
      rfl
  | .plural arg cases offset => by
      rw [Token.route, Route.mem_choice, Case.mem_routes _ cases,
        Token.demanded_plural (.inl ⟨arg, cases, offset, rfl⟩)]
      simp [Token.ownDemands, Token.inside]
  | .ordinal arg cases => by
      rw [Token.route, Route.mem_choice, Case.mem_routes _ cases,
        Token.demanded_plural (.inr ⟨arg, cases, rfl⟩)]
      simp [Token.ownDemands, Token.inside]
  | .call key arg params => by simp [Token.route, Route.demands, Token.inside, Token.Demanded,
      Token.ownDemands, Token.NumberShown, Token.IsPlural]

theorem Token.mem_routes (count : Option Count) : (tokens : List Token) →
    (demand ∈ (Token.routes locale count tokens).demands ↔
      Token.Demanded locale count.isSome (Token.parts tokens) demand)
  | [] => iff_of_false List.not_mem_nil Token.demanded_nil
  | token :: rest => by
      rw [Token.routes, Route.demands_append, List.mem_append, Token.mem_route count token,
        Token.mem_routes count rest, ← Token.demanded_append]
      rfl

theorem Case.mem_routes (count : Option Count) : (cases : List Case) →
    (demand ∈ (Case.routes locale count cases).demands ↔
      Token.Demanded locale count.isSome (Case.parts cases) demand)
  | [] => iff_of_false List.not_mem_nil Token.demanded_nil
  | .mk _ body :: rest => by
      rw [Case.routes, Route.demands_append, List.mem_append, Token.mem_routes count body,
        Case.mem_routes count rest, ← Token.demanded_append]
      rfl

end

mutual

theorem Token.route_load (count : Option Count) : (token : Token) →
    (token.route locale count).load = ⟨token.nesting, token.frames⟩
  | .text _ => rfl
  | .argument _ => rfl
  | .octothorpe => by cases count <;> rfl
  | .select _ cases => by
      rw [Token.route, Route.choice_load, Case.routes_load count cases]
      rfl
  | .plural _ cases _ => by
      rw [Token.route, Route.choice_load, Case.routes_load _ cases]
      rfl
  | .ordinal _ cases => by
      rw [Token.route, Route.choice_load, Case.routes_load _ cases]
      rfl
  | .call _ _ _ => rfl

theorem Token.routes_load (count : Option Count) : (tokens : List Token) →
    (Token.routes locale count tokens).load = ⟨Token.bodyNesting tokens, Token.bodyFrames tokens⟩
  | [] => rfl
  | token :: rest => by
      rw [Token.routes, Route.load_append, Token.route_load count token, Token.routes_load count rest]
      rfl

theorem Case.routes_load (count : Option Count) : (cases : List Case) →
    (Case.routes locale count cases).load = ⟨Case.nesting cases, Case.frames cases⟩
  | [] => rfl
  | .mk _ body :: rest => by
      rw [Case.routes, Route.load_append, Token.routes_load count body, Case.routes_load count rest]
      rfl

end

end Demanded

namespace Template

def MessageDemands (locale : String) (tokens : List Token) (demand : Demand) : Prop :=
  demand = .message (some locale) ∨
    demand = .report (.compiledMessage (some locale) tokens.length) ∨
    Token.Demanded (some locale) False (Token.parts tokens) demand

variable (names : List String) {demand : Demand}

mutual

theorem mem_route (locale : String) : (template : Template) →
    (demand ∈ (template.route names (some locale)).demands ↔
      ∃ leaf ∈ template.leaves,
        MessageDemands (effectiveLocale names locale leaf.1) leaf.2 demand)
  | .message tokens => by
      simp only [route, Route.demands, Route.demands_append, List.mem_cons, List.mem_append,
        List.not_mem_nil, or_false, Token.mem_routes, leaves, exists_eq_left, effectiveLocale_nil,
        MessageDemands, Option.isSome_none, Bool.false_eq_true]
      exact or_congr_right or_comm
  | .catalog entries => by
      rw [route, leaves, ← mem_branchRoutes locale entries]
      simp [Route.demands]

theorem mem_branchRoutes (locale : String) : (entries : List (String × Template)) →
    (demand ∈ (branchRoutes names (some locale) entries).demands ↔
      ∃ leaf ∈ branchLeaves entries,
        MessageDemands (effectiveLocale names locale leaf.1) leaf.2 demand)
  | [] => by simp [branchRoutes, Route.demands, branchLeaves]
  | (key, branch) :: rest => by
      rw [branchRoutes, Route.demands, List.mem_append, ← apply_ite some, mem_route _ branch,
        mem_branchRoutes locale rest, branchLeaves]
      simp only [List.mem_append, List.mem_map, or_and_right, exists_or]
      apply or_congr_left
      constructor
      · intro inside
        obtain ⟨leaf, member, demands⟩ := inside
        exact ⟨_, ⟨leaf, member, rfl⟩, by rwa [effectiveLocale_cons]⟩
      · intro inside
        obtain ⟨_, ⟨leaf, member, rfl⟩, demands⟩ := inside
        rw [effectiveLocale_cons] at demands
        exact ⟨leaf, member, demands⟩

end

/-- What compiling a template takes of its guard. -/
def compileLoad (template : Template) : Load :=
  ⟨template.nesting, template.frames⟩

mutual

theorem route_load (locale : Option String) : (template : Template) →
    (template.route names locale).load = template.compileLoad
  | .message tokens => by
      simp [route, Route.load, Token.routes_load, compileLoad, nesting, frames]
  | .catalog entries => by
      simp [route, Route.load, branchRoutes_load locale entries, Load.under, compileLoad, nesting,
        frames]

theorem branchRoutes_load (locale : Option String) : (entries : List (String × Template)) →
    (branchRoutes names locale entries).load = ⟨branchNesting entries, branchFrames entries⟩
  | [] => rfl
  | (key, branch) :: rest => by
      rw [branchRoutes, Route.load, route_load _ branch, branchRoutes_load locale rest]
      rfl

end

end Template

end Phrasebook
