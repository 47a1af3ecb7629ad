import Phrasebook.Proofs.Summary.Collection

/-!
How deep a summary looks.  The walk of a summary counts every text, choice and case, every message and
every catalog as a level, where the compiler counts choices and catalogs only.  Under one limit it is
therefore refused templates that compile: it goes up to twice as deep and two levels more.
-/

namespace Phrasebook

mutual

/-- How many levels of parts and cases stand in each other. -/
def Token.visitedDepth : Token → Nat
  | .text _ => 1
  | .select _ cases | .plural _ cases _ | .ordinal _ cases => 1 + Case.visitedDepth cases
  | .argument _ | .octothorpe | .call _ _ _ => 0

def Token.bodyVisitedDepth : List Token → Nat
  | [] => 0
  | token :: rest => max token.visitedDepth (Token.bodyVisitedDepth rest)

def Case.visitedDepth : List Case → Nat
  | [] => 0
  | .mk _ body :: rest => max (1 + Token.bodyVisitedDepth body) (Case.visitedDepth rest)

end

namespace Template

mutual

def visitedDepth : Template → Nat
  | .message tokens => 1 + Token.bodyVisitedDepth tokens
  | .catalog entries => 1 + branchVisitedDepth entries

def branchVisitedDepth : List (String × Template) → Nat
  | [] => 0
  | (_, branch) :: rest => max branch.visitedDepth (branchVisitedDepth rest)

end

end Template

namespace Summary

open Visitor

theorem levels_into {value : Value} (enters : visitor.goesInto value = true) (inside rest : Outline) :
    visitor.levels (.part value inside rest) =
      max (1 + visitor.levels inside) (visitor.levels rest) := by
  rw [levels, load, if_pos enters]
  rfl

theorem levels_over {value : Value} (passes : visitor.goesInto value = false) (inside rest : Outline) :
    visitor.levels (.part value inside rest) = visitor.levels rest := by
  rw [levels, load, passes, if_neg Bool.false_ne_true, Load.none_max]
  rfl

mutual

theorem levels_token (rest : Outline) : (token : Token) →
    visitor.levels (.part token.toValue token.insideOutline rest) =
      max token.visitedDepth (visitor.levels rest)
  | .text _ => levels_into rfl .done rest
  | .argument _ => by rw [levels_over rfl, Token.visitedDepth, Nat.zero_max]
  | .octothorpe => by rw [levels_over rfl, Token.visitedDepth, Nat.zero_max]
  | .select _ cases => by
      rw [levels_into rfl, Token.visitedDepth, Token.insideOutline, levels_cases cases]
  | .plural _ cases _ => by
      rw [levels_into rfl, Token.visitedDepth, Token.insideOutline, levels_cases cases]
  | .ordinal _ cases => by
      rw [levels_into rfl, Token.visitedDepth, Token.insideOutline, levels_cases cases]
  | .call _ _ _ => by rw [levels_over rfl, Token.visitedDepth, Nat.zero_max]

theorem levels_tokens : (tokens : List Token) →
    visitor.levels (Token.outline tokens) = Token.bodyVisitedDepth tokens
  | [] => rfl
  | token :: rest => by
      rw [Token.outline, levels_token _ token, levels_tokens rest, Token.bodyVisitedDepth]

theorem levels_cases : (cases : List Case) →
    visitor.levels (Case.outline cases) = Case.visitedDepth cases
  | [] => rfl
  | .mk _ body :: rest => by
      rw [Case.outline, levels_into rfl, levels_tokens body, levels_cases rest, Case.visitedDepth]

end

mutual

theorem levels_template (rest : Outline) : (template : Template) →
    visitor.levels (.part template.toValue template.insideOutline rest) =
      max template.visitedDepth (visitor.levels rest)
  | .message tokens => by
      rw [levels_into rfl, Template.insideOutline, levels_tokens, Template.visitedDepth]
  | .catalog entries => by
      rw [levels_into rfl, Template.insideOutline, levels_branches entries, Template.visitedDepth]

theorem levels_branches : (entries : List (String × Template)) →
    visitor.levels (Template.branchOutline entries) = Template.branchVisitedDepth entries
  | [] => rfl
  | (_, branch) :: rest => by
      rw [Template.branchOutline, levels_template _ branch, levels_branches rest,
        Template.branchVisitedDepth]

end

theorem levels_outline (template : Template) : visitor.levels template.outline = template.visitedDepth := by
  rw [Template.outline, levels_template]
  exact Nat.max_zero _

theorem exists_summary {template : Template} (shallow : template.visitedDepth ≤ Guard.defaultLimit) :
    ∃ summary, ofTemplate template.toValue = .ok summary := by
  rcases ofTemplate_cases template with ⟨_, summary, returned, _⟩ | ⟨deep, _⟩
  · exact ⟨summary, returned⟩
  · rw [levels_outline] at deep
    omega

theorem ofTemplate_of_deep {template : Template} (deep : Guard.defaultLimit < template.visitedDepth) :
    ofTemplate template.toValue = .error (.template (.depthLimitExceeded Guard.defaultLimit)) := by
  rcases ofTemplate_cases template with ⟨shallow, _⟩ | ⟨_, refused⟩
  · rw [levels_outline] at shallow
    omega
  · exact refused

end Summary

mutual

theorem Token.visitedDepth_bounds : (token : Token) →
    token.nesting ≤ token.visitedDepth ∧ token.visitedDepth ≤ 2 * token.nesting + 1
  | .text _ => by simp [Token.nesting, Token.visitedDepth]
  | .argument _ => by simp [Token.nesting, Token.visitedDepth]
  | .octothorpe => by simp [Token.nesting, Token.visitedDepth]
  | .select _ cases | .plural _ cases _ | .ordinal _ cases => by
      have inner := Case.visitedDepth_bounds cases
      simp only [Token.nesting, Token.visitedDepth]
      omega
  | .call _ _ _ => by simp [Token.nesting, Token.visitedDepth]

theorem Token.bodyVisitedDepth_bounds : (tokens : List Token) →
    Token.bodyNesting tokens ≤ Token.bodyVisitedDepth tokens ∧
      Token.bodyVisitedDepth tokens ≤ 2 * Token.bodyNesting tokens + 1
  | [] => by simp [Token.bodyNesting, Token.bodyVisitedDepth]
  | token :: rest => by
      have first := token.visitedDepth_bounds
      have last := Token.bodyVisitedDepth_bounds rest
      simp only [Token.bodyNesting, Token.bodyVisitedDepth]
      omega

theorem Case.visitedDepth_bounds : (cases : List Case) →
    Case.nesting cases ≤ Case.visitedDepth cases ∧
      Case.visitedDepth cases ≤ 2 * Case.nesting cases + 2
  | [] => by simp [Case.nesting, Case.visitedDepth]
  | .mk _ body :: rest => by
      have first := Token.bodyVisitedDepth_bounds body
      have last := Case.visitedDepth_bounds rest
      simp only [Case.nesting, Case.visitedDepth]
      omega

end

namespace Template

mutual

theorem visitedDepth_bounds : (template : Template) →
    template.nesting ≤ template.visitedDepth ∧ template.visitedDepth ≤ 2 * template.nesting + 2
  | .message tokens => by
      have body := Token.bodyVisitedDepth_bounds tokens
      simp only [nesting, visitedDepth]
      omega
  | .catalog entries => by
      have branches := branchVisitedDepth_bounds entries
      simp only [nesting, visitedDepth]
      omega

theorem branchVisitedDepth_bounds : (entries : List (String × Template)) →
    branchNesting entries ≤ branchVisitedDepth entries ∧
      branchVisitedDepth entries ≤ 2 * branchNesting entries + 2
  | [] => by simp [branchNesting, branchVisitedDepth]
  | (_, branch) :: rest => by
      have first := branch.visitedDepth_bounds
      have last := branchVisitedDepth_bounds rest
      simp only [branchNesting, branchVisitedDepth]
      omega

end

end Template

/-- A template is summarised exactly when the levels that the walk counts are within the limit.  They
are no less than the nesting, and no more than twice the nesting and two. -/
theorem summary_returns_up_to_visited_depth (template : Template) :
    ((∃ summary, Summary.ofTemplate template.toValue = .ok summary) ↔
      template.visitedDepth ≤ Guard.defaultLimit) ∧
    (Summary.ofTemplate template.toValue =
        .error (.template (.depthLimitExceeded Guard.defaultLimit)) ↔
      Guard.defaultLimit < template.visitedDepth) ∧
    template.nesting ≤ template.visitedDepth ∧ template.visitedDepth ≤ 2 * template.nesting + 2 := by
  refine ⟨⟨?_, Summary.exists_summary⟩, ⟨?_, Summary.ofTemplate_of_deep⟩, template.visitedDepth_bounds⟩
  · intro returns
    obtain ⟨summary, returned⟩ := returns
    apply Int.not_lt.mp
    intro deep
    rw [Summary.ofTemplate_of_deep deep] at returned
    cases returned
  · intro refused
    apply Int.not_le.mp
    intro shallow
    obtain ⟨summary, returned⟩ := Summary.exists_summary shallow
    rw [refused] at returned
    cases returned

namespace Token

theorem nestedSelect_visitedDepth (n : Nat) : (nestedSelect n).visitedDepth = 2 * n + 1 := by
  induction n with
  | zero => rfl
  | succ n ih =>
      simp only [nestedSelect, visitedDepth, Case.visitedDepth, bodyVisitedDepth, ih]
      omega

end Token

theorem Template.nestedSelect_compiles {limit n : Nat} (within : n ≤ limit) (safe : limit ≤ 950)
    (enough : 3 * n ≤ 1000) :
    ∃ compiled after, (Compilation.compile (.tags []) (some "en")
        (Template.message [.nestedSelect n]).toValue).run (Desk.sample limit) =
      (.ok compiled, after) := by
  have frames : (Desk.sample limit).compiler.guard.HasFrames
      (Template.message [.nestedSelect n]).compileLoad.frames := by
    rw [nestedSelect_load]
    exact enough
  exact ⟨_, compile_of_meetable (Desk.sample_defaultsReturn limit).ignoreRegistry
    (nestedSelect_meetable n) ⟨nestedSelect_hasRoom within safe, frames⟩⟩

/-- Fifty selections in each other compile under the limit that a summary of them is refused at. -/
theorem fifty_selections_compile_without_summary :
    (∃ compiled after, (Compilation.compile (.tags []) (some "en")
        (Template.message [.nestedSelect 50]).toValue).run (Desk.sample Guard.defaultLimit) =
      (.ok compiled, after)) ∧
    Summary.ofTemplate (Template.message [.nestedSelect 50]).toValue =
      .error (.template (.depthLimitExceeded Guard.defaultLimit)) := by
  constructor
  · exact Template.nestedSelect_compiles (by decide : 50 ≤ 100) (by decide) (by decide)
  · apply Summary.ofTemplate_of_deep
    simp only [Template.visitedDepth, Token.bodyVisitedDepth, Token.nestedSelect_visitedDepth]
    decide

end Phrasebook
