import Phrasebook.Proofs.Compiler.Acceptance
import Phrasebook.Proofs.Target.Naming
import Phrasebook.Proofs.Target.Reader
import Phrasebook.Proofs.Template.Meaning

/-!
Compiling a message preserves its meaning.  The emitted text is read in one way only, and what is read
computes the meaning of the message, whatever helpers, plural rules and formatters it is linked with.
-/

namespace Phrasebook

open Target

/-- What number signs show when they count this. -/
def Count.shown (count : Count) : String × Int :=
  (count.arg, count.offset.whole)

def Count.IsWhole (count : Count) : Prop :=
  ∃ value, count.offset = .int value

theorem Count.isWhole_int (arg : String) (value : Int) :
    ∀ count ∈ some (Count.mk arg (.int value)), count.IsWhole := by
  intro count same
  cases same
  exact ⟨value, rfl⟩

section Evaluation

variable {ρ : Type} {runtime : Runtime ρ} {locale : String} {bidi : Bool}

theorem Count.eval_emitted {count : Count} (whole : count.IsWhole) :
    Expr.eval runtime count.emitted = some (.text (Token.meaning runtime locale bidi
      (some count.shown) .octothorpe)) := by
  obtain ⟨value, same⟩ := whole
  rw [Count.emitted, Token.meaning, Count.shown, same]
  by_cases zero : value = 0
  · subst zero
    exact Expr.eval_helper rfl
  · have given : (Offset.int value).toValue.isGiven = true := by
      simp [Offset.toValue, Value.isGiven, zero]
    rw [if_pos given, Offset.whole, if_neg zero]
    exact Expr.eval_helper rfl

theorem Token.evalArgs_params (params : List String) :
    Expr.evalArgs runtime (Token.paramLiterals params) = some (Token.paramData params) := by
  match params with
  | [] => rfl
  | [param] => rfl
  | first :: second :: rest =>
      have texts := Expr.literalTexts?_map (first :: second :: rest)
      simp only [Token.paramLiterals, Expr.evalArgs, Expr.eval, texts]
      rfl

mutual

theorem Token.evalParts_emitted (count : Option Count) (counted : ∀ inner ∈ count, inner.IsWhole) :
    (token : Token) → (∀ part ∈ token :: token.inside, part.HasWholeOffset) →
    Expr.evalParts runtime (token.emitted (some locale) bidi count) =
      some (token.meaning runtime locale bidi (count.map Count.shown))
  | .text text, _ => Expr.evalParts_singleton rfl
  | .argument arg, _ => by
      cases bidi with
      | false => exact Expr.evalParts_singleton rfl
      | true =>
          simp [Token.emitted, Token.meaning, Expr.between, Expr.text, Expr.read, Expr.evalParts,
            Expr.eval, Datum.text?, String.append_assoc]
  | .octothorpe, _ => by
      cases count with
      | none => exact Expr.evalParts_singleton rfl
      | some inner => exact Expr.evalParts_singleton (Count.eval_emitted (counted inner rfl))
  | .select arg cases, whole => by
      have entries := Case.evalEntries_emitted count counted cases
        fun part member => whole part (.tail _ member)
      apply Expr.evalParts_singleton
      apply Expr.eval_helper
      simp [Expr.evalArgs, Expr.eval, Expr.read, entries]
  | .plural arg cases offset, whole => by
      obtain ⟨value, rfl⟩ := whole _ (.head _) arg cases offset rfl
      have entries := Case.evalEntries_emitted (some ⟨arg, .int value⟩)
        (Count.isWhole_int arg value) cases fun part member => whole part (.tail _ member)
      apply Expr.evalParts_singleton
      apply Expr.eval_helper
      simp [Expr.evalArgs, Expr.eval, Expr.read, entries, Offset.toJson, Offset.whole, Count.shown]
  | .ordinal arg cases, whole => by
      have entries := Case.evalEntries_emitted (some ⟨arg, .int 0⟩)
        (Count.isWhole_int arg 0) cases fun part member => whole part (.tail _ member)
      apply Expr.evalParts_singleton
      apply Expr.eval_helper
      simp [Expr.evalArgs, Expr.eval, Expr.read, entries, Offset.whole, Count.shown]
  | .call key arg params, _ => by
      apply Expr.evalParts_singleton
      simp [Expr.eval, Expr.evalArgs, Expr.read, Expr.text, Token.evalArgs_params, Token.meaning]

theorem Token.evalParts_emittedParts (count : Option Count) (counted : ∀ inner ∈ count, inner.IsWhole) :
    (tokens : List Token) → (∀ part ∈ Token.parts tokens, part.HasWholeOffset) →
    Expr.evalParts runtime (Token.emittedParts (some locale) bidi count tokens) =
      some (Token.bodyMeaning runtime locale bidi (count.map Count.shown) tokens)
  | [], _ => rfl
  | token :: rest, whole => by
      have first := Token.evalParts_emitted count counted token
        fun part member => whole part (List.mem_append_left (Token.parts rest) member)
      have others := Token.evalParts_emittedParts count counted rest
        fun part member => whole part (List.mem_append_right (token :: token.inside) member)
      exact Expr.evalParts_append first others

theorem Case.evalEntries_emitted (count : Option Count) (counted : ∀ inner ∈ count, inner.IsWhole) :
    (cases : List Case) → (∀ part ∈ Case.parts cases, part.HasWholeOffset) →
    Expr.evalEntries runtime (Case.emitted (some locale) bidi count cases) =
      some (Case.meanings runtime locale bidi (count.map Count.shown) cases)
  | [], _ => rfl
  | .mk key body :: rest, whole => by
      have value := Expr.eval_joined (Token.evalParts_emittedParts count counted body
        fun part member => whole part (List.mem_append_left _ member))
      have others := Case.evalEntries_emitted count counted rest
        fun part member => whole part (List.mem_append_right _ member)
      simp [Case.emitted, Expr.evalEntries, value, others, Datum.text?, Case.meanings]

end

end Evaluation

section Spelling

variable {locale : String} {bidi : Bool}

theorem Count.spells_emitted {count : Count} (whole : count.IsWhole) :
    Spells (.part count.emitted) count.emitted.chars := by
  obtain ⟨value, same⟩ := whole
  rw [Count.emitted, same]
  split
  · apply Spells.helperChars
    simp [Spells.ofPart (Spells.readChars _), Offset.toJson, Spells.ofPart (Spells.integerChars value)]
  · apply Spells.helperChars
    simp [Spells.ofPart (Spells.readChars _)]

theorem Token.spells_params (params : List String) :
    ∀ arg ∈ Token.paramLiterals params, Spells (.expression arg) arg.chars := by
  match params with
  | [] => simp [Token.paramLiterals]
  | [param] => simpa [Token.paramLiterals] using Spells.ofPart (Spells.textChars param)
  | first :: second :: rest =>
      simpa [Token.paramLiterals] using Spells.ofPart (Spells.arrayChars first (second :: rest))

theorem spells_rules (visible : ∃ c ∈ locale.toList, Text.isBlank c = false) :
    Spells (.expression (.name (functionName locale))) (Expr.name (functionName locale)).chars := by
  obtain ⟨c, member, visible⟩ := visible
  obtain ⟨identifier, free⟩ := functionName_isIdentifier member visible
  exact .ofPart (.name identifier free)

mutual

theorem Token.spells_emitted (visible : ∃ c ∈ locale.toList, Text.isBlank c = false)
    (count : Option Count) (counted : ∀ inner ∈ count, inner.IsWhole) :
    (token : Token) → (∀ part ∈ token :: token.inside, part.HasWholeOffset) →
    ∀ part ∈ token.emitted (some locale) bidi count, Spells (.part part) part.chars
  | .text text, _ => by simpa [Token.emitted] using Spells.textChars text
  | .argument arg, _ => by
      cases bidi with
      | false => simpa [Token.emitted] using Spells.readChars arg
      | true => simp [Token.emitted, Expr.between, Spells.textChars, Spells.readChars]
  | .octothorpe, _ => by
      cases count with
      | none => simpa [Token.emitted] using Spells.textChars Value.octothorpeText
      | some inner => simpa [Token.emitted] using Count.spells_emitted (counted inner rfl)
  | .select arg cases, whole => by
      have entries := Case.spells_emitted visible count counted cases
        fun part member => whole part (.tail _ member)
      have object := Spells.ofPart (Spells.objectChars entries)
      intro part member
      rw [List.mem_singleton.mp member]
      apply Spells.helperChars
      simp only [List.forall_mem_cons, List.not_mem_nil, false_implies, implies_true, and_true]
      exact ⟨Spells.ofPart (Spells.readChars arg), object⟩
  | .plural arg cases offset, whole => by
      obtain ⟨value, rfl⟩ := whole _ (.head _) arg cases offset rfl
      have entries := Case.spells_emitted visible (some ⟨arg, .int value⟩)
        (Count.isWhole_int arg value) cases fun part member => whole part (.tail _ member)
      have object := Spells.ofPart (Spells.objectChars entries)
      intro part member
      rw [List.mem_singleton.mp member]
      apply Spells.helperChars
      simp only [List.forall_mem_cons, List.not_mem_nil, false_implies, implies_true, and_true]
      exact ⟨Spells.ofPart (Spells.readChars arg), Spells.ofPart (Spells.integerChars value),
          spells_rules visible, object⟩
  | .ordinal arg cases, whole => by
      have entries := Case.spells_emitted visible (some ⟨arg, .int 0⟩)
        (Count.isWhole_int arg 0) cases fun part member => whole part (.tail _ member)
      have object := Spells.ofPart (Spells.objectChars entries)
      intro part member
      rw [List.mem_singleton.mp member]
      apply Spells.helperChars
      simp only [List.forall_mem_cons, List.not_mem_nil, false_implies, implies_true, and_true]
      exact ⟨Spells.ofPart (Spells.readChars arg), Spells.ofPart (Spells.integerChars 0),
          spells_rules visible, object, Spells.ofPart (Spells.integerChars 1)⟩
  | .call key arg params, _ => by
      intro part member
      rw [List.mem_singleton.mp member]
      apply Spells.formatterChars
      simp only [List.forall_mem_cons]
      exact ⟨Spells.ofPart (Spells.readChars arg), Spells.ofPart (Spells.textChars locale),
          Token.spells_params params⟩

theorem Token.spells_emittedParts (visible : ∃ c ∈ locale.toList, Text.isBlank c = false)
    (count : Option Count) (counted : ∀ inner ∈ count, inner.IsWhole) :
    (tokens : List Token) → (∀ part ∈ Token.parts tokens, part.HasWholeOffset) →
    ∀ part ∈ Token.emittedParts (some locale) bidi count tokens, Spells (.part part) part.chars
  | [], _ => fun _ member => absurd member List.not_mem_nil
  | token :: rest, whole => by
      intro part member
      rcases List.mem_append.mp member with member | member
      · exact Token.spells_emitted visible count counted token
          (fun part member => whole part (List.mem_append_left (Token.parts rest) member)) part member
      · exact Token.spells_emittedParts visible count counted rest
          (fun part member => whole part (List.mem_append_right (token :: token.inside) member)) part member

theorem Case.spells_emitted (visible : ∃ c ∈ locale.toList, Text.isBlank c = false)
    (count : Option Count) (counted : ∀ inner ∈ count, inner.IsWhole) :
    (cases : List Case) → (∀ part ∈ Case.parts cases, part.HasWholeOffset) →
    ∀ entry ∈ Case.emitted (some locale) bidi count cases, Spells (.expression entry.2) entry.2.chars
  | [], _ => fun _ member => absurd member List.not_mem_nil
  | .mk key body :: rest, whole => by
      intro entry member
      rcases List.mem_cons.mp member with rfl | member
      · exact Spells.joinedChars (Token.spells_emittedParts visible count counted body
          fun part member => whole part (List.mem_append_left _ member))
      · exact Case.spells_emitted visible count counted rest
          (fun part member => whole part (List.mem_append_right _ member)) entry member

end

end Spelling

theorem ofList_framed (start receiver middle finish : String) (chars : List Char) :
    String.ofList (start.toList ++ (receiver.toList ++ (middle.toList ++ (chars ++ finish.toList)))) =
      start ++ (receiver ++ middle) ++ String.ofList chars ++ finish := by
  simp only [String.ofList_append, String.ofList_toList, String.append_assoc]

theorem Target.Expr.functionSource_eq (body : Expr) :
    body.functionSource = "function(d) \x7b return " ++ body.source ++ "; \x7d" := by
  have opening : "function(" ++ (Receiver.data.name ++ ") \x7b return ") = "function(d) \x7b return " := by
    decide
  have framed := ofList_framed "function(" Receiver.data.name ") \x7b return " "; \x7d" body.chars
  unfold functionSource functionChars source
  exact framed.trans (congrArg (fun front => front ++ String.ofList body.chars ++ "; \x7d") opening)

/-- The text that a message compiles to is a function of one argument.  What it returns is read in one
way only, and computes what the parts of the message mean. -/
theorem compile_preserves_meaning {φ : Type} (names : List String) (locale : String)
    (tokens : List Token) (desk after : Desk φ) (compiled : Compiled)
    (visible : ∃ c ∈ locale.toList, Text.isBlank c = false)
    (whole : ∀ part ∈ Token.parts tokens, part.HasWholeOffset)
    (returned : (Compilation.compile (.tags names) (some locale) (Template.message tokens).toValue).run
      desk = (.ok compiled, after)) :
    ∃ body text, compiled = .function body ∧
      body.functionSource = "function(d) \x7b return " ++ text ++ "; \x7d" ∧
      ∃ expr, Expr.read? text.toList = some expr ∧
        (∀ other, Spells (.expression other) text.toList ↔ other = expr) ∧
        ∀ (ρ : Type) (runtime : Runtime ρ), expr.eval runtime =
          some (.text (Token.bodyMeaning runtime locale desk.config.settings.bidi none tokens)) := by
  obtain ⟨emitted, _⟩ := Template.follows_of_ok returned
  have spelled := Spells.joinedChars (@Token.spells_emittedParts locale desk.config.settings.bidi
    visible none (by simp) tokens whole)
  have evaluated (ρ : Type) (runtime : Runtime ρ) := Expr.eval_joined
    (@Token.evalParts_emittedParts ρ runtime locale desk.config.settings.bidi none (by simp) tokens whole)
  rw [Template.emitted] at emitted
  generalize Expr.joined (Token.emittedParts (some locale) desk.config.settings.bidi none tokens) =
    body at spelled evaluated emitted
  refine ⟨body, body.source, emitted, ?_, body, ?_, fun other => ⟨fun also => ?_, ?_⟩, evaluated⟩
  · exact body.functionSource_eq
  · rw [Expr.source, String.toList_ofList]
    exact spelled.read?
  · rw [Expr.source, String.toList_ofList] at also
    exact Option.some.inj (also.read?.symm.trans spelled.read?)
  · intro same
    subst same
    rwa [Expr.source, String.toList_ofList]

/-- Neither a quotation mark in a text nor a reserved word as argument breaks out of its place. -/
theorem hostile_preserves_meaning :
    ∃ compiled after, (Compilation.compile (.tags []) (some "2 new") (Template.message
        (.text "\"; d\n" :: .argument "new" :: Token.guests)).toValue).run (Desk.sample 3) =
        (.ok compiled, after) ∧
      ∃ body text, compiled = .function body ∧
        body.functionSource = "function(d) \x7b return " ++ text ++ "; \x7d" ∧
        ∃ expr, Expr.read? text.toList = some expr ∧
          ∀ (ρ : Type) (runtime : Runtime ρ), expr.eval runtime = some (.text
            ("\"; d\n" ++ (runtime.data "new" ++ Token.bodyMeaning runtime "2 new" false none Token.guests))) := by
  refine ⟨_, _, rfl, ?_⟩
  have whole : ∀ part ∈ Token.parts (.text "\"; d\n" :: .argument "new" :: Token.guests),
      part.HasWholeOffset := by
    simp [Token.guests, Token.parts, Token.inside, Case.parts, Token.HasWholeOffset]
  obtain ⟨body, text, compiled, source, expr, read, _, evaluated⟩ := compile_preserves_meaning [] "2 new"
    (.text "\"; d\n" :: .argument "new" :: Token.guests) (.sample 3) _ _ ⟨'2', by decide, by decide⟩
    whole rfl
  exact ⟨body, text, compiled, source, expr, read, evaluated⟩

end Phrasebook
