import Phrasebook.Proofs.Compiler.Acceptance
import Phrasebook.Proofs.Compiler.Pieces
import Phrasebook.Proofs.Target.LineTerminators

/-!
Line terminators in the functions of messages.  Every text that a message or its locale puts into source
goes through one way of writing, so the whole function holds a terminator only where one of these texts
holds a separator.
-/

namespace Phrasebook

open Target

/-- The texts that a part puts into source itself, apart from the parts inside it. -/
def Token.ownTexts (locale : String) : Token → List String
  | .text value => [value]
  | .argument arg => [arg]
  | .octothorpe => []
  | .select arg cases | .plural arg cases _ | .ordinal arg cases => arg :: cases.map Case.key
  | .call key arg params => key :: arg :: locale :: params

/-- To hold this separator. -/
def Pieces.separating (c : Char) : Pieces where
  text := Separates c
  read := Separates c
  formatter := Separates c
  rules _ := False
  key := Separates c

section

variable {c : Char} (line : c ∈ lineTerminators)
include line

theorem not_separates_of_plain {text : String} (plain : text.toList.all isPlain = true) :
    ¬ Separates c text :=
  fun found => not_mem_of_plain line plain found.2

theorem Pieces.settle_separating : (separating c).Settle fun expr => c ∈ expr.chars where
  text := Expr.mem_chars_text line
  texts := Expr.mem_chars_texts line
  int value := not_mem_numeral line (.intChars value)
  float value := not_mem_numeral line (.floatText value)
  read := Expr.mem_chars_member line .data
  rules _ := iff_false_intro
    (not_mem_identifier line fun _ member => isIdentifierChar_of_mem_functionName member)
  helper := Expr.mem_chars_helper line
  formatter key args := by
    rw [Expr.mem_chars_call line, Expr.mem_chars_member line, separating]
  object := Expr.mem_chars_object line
  joined := Expr.mem_chars_joined line
  mark locale := by
    apply not_separates_of_plain line
    unfold Locale.directionMark
    split <;> decide
  sign := not_separates_of_plain line (by decide)

end

theorem Token.brings_separating {c : Char} (locale : String) (token : Token) :
    token.Brings (.separating c) (some locale) ↔ ∃ text ∈ token.ownTexts locale, Separates c text := by
  cases token <;> simp [Brings, Pieces.separating, ownTexts]

theorem Token.mem_functionSource {c : Char} (line : c ∈ lineTerminators) (locale : String) (bidi : Bool)
    (tokens : List Token) :
    c ∈ (Expr.joined (Token.emittedParts (some locale) bidi none tokens)).functionSource.toList ↔
      ∃ part ∈ Token.parts tokens, ∃ text ∈ part.ownTexts locale, Separates c text := by
  rw [Expr.mem_functionSource line, (Pieces.settle_separating line).message, Token.Brought]
  simp only [Token.brings_separating]

/-- The function of a message holds a line terminator exactly where a text of the message, or the name of
the locale, holds a separator.  The two terminators of ASCII never stand in it. -/
theorem source_keeps_separators {φ : Type} (names : List String) (locale : String) (tokens : List Token)
    (desk after : Desk φ) (compiled : Compiled)
    (returned : (Compilation.compile (.tags names) (some locale) (Template.message tokens).toValue).run
      desk = (.ok compiled, after)) :
    ∃ body, compiled = .function body ∧ ∀ c ∈ lineTerminators,
      (c ∈ body.functionSource.toList ↔ c ∈ separators ∧
        ∃ part ∈ Token.parts tokens, ∃ text ∈ part.ownTexts locale, c ∈ text.toList) := by
  obtain ⟨rfl, _⟩ := Template.follows_of_ok returned
  refine ⟨_, rfl, fun c line => ?_⟩
  rw [Token.mem_functionSource line]
  constructor
  · intro separated
    obtain ⟨part, member, text, own, separator, inside⟩ := separated
    exact ⟨separator, part, member, text, own, inside⟩
  · intro found
    obtain ⟨separator, part, member, text, own, inside⟩ := found
    exact ⟨part, member, text, own, separator, inside⟩

/-- Both kinds of terminators: a line feed in a text, and separators in an argument and in a key. -/
def Token.lines : List Token :=
  [.plural "n\u2028" [.mk "\u2029" [.octothorpe], .mk "other" [.text "a\nb\r"]] (.int 1)]

theorem lines_keep_separators :
    ∃ body after, (Compilation.compile (.tags []) (some "en") (Template.message Token.lines).toValue).run
        (Desk.sample 1) = (.ok (.function body), after) ∧
      '\n' ∉ body.functionSource.toList ∧ '\r' ∉ body.functionSource.toList ∧
      '\u2028' ∈ body.functionSource.toList ∧ '\u2029' ∈ body.functionSource.toList := by
  obtain ⟨body, same, held⟩ := source_keeps_separators [] "en" Token.lines (Desk.sample 1) _ _ rfl
  cases same
  refine ⟨_, _, rfl, ?_, ?_, ?_, ?_⟩
  · exact fun member => absurd ((held _ (by decide)).mp member).1 (by decide)
  · exact fun member => absurd ((held _ (by decide)).mp member).1 (by decide)
  · exact (held _ (by decide)).mpr
      ⟨by decide, _, List.mem_cons_self, _, List.mem_cons_self, by decide⟩
  · exact (held _ (by decide)).mpr
      ⟨by decide, _, List.mem_cons_self, _, List.mem_cons_of_mem _ List.mem_cons_self, by decide⟩

/-- A separator in a text stands in the literal as it is, where it ends the line. -/
theorem separator_ends_line_in_source :
    ∃ body after, (Compilation.compile (.tags []) (some "en")
        (Template.message [.text "a\u2028b"]).toValue).run (Desk.sample 1) = (.ok (.function body), after) ∧
      ∃ c ∈ lineTerminators, c ∈ body.functionSource.toList := by
  have line : '\u2028' ∈ lineTerminators := by decide
  refine ⟨_, _, rfl, '\u2028', line, ?_⟩
  exact (Token.mem_functionSource line "en" false [.text "a\u2028b"]).mpr
    ⟨_, List.mem_cons_self, _, List.mem_cons_self, by decide, by decide⟩

end Phrasebook
