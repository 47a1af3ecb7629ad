import Phrasebook.Proofs.Target.Grammar

/-!
What emitted expressions compute.  The data of a message are texts; the helpers, the formatters and the
plural rules are whatever functions the source is linked with.  A rule is only ever passed on, so
rules may be of any type, and their names are looked up apart from those of helpers and data.
-/

namespace Phrasebook.Target

inductive Datum (ρ : Type) where
  | text (value : String)
  | integer (value : Int)
  | texts (values : List String)
  | rule (rule : ρ)
  | cases (entries : List (String × String))

/-- What the source is linked with, and the data of a message. -/
structure Runtime (ρ : Type) where
  data : String → String
  rule : String → ρ
  helper : Helper → List (Datum ρ) → String
  formatter : String → List (Datum ρ) → String

def Datum.text? {ρ : Type} : Datum ρ → Option String
  | .text value => some value
  | _ => none

def literalTexts? : List Json → Option (List String)
  | [] => some []
  | .str text :: rest => (literalTexts? rest).map (text :: ·)
  | _ :: _ => none

namespace Expr

variable {ρ : Type} (runtime : Runtime ρ)

mutual

/-- The value of an expression.  There is none for what is neither a text nor a value that calls take,
and only texts are joined. -/
def eval : Expr → Option (Datum ρ)
  | .literal (.str value) => some (.text value)
  | .literal (.int value) => some (.integer value)
  | .literal (.arr items) => (literalTexts? items).map .texts
  | .literal _ => none
  | .name identifier => some (.rule (runtime.rule identifier))
  | .member .data key => some (.text (runtime.data key))
  | .member .formatters _ => none
  | .call (.name identifier) args => do
      let helper ← Helper.ofName? identifier
      let values ← evalArgs args
      pure (.text (runtime.helper helper values))
  | .call (.member .formatters key) args => do
      let values ← evalArgs args
      pure (.text (runtime.formatter key values))
  | .call _ _ => none
  | .object entries => (evalEntries entries).map .cases
  | .concat parts => (evalParts parts).map .text

def evalArgs : List Expr → Option (List (Datum ρ))
  | [] => some []
  | arg :: rest => do
      let value ← eval arg
      let values ← evalArgs rest
      pure (value :: values)

def evalEntries : List (String × Expr) → Option (List (String × String))
  | [] => some []
  | (key, value) :: rest => do
      let text ← (← eval value).text?
      let texts ← evalEntries rest
      pure ((key, text) :: texts)

def evalParts : List Expr → Option String
  | [] => some ""
  | part :: rest => do
      let text ← (← eval part).text?
      let joined ← evalParts rest
      pure (text ++ joined)

end

variable {runtime}

theorem literalTexts?_map (texts : List String) : literalTexts? (texts.map Json.str) = some texts := by
  induction texts with
  | nil => rfl
  | cons text rest ih => simp [literalTexts?, ih]

theorem eval_helper {helper : Helper} {args : List Expr} {values : List (Datum ρ)}
    (evaluated : evalArgs runtime args = some values) :
    eval runtime (.helper helper args) = some (.text (runtime.helper helper values)) := by
  simp [Expr.helper, eval, Helper.ofName?_name, evaluated]

theorem evalParts_singleton {part : Expr} {text : String} (evaluated : eval runtime part = some (.text text)) :
    evalParts runtime [part] = some text := by
  simp [evalParts, evaluated, Datum.text?]

theorem evalParts_append {first last : List Expr} {one two : String}
    (evaluated : evalParts runtime first = some one) (others : evalParts runtime last = some two) :
    evalParts runtime (first ++ last) = some (one ++ two) := by
  induction first generalizing one with
  | nil =>
      cases evaluated
      simpa using others
  | cons part rest ih =>
      simp only [evalParts, bind, Option.bind_eq_some_iff] at evaluated
      obtain ⟨value, computed, text, isText, joined, remaining, same⟩ := evaluated
      cases same
      simp [evalParts, computed, isText, ih remaining, String.append_assoc]

/-- The value of a body is the texts of its parts, one after the other. -/
theorem eval_joined {parts : List Expr} {text : String} (evaluated : evalParts runtime parts = some text) :
    eval runtime (.joined parts) = some (.text text) := by
  match parts with
  | [] =>
      cases evaluated
      rfl
  | [part] =>
      simp only [evalParts, bind, Option.bind_eq_some_iff] at evaluated
      obtain ⟨datum, computed, value, isText, _, ⟨⟩, ⟨⟩⟩ := evaluated
      cases datum <;> cases isText
      simpa [joined] using computed
  | first :: second :: rest => simp [joined, eval, evaluated]

end Expr

end Phrasebook.Target
