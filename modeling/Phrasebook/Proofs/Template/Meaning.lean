import Phrasebook.Locale.Direction
import Phrasebook.Proofs.Target.Evaluation
import Phrasebook.Template.Basic

/-!
The meaning of messages, read off their parts.  A text means itself and an argument its datum; a choice
hands the meanings of its cases to its helper; a number sign shows the argument of the nearest plural
or ordinal choice around it.
-/

namespace Phrasebook

open Target

/-- The number of an offset; only integers are considered. -/
def Offset.whole : Offset → Int
  | .int value => value
  | .float _ => 0

def Token.HasWholeOffset (token : Token) : Prop :=
  ∀ arg cases offset, token = .plural arg cases offset → ∃ value, offset = .int value

/-- The parameters of a call as it receives them: none, the one, or all of them together. -/
def Token.paramData {ρ : Type} : List String → List (Datum ρ)
  | [] => []
  | [param] => [.text param]
  | params => [.texts params]

section Meaning

variable {ρ : Type} (runtime : Runtime ρ) (locale : String) (bidi : Bool)

mutual

/-- The text that a part gives.  The argument and offset that number signs show are those of the
nearest plural or ordinal choice. -/
def Token.meaning (shown : Option (String × Int)) : Token → String
  | .text text => text
  | .argument arg =>
      if bidi then Locale.directionMark locale ++ runtime.data arg ++ Locale.directionMark locale
      else runtime.data arg
  | .octothorpe =>
      match shown with
      | none => "#"
      | some (arg, offset) =>
          runtime.helper .number
            (.text (runtime.data arg) :: if offset = 0 then [] else [.integer offset])
  | .select arg cases =>
      runtime.helper .select [.text (runtime.data arg), .cases (Case.meanings shown cases)]
  | .plural arg cases offset =>
      runtime.helper .plural [.text (runtime.data arg), .integer offset.whole,
        .rule (runtime.rule (functionName locale)),
        .cases (Case.meanings (some (arg, offset.whole)) cases)]
  | .ordinal arg cases =>
      runtime.helper .plural [.text (runtime.data arg), .integer 0,
        .rule (runtime.rule (functionName locale)), .cases (Case.meanings (some (arg, 0)) cases),
        .integer 1]
  | .call key arg params =>
      runtime.formatter key (.text (runtime.data arg) :: .text locale :: Token.paramData params)

def Token.bodyMeaning (shown : Option (String × Int)) : List Token → String
  | [] => ""
  | token :: rest => token.meaning shown ++ Token.bodyMeaning shown rest

def Case.meanings (shown : Option (String × Int)) : List Case → List (String × String)
  | [] => []
  | .mk key body :: rest => (key, Token.bodyMeaning shown body) :: Case.meanings shown rest

end

end Meaning

end Phrasebook
