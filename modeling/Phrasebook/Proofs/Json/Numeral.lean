import Phrasebook.Proofs.Json.Literal

/-!
The characters of written numbers: digits, signs, a point, the mark of an exponent, and the letters of the
words for what is no number or has no end.
-/

namespace Phrasebook.Json

open Text Number

def isNumeralChar (c : Char) : Bool :=
  isAsciiDigit c || ['+', '-', '.', 'e', 'N', 'a', 'I', 'n', 'f', 'i', 't', 'y'].contains c

def IsNumeral (chars : List Char) : Prop :=
  ∀ c ∈ chars, isNumeralChar c = true

instance (chars : List Char) : Decidable (IsNumeral chars) :=
  List.decidableBAll (fun c => isNumeralChar c = true) chars

namespace IsNumeral

theorem not_mem {chars : List Char} (numeral : IsNumeral chars) {c : Char}
    (other : isNumeralChar c = false) : c ∉ chars := by
  intro member
  rw [numeral c member] at other
  contradiction

theorem append {first last : List Char} (one : IsNumeral first) (other : IsNumeral last) :
    IsNumeral (first ++ last) :=
  List.forall_mem_append.mpr ⟨one, other⟩

theorem of_subset {chars others : List Char} (numeral : IsNumeral others) (inside : chars ⊆ others) :
    IsNumeral chars :=
  fun c member => numeral c (inside member)

theorem digits (n : Nat) : IsNumeral (Nat.toDigits 10 n) := by
  intro c member
  rw [isNumeralChar, (wholeDigits_toDigits n).all c member, Bool.true_or]

theorem zeros (n : Nat) : IsNumeral (List.replicate n '0') := by
  intro c member
  rw [List.eq_of_mem_replicate member]
  decide

theorem intChars (value : Int) : IsNumeral (Json.intChars value) := by
  unfold Json.intChars
  split
  · exact List.forall_mem_cons.mpr ⟨by decide, digits _⟩
  · exact digits _

theorem padded (width n : Nat) : IsNumeral (Text.padded width n).toList := by
  rw [Text.padded, String.toList_ofList]
  exact append (zeros _) (digits n)

theorem texts {first last : String} (one : IsNumeral first.toList) (other : IsNumeral last.toList) :
    IsNumeral (first ++ last).toList := by
  rw [String.toList_append]
  exact one.append other

theorem ofList {chars : List Char} (numeral : IsNumeral chars) :
    IsNumeral (String.ofList chars).toList := by
  rwa [String.toList_ofList]

theorem writeDigits {digits : List Char} (numeral : IsNumeral digits) (exponent : Int) :
    IsNumeral (Double.writeDigits digits exponent).toList := by
  have front := fun count => numeral.of_subset (List.take_subset count digits)
  have back := fun count => numeral.of_subset (List.drop_subset count digits)
  unfold Double.writeDigits
  dsimp only
  generalize exponent + digits.length - 1 = magnitude
  split
  · split
    · exact texts (ofList (numeral.append (zeros _))) (by decide)
    · split
      · exact texts (texts (ofList (front _)) (by decide)) (ofList (back _))
      · exact texts (by decide) (ofList ((zeros _).append numeral))
  · have fraction : IsNumeral (if (digits.drop 1).isEmpty then "" else
        "." ++ String.ofList (digits.drop 1)).toList := by
      split
      · decide
      · exact texts (by decide) (ofList (back 1))
    have sign : IsNumeral (if magnitude < 0 then "-" else "+").toList := by
      split <;> decide
    exact texts (texts (texts (texts (ofList (front 1)) fraction) (by decide)) sign) (padded _ _)

theorem finiteText (negative : Bool) (mantissa : Nat) (exponent : Int) :
    IsNumeral (Double.finiteText negative mantissa exponent).toList := by
  have body : IsNumeral (if mantissa = 0 then "0.0" else
      Double.writeDigits (Nat.toDigits 10 (shortest mantissa exponent).1)
        (shortest mantissa exponent).2).toList := by
    split
    · decide
    · exact writeDigits (digits _) _
  cases negative with
  | false => exact body
  | true =>
      rw [Double.finiteText, if_pos rfl]
      exact texts (by decide) body

theorem floatText (value : Double) : IsNumeral (Json.floatText value).toList := by
  cases value with
  | nan => decide
  | infinite negative => cases negative <;> decide
  | finite negative mantissa exponent => exact finiteText negative mantissa exponent

end IsNumeral

end Phrasebook.Json
