import Phrasebook.Proofs.Json.Numeral
import Phrasebook.Proofs.Target.Reads

/-!
Line terminators in emitted source.  Literals escape the two of ASCII and leave the two separators beyond
ASCII as they are; nothing else that is written holds one.  So a terminator in the text of an expression is
a separator, and it stands in one of the texts that the expression is made from.
-/

namespace Phrasebook.Target

open Json Text

/-- The line terminators of ECMAScript 3 and 5, none of which may stand in a string literal. -/
def lineTerminators : List Char := ['\n', '\r', '\u2028', '\u2029']

/-- The line separator and the paragraph separator. -/
def separators : List Char := ['\u2028', '\u2029']

/-- The character is a separator that stands in the text. -/
def Separates (c : Char) (text : String) : Prop :=
  c ∈ separators ∧ c ∈ text.toList

def isPlain (c : Char) : Bool :=
  !lineTerminators.contains c

section

variable {c : Char} (line : c ∈ lineTerminators)
include line

theorem line_cases : c = '\n' ∨ c = '\r' ∨ c = '\u2028' ∨ c = '\u2029' := by
  simpa [lineTerminators] using line

theorem not_isPlain : isPlain c = false := by
  simp [isPlain, line]

theorem mem_cons_of_plain {d : Char} (plain : isPlain d = true) (rest : List Char) :
    c ∈ d :: rest ↔ c ∈ rest := by
  rw [List.mem_cons, or_iff_right]
  rintro rfl
  rw [not_isPlain line] at plain
  contradiction

theorem not_mem_of_plain {chars : List Char} (plain : chars.all isPlain = true) : c ∉ chars := by
  intro member
  have here := List.all_eq_true.mp plain c member
  rw [not_isPlain line] at here
  contradiction

theorem mem_append_of_plain {chars : List Char} (plain : chars.all isPlain = true) (rest : List Char) :
    c ∈ chars ++ rest ↔ c ∈ rest := by
  rw [List.mem_append, or_iff_right (not_mem_of_plain line plain)]

theorem not_mem_identifier {chars : List Char} (inside : ∀ d ∈ chars, isIdentifierChar d = true) :
    c ∉ chars := by
  intro member
  have here := inside c member
  rcases line_cases line with rfl | rfl | rfl | rfl <;> contradiction

theorem not_mem_numeral {chars : List Char} (numeral : IsNumeral chars) : c ∉ chars := by
  apply numeral.not_mem
  rcases line_cases line with rfl | rfl | rfl | rfl <;> decide

theorem not_mem_hexDigits (width n : Nat) : c ∉ hexDigits width n := by
  induction width generalizing n with
  | zero => exact List.not_mem_nil
  | succ width ih =>
      have digit : ∀ d < 16, isPlain (hexDigits.hexDigit d) = true := by decide
      have last := mem_cons_of_plain line (digit (n % 16) (Nat.mod_lt n (by decide))) []
      simp [hexDigits, ih, last]

/-- A terminator in what is written for a character is the character itself, a separator. -/
theorem mem_escapeChar (d : Char) : c ∈ escapeChar d ↔ c ∈ separators ∧ c = d := by
  have escaped {chars : List Char} (absent : c ∉ chars) (ascii : d ∉ separators) :
      c ∈ chars ↔ c ∈ separators ∧ c = d := by
    refine ⟨fun member => absurd member absent, fun found => ?_⟩
    obtain ⟨separator, rfl⟩ := found
    exact absurd separator ascii
  have short {named letter : Char} (same : (d == named) = true) (ascii : named ∉ separators)
      (plain : isPlain letter = true) : c ∈ ['\\', letter] ↔ c ∈ separators ∧ c = d := by
    rw [eq_of_beq same] at escaped ⊢
    apply escaped _ ascii
    simp [mem_cons_of_plain line (show isPlain '\\' = true by decide), mem_cons_of_plain line plain]
  unfold escapeChar
  split <;> rename_i mark
  · exact short mark (by decide) (by decide)
  split <;> rename_i backslash
  · exact short backslash (by decide) (by decide)
  split <;> rename_i newline
  · exact short newline (by decide) (by decide)
  split <;> rename_i carriageReturn
  · exact short carriageReturn (by decide) (by decide)
  split <;> rename_i tab
  · exact short tab (by decide) (by decide)
  split <;> rename_i backspace
  · exact short backspace (by decide) (by decide)
  split <;> rename_i formFeed
  · exact short formFeed (by decide) (by decide)
  split <;> rename_i control
  · apply escaped
    · simp (disch := decide) only [mem_cons_of_plain line]
      exact not_mem_hexDigits line 4 d.toNat
    · intro separator
      have far : ∀ n < 0x20, Char.ofNat n ∉ separators := by decide
      rw [← Char.ofNat_toNat d] at separator
      exact far d.toNat control separator
  · rw [List.mem_singleton, iff_and_self]
    rintro rfl
    rcases line_cases line with rfl | rfl | rfl | rfl
    · exact absurd rfl newline
    · exact absurd rfl carriageReturn
    · decide
    · decide

theorem mem_stringChars (text : String) : c ∈ stringChars text.toList ↔ Separates c text := by
  simp (disch := decide) only [stringChars, mem_cons_of_plain line, List.mem_append, List.mem_flatMap,
    mem_escapeChar line, List.not_mem_nil, or_false, Separates]
  constructor
  · rintro ⟨d, member, separator, rfl⟩
    exact ⟨separator, member⟩
  · rintro ⟨separator, member⟩
    exact ⟨c, member, separator, rfl⟩

theorem not_mem_bare {key : String} (bare : isBareProperty key = true) : c ∉ key.toList :=
  not_mem_identifier line (isIdentifierChar_of_isIdentifier (Bool.and_eq_true_iff.mp bare).1)

theorem mem_propertyChars (key : String) : c ∈ propertyChars key ↔ Separates c key := by
  unfold propertyChars
  split
  · rename_i bare
    simp [Separates, not_mem_bare line bare]
  · exact mem_stringChars line key

theorem mem_memberChars {receiver : List Char} (plain : receiver.all isPlain = true) (key : String) :
    c ∈ memberChars receiver key ↔ Separates c key := by
  have absent := not_mem_of_plain line plain
  unfold memberChars
  split
  · rename_i bare
    rw [List.mem_append, mem_cons_of_plain line (by decide)]
    simp [Separates, absent, not_mem_bare line bare]
  · simp (disch := decide) only [List.mem_append, absent, mem_cons_of_plain line, mem_stringChars line,
      List.not_mem_nil, false_or, or_false]

end

namespace Expr

variable {c : Char} (line : c ∈ lineTerminators)
include line

theorem mem_chars_text (value : String) : c ∈ (text value).chars ↔ Separates c value :=
  mem_stringChars line value

theorem mem_chars_member (receiver : Receiver) (key : String) :
    c ∈ (member receiver key).chars ↔ Separates c key := by
  apply mem_memberChars line
  cases receiver <;> decide

theorem mem_itemTailChars (texts : List String) :
    c ∈ itemTailChars .compact (texts.map Json.str) ↔ ∃ text ∈ texts, Separates c text := by
  induction texts with
  | nil => simp [itemTailChars]
  | cons text rest ih =>
      rw [List.map_cons, itemTailChars, Layout.compact, List.singleton_append,
        mem_cons_of_plain line (by decide), List.mem_append, Json.chars, mem_stringChars line]
      rw [Layout.compact] at ih
      simp [ih]

theorem mem_chars_texts (texts : List String) :
    c ∈ (literal (.arr (texts.map Json.str))).chars ↔ ∃ text ∈ texts, Separates c text := by
  simp (disch := decide) only [chars, Json.chars, mem_cons_of_plain line, List.mem_append]
  cases texts with
  | nil => simp [itemChars]
  | cons text rest =>
      rw [List.map_cons, itemChars, List.mem_append, mem_itemTailChars line, Json.chars,
        mem_stringChars line]
      simp

theorem mem_argTailChars (args : List Expr) :
    c ∈ argTailChars args ↔ ∃ arg ∈ args, c ∈ arg.chars := by
  induction args with
  | nil => simp [argTailChars]
  | cons arg rest ih =>
      simp (disch := decide) only [argTailChars, mem_cons_of_plain line, List.mem_append, ih]
      simp

theorem mem_chars_call (callee : Expr) (args : List Expr) :
    c ∈ (call callee args).chars ↔ c ∈ callee.chars ∨ ∃ arg ∈ args, c ∈ arg.chars := by
  simp (disch := decide) only [chars, List.mem_append, mem_cons_of_plain line]
  cases args with
  | nil => simp [argChars]
  | cons arg rest => simp [argChars, mem_argTailChars line]

theorem mem_chars_helper (helper : Helper) (args : List Expr) :
    c ∈ (Expr.helper helper args).chars ↔ ∃ arg ∈ args, c ∈ arg.chars := by
  have absent : c ∉ helper.name.toList := by
    apply not_mem_of_plain line
    cases helper <;> decide
  rw [Expr.helper, mem_chars_call line, chars]
  simp [absent]

theorem mem_entryTailChars (entries : List (String × Expr)) :
    c ∈ entryTailChars entries ↔ ∃ entry ∈ entries, Separates c entry.1 ∨ c ∈ entry.2.chars := by
  induction entries with
  | nil => simp [entryTailChars]
  | cons entry rest ih =>
      obtain ⟨key, value⟩ := entry
      simp (disch := decide) only [entryTailChars, mem_cons_of_plain line, List.mem_append, ih,
        mem_propertyChars line]
      simp [or_assoc]

theorem mem_chars_object (entries : List (String × Expr)) :
    c ∈ (object entries).chars ↔ ∃ entry ∈ entries, Separates c entry.1 ∨ c ∈ entry.2.chars := by
  simp (disch := decide) only [chars, mem_cons_of_plain line, List.mem_append]
  cases entries with
  | nil => simp [entryChars]
  | cons entry rest =>
      obtain ⟨key, value⟩ := entry
      simp (disch := decide) only [entryChars, mem_cons_of_plain line, List.mem_append,
        mem_propertyChars line, mem_entryTailChars line]
      simp [or_assoc]

theorem mem_partTailChars (parts : List Expr) :
    c ∈ partTailChars parts ↔ ∃ part ∈ parts, c ∈ part.chars := by
  induction parts with
  | nil => simp [partTailChars]
  | cons part rest ih =>
      simp (disch := decide) only [partTailChars, mem_cons_of_plain line, List.mem_append, ih]
      simp

theorem mem_chars_joined (parts : List Expr) :
    c ∈ (joined parts).chars ↔ ∃ part ∈ parts, c ∈ part.chars := by
  match parts with
  | [] => simp [joined, mem_chars_text line, Separates]
  | [part] => simp [joined]
  | first :: second :: rest => simp [joined, chars, partChars, mem_partTailChars line]

theorem mem_functionSource (body : Expr) : c ∈ body.functionSource.toList ↔ c ∈ body.chars := by
  rw [functionSource, String.toList_ofList]
  -- A rewrite would compare the words around the body with the body itself.
  refine (mem_append_of_plain line (by decide) _).trans ?_
  refine (mem_append_of_plain line (by decide) _).trans ?_
  refine (mem_append_of_plain line (by decide) _).trans ?_
  exact List.mem_append.trans (or_iff_left (not_mem_of_plain line (by decide)))

end Expr

end Phrasebook.Target
