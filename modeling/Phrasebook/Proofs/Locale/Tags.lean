import Phrasebook.Locale.Tag
import Phrasebook.Proofs.Target.Naming

/-!
Locale tags and the functions that are named after them.  The name of a tag's function is the tag with
underscores for hyphens, behind one more underscore where the tag would be a reserved word or start with
a digit.  No tag starts with an underscore, so nothing is lost but which separators the tag had.
-/

namespace Phrasebook.Locale

open Text Target

/-- One or more ASCII letters and digits. -/
def IsSubtag (chars : List Char) : Prop :=
  chars ≠ [] ∧ ∀ c ∈ chars, (isAsciiLetter c || isAsciiDigit c) = true

instance (chars : List Char) : Decidable (IsSubtag chars) :=
  @instDecidableAnd _ _ inferInstance (List.decidableBAll _ chars)

/-- Subtags, with a single separator between each and the next. -/
inductive IsTag : List Char → Prop where
  | last {subtag : List Char} (alphanumeric : IsSubtag subtag) : IsTag subtag
  | joined {subtag rest : List Char} {separator : Char} (alphanumeric : IsSubtag subtag)
      (separates : separator = '-' ∨ separator = '_') (others : IsTag rest) :
      IsTag (subtag ++ separator :: rest)

theorem withUnderscores_withHyphens (tag : String) :
    withUnderscores (withHyphens tag) = withUnderscores tag := by
  have same (c : Char) : (if (if c == '_' then '-' else c) == '-' then '_' else
      if c == '_' then '-' else c) = if c == '-' then '_' else c := by
    by_cases underscore : c = '_' <;> simp [underscore]
  apply String.toList_injective
  simp only [withUnderscores, withHyphens, String.toList_map, List.map_map, Function.comp_def, same]

theorem withHyphens_withUnderscores (tag : String) :
    withHyphens (withUnderscores tag) = withHyphens tag := by
  have same (c : Char) : (if (if c == '-' then '_' else c) == '_' then '-' else
      if c == '-' then '_' else c) = if c == '_' then '-' else c := by
    by_cases hyphen : c = '-' <;> simp [hyphen]
  apply String.toList_injective
  simp only [withUnderscores, withHyphens, String.toList_map, List.map_map, Function.comp_def, same]

/-- Spelling tags with underscores tells apart what spelling them with hyphens does. -/
theorem withUnderscores_eq_iff (first second : String) :
    withUnderscores first = withUnderscores second ↔ withHyphens first = withHyphens second := by
  constructor
  · intro same
    rw [← withHyphens_withUnderscores, same, withHyphens_withUnderscores]
  · intro same
    rw [← withUnderscores_withHyphens, same, withUnderscores_withHyphens]

theorem isBlank_of_isAlphanumeric {c : Char} (alphanumeric : (isAsciiLetter c || isAsciiDigit c) = true) :
    isBlank c = false := by
  apply isBlank_of_isWordChar
  rw [isWordChar, alphanumeric, Bool.true_or]

namespace IsTag

variable {chars : List Char}

theorem isBlank (tag : IsTag chars) : ∀ c ∈ chars, isBlank c = false := by
  induction tag with
  | last alphanumeric => exact fun c member => isBlank_of_isAlphanumeric (alphanumeric.2 c member)
  | joined alphanumeric separates _ others =>
      rw [List.forall_mem_append, List.forall_mem_cons]
      refine ⟨fun c member => isBlank_of_isAlphanumeric (alphanumeric.2 c member), ?_, others⟩
      rcases separates with rfl | rfl <;> decide

theorem exists_start (tag : IsTag chars) :
    ∃ first rest, chars = first :: rest ∧ (isAsciiLetter first || isAsciiDigit first) = true := by
  have start {subtag : List Char} (alphanumeric : IsSubtag subtag) (rest : List Char) :
      ∃ first others, subtag ++ rest = first :: others ∧
        (isAsciiLetter first || isAsciiDigit first) = true := by
    obtain ⟨nonempty, inside⟩ := alphanumeric
    obtain ⟨first, others, rfl⟩ := List.exists_cons_of_ne_nil nonempty
    exact ⟨first, others ++ rest, rfl, inside first List.mem_cons_self⟩
  cases tag with
  | last alphanumeric => simpa using start alphanumeric []
  | joined alphanumeric _ _ => exact start alphanumeric _

end IsTag

theorem wordChars_append {subtag : List Char} (alphanumeric : IsSubtag subtag) (inRun : Bool)
    (rest : List Char) : wordChars inRun (subtag ++ rest) = subtag ++ wordChars false rest := by
  obtain ⟨nonempty, inside⟩ := alphanumeric
  induction subtag generalizing inRun with
  | nil => exact absurd rfl nonempty
  | cons first others ih =>
      obtain ⟨here, more⟩ := List.forall_mem_cons.mp inside
      have word : isWordChar first = true := by simp [isWordChar, here]
      rw [List.cons_append, wordChars, if_pos word]
      cases others with
      | nil => rfl
      | cons second others =>
          rw [ih false (List.cons_ne_nil second others) more]
          rfl

theorem map_of_isSubtag {subtag : List Char} (alphanumeric : IsSubtag subtag) :
    subtag.map (fun c => if c == '-' then '_' else c) = subtag := by
  have stays : ∀ c ∈ subtag, (if c == '-' then '_' else c) = c := by
    intro c member
    have other : c ≠ '-' := by
      rintro rfl
      exact absurd (alphanumeric.2 _ member) (by decide)
    simp [other]
  rw [List.map_congr_left stays, List.map_id']

/-- Separators stand alone, so each of them becomes an underscore of its own. -/
theorem wordChars_of_isTag {chars : List Char} (tag : IsTag chars) (inRun : Bool) :
    wordChars inRun chars = chars.map fun c => if c == '-' then '_' else c := by
  induction tag generalizing inRun with
  | @last subtag alphanumeric =>
      have word := wordChars_append alphanumeric inRun []
      rw [List.append_nil, wordChars, List.append_nil] at word
      rw [word, map_of_isSubtag alphanumeric]
  | joined alphanumeric separates _ others =>
      rw [wordChars_append alphanumeric, wordChars, others, others, List.map_append, List.map_cons,
        map_of_isSubtag alphanumeric]
      rcases separates with rfl | rfl <;> simp [isWordChar, isAsciiLetter, isAsciiDigit]

theorem functionName_of_isTag {tag : String} (isTag : IsTag tag.toList) :
    functionName tag =
      if isShielded (withUnderscores tag) then "_" ++ withUnderscores tag else withUnderscores tag := by
  have word : String.ofList (wordChars false (trimChars tag.toList)) = withUnderscores tag := by
    apply String.toList_injective
    rw [String.toList_ofList, trimChars_of_visible isTag.isBlank, wordChars_of_isTag isTag, withUnderscores,
      String.toList_map]
  rw [functionName, word]
  rfl

theorem head?_withUnderscores_ne {tag : String} (isTag : IsTag tag.toList) :
    (withUnderscores tag).toList.head? ≠ some '_' := by
  obtain ⟨first, rest, starts, alphanumeric⟩ := isTag.exists_start
  rw [withUnderscores, String.toList_map, starts]
  intro underscore
  by_cases hyphen : first = '-'
  · subst hyphen
    exact absurd alphanumeric (by decide)
  · have same : first = '_' := by simpa [hyphen] using underscore
    subst same
    exact absurd alphanumeric (by decide)

/-- An underscore in front of one word never makes it another, since no tag starts with one. -/
theorem withUnderscores_eq_of_functionName_eq {first second : String} (isFirst : IsTag first.toList)
    (isSecond : IsTag second.toList) (same : functionName first = functionName second) :
    withUnderscores first = withUnderscores second := by
  have shielded {word other : String} (equal : "_" ++ word = other) : other.toList.head? = some '_' := by
    rw [← equal]
    simp
  rw [functionName_of_isTag isFirst, functionName_of_isTag isSecond] at same
  split at same
  · split at same
    · exact (String.append_right_inj "_").mp same
    · exact absurd (shielded same) (head?_withUnderscores_ne isSecond)
  · split at same
    · exact absurd (shielded same.symm) (head?_withUnderscores_ne isFirst)
    · exact same

theorem functionName_eq_iff {first second : String} (isFirst : IsTag first.toList)
    (isSecond : IsTag second.toList) :
    functionName first = functionName second ↔ withHyphens first = withHyphens second := by
  rw [← withUnderscores_eq_iff]
  refine ⟨withUnderscores_eq_of_functionName_eq isFirst isSecond, fun same => ?_⟩
  rw [functionName_of_isTag isFirst, functionName_of_isTag isSecond, same]

end Phrasebook.Locale
