import Phrasebook.Target.Name

/-!
Function names.  Whatever text a function name is made from, it is an identifier and no reserved
word, as long as the text is not blank throughout; from a blank text nothing is made.  A name is its own
name.
-/

namespace Phrasebook.Target

open Text

theorem isWordChar_of_mem_wordChars {c : Char} {chars : List Char} {inRun : Bool}
    (member : c ∈ wordChars inRun chars) : isWordChar c = true := by
  induction chars generalizing inRun with
  | nil => simp [wordChars] at member
  | cons first rest ih =>
      rw [wordChars] at member
      split at member
      · rcases List.mem_cons.mp member with rfl | member
        · assumption
        · exact ih member
      · split at member
        · exact ih member
        · rcases List.mem_cons.mp member with rfl | member
          · decide
          · exact ih member

theorem wordChars_ne_nil {chars : List Char} (nonempty : chars ≠ []) : wordChars false chars ≠ [] := by
  cases chars with
  | nil => exact absurd rfl nonempty
  | cons first rest =>
      rw [wordChars]
      split <;> simp

theorem mem_dropWhile_of_not {test : Char → Bool} {c : Char} {chars : List Char}
    (member : c ∈ chars) (fails : test c = false) : c ∈ chars.dropWhile test := by
  induction chars with
  | nil => contradiction
  | cons first rest ih =>
      cases passes : test first with
      | false => rwa [List.dropWhile_cons_of_neg (by simp [passes])]
      | true =>
          rw [List.dropWhile_cons_of_pos passes]
          rcases List.mem_cons.mp member with rfl | member
          · rw [passes] at fails
            contradiction
          · exact ih member

theorem trimChars_ne_nil {c : Char} {chars : List Char} (member : c ∈ chars)
    (visible : isBlank c = false) : trimChars chars ≠ [] := by
  have front := mem_dropWhile_of_not member visible
  have back := mem_dropWhile_of_not (List.mem_reverse.mpr front) visible
  exact List.ne_nil_of_mem (List.mem_reverse.mpr back)

theorem dropWhile_of_none {test : Char → Bool} {chars : List Char}
    (none : ∀ c ∈ chars, test c = false) : chars.dropWhile test = chars := by
  cases chars with
  | nil => rfl
  | cons first rest => rw [List.dropWhile_cons_of_neg (by simp [none first List.mem_cons_self])]

theorem trimChars_of_visible {chars : List Char} (visible : ∀ c ∈ chars, isBlank c = false) :
    trimChars chars = chars := by
  have reversed : ∀ c ∈ chars.reverse, isBlank c = false := by simpa using visible
  rw [trimChars, trimBy, dropWhile_of_none visible, dropWhile_of_none reversed, List.reverse_reverse]

theorem trimChars_of_blank {chars : List Char} (blank : ∀ c ∈ chars, isBlank c = true) :
    trimChars chars = [] := by
  have dropped := @List.dropWhile_append_of_pos _ isBlank chars [] blank
  rw [List.append_nil] at dropped
  rw [trimChars, trimBy, dropped]
  rfl

theorem isBlank_of_isWordChar {c : Char} (word : isWordChar c = true) : isBlank c = false := by
  simp only [isWordChar, isAsciiLetter, isAsciiDigit, Char.le_def, UInt32.le_iff_toNat_le, Char.reduceVal,
    UInt32.reduceToNat, Char.toNat_val, Bool.or_eq_true, Bool.and_eq_true, decide_eq_true_eq,
    beq_iff_eq] at word
  rcases word with alphanumeric | rfl
  · simp only [isBlank, blanks, CharSet.contains, List.any_cons, List.any_nil, Bool.or_false,
      Bool.or_eq_false_iff, Bool.and_eq_false_imp, decide_eq_true_eq, decide_eq_false_iff_not, Nat.not_le]
    omega
  · decide

theorem isIdentifierChar_of_isWordChar {c : Char} (word : isWordChar c = true) :
    isIdentifierChar c = true := by
  simp only [isWordChar, Bool.or_eq_true] at word
  rcases word with (letter | digit) | underscore
  · simp [isIdentifierChar, isIdentifierStart, letter]
  · simp [isIdentifierChar, digit]
  · simp [isIdentifierChar, isIdentifierStart, underscore]

/-- No reserved word starts with an underscore. -/
theorem underscore_not_reserved {word : String} (starts : word.toList.head? = some '_') :
    word ∉ reservedFunctions := by
  have none : ∀ reserved ∈ reservedFunctions, reserved.toList.head? ≠ some '_' := by decide
  exact fun member => none word member starts

theorem isIdentifierChar_of_mem_functionName {key : String} {c : Char}
    (member : c ∈ (functionName key).toList) : isIdentifierChar c = true := by
  have inside {c : Char} (word : c ∈ wordChars false (trimChars key.toList)) :
      isIdentifierChar c = true :=
    isIdentifierChar_of_isWordChar (isWordChar_of_mem_wordChars word)
  unfold functionName at member
  dsimp only at member
  split at member
  · simp only [String.toList_append, String.toList_ofList, List.mem_append] at member
    rcases member with first | word
    · rw [List.mem_singleton.mp first]
      decide
    · exact inside word
  · rw [String.toList_ofList] at member
    exact inside member

theorem isAsciiDigit_of_isIdentifierStart {c : Char} (start : isIdentifierStart c = true) :
    isAsciiDigit c = false := by
  simp only [isIdentifierStart, isAsciiLetter, Bool.or_eq_true, Bool.and_eq_true, decide_eq_true_eq,
    beq_iff_eq, Char.le_def, UInt32.le_iff_toNat_le] at start
  simp only [isAsciiDigit, Bool.and_eq_false_iff, decide_eq_false_iff_not, Char.le_def,
    UInt32.le_iff_toNat_le]
  rcases start with ((lower | upper) | rfl) | rfl
  · exact .inr (by simp at lower ⊢; omega)
  · exact .inr (by simp at upper ⊢; omega)
  · decide
  · decide

theorem exists_start_of_isIdentifier {chars : List Char} (identifier : isIdentifier chars = true) :
    ∃ first rest, chars = first :: rest ∧ isIdentifierStart first = true ∧
      ∀ c ∈ rest, isIdentifierChar c = true := by
  cases chars with
  | nil => contradiction
  | cons first rest =>
      rw [isIdentifier, Bool.and_eq_true, List.all_eq_true] at identifier
      exact ⟨first, rest, rfl, identifier⟩

theorem isIdentifierChar_of_isIdentifier {chars : List Char} (identifier : isIdentifier chars = true) :
    ∀ c ∈ chars, isIdentifierChar c = true := by
  obtain ⟨first, rest, rfl, start, others⟩ := exists_start_of_isIdentifier identifier
  rw [List.forall_mem_cons]
  exact ⟨by simp [isIdentifierChar, start], others⟩

/-- Whether an underscore goes in front of a word that a function is named by. -/
def isShielded (word : String) : Bool :=
  reservedFunctions.contains word || word.toList.head?.any isAsciiDigit

/-- An ASCII letter or an underscore, then any number of these and of ASCII digits. -/
def isFunctionIdentifier : List Char → Bool
  | [] => false
  | first :: rest => (isAsciiLetter first || first == '_') && rest.all isWordChar

section

variable {first : Char} {chars rest : List Char}

theorem isFunctionIdentifier_cons (words : ∀ c ∈ first :: rest, isWordChar c = true)
    (other : isAsciiDigit first = false) : isFunctionIdentifier (first :: rest) = true := by
  obtain ⟨start, tail⟩ := List.forall_mem_cons.mp words
  rw [isWordChar, other, Bool.or_false] at start
  rw [isFunctionIdentifier, start, List.all_eq_true.mpr tail, Bool.and_self]

theorem isWordChar_of_isFunctionIdentifier (identifier : isFunctionIdentifier chars = true) :
    ∀ c ∈ chars, isWordChar c = true := by
  cases chars with
  | nil => exact nofun
  | cons first rest =>
      rw [isFunctionIdentifier, Bool.and_eq_true] at identifier
      obtain ⟨start, tail⟩ := identifier
      refine List.forall_mem_cons.mpr ⟨?_, List.all_eq_true.mp tail⟩
      rw [isWordChar, Bool.or_right_comm, start, Bool.true_or]

theorem isIdentifier_of_isFunctionIdentifier (identifier : isFunctionIdentifier chars = true) :
    isIdentifier chars = true := by
  cases chars with
  | nil => contradiction
  | cons first rest =>
      rw [isFunctionIdentifier, Bool.and_eq_true, List.all_eq_true] at identifier
      obtain ⟨start, tail⟩ := identifier
      have others : rest.all isIdentifierChar = true :=
        List.all_eq_true.mpr fun c member => isIdentifierChar_of_isWordChar (tail c member)
      rw [isIdentifier, isIdentifierStart, start, others, Bool.true_or, Bool.and_self]

theorem wordChars_of_words (words : ∀ c ∈ chars, isWordChar c = true) (inRun : Bool) :
    wordChars inRun chars = chars := by
  induction chars generalizing inRun with
  | nil => rfl
  | cons first rest ih =>
      obtain ⟨start, tail⟩ := List.forall_mem_cons.mp words
      rw [wordChars, if_pos start, ih tail]

end

/-- The name of a function that is made from a visible text is legal. -/
theorem functionName_isFunctionIdentifier {key : String} {c : Char} (member : c ∈ key.toList)
    (visible : isBlank c = false) :
    isFunctionIdentifier (functionName key).toList = true ∧ functionName key ∉ reservedFunctions := by
  have words := fun c => @isWordChar_of_mem_wordChars c (trimChars key.toList) false
  have nonempty := wordChars_ne_nil (trimChars_ne_nil member visible)
  unfold functionName
  generalize wordChars false (trimChars key.toList) = word at words nonempty
  obtain ⟨first, rest, rfl⟩ := List.exists_cons_of_ne_nil nonempty
  simp only [String.toList_ofList, List.head?_cons, Option.any_some]
  split
  · constructor
    · have shielded : ∀ c ∈ '_' :: first :: rest, isWordChar c = true :=
        List.forall_mem_cons.mpr ⟨by decide, words⟩
      simpa using isFunctionIdentifier_cons shielded (by decide)
    · exact underscore_not_reserved (by simp)
  · rename_i plain
    rw [Bool.not_eq_true, Bool.or_eq_false_iff] at plain
    constructor
    · simpa using isFunctionIdentifier_cons words plain.2
    · simpa using plain.1

/-- The name of a function that is made from a visible text can be called by that name. -/
theorem functionName_isIdentifier {key : String} {c : Char} (member : c ∈ key.toList)
    (visible : isBlank c = false) :
    isIdentifier (functionName key).toList = true ∧ functionName key ∉ reservedFunctions := by
  obtain ⟨identifier, free⟩ := functionName_isFunctionIdentifier member visible
  exact ⟨isIdentifier_of_isFunctionIdentifier identifier, free⟩

theorem functionName_of_blank {key : String} (blank : ∀ c ∈ key.toList, isBlank c = true) :
    functionName key = "" := by
  rw [functionName, trimChars_of_blank blank]
  decide

/-- A legal name is kept: it has no margin and no run to replace, and needs no underscore. -/
theorem functionName_of_isFunctionIdentifier {name : String}
    (identifier : isFunctionIdentifier name.toList = true) (free : name ∉ reservedFunctions) :
    functionName name = name := by
  have words := isWordChar_of_isFunctionIdentifier identifier
  have visible : ∀ c ∈ name.toList, isBlank c = false :=
    fun c member => isBlank_of_isWordChar (words c member)
  have unshielded : isShielded name = false := by
    obtain ⟨first, rest, chars, start, _⟩ :=
      exists_start_of_isIdentifier (isIdentifier_of_isFunctionIdentifier identifier)
    simp [isShielded, free, chars, isAsciiDigit_of_isIdentifierStart start]
  have spelled : functionName name = if isShielded name then "_" ++ name else name := by
    rw [functionName, trimChars_of_visible visible, wordChars_of_words words, String.ofList_toList]
    rfl
  rw [spelled, unshielded]
  rfl

/-- The name made from a text is legal exactly when the text has a visible character; otherwise it is
empty.  Naming a name again changes nothing. -/
theorem functionName_is_legal_iff_visible (key : String) :
    (isFunctionIdentifier (functionName key).toList = true ∧ functionName key ∉ reservedFunctions ↔
      ∃ c ∈ key.toList, isBlank c = false) ∧
    (functionName key = "" ↔ ∀ c ∈ key.toList, isBlank c = true) ∧
    functionName (functionName key) = functionName key := by
  by_cases found : ∃ c ∈ key.toList, isBlank c = false
  · obtain ⟨c, member, visible⟩ := found
    obtain ⟨identifier, free⟩ := functionName_isFunctionIdentifier member visible
    have nonempty : functionName key ≠ "" := by
      intro empty
      rw [empty] at identifier
      contradiction
    refine ⟨⟨fun _ => ⟨c, member, visible⟩, fun _ => ⟨identifier, free⟩⟩, ?_, ?_⟩
    · refine ⟨fun empty => absurd empty nonempty, fun blank => ?_⟩
      rw [blank c member] at visible
      contradiction
    · exact functionName_of_isFunctionIdentifier identifier free
  · have blank : ∀ c ∈ key.toList, isBlank c = true := by simpa using found
    have empty := functionName_of_blank blank
    refine ⟨⟨fun legal => ?_, fun visible => absurd visible found⟩, ⟨fun _ => blank, fun _ => empty⟩, ?_⟩
    · rw [empty] at legal
      exact absurd legal.1 (by decide)
    · rw [empty]
      decide

end Phrasebook.Target
