import Phrasebook.Proofs.Json.Literal

/-!
Writing and reading JSON.  Whatever is written for a value without floating-point numbers is read as
that value, and reading stops right after it.  Both layouts put only blanks between the marks, and the
reader passes over blanks.
-/

namespace Phrasebook.Json

open Text

mutual

/-- No floating-point number stands in the value, so its text says all of it. -/
def IsExact : Json → Prop
  | .float _ => False
  | .arr items => AreExact items
  | .obj members => HoldExact members
  | .null | .bool _ | .int _ | .str _ => True

def AreExact : List Json → Prop
  | [] => True
  | item :: rest => item.IsExact ∧ AreExact rest

def HoldExact : List (String × Json) → Prop
  | [] => True
  | (_, value) :: rest => value.IsExact ∧ HoldExact rest

end

/-- A mark, and blanks after it. -/
def IsMark (mark : Char) (chars : List Char) : Prop :=
  ∃ blanks, chars = mark :: blanks ∧ ∀ c ∈ blanks, isSpace c = true

structure Layout.IsReadable (layout : Layout) : Prop where
  comma : IsMark ',' layout.comma
  colon : IsMark ':' layout.colon

theorem Layout.compact_isReadable : Layout.compact.IsReadable where
  comma := ⟨[], rfl, by simp⟩
  colon := ⟨[], rfl, by simp⟩

theorem Layout.spaced_isReadable : Layout.spaced.IsReadable where
  comma := ⟨[' '], rfl, by simp [isSpace]⟩
  colon := ⟨[' '], rfl, by simp [isSpace]⟩

section Blanks

variable {blanks : List Char} (spaces : ∀ c ∈ blanks, isSpace c = true)
include spaces

theorem skipSpace_append (chars : List Char) : skipSpace (blanks ++ chars) = skipSpace chars :=
  List.dropWhile_append_of_pos spaces

theorem readValue_append (steps : Nat) (chars : List Char) :
    readValue steps (blanks ++ chars) = readValue steps chars := by
  cases steps with
  | zero => rfl
  | succ steps => rw [readValue, readValue, skipSpace_append spaces]

end Blanks

theorem skipSpace_cons {first : Char} (visible : isSpace first = false) (rest : List Char) :
    skipSpace (first :: rest) = first :: rest :=
  List.dropWhile_cons_of_neg (by simp [visible])

/-- No number goes on here. -/
def EndsNumber (rest : List Char) : Prop :=
  ∀ c ∈ rest.head?, isAsciiDigit c = false ∧ c ≠ '.' ∧ c ≠ 'e' ∧ c ≠ 'E'

theorem EndsNumber.cons {c : Char} (mark : c ∈ [',', ']', '}']) (rest : List Char) :
    EndsNumber (c :: rest) := by
  intro first same
  cases same
  simp only [List.mem_cons, List.not_mem_nil, or_false] at mark
  rcases mark with rfl | rfl | rfl <;> decide

section Number

variable {digits rest : List Char} (whole : WholeDigits digits) (ends : EndsNumber rest)

theorem fractionDigits?_of_ends (ends : EndsNumber rest) : fractionDigits? rest = some ([], rest) := by
  cases rest with
  | nil => rfl
  | cons c rest =>
      obtain ⟨_, point, _⟩ := ends c rfl
      simp [fractionDigits?, point]

theorem exponent?_of_ends (ends : EndsNumber rest) : exponent? rest = some (none, rest) := by
  cases rest with
  | nil => rfl
  | cons c rest =>
      obtain ⟨_, _, small, large⟩ := ends c rfl
      simp [exponent?, small, large]

include whole ends

theorem readNumber_append (negative : Bool) :
    readNumber negative (digits ++ rest) =
      some (.int (if negative then -(readDigits digits : Int) else readDigits digits), rest) := by
  have digitsRead := wholeDigits?_append whole fun c first => (ends c first).1
  simp [readNumber, digitsRead, fractionDigits?_of_ends ends, exponent?_of_ends ends]

end Number

theorem readScalar_of_digit {first : Char} (digit : isAsciiDigit first = true) (rest : List Char) :
    readScalar (first :: rest) = readNumber false (first :: rest) := by
  have different {other : Char} (letter : isAsciiDigit other = false) : first ≠ other := by
    rintro rfl
    rw [digit] at letter
    contradiction
  rw [readScalar]
  all_goals
    intro _ same
    exact different (by decide) (List.cons.inj same).1

theorem readScalar_of_minus {first : Char} (digit : isAsciiDigit first = true) (rest : List Char) :
    readScalar ('-' :: first :: rest) = readNumber true (first :: rest) := by
  have letter : first ≠ 'I' := by
    rintro rfl
    contradiction
  simp [readScalar, letter]

theorem readScalar_append {value : Int} {chars rest : List Char} (writes : Writes value chars)
    (ends : EndsNumber rest) : readScalar (chars ++ rest) = some (.int value, rest) := by
  cases writes with
  | @natural digits whole =>
      have read := readNumber_append whole ends false
      obtain ⟨first, tail, rfl⟩ := List.exists_cons_of_ne_nil whole.nonempty
      rw [List.cons_append] at read ⊢
      rw [readScalar_of_digit (whole.all first List.mem_cons_self), read]
      rfl
  | @negative digits whole =>
      have read := readNumber_append whole ends true
      obtain ⟨first, tail, rfl⟩ := List.exists_cons_of_ne_nil whole.nonempty
      rw [List.cons_append] at read
      rw [List.cons_append, List.cons_append, readScalar_of_minus (whole.all first List.mem_cons_self), read]
      rfl

theorem readName_append {colon : List Char} (mark : IsMark ':' colon) (name : String) (rest : List Char) :
    ∃ blanks, (∀ c ∈ blanks, isSpace c = true) ∧
      readName (stringChars name.toList ++ (colon ++ rest)) = some (name, blanks ++ rest) := by
  obtain ⟨blanks, rfl, spaces⟩ := mark
  have read := readString_of_quotes (quotes_flatMap_escapeChar name.toList) (':' :: (blanks ++ rest))
  have next := skipSpace_cons (show isSpace ':' = false by decide) (blanks ++ rest)
  refine ⟨blanks, spaces, ?_⟩
  rw [stringChars, List.cons_append, List.append_assoc, List.singleton_append, List.cons_append, readName,
    read]
  simp [next]

theorem isSpace_of_lead {first : Char} (lead : first = '-' ∨ isAsciiDigit first = true) :
    isSpace first = false := by
  cases space : isSpace first with
  | false => rfl
  | true =>
      simp only [isSpace, Bool.or_eq_true, beq_iff_eq] at space
      rcases space with ((rfl | rfl) | rfl) | rfl <;> exact absurd lead (by decide)

/-- A value starts with a character that is no blank and ends nothing. -/
theorem exists_lead (layout : Layout) {json : Json} (exact : json.IsExact) :
    ∃ first rest, json.chars layout = first :: rest ∧ isSpace first = false ∧ first ≠ ']' := by
  cases json with
  | float value => exact exact.elim
  | null => exact ⟨_, _, rfl, by decide, by decide⟩
  | bool value => cases value <;> exact ⟨_, _, rfl, by decide, by decide⟩
  | str text => exact ⟨_, _, rfl, by decide, by decide⟩
  | arr items => exact ⟨_, _, by rw [chars], by decide, by decide⟩
  | obj members => exact ⟨_, _, by rw [chars], by decide, by decide⟩
  | int value =>
      obtain ⟨first, rest, same, lead⟩ := exists_lead_of_writes (writes_intChars value)
      refine ⟨first, rest, by rw [chars, same], isSpace_of_lead lead, ?_⟩
      rintro rfl
      exact absurd lead (by decide)

theorem length_chars_pos (layout : Layout) {json : Json} (exact : json.IsExact) :
    0 < (json.chars layout).length := by
  obtain ⟨first, rest, same, _⟩ := exists_lead layout exact
  simp [same]

/-- What starts neither a string, an array nor an object is read as a scalar. -/
theorem readValue_of_lead {first : Char} (visible : isSpace first = false)
    (plain : first ∉ ['"', '[', '{']) (rest : List Char) (steps : Nat) :
    readValue (steps + 1) (first :: rest) = readScalar (first :: rest) := by
  simp only [List.mem_cons, List.not_mem_nil, or_false, not_or] at plain
  rw [readValue, skipSpace_cons visible]
  simp [plain]

theorem readValue_of_writes {value : Int} {chars rest : List Char} (writes : Writes value chars)
    (ends : EndsNumber rest) (steps : Nat) :
    readValue (steps + 1) (chars ++ rest) = some (.int value, rest) := by
  have read := readScalar_append writes ends
  obtain ⟨first, tail, rfl, lead⟩ := exists_lead_of_writes writes
  rw [List.cons_append] at read ⊢
  rw [readValue_of_lead (isSpace_of_lead lead) (plain_of_lead lead), read]

section Steps

variable {steps : Nat} {name : String} {value : Json} {items : List Json}
  {members : List (String × Json)} {chars after between rest : List Char}

theorem readValue_of_bracket (read : readItems steps chars = some (items, rest)) :
    readValue (steps + 1) ('[' :: chars) = some (.arr items, rest) := by
  rw [readValue, skipSpace_cons (by decide)]
  simp [read]

theorem readValue_of_brace (read : readMembers steps chars = some (members, rest)) :
    readValue (steps + 1) ('{' :: chars) = some (.obj members, rest) := by
  rw [readValue, skipSpace_cons (by decide)]
  simp [read]

theorem readItems_of_lead {first : Char} {tail : List Char} (visible : isSpace first = false)
    (other : first ≠ ']') (head : readValue steps (first :: tail) = some (value, between))
    (more : readItemTail steps between = some (items, rest)) :
    readItems (steps + 1) (first :: tail) = some (value :: items, rest) := by
  rw [readItems, skipSpace_cons visible]
  simp [other, head, more]

theorem readItemTail_of_comma {comma : List Char} (mark : IsMark ',' comma)
    (head : readValue steps chars = some (value, between))
    (more : readItemTail steps between = some (items, rest)) :
    readItemTail (steps + 1) (comma ++ chars) = some (value :: items, rest) := by
  obtain ⟨blanks, rfl, spaces⟩ := mark
  rw [readItemTail, List.cons_append, skipSpace_cons (by decide)]
  simp [readValue_append spaces, head, more]

theorem readMembers_of_name {tail : List Char} (named : readName ('"' :: tail) = some (name, after))
    (head : readValue steps after = some (value, between))
    (more : readMemberTail steps between = some (members, rest)) :
    readMembers (steps + 1) ('"' :: tail) = some ((name, value) :: members, rest) := by
  rw [readMembers, skipSpace_cons (by decide)]
  simp [named, head, more]

theorem readMemberTail_of_comma {comma tail : List Char} (mark : IsMark ',' comma)
    (named : readName ('"' :: tail) = some (name, after))
    (head : readValue steps after = some (value, between))
    (more : readMemberTail steps between = some (members, rest)) :
    readMemberTail (steps + 1) (comma ++ '"' :: tail) = some ((name, value) :: members, rest) := by
  obtain ⟨blanks, rfl, spaces⟩ := mark
  rw [readMemberTail, List.cons_append, skipSpace_cons (by decide)]
  simp [skipSpace_append spaces, skipSpace_cons (show isSpace '"' = false by decide), named, head, more]

end Steps

section Layout

variable {layout : Layout}

theorem ends_itemTail (readable : layout.IsReadable) (items : List Json) (rest : List Char) :
    EndsNumber (itemTailChars layout items ++ ']' :: rest) := by
  obtain ⟨blanks, mark, _⟩ := readable.comma
  cases items with
  | nil => exact .cons (by decide) rest
  | cons item items =>
      rw [itemTailChars, mark]
      exact .cons (by decide) _

theorem ends_memberTail (readable : layout.IsReadable) (members : List (String × Json))
    (rest : List Char) : EndsNumber (memberTailChars layout members ++ '}' :: rest) := by
  obtain ⟨blanks, mark, _⟩ := readable.comma
  cases members with
  | nil => exact .cons (by decide) rest
  | cons member members =>
      rw [memberTailChars, mark]
      exact .cons (by decide) _

-- Two steps for every character are enough, and what stands between brackets needs one more to be empty.
mutual

theorem readValue_chars (readable : layout.IsReadable) : (json : Json) → json.IsExact →
    (steps : Nat) → (rest : List Char) → EndsNumber rest → 2 * (json.chars layout).length ≤ steps + 1 →
    readValue (steps + 1) (json.chars layout ++ rest) = some (json, rest)
  | .null, _, steps, rest, _, _ => readValue_of_lead (by decide) (by decide) _ steps
  | .bool true, _, steps, rest, _, _ => readValue_of_lead (by decide) (by decide) _ steps
  | .bool false, _, steps, rest, _, _ => readValue_of_lead (by decide) (by decide) _ steps
  | .int value, _, steps, rest, ends, _ => by
      rw [chars]
      exact readValue_of_writes (writes_intChars value) ends steps
  | .str text, _, steps, rest, _, _ => by
      have read := readString_of_quotes (quotes_flatMap_escapeChar text.toList) rest
      rw [chars, stringChars, List.cons_append, List.append_assoc, List.singleton_append, readValue,
        skipSpace_cons (by decide)]
      simp [read]
  | .arr items, exact, steps, rest, _, enough => by
      rw [chars, List.length_cons, List.length_append, List.length_singleton] at enough
      have read := readItems_chars readable items exact steps rest (by omega)
      rw [chars, List.cons_append, List.append_assoc, List.singleton_append]
      exact readValue_of_bracket read
  | .obj members, exact, steps, rest, _, enough => by
      rw [chars, List.length_cons, List.length_append, List.length_singleton] at enough
      have read := readMembers_chars readable members exact steps rest (by omega)
      rw [chars, List.cons_append, List.append_assoc, List.singleton_append]
      exact readValue_of_brace read

theorem readItems_chars (readable : layout.IsReadable) : (items : List Json) → AreExact items →
    (steps : Nat) → (rest : List Char) → 2 * (itemChars layout items).length < steps →
    readItems steps (itemChars layout items ++ ']' :: rest) = some (items, rest)
  | [], _, steps + 1, rest, _ => by
      rw [itemChars, List.nil_append, readItems]
      rfl
  | item :: items, ⟨exact, others⟩, steps + 1, rest, enough => by
      rw [itemChars, List.length_append] at enough
      have size := length_chars_pos layout exact
      obtain ⟨fewer, rfl⟩ : ∃ fewer, steps = fewer + 1 := ⟨steps - 1, by omega⟩
      have head := readValue_chars readable item exact fewer _ (ends_itemTail readable items rest)
        (by omega)
      have more := readItemTail_chars readable items others (fewer + 1) rest (by omega)
      obtain ⟨first, tail, same, visible, other⟩ := exists_lead layout exact
      rw [itemChars, List.append_assoc]
      rw [same] at head ⊢
      exact readItems_of_lead visible other head more

theorem readItemTail_chars (readable : layout.IsReadable) : (items : List Json) → AreExact items →
    (steps : Nat) → (rest : List Char) → 2 * (itemTailChars layout items).length < steps →
    readItemTail steps (itemTailChars layout items ++ ']' :: rest) = some (items, rest)
  | [], _, steps + 1, rest, _ => by
      rw [itemTailChars, List.nil_append, readItemTail]
      rfl
  | item :: items, ⟨exact, others⟩, steps + 1, rest, enough => by
      simp only [itemTailChars, List.length_append] at enough
      have size := length_chars_pos layout exact
      obtain ⟨fewer, rfl⟩ : ∃ fewer, steps = fewer + 1 := ⟨steps - 1, by omega⟩
      have head := readValue_chars readable item exact fewer _ (ends_itemTail readable items rest)
        (by omega)
      have more := readItemTail_chars readable items others (fewer + 1) rest (by omega)
      simp only [itemTailChars, List.append_assoc]
      exact readItemTail_of_comma readable.comma head more

theorem readMembers_chars (readable : layout.IsReadable) : (members : List (String × Json)) →
    HoldExact members → (steps : Nat) → (rest : List Char) →
    2 * (memberChars layout members).length < steps →
    readMembers steps (memberChars layout members ++ '}' :: rest) = some (members, rest)
  | [], _, steps + 1, rest, _ => by
      rw [memberChars, List.nil_append, readMembers]
      rfl
  | (name, value) :: members, ⟨exact, others⟩, steps + 1, rest, enough => by
      simp only [memberChars, List.length_append] at enough
      have size := length_chars_pos layout exact
      obtain ⟨fewer, rfl⟩ : ∃ fewer, steps = fewer + 1 := ⟨steps - 1, by omega⟩
      have head := readValue_chars readable value exact fewer _ (ends_memberTail readable members rest)
        (by omega)
      have more := readMemberTail_chars readable members others (fewer + 1) rest (by omega)
      obtain ⟨blanks, spaces, named⟩ := readName_append readable.colon name _
      rw [← readValue_append spaces] at head
      simp only [memberChars, List.append_assoc]
      exact readMembers_of_name named head more

theorem readMemberTail_chars (readable : layout.IsReadable) : (members : List (String × Json)) →
    HoldExact members → (steps : Nat) → (rest : List Char) →
    2 * (memberTailChars layout members).length < steps →
    readMemberTail steps (memberTailChars layout members ++ '}' :: rest) = some (members, rest)
  | [], _, steps + 1, rest, _ => by
      rw [memberTailChars, List.nil_append, readMemberTail]
      rfl
  | (name, value) :: members, ⟨exact, others⟩, steps + 1, rest, enough => by
      simp only [memberTailChars, List.length_append] at enough
      have size := length_chars_pos layout exact
      obtain ⟨fewer, rfl⟩ : ∃ fewer, steps = fewer + 1 := ⟨steps - 1, by omega⟩
      have head := readValue_chars readable value exact fewer _ (ends_memberTail readable members rest)
        (by omega)
      have more := readMemberTail_chars readable members others (fewer + 1) rest (by omega)
      obtain ⟨blanks, spaces, named⟩ := readName_append readable.colon name _
      rw [← readValue_append spaces] at head
      simp only [memberTailChars, List.append_assoc]
      exact readMemberTail_of_comma readable.comma named head more

end

/-- What is written for a value is read as that value. -/
theorem read?_write (readable : layout.IsReadable) {json : Json} (exact : json.IsExact) :
    read? (json.write layout) = some json := by
  have read := readValue_chars readable json exact (2 * (json.chars layout).length + 1) []
    (by simp [EndsNumber]) (by omega)
  rw [List.append_nil] at read
  rw [read?, write, String.toList_ofList, read]
  rfl

end Layout

end Phrasebook.Json
