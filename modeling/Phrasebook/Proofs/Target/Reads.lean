import Phrasebook.Proofs.Json.Numeral
import Phrasebook.Proofs.Target.Naming
import Phrasebook.Proofs.Target.Reader

/-!
Which data a text of source reads.  The text is gone through from its start: string literals, words and
members are passed over as wholes, so that nothing inside a literal or at the end of a longer word is
taken for a read.  The rest of the grammar plays no part in it.
-/

namespace Phrasebook.Target

open Json Text Number

theorem readString_shorter_of_map {rest text after : List Char} {char : Char}
    (shorter : ∀ {text after}, readString rest = some (text, after) → after.length < rest.length)
    (read : (readString rest).map (fun (text, after) => (char :: text, after)) = some (text, after)) :
    after.length < rest.length := by
  obtain ⟨⟨inner, last⟩, found, same⟩ := Option.map_eq_some_iff.mp read
  cases same
  exact shorter found

theorem readString_shorter {chars text after : List Char} (read : readString chars = some (text, after)) :
    after.length < chars.length := by
  fun_induction readString chars generalizing text after with
  | case1 => cases read
  | case2 rest =>
      cases read
      simp
  | case3 a b c d rest char _ ih =>
      have inner := readString_shorter_of_map ih read
      simp only [List.length_cons]
      omega
  | case4 a b c d _ e f g h rest char _ ih =>
      have inner := readString_shorter_of_map ih read
      simp only [List.length_cons]
      omega
  | case5 => cases read
  | case6 => cases read
  | case7 escape rest _ char _ ih =>
      have inner := readString_shorter_of_map ih read
      simp only [List.length_cons]
      omega
  | case8 => cases read
  | case9 => cases read
  | case10 char rest _ _ _ _ ih =>
      have inner := readString_shorter_of_map ih read
      simp only [List.length_cons]
      omega

theorem readMember_shorter {chars after : List Char} {key : String}
    (read : readMember chars = some (key, after)) : after.length < chars.length := by
  unfold readMember at read
  split at read
  · rename_i rest
    simp only [readWord] at read
    split at read
    · cases read
      have shorter := (List.dropWhile_suffix (l := rest) isIdentifierChar).length_le
      simp only [List.length_cons]
      omega
    · cases read
  · rename_i rest
    split at read
    · rename_i text after found
      cases read
      have shorter := readString_shorter found
      simp only [List.length_cons] at shorter ⊢
      omega
    · cases read
  · cases read

/-- A member of the data at the start of a text. -/
def readDatum : List Char → Option (String × List Char)
  | 'd' :: rest => readMember rest
  | _ => none

theorem readDatum_shorter {chars after : List Char} {key : String}
    (read : readDatum chars = some (key, after)) : after.length < chars.length := by
  unfold readDatum at read
  split at read
  · have shorter := readMember_shorter read
    simp only [List.length_cons]
    omega
  · cases read

/-- The keys under which a text of source reads the data, in order. -/
def dataReads (chars : List Char) : List String :=
  match chars with
  | [] => []
  | '"' :: rest =>
      match _read : readString rest with
      | some (_, after) => dataReads after
      | none => []
  | c :: rest =>
      match _read : readDatum (c :: rest) with
      | some (key, after) => key :: dataReads after
      | none =>
          -- A word, or the name of a member of something else.
          if isIdentifierChar c || c == '.' then dataReads (rest.dropWhile isIdentifierChar)
          else dataReads rest
termination_by chars.length
decreasing_by
  · have shorter := readString_shorter _read
    simp only [List.length_cons]
    omega
  · exact readDatum_shorter _read
  · have shorter := (List.dropWhile_suffix (l := rest) isIdentifierChar).length_le
    simp only [List.length_cons]
    omega
  · simp

/-- What may follow a word or a literal: nothing that makes it longer or reads a member of it. -/
def Bounded (rest : List Char) : Prop :=
  ∀ c ∈ rest.head?, isIdentifierChar c = false ∧ c ≠ '.' ∧ c ≠ '['

theorem Bounded.cons (c : Char) (plain : isIdentifierChar c = false ∧ c ≠ '.' ∧ c ≠ '[')
    (rest : List Char) : Bounded (c :: rest) := by
  intro first same
  cases same
  exact plain

theorem readMember_of_ne {c : Char} (point : c ≠ '.') (bracket : c ≠ '[') (rest : List Char) :
    readMember (c :: rest) = none := by
  simp [readMember, point, bracket]

theorem Bounded.readMember {rest : List Char} (bounded : Bounded rest) : readMember rest = none := by
  cases rest with
  | nil => rfl
  | cons c rest =>
      obtain ⟨_, point, bracket⟩ := bounded c rfl
      exact readMember_of_ne point bracket rest

theorem Bounded.dropWhile {rest : List Char} (bounded : Bounded rest) :
    rest.dropWhile isIdentifierChar = rest :=
  dropWhile_of_head fun c first => (bounded c first).1

theorem ne_of_isIdentifierChar {c other : Char} (inside : isIdentifierChar c = true)
    (outside : isIdentifierChar other = false) : c ≠ other := by
  intro same
  rw [← same, inside] at outside
  contradiction

theorem readDatum_of_ne {c : Char} (other : c ≠ 'd') (rest : List Char) : readDatum (c :: rest) = none := by
  simp [readDatum, other]

theorem dataReads_literal {text body : List Char} (quotes : Quotes text body) (rest : List Char) :
    dataReads ('"' :: (body ++ '"' :: rest)) = dataReads rest := by
  rw [dataReads]
  split
  · rename_i found
    rw [readString_of_quotes quotes] at found
    cases found
    rfl
  · rename_i found
    rw [readString_of_quotes quotes] at found
    cases found

theorem dataReads_read {key : String} {member rest : List Char} (spelled : SpellsMember key member)
    (bounded : Bounded rest) : dataReads ('d' :: (member ++ rest)) = key :: dataReads rest := by
  have read : readDatum ('d' :: (member ++ rest)) = some (key, rest) :=
    readMember_append spelled fun c first => (bounded c first).1
  rw [dataReads]
  · split
    · rename_i found
      rw [read] at found
      cases found
      rfl
    · rename_i found
      rw [read] at found
      cases found
  · decide

theorem dataReads_other {c : Char} {rest : List Char} (mark : c ≠ '"')
    (none : readDatum (c :: rest) = none) :
    dataReads (c :: rest) =
      if isIdentifierChar c || c == '.' then dataReads (rest.dropWhile isIdentifierChar)
      else dataReads rest := by
  rw [dataReads]
  · split
    · rename_i found
      rw [none] at found
      cases found
    · rfl
  · exact mark

/-- Punctuation reads nothing. -/
theorem dataReads_cons {c : Char} (plain : isIdentifierChar c = false ∧ c ≠ '.' ∧ c ≠ '"')
    (rest : List Char) : dataReads (c :: rest) = dataReads rest := by
  obtain ⟨outside, point, mark⟩ := plain
  have other : c ≠ 'd' := (ne_of_isIdentifierChar (by decide) outside).symm
  rw [dataReads_other mark (readDatum_of_ne other rest)]
  simp [outside, point]

/-- A word reads nothing unless a member follows it. -/
theorem dataReads_word {word rest : List Char} (inside : ∀ c ∈ word, isIdentifierChar c = true)
    (bounded : Bounded rest) : dataReads (word ++ rest) = dataReads rest := by
  cases word with
  | nil => rfl
  | cons first more =>
      obtain ⟨start, others⟩ := List.forall_mem_cons.mp inside
      have mark : first ≠ '"' := ne_of_isIdentifierChar start (by decide)
      have none : readDatum (first :: (more ++ rest)) = none := by
        by_cases other : first = 'd'
        · subst other
          cases more with
          | nil => exact bounded.readMember
          | cons second more =>
              have longer := others second List.mem_cons_self
              exact readMember_of_ne (ne_of_isIdentifierChar longer (by decide))
                (ne_of_isIdentifierChar longer (by decide)) _
        · exact readDatum_of_ne other _
      rw [List.cons_append, dataReads_other mark none, List.dropWhile_append_of_pos others,
        bounded.dropWhile]
      simp [start]

example : dataReads "d.a + \"d.b\" + word.d + fmt.d(d[\"x y\"])".toList = ["a", "x y"] := by cbv

/-- A text without quotation marks and without the name of the data, such as a number. -/
def Quiet (chars : List Char) : Prop :=
  ∀ c ∈ chars, c ≠ '"' ∧ c ≠ 'd'

instance (chars : List Char) : Decidable (Quiet chars) :=
  List.decidableBAll (fun c => c ≠ '"' ∧ c ≠ 'd') chars

theorem Quiet.of_isNumeral {chars : List Char} (numeral : IsNumeral chars) : Quiet chars := by
  intro c member
  constructor <;> rintro rfl <;> exact numeral.not_mem (by decide) member

theorem dataReads_quiet {chars rest : List Char} (quiet : Quiet chars)
    (bounded : Bounded rest) : dataReads (chars ++ rest) = dataReads rest := by
  induction length : chars.length using Nat.strongRecOn generalizing chars with
  | ind size ih =>
      cases chars with
      | nil => rfl
      | cons first more =>
          obtain ⟨⟨mark, other⟩, others⟩ := List.forall_mem_cons.mp quiet
          rw [List.cons_append, dataReads_other mark (readDatum_of_ne other _)]
          split
          · have shorter := (List.dropWhile_suffix (l := more) isIdentifierChar)
            have dropped : (more ++ rest).dropWhile isIdentifierChar =
                more.dropWhile isIdentifierChar ++ rest := by
              rw [List.dropWhile_append, bounded.dropWhile]
              split
              · rename_i empty
                rw [List.isEmpty_iff.mp empty, List.nil_append]
              · rfl
            rw [dropped]
            apply ih _ _ _ rfl
            · rw [← length, List.length_cons]
              exact Nat.lt_succ_of_le shorter.length_le
            · exact fun c member => others c (shorter.subset member)
          · exact ih more.length (by rw [← length]; simp) others rfl

namespace Expr

mutual

/-- The keys under which an expression reads the data, in the order of its text. -/
def dataKeys : Expr → List String
  | .literal _ | .name _ | .member .formatters _ => []
  | .member .data key => [key]
  | .call callee args => dataKeys callee ++ listKeys args
  | .object entries => entryKeys entries
  | .concat parts => listKeys parts

def listKeys : List Expr → List String
  | [] => []
  | expr :: rest => dataKeys expr ++ listKeys rest

def entryKeys : List (String × Expr) → List String
  | [] => []
  | (_, value) :: rest => dataKeys value ++ entryKeys rest

end

@[simp] theorem dataKeys_text (value : String) : (text value).dataKeys = [] := rfl

@[simp] theorem dataKeys_read (key : String) : (read key).dataKeys = [key] := rfl

@[simp] theorem dataKeys_helper (helper : Helper) (args : List Expr) :
    (Expr.helper helper args).dataKeys = listKeys args := by
  rw [Expr.helper, dataKeys, dataKeys, List.nil_append]

theorem mem_listKeys {key : String} (exprs : List Expr) :
    key ∈ listKeys exprs ↔ ∃ expr ∈ exprs, key ∈ expr.dataKeys := by
  induction exprs with
  | nil => simp [listKeys]
  | cons expr rest ih => simp [listKeys, ih]

theorem mem_entryKeys {key : String} (entries : List (String × Expr)) :
    key ∈ entryKeys entries ↔ ∃ entry ∈ entries, key ∈ entry.2.dataKeys := by
  induction entries with
  | nil => simp [entryKeys]
  | cons entry rest ih => simp [entryKeys, ih]

@[simp] theorem dataKeys_joined (parts : List Expr) : (joined parts).dataKeys = listKeys parts := by
  match parts with
  | [] => rfl
  | [part] => simp [joined, listKeys]
  | first :: second :: rest => simp [joined, dataKeys]

/-- The text of an expression reads exactly the keys of the expression, whatever follows it. -/
def ShowsReads (expr : Expr) : Prop :=
  ∀ rest, Bounded rest → dataReads (expr.chars ++ rest) = expr.dataKeys ++ dataReads rest

namespace ShowsReads

theorem text (text : String) : (Expr.text text).ShowsReads := by
  intro rest _
  have passed := dataReads_literal (quotes_flatMap_escapeChar text.toList) rest
  simpa [Expr.text, Expr.chars, Json.chars, stringChars, dataKeys] using passed

theorem read (key : String) : (Expr.read key).ShowsReads := by
  intro rest bounded
  obtain ⟨member, spelled, written⟩ := memberChars_eq_append Receiver.data.name.toList key
  rw [Expr.read, Expr.chars, written]
  exact dataReads_read spelled bounded

theorem name {identifier : String} (inside : ∀ c ∈ identifier.toList, isIdentifierChar c = true) :
    (Expr.name identifier).ShowsReads := by
  intro rest bounded
  exact dataReads_word inside bounded

theorem quiet {value : Json} (quiet : Quiet (value.chars .compact)) :
    (Expr.literal value).ShowsReads := by
  intro rest bounded
  exact dataReads_quiet quiet bounded

theorem int (value : Int) : (Expr.literal (.int value)).ShowsReads :=
  quiet (.of_isNumeral (.intChars value))

theorem float (value : Double) : (Expr.literal (.float value)).ShowsReads :=
  quiet (.of_isNumeral (.floatText value))

theorem spellsTexts {texts : List String} {chars : List Char} (spelled : SpellsTexts texts chars)
    (rest : List Char) : dataReads (chars ++ rest) = dataReads rest := by
  induction spelled with
  | last => exact dataReads_cons (by decide) rest
  | @next text others body tail quotes _ ih =>
      have passed := dataReads_literal quotes (tail ++ rest)
      rw [List.cons_append, dataReads_cons (by decide)]
      simpa [ih] using passed

theorem texts (text : String) (others : List String) :
    (Expr.literal (.arr ((text :: others).map Json.str))).ShowsReads := by
  intro rest _
  have passed := dataReads_literal (quotes_flatMap_escapeChar text.toList)
    (itemTailChars .compact (others.map Json.str) ++ [']'] ++ rest)
  rw [spellsTexts (Spells.textTailChars others)] at passed
  rw [Expr.chars, Json.chars, List.cons_append, dataReads_cons (by decide)]
  simpa [itemChars, Json.chars, stringChars, dataKeys] using passed

theorem bounded_argTail (args : List Expr) (rest : List Char) :
    Bounded (argTailChars args ++ ')' :: rest) := by
  cases args <;> exact Bounded.cons _ (by decide) _

theorem argTail {args : List Expr} (shown : ∀ arg ∈ args, arg.ShowsReads) (rest : List Char) :
    dataReads (argTailChars args ++ ')' :: rest) = listKeys args ++ dataReads rest := by
  induction args with
  | nil => exact dataReads_cons (by decide) rest
  | cons arg others ih =>
      obtain ⟨first, more⟩ := List.forall_mem_cons.mp shown
      have here := first _ (bounded_argTail others rest)
      rw [ih more] at here
      simp only [argTailChars, List.cons_append, List.append_assoc, listKeys]
      rw [dataReads_cons (by decide), dataReads_cons (by decide)]
      exact here

theorem arguments {args : List Expr} (shown : ∀ arg ∈ args, arg.ShowsReads) (rest : List Char) :
    dataReads ('(' :: (argChars args ++ ')' :: rest)) = listKeys args ++ dataReads rest := by
  rw [dataReads_cons (by decide)]
  cases args with
  | nil => exact dataReads_cons (by decide) rest
  | cons arg others =>
      obtain ⟨first, more⟩ := List.forall_mem_cons.mp shown
      have here := first _ (bounded_argTail others rest)
      rw [argTail more] at here
      simpa [argChars, listKeys] using here

theorem helper (helper : Helper) {args : List Expr} (shown : ∀ arg ∈ args, arg.ShowsReads) :
    (Expr.helper helper args).ShowsReads := by
  intro rest _
  have inside : ∀ c ∈ helper.name.toList, isIdentifierChar c = true := by
    cases helper <;> exact List.all_eq_true.mp (by decide)
  have bounded : Bounded ('(' :: (argChars args ++ ')' :: rest)) := Bounded.cons _ (by decide) _
  have passed := dataReads_word inside bounded
  rw [arguments shown] at passed
  rw [dataKeys_helper, Expr.helper, Expr.chars]
  simpa [Expr.chars] using passed

theorem member_passed {key : String} {chars rest : List Char} (spelled : SpellsMember key chars)
    (bounded : Bounded rest) : dataReads (chars ++ rest) = dataReads rest := by
  cases spelled with
  | point identifier =>
      have inside := isIdentifierChar_of_isIdentifier identifier
      rw [List.cons_append, dataReads_other (by decide) (readDatum_of_ne (by decide) _),
        List.dropWhile_append_of_pos inside, bounded.dropWhile]
      simp
  | bracket quotes =>
      have passed := dataReads_literal quotes (']' :: rest)
      rw [dataReads_cons (by decide) rest] at passed
      rw [List.cons_append, dataReads_cons (by decide)]
      simpa using passed

theorem formatter (key : String) {args : List Expr} (shown : ∀ arg ∈ args, arg.ShowsReads) :
    (Expr.call (.member .formatters key) args).ShowsReads := by
  intro rest _
  obtain ⟨member, spelled, written⟩ := memberChars_eq_append Receiver.formatters.name.toList key
  have stop := spelled.isIdentifierChar ('(' :: (argChars args ++ ')' :: rest))
  have passed := member_passed spelled (Bounded.cons '(' (by decide) (argChars args ++ ')' :: rest))
  rw [arguments shown] at passed
  have name : dataReads ('f' :: 'm' :: 't' :: (member ++ '(' :: (argChars args ++ ')' :: rest))) =
      listKeys args ++ dataReads rest := by
    rw [dataReads_other (by decide) (readDatum_of_ne (by decide) _), ← passed]
    simp only [List.dropWhile_cons_of_pos (show isIdentifierChar 'm' = true by decide),
      List.dropWhile_cons_of_pos (show isIdentifierChar 't' = true by decide), dropWhile_of_head stop]
    rfl
  rw [Expr.chars, Expr.chars, written]
  simpa [dataKeys, Receiver.name] using name

theorem key_passed (key : String) (rest : List Char) :
    dataReads (propertyChars key ++ ':' :: ' ' :: rest) = dataReads rest := by
  have punctuation : dataReads (':' :: ' ' :: rest) = dataReads rest := by
    rw [dataReads_cons (by decide), dataReads_cons (by decide)]
  have spelled := spellsKey_propertyChars key
  generalize propertyChars key = chars at spelled
  cases spelled with
  | bare identifier =>
      have inside := isIdentifierChar_of_isIdentifier identifier
      rw [dataReads_word inside (Bounded.cons _ (by decide) _), punctuation]
  | quoted quotes =>
      have passed := dataReads_literal quotes (':' :: ' ' :: rest)
      rw [punctuation] at passed
      simpa using passed

theorem bounded_entryTail (entries : List (String × Expr)) (rest : List Char) :
    Bounded (entryTailChars entries ++ ' ' :: rest) := by
  cases entries <;> exact Bounded.cons _ (by decide) _

theorem entryTail {entries : List (String × Expr)} (shown : ∀ entry ∈ entries, entry.2.ShowsReads)
    (rest : List Char) : dataReads (entryTailChars entries ++ ' ' :: '}' :: rest) =
      entryKeys entries ++ dataReads rest := by
  induction entries with
  | nil =>
      rw [entryTailChars, List.nil_append, dataReads_cons (by decide), dataReads_cons (by decide)]
      rfl
  | cons entry others ih =>
      obtain ⟨key, value⟩ := entry
      obtain ⟨first, more⟩ := List.forall_mem_cons.mp shown
      have here := first _ (bounded_entryTail others ('}' :: rest))
      rw [ih more] at here
      simp only [entryTailChars, List.cons_append, List.append_assoc, entryKeys]
      rw [dataReads_cons (by decide), dataReads_cons (by decide), key_passed]
      exact here

theorem object {entries : List (String × Expr)} (shown : ∀ entry ∈ entries, entry.2.ShowsReads) :
    (Expr.object entries).ShowsReads := by
  intro rest _
  rw [Expr.chars, List.cons_append, List.cons_append, dataReads_cons (by decide),
    dataReads_cons (by decide)]
  cases entries with
  | nil =>
      have passed := entryTail shown rest
      simpa [entryChars, entryTailChars, dataKeys] using passed
  | cons entry others =>
      obtain ⟨key, value⟩ := entry
      obtain ⟨first, more⟩ := List.forall_mem_cons.mp shown
      have here := first _ (bounded_entryTail others ('}' :: rest))
      rw [entryTail more, ← key_passed key] at here
      simpa [entryChars, dataKeys, entryKeys] using here

theorem bounded_partTail (parts : List Expr) {rest : List Char} (bounded : Bounded rest) :
    Bounded (partTailChars parts ++ rest) := by
  cases parts with
  | nil => exact bounded
  | cons part parts => exact Bounded.cons _ (by decide) _

theorem partTail {parts : List Expr} (shown : ∀ part ∈ parts, part.ShowsReads) {rest : List Char}
    (bounded : Bounded rest) :
    dataReads (partTailChars parts ++ rest) = listKeys parts ++ dataReads rest := by
  induction parts with
  | nil => rfl
  | cons part others ih =>
      obtain ⟨first, more⟩ := List.forall_mem_cons.mp shown
      have here := first _ (bounded_partTail others bounded)
      rw [ih more] at here
      simp only [partTailChars, List.cons_append, List.append_assoc, listKeys]
      rw [dataReads_cons (by decide), dataReads_cons (by decide), dataReads_cons (by decide)]
      exact here

theorem joined {parts : List Expr} (shown : ∀ part ∈ parts, part.ShowsReads) :
    (Expr.joined parts).ShowsReads := by
  intro rest bounded
  rw [dataKeys_joined]
  match parts with
  | [] => exact text "" rest bounded
  | [part] =>
      simpa [Expr.joined, listKeys] using shown part List.mem_cons_self rest bounded
  | first :: second :: others =>
      obtain ⟨head, more⟩ := List.forall_mem_cons.mp shown
      have here := head _ (bounded_partTail (second :: others) bounded)
      rw [partTail more bounded] at here
      simpa [Expr.joined, Expr.chars, partChars, listKeys] using here

end ShowsReads

/-- The text of a message function reads what its body reads. -/
theorem dataReads_functionChars {body : Expr} (shown : body.ShowsReads) :
    dataReads body.functionChars = body.dataKeys := by
  have last : dataReads [';', ' ', '}'] = [] := by
    rw [dataReads_cons (by decide), dataReads_cons (by decide), dataReads_cons (by decide), dataReads]
  have here := shown _ (Bounded.cons ';' (by decide) [' ', '}'])
  rw [last, List.append_nil] at here
  have frame : body.functionChars = "function".toList ++ '(' :: ("d".toList ++
      ')' :: ' ' :: '{' :: ' ' :: ("return".toList ++ ' ' :: (body.chars ++ [';', ' ', '}']))) :=
    rfl
  have word (name : String) (inside : name.toList.all isIdentifierChar = true) {rest : List Char}
      (bounded : Bounded rest) : dataReads (name.toList ++ rest) = dataReads rest :=
    dataReads_word (List.all_eq_true.mp inside) bounded
  rw [frame, word "function" (by decide) (Bounded.cons _ (by decide) _), dataReads_cons (by decide),
    word "d" (by decide) (Bounded.cons _ (by decide) _), dataReads_cons (by decide),
    dataReads_cons (by decide), dataReads_cons (by decide), dataReads_cons (by decide),
    word "return" (by decide) (Bounded.cons _ (by decide) _), dataReads_cons (by decide), here]

end Expr

end Phrasebook.Target
