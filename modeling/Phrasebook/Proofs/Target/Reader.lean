import Phrasebook.Proofs.Target.Grammar
import Phrasebook.Proofs.Target.Naming

/-!
Reading emitted expressions.  The reader takes every text of the grammar as the expression that it
spells, and takes all of it; so no text spells two expressions.
-/

namespace Phrasebook.Target

open Json Text

def readWord (chars : List Char) : Option (String × List Char) :=
  let word := chars.takeWhile isIdentifierChar
  if isIdentifier word then some (String.ofList word, chars.dropWhile isIdentifierChar) else none

def readMember : List Char → Option (String × List Char)
  | '.' :: chars => readWord chars
  | '[' :: '"' :: chars =>
      match readString chars with
      | some (text, ']' :: rest) => some (String.ofList text, rest)
      | _ => none
  | _ => none

def readPropertyName : List Char → Option (String × List Char)
  | '"' :: chars => (readString chars).map fun (text, rest) => (String.ofList text, rest)
  | chars => readWord chars

def readKey (chars : List Char) : Option (String × List Char) :=
  match readPropertyName chars with
  | some (key, ':' :: ' ' :: rest) => some (key, rest)
  | _ => none

def readInteger : List Char → Option (Int × List Char)
  | '-' :: chars => (wholeDigits? chars).map fun (digits, rest) => (-readDigits digits, rest)
  | chars => (wholeDigits? chars).map fun (digits, rest) => (readDigits digits, rest)

/-- Reads the strings of an array after its first.  The first argument bounds the steps here and in
the readers below. -/
def readTextTail : Nat → List Char → Option (List String × List Char)
  | _ + 1, ']' :: rest => some ([], rest)
  | steps + 1, ',' :: '"' :: chars => do
      let (text, rest) ← readString chars
      let (more, rest) ← readTextTail steps rest
      pure (String.ofList text :: more, rest)
  | _, _ => none

mutual

def readExpression : Nat → List Char → Option (Expr × List Char)
  | 0, _ => none
  | steps + 1, chars => do
      let (first, rest) ← readPart steps chars
      let (more, rest) ← readPartTail steps rest
      pure (.joined (first :: more), rest)

def readPartTail : Nat → List Char → Option (List Expr × List Char)
  | 0, _ => none
  | steps + 1, ' ' :: '+' :: ' ' :: chars => do
      let (part, rest) ← readPart steps chars
      let (more, rest) ← readPartTail steps rest
      pure (part :: more, rest)
  | _ + 1, chars => some ([], chars)

def readArguments : Nat → List Char → Option (List Expr × List Char)
  | steps + 1, '(' :: chars => do
      let (first, rest) ← readExpression steps chars
      let (more, rest) ← readArgTail steps rest
      pure (first :: more, rest)
  | _, _ => none

def readArgTail : Nat → List Char → Option (List Expr × List Char)
  | _ + 1, ')' :: rest => some ([], rest)
  | steps + 1, ',' :: ' ' :: chars => do
      let (arg, rest) ← readExpression steps chars
      let (more, rest) ← readArgTail steps rest
      pure (arg :: more, rest)
  | _, _ => none

def readEntryTail : Nat → List Char → Option (List (String × Expr) × List Char)
  | _ + 1, ' ' :: '}' :: rest => some ([], rest)
  | steps + 1, ',' :: ' ' :: chars => do
      let (key, rest) ← readKey chars
      let (value, rest) ← readExpression steps rest
      let (more, rest) ← readEntryTail steps rest
      pure ((key, value) :: more, rest)
  | _, _ => none

/-- Reads what an identifier in front of a part belongs to: a member, a call, or a name alone. -/
def readNamed : Nat → String → List Char → Option (Expr × List Char)
  | 0, _, _ => none
  | steps + 1, word, chars =>
      match readMember chars with
      | some (key, rest) =>
          if word == Receiver.data.name then some (.read key, rest)
          else if word == Receiver.formatters.name then
            (readArguments steps rest).map fun (args, rest) =>
              (.call (.member .formatters key) args, rest)
          else none
      | none =>
          match readArguments steps chars with
          | some (args, rest) => (Helper.ofName? word).map fun helper => (.helper helper args, rest)
          | none => if reservedFunctions.contains word then none else some (.name word, chars)

def readPart : Nat → List Char → Option (Expr × List Char)
  | 0, _ => none
  | _ + 1, '"' :: chars => (readString chars).map fun (text, rest) => (.text (String.ofList text), rest)
  | steps + 1, '[' :: '"' :: chars => do
      let (text, rest) ← readString chars
      let (more, rest) ← readTextTail steps rest
      pure (.literal (.arr ((String.ofList text :: more).map Json.str)), rest)
  | _ + 1, '{' :: ' ' :: ' ' :: '}' :: rest => some (.object [], rest)
  | steps + 1, '{' :: ' ' :: chars => do
      let (key, rest) ← readKey chars
      let (value, rest) ← readExpression steps rest
      let (more, rest) ← readEntryTail steps rest
      pure (.object ((key, value) :: more), rest)
  | steps + 1, chars =>
      match readInteger chars with
      | some (value, rest) => some (.literal (.int value), rest)
      | none => do
          let (word, rest) ← readWord chars
          readNamed steps word rest

end

def Expr.read? (chars : List Char) : Option Expr :=
  match readExpression (2 * chars.length + 2) chars with
  | some (expr, []) => some expr
  | _ => none

theorem ne_of_isIdentifierStart {c other : Char} (start : isIdentifierStart c = true)
    (outside : isIdentifierStart other = false) : c ≠ other := by
  intro same
  rw [← same, start] at outside
  contradiction

theorem readWord_append {word : String} {rest : List Char} (identifier : isIdentifier word.toList = true)
    (stop : ∀ c ∈ rest.head?, isIdentifierChar c = false) :
    readWord (word.toList ++ rest) = some (word, rest) := by
  have inside := isIdentifierChar_of_isIdentifier identifier
  simp [readWord, List.takeWhile_append_of_pos inside, List.dropWhile_append_of_pos inside,
    takeWhile_of_head stop, dropWhile_of_head stop, identifier]

theorem readMember_append {key : String} {chars rest : List Char} (member : SpellsMember key chars)
    (stop : ∀ c ∈ rest.head?, isIdentifierChar c = false) :
    readMember (chars ++ rest) = some (key, rest) := by
  cases member with
  | point identifier => exact readWord_append identifier stop
  | bracket quotes =>
      have read := readString_of_quotes quotes (']' :: rest)
      simp [readMember, read]

theorem readPropertyName_append {key : String} {name rest : List Char} (spelled : SpellsKey key name)
    (stop : ∀ c ∈ rest.head?, isIdentifierChar c = false) :
    readPropertyName (name ++ rest) = some (key, rest) := by
  cases spelled with
  | bare identifier =>
      have read := readWord_append identifier stop
      obtain ⟨first, tail, chars, start, _⟩ := exists_start_of_isIdentifier identifier
      have mark : first ≠ '"' := ne_of_isIdentifierStart start (by decide)
      rw [chars] at read ⊢
      simp only [List.cons_append] at read ⊢
      simp [readPropertyName, read, mark]
  | quoted quotes =>
      have read := readString_of_quotes quotes rest
      simp [readPropertyName, read]

theorem readKey_append {key : String} {name : List Char} (rest : List Char) (spelled : SpellsKey key name) :
    readKey (name ++ ':' :: ' ' :: rest) = some (key, rest) := by
  have read := @readPropertyName_append key name (':' :: ' ' :: rest) spelled (by simp; decide)
  simp [readKey, read]

theorem SpellsKey.exists_lead {key : String} {name : List Char} (spelled : SpellsKey key name) :
    ∃ first rest, name = first :: rest ∧ first ≠ ' ' := by
  cases spelled with
  | bare identifier =>
      obtain ⟨first, rest, chars, start, _⟩ := exists_start_of_isIdentifier identifier
      exact ⟨first, rest, chars, ne_of_isIdentifierStart start (by decide)⟩
  | quoted quotes => exact ⟨_, _, rfl, by decide⟩

theorem readTextTail_append {texts : List String} {chars : List Char} (spelled : SpellsTexts texts chars)
    {steps : Nat} (rest : List Char) (enough : chars.length ≤ steps) :
    readTextTail steps (chars ++ rest) = some (texts, rest) := by
  induction spelled generalizing steps with
  | last =>
      obtain ⟨steps, rfl⟩ := Nat.exists_eq_succ_of_ne_zero (Nat.ne_of_gt enough)
      simp [readTextTail]
  | @next text others body tail quotes _ ih =>
      obtain ⟨steps, rfl⟩ : ∃ fewer, steps = fewer + 1 := ⟨steps - 1, by simp at enough; omega⟩
      have read := readString_of_quotes quotes (tail ++ rest)
      have more := @ih steps (by simp at enough; omega)
      simp [readTextTail, read, more]

theorem readInteger_append {value : Int} {chars rest : List Char} (writes : Writes value chars)
    (stop : ∀ c ∈ rest.head?, isAsciiDigit c = false) :
    readInteger (chars ++ rest) = some (value, rest) := by
  cases writes with
  | negative whole => simp [readInteger, wholeDigits?_append whole stop]
  | natural whole =>
      have read := wholeDigits?_append whole stop
      obtain ⟨first, tail, rfl⟩ := List.exists_cons_of_ne_nil whole.nonempty
      have sign : first ≠ '-' := by
        intro same
        subst same
        exact absurd (whole.all '-' List.mem_cons_self) (by decide)
      rw [List.cons_append] at read ⊢
      rw [readInteger, read]
      · rfl
      · simp [sign]

/-- A part that starts neither a string, an array nor an object is an integer or starts with a word. -/
theorem readPart_plain {first : Char} (plain : first ∉ ['"', '[', '{']) (rest : List Char) (steps : Nat) :
    readPart (steps + 1) (first :: rest) =
      match readInteger (first :: rest) with
      | some (value, after) => some (.literal (.int value), after)
      | none => (readWord (first :: rest)).bind fun (word, after) => readNamed steps word after := by
  simp only [List.mem_cons, List.not_mem_nil, or_false, not_or] at plain
  rw [readPart]
  · rfl
  all_goals simp [plain]

theorem readPart_integer {value : Int} {chars rest : List Char} (writes : Writes value chars)
    (stop : ∀ c ∈ rest.head?, isAsciiDigit c = false) (steps : Nat) :
    readPart (steps + 1) (chars ++ rest) = some (.literal (.int value), rest) := by
  have read := readInteger_append writes stop
  obtain ⟨first, tail, rfl, lead⟩ := exists_lead_of_writes writes
  rw [List.cons_append] at read ⊢
  rw [readPart_plain (plain_of_lead lead), read]

theorem readInteger_of_isIdentifierStart {c : Char} (start : isIdentifierStart c = true)
    (rest : List Char) : readInteger (c :: rest) = none := by
  have sign : c ≠ '-' := ne_of_isIdentifierStart start (by decide)
  simp [readInteger, sign, wholeDigits?, isAsciiDigit_of_isIdentifierStart start]

theorem readPart_word {word : String} {rest : List Char} (identifier : isIdentifier word.toList = true)
    (stop : ∀ c ∈ rest.head?, isIdentifierChar c = false) (steps : Nat) :
    readPart (steps + 1) (word.toList ++ rest) = readNamed steps word rest := by
  have read := readWord_append identifier stop
  obtain ⟨first, tail, chars, start, _⟩ := exists_start_of_isIdentifier identifier
  have plain : first ∉ ['"', '[', '{'] := by
    simp only [List.mem_cons, List.not_mem_nil, or_false]
    intro member
    rcases member with rfl | rfl | rfl <;> exact absurd start (by decide)
  rw [chars] at read ⊢
  rw [List.cons_append] at read ⊢
  rw [readPart_plain plain, readInteger_of_isIdentifierStart start, read]
  rfl

/-- What may come after a part: nothing, the end of what it stands in, or a blank. -/
def Stops (rest : List Char) : Prop :=
  ∀ c ∈ rest.head?, c = ',' ∨ c = ')' ∨ c = ' '

/-- What may come after an expression: no further part. -/
def Ends (rest : List Char) : Prop :=
  Stops rest ∧ ¬ [' ', '+'] <+: rest

namespace Phrase

def MayPrecede (rest : List Char) : Phrase → Prop
  | .part _ => Stops rest
  | .expression _ | .partTail _ => Ends rest
  | .argTail _ | .entryTail _ => True

/-- The steps that reading takes beyond two for every character. -/
def extraSteps : Phrase → Nat
  | .expression _ => 2
  | _ => 1

def ReadAs (steps : Nat) (chars rest : List Char) : Phrase → Prop
  | .expression expr => readExpression steps chars = some (expr, rest)
  | .part expr => readPart steps chars = some (expr, rest)
  | .partTail exprs => readPartTail steps chars = some (exprs, rest)
  | .argTail exprs => readArgTail steps chars = some (exprs, rest)
  | .entryTail entries => readEntryTail steps chars = some (entries, rest)

/-- Given enough steps, reading takes the text as the phrase, whatever text may come after it. -/
def Readable (chars : List Char) (phrase : Phrase) : Prop :=
  ∀ steps rest, 2 * chars.length + phrase.extraSteps ≤ steps + 1 → phrase.MayPrecede rest →
    phrase.ReadAs (steps + 1) (chars ++ rest) rest

theorem extraSteps_pos (phrase : Phrase) : 0 < phrase.extraSteps := by
  cases phrase <;> simp [extraSteps]

/-- An item and the tail after it are read with the same number of steps. -/
theorem Readable.before {item more : Phrase} {chars tail rest : List Char} {steps : Nat}
    (readable : item.Readable chars) (moreReadable : more.Readable tail)
    (enough : 2 * (chars.length + tail.length) + item.extraSteps ≤ steps)
    (fewer : more.extraSteps ≤ item.extraSteps) (fits : item.MayPrecede (tail ++ rest))
    (ends : more.MayPrecede rest) :
    item.ReadAs steps (chars ++ (tail ++ rest)) (tail ++ rest) ∧ more.ReadAs steps (tail ++ rest) rest := by
  have positive := item.extraSteps_pos
  obtain ⟨steps, rfl⟩ : ∃ before, steps = before + 1 := ⟨steps - 1, by omega⟩
  exact ⟨readable steps _ (by omega) fits, moreReadable steps _ (by omega) ends⟩

end Phrase

theorem Stops.isIdentifierChar {rest : List Char} (stops : Stops rest) :
    ∀ c ∈ rest.head?, isIdentifierChar c = false := by
  intro c first
  rcases stops c first with rfl | rfl | rfl <;> decide

theorem Stops.isAsciiDigit {rest : List Char} (stops : Stops rest) :
    ∀ c ∈ rest.head?, isAsciiDigit c = false := by
  intro c first
  rcases stops c first with rfl | rfl | rfl <;> decide

theorem Spells.stops_partTail {exprs : List Expr} {tail rest : List Char}
    (more : Spells (.partTail exprs) tail) (ends : Ends rest) : Stops (tail ++ rest) := by
  cases more with
  | lastPart => exact ends.1
  | nextPart _ _ => simp [Stops]

theorem Spells.ends_argTail {exprs : List Expr} {tail : List Char} (rest : List Char)
    (more : Spells (.argTail exprs) tail) : Ends (tail ++ rest) := by
  cases more <;> simp [Ends, Stops]

theorem Spells.ends_entryTail {entries : List (String × Expr)} {tail : List Char} (rest : List Char)
    (more : Spells (.entryTail entries) tail) : Ends (tail ++ rest) := by
  cases more <;> simp [Ends, Stops]

section Tails

variable {expr : Expr} {chars tail : List Char} {steps : Nat}

theorem Spells.read_partTail {others : List Expr} (more : Spells (.partTail others) tail)
    (part : (Phrase.part expr).Readable chars) (moreReadable : (Phrase.partTail others).Readable tail)
    (enough : 2 * (chars.length + tail.length) + 1 ≤ steps) {rest : List Char} (ends : Ends rest) :
    readPart steps (chars ++ (tail ++ rest)) = some (expr, tail ++ rest) ∧
      readPartTail steps (tail ++ rest) = some (others, rest) :=
  part.before moreReadable enough (Nat.le_refl 1) (more.stops_partTail ends) ends

theorem Spells.read_argTail {others : List Expr} (more : Spells (.argTail others) tail)
    (arg : (Phrase.expression expr).Readable chars) (moreReadable : (Phrase.argTail others).Readable tail)
    (enough : 2 * (chars.length + tail.length) + 2 ≤ steps) (rest : List Char) :
    readExpression steps (chars ++ (tail ++ rest)) = some (expr, tail ++ rest) ∧
      readArgTail steps (tail ++ rest) = some (others, rest) :=
  arg.before moreReadable enough (Nat.le_succ 1) (more.ends_argTail rest) trivial

theorem Spells.read_entryTail {others : List (String × Expr)} (more : Spells (.entryTail others) tail)
    (value : (Phrase.expression expr).Readable chars)
    (moreReadable : (Phrase.entryTail others).Readable tail)
    (enough : 2 * (chars.length + tail.length) + 2 ≤ steps) (rest : List Char) :
    readExpression steps (chars ++ (tail ++ rest)) = some (expr, tail ++ rest) ∧
      readEntryTail steps (tail ++ rest) = some (others, rest) :=
  value.before moreReadable enough (Nat.le_succ 1) (more.ends_entryTail rest) trivial

theorem Spells.readArguments {others : List Expr} (more : Spells (.argTail others) tail)
    (arg : (Phrase.expression expr).Readable chars) (moreReadable : (Phrase.argTail others).Readable tail)
    (enough : 2 * (chars.length + tail.length) + 2 ≤ steps) (rest : List Char) :
    readArguments (steps + 1) ('(' :: (chars ++ (tail ++ rest))) = some (expr :: others, rest) := by
  obtain ⟨argRead, tailRead⟩ := more.read_argTail arg moreReadable enough rest
  simp [Target.readArguments, argRead, tailRead]

end Tails

theorem Stops.readMember {rest : List Char} (stops : Stops rest) : readMember rest = none := by
  cases rest with
  | nil => rfl
  | cons c rest => rcases stops c rfl with rfl | rfl | rfl <;> rfl

theorem Stops.readArguments {rest : List Char} (stops : Stops rest) (steps : Nat) :
    readArguments steps rest = none := by
  cases rest with
  | nil => cases steps <;> rfl
  | cons c rest => cases steps <;> rcases stops c rfl with rfl | rfl | rfl <;> rfl

theorem SpellsMember.isIdentifierChar {key : String} {chars : List Char} (member : SpellsMember key chars)
    (rest : List Char) : ∀ c ∈ (chars ++ rest).head?, isIdentifierChar c = false := by
  cases member <;> simp <;> decide

theorem Helper.isIdentifier_name (helper : Helper) : isIdentifier helper.name.toList = true := by
  cases helper <;> decide

/-- Reading takes a phrase as what it stands for. -/
theorem Spells.readable {phrase : Phrase} {chars : List Char} (spells : Spells phrase chars) :
    phrase.Readable chars := by
  -- The text after a phrase stays arbitrary: for an item of a phrase it starts with the tail.
  induction spells with
  | @expression expr others chars tail first more firstReadable moreReadable =>
      intro steps rest enough ends
      simp only [Phrase.extraSteps, List.length_append] at enough
      have few : 2 * (chars.length + tail.length) + 1 ≤ steps := by omega
      obtain ⟨partRead, tailRead⟩ := more.read_partTail firstReadable moreReadable few ends
      simp [Phrase.ReadAs, readExpression, partRead, tailRead]
  | lastPart =>
      intro steps rest enough ends
      simp only [Phrase.ReadAs, List.nil_append]
      rw [readPartTail]
      intro after same
      subst same
      exact ends.2 ⟨' ' :: after, rfl⟩
  | @nextPart expr others chars tail next more nextReadable moreReadable =>
      intro steps rest enough ends
      simp only [Phrase.extraSteps, List.length_append, List.length_cons] at enough
      have few : 2 * (chars.length + tail.length) + 1 ≤ steps := by omega
      obtain ⟨partRead, tailRead⟩ := more.read_partTail nextReadable moreReadable few ends
      simp [Phrase.ReadAs, readPartTail, partRead, tailRead]
  | lastArg =>
      intro steps rest enough _
      simp [Phrase.ReadAs, readArgTail]
  | @nextArg expr others chars tail next more nextReadable moreReadable =>
      intro steps rest enough _
      simp only [Phrase.extraSteps, List.length_append, List.length_cons] at enough
      have few : 2 * (chars.length + tail.length) + 2 ≤ steps := by omega
      obtain ⟨argRead, tailRead⟩ := more.read_argTail nextReadable moreReadable few rest
      simp [Phrase.ReadAs, readArgTail, argRead, tailRead]
  | lastEntry =>
      intro steps rest enough _
      simp [Phrase.ReadAs, readEntryTail]
  | @nextEntry key expr others name chars tail spelled next more nextReadable moreReadable =>
      intro steps rest enough _
      simp only [Phrase.extraSteps, List.length_append, List.length_cons] at enough
      have keyRead := readKey_append (chars ++ (tail ++ rest)) spelled
      have few : 2 * (chars.length + tail.length) + 2 ≤ steps := by omega
      obtain ⟨valueRead, tailRead⟩ := more.read_entryTail nextReadable moreReadable few rest
      simp [Phrase.ReadAs, readEntryTail, keyRead, valueRead, tailRead]
  | @text text body quotes =>
      intro steps rest enough _
      simp [Phrase.ReadAs, readPart, readString_of_quotes quotes]
  | integer writes =>
      intro steps rest enough stops
      exact readPart_integer writes stops.isAsciiDigit steps
  | @texts text others body tail quotes more =>
      intro steps rest enough _
      simp only [Phrase.extraSteps, List.length_append, List.length_cons] at enough
      have textRead := readString_of_quotes quotes (tail ++ rest)
      have tailRead := @readTextTail_append _ _ more steps rest (by omega)
      simp [Phrase.ReadAs, readPart, textRead, tailRead]
  | @name name identifier free =>
      intro steps rest enough stops
      have long : name.toList.length ≠ 0 := by
        obtain ⟨first, tail, chars, _⟩ := exists_start_of_isIdentifier identifier
        simp [chars]
      simp only [Phrase.extraSteps] at enough
      obtain ⟨steps, rfl⟩ : ∃ fewer, steps = fewer + 1 := ⟨steps - 1, by omega⟩
      rw [Phrase.ReadAs, readPart_word identifier stops.isIdentifierChar, readNamed, stops.readMember,
        stops.readArguments]
      simp [free]
  | @read key chars member =>
      intro steps rest enough stops
      simp only [Phrase.extraSteps, List.length_cons] at enough
      obtain ⟨steps, rfl⟩ : ∃ fewer, steps = fewer + 1 := ⟨steps - 1, by omega⟩
      have word := @readPart_word "d" (chars ++ rest) (by decide) (member.isIdentifierChar rest) (steps + 1)
      rw [readNamed, readMember_append member stops.isIdentifierChar] at word
      exact word
  | @helper helper expr others chars tail first more firstReadable moreReadable =>
      intro steps rest enough _
      have long : 2 ≤ helper.name.toList.length := by cases helper <;> decide
      simp only [Phrase.extraSteps, List.length_append, List.length_cons] at enough
      obtain ⟨steps, rfl⟩ : ∃ fewer, steps = fewer + 2 := ⟨steps - 2, by omega⟩
      have few : 2 * (chars.length + tail.length) + 2 ≤ steps := by omega
      have args := more.readArguments firstReadable moreReadable few rest
      have word := @readPart_word helper.name ('(' :: (chars ++ (tail ++ rest)))
        helper.isIdentifier_name (by simp; decide) (steps + 2)
      simpa [Phrase.ReadAs, readNamed, readMember, args, helper.ofName?_name] using word
  | @formatter key expr others name chars tail member first more firstReadable moreReadable =>
      intro steps rest enough _
      simp only [Phrase.extraSteps, List.length_append, List.length_cons] at enough
      obtain ⟨steps, rfl⟩ : ∃ fewer, steps = fewer + 2 := ⟨steps - 2, by omega⟩
      have few : 2 * (chars.length + tail.length) + 2 ≤ steps := by omega
      have args := more.readArguments firstReadable moreReadable few rest
      have word := @readPart_word "fmt" (name ++ '(' :: (chars ++ (tail ++ rest))) (by decide)
        (member.isIdentifierChar _) (steps + 2)
      have memberRead := @readMember_append key name ('(' :: (chars ++ (tail ++ rest))) member
        (by simp; decide)
      simpa [Phrase.ReadAs, readNamed, memberRead, args, Receiver.name] using word
  | emptyObject =>
      intro steps rest enough _
      simp [Phrase.ReadAs, readPart]
  | @object key expr others name chars tail spelled first more firstReadable moreReadable =>
      intro steps rest enough _
      simp only [Phrase.extraSteps, List.length_append, List.length_cons] at enough
      have keyRead := readKey_append (chars ++ (tail ++ rest)) spelled
      have few : 2 * (chars.length + tail.length) + 2 ≤ steps := by omega
      obtain ⟨valueRead, tailRead⟩ := more.read_entryTail firstReadable moreReadable few rest
      -- The empty object is told apart by the blank after its first one.
      obtain ⟨lead, name, rfl, visible⟩ := spelled.exists_lead
      simp only [List.cons_append, List.append_assoc, Phrase.ReadAs] at keyRead ⊢
      rw [readPart, keyRead]
      · simp [valueRead, tailRead]
      · simp [visible]

/-- The reader reads every text of the grammar, and all of it. -/
theorem Spells.read? {expr : Expr} {chars : List Char} (spells : Spells (.expression expr) chars) :
    Expr.read? chars = some expr := by
  have ends : Ends [] := ⟨by simp [Stops], by simp⟩
  have whole := spells.readable (2 * chars.length + 1) [] (Nat.le_refl _) ends
  rw [List.append_nil, Phrase.ReadAs] at whole
  rw [Expr.read?, whole]

/-- Where two parts are spelled at the start of the same text, they are the same part. -/
theorem Spells.cancel {one other : Expr} {chars otherChars rest otherRest : List Char}
    (spells : Spells (.part one) chars) (otherSpells : Spells (.part other) otherChars)
    (stops : Stops rest) (otherStops : Stops otherRest)
    (same : chars ++ rest = otherChars ++ otherRest) : one = other ∧ rest = otherRest := by
  have read := spells.readable (2 * (chars.length + otherChars.length)) rest
    (by simp only [Phrase.extraSteps]; omega) stops
  have otherRead := otherSpells.readable (2 * (chars.length + otherChars.length)) otherRest
    (by simp only [Phrase.extraSteps]; omega) otherStops
  rw [Phrase.ReadAs, same] at read
  cases read.symm.trans otherRead
  exact ⟨rfl, rfl⟩

/-- Where two keys stand at the start of the same text, they are the same key. -/
theorem propertyChars_cancel {key other : String} {rest otherRest : List Char}
    (same : propertyChars key ++ ':' :: ' ' :: rest = propertyChars other ++ ':' :: ' ' :: otherRest) :
    key = other ∧ rest = otherRest := by
  have read := readKey_append rest (spellsKey_propertyChars key)
  rw [same] at read
  cases read.symm.trans (readKey_append otherRest (spellsKey_propertyChars other))
  exact ⟨rfl, rfl⟩

end Phrasebook.Target
