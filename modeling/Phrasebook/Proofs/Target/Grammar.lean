import Phrasebook.Proofs.Json.Literal
import Phrasebook.Target.Expr

/-!
The grammar of emitted expressions, with the blanks that stand in them.

    expression  →  part { " + " part }
    part        →  string | integer | "[" string { "," string } "]" | name
                 | "d" member | helper arguments | "fmt" member arguments | object
    member      →  "." identifier | "[" string "]"
    arguments   →  "(" expression { ", " expression } ")"
    object      →  "{ " [ key ": " expression { ", " key ": " expression } ] " }"
    key         →  identifier | string

Strings and integers are those of JSON.  What is written for an expression obeys the grammar.
-/

namespace Phrasebook.Target

open Json

def Helper.ofName? (name : String) : Option Helper :=
  Helper.all.find? fun helper => helper.name == name

theorem Helper.ofName?_name (helper : Helper) : Helper.ofName? helper.name = some helper := by
  cases helper <;> decide

inductive SpellsKey : String → List Char → Prop where
  | bare {key : String} (identifier : isIdentifier key.toList = true) : SpellsKey key key.toList
  | quoted {key : String} {body : List Char} (quotes : Quotes key.toList body) :
      SpellsKey key ('"' :: (body ++ ['"']))

inductive SpellsMember : String → List Char → Prop where
  | point {key : String} (identifier : isIdentifier key.toList = true) :
      SpellsMember key ('.' :: key.toList)
  | bracket {key : String} {body : List Char} (quotes : Quotes key.toList body) :
      SpellsMember key ('[' :: '"' :: (body ++ ['"', ']']))

/-- The strings of an array after its first, with the closing bracket. -/
inductive SpellsTexts : List String → List Char → Prop where
  | last : SpellsTexts [] [']']
  | next {text : String} {rest : List String} {body tail : List Char}
      (quotes : Quotes text.toList body) (more : SpellsTexts rest tail) :
      SpellsTexts (text :: rest) (',' :: '"' :: (body ++ '"' :: tail))

/-- A phrase of the grammar with what it stands for. -/
inductive Phrase where
  | expression (expr : Expr)
  | part (expr : Expr)
  | partTail (exprs : List Expr)
  /-- The arguments after the first, with the closing bracket. -/
  | argTail (exprs : List Expr)
  /-- The entries after the first, with the closing brace. -/
  | entryTail (entries : List (String × Expr))

inductive Spells : Phrase → List Char → Prop where
  | expression {expr : Expr} {rest : List Expr} {chars tail : List Char}
      (first : Spells (.part expr) chars) (more : Spells (.partTail rest) tail) :
      Spells (.expression (.joined (expr :: rest))) (chars ++ tail)
  | lastPart : Spells (.partTail []) []
  | nextPart {expr : Expr} {rest : List Expr} {chars tail : List Char}
      (next : Spells (.part expr) chars) (more : Spells (.partTail rest) tail) :
      Spells (.partTail (expr :: rest)) (' ' :: '+' :: ' ' :: (chars ++ tail))
  | lastArg : Spells (.argTail []) [')']
  | nextArg {expr : Expr} {rest : List Expr} {chars tail : List Char}
      (next : Spells (.expression expr) chars) (more : Spells (.argTail rest) tail) :
      Spells (.argTail (expr :: rest)) (',' :: ' ' :: (chars ++ tail))
  | lastEntry : Spells (.entryTail []) [' ', '}']
  | nextEntry {key : String} {expr : Expr} {rest : List (String × Expr)} {name chars tail : List Char}
      (spelled : SpellsKey key name) (next : Spells (.expression expr) chars)
      (more : Spells (.entryTail rest) tail) :
      Spells (.entryTail ((key, expr) :: rest))
        (',' :: ' ' :: (name ++ ':' :: ' ' :: (chars ++ tail)))
  | text {text : String} {body : List Char} (quotes : Quotes text.toList body) :
      Spells (.part (.text text)) ('"' :: (body ++ ['"']))
  | integer {value : Int} {chars : List Char} (writes : Writes value chars) :
      Spells (.part (.literal (.int value))) chars
  | texts {text : String} {rest : List String} {body tail : List Char}
      (quotes : Quotes text.toList body) (more : SpellsTexts rest tail) :
      Spells (.part (.literal (.arr ((text :: rest).map Json.str))))
        ('[' :: '"' :: (body ++ '"' :: tail))
  | name {name : String} (identifier : isIdentifier name.toList = true)
      (free : name ∉ reservedFunctions) : Spells (.part (.name name)) name.toList
  | read {key : String} {chars : List Char} (member : SpellsMember key chars) :
      Spells (.part (.read key)) ('d' :: chars)
  | helper {helper : Helper} {expr : Expr} {rest : List Expr} {chars tail : List Char}
      (first : Spells (.expression expr) chars) (more : Spells (.argTail rest) tail) :
      Spells (.part (.helper helper (expr :: rest)))
        (helper.name.toList ++ '(' :: (chars ++ tail))
  | formatter {key : String} {expr : Expr} {rest : List Expr} {name chars tail : List Char}
      (member : SpellsMember key name) (first : Spells (.expression expr) chars)
      (more : Spells (.argTail rest) tail) :
      Spells (.part (.call (.member .formatters key) (expr :: rest)))
        ('f' :: 'm' :: 't' :: (name ++ '(' :: (chars ++ tail)))
  | emptyObject : Spells (.part (.object [])) ['{', ' ', ' ', '}']
  | object {key : String} {expr : Expr} {rest : List (String × Expr)} {name chars tail : List Char}
      (spelled : SpellsKey key name) (first : Spells (.expression expr) chars)
      (more : Spells (.entryTail rest) tail) :
      Spells (.part (.object ((key, expr) :: rest)))
        ('{' :: ' ' :: (name ++ ':' :: ' ' :: (chars ++ tail)))

theorem spellsKey_propertyChars (key : String) : SpellsKey key (propertyChars key) := by
  unfold propertyChars
  split
  · rename_i bare
    exact .bare (Bool.and_eq_true_iff.mp bare).1
  · exact .quoted (quotes_flatMap_escapeChar _)

theorem memberChars_eq_append (receiver : List Char) (key : String) :
    ∃ chars, SpellsMember key chars ∧ memberChars receiver key = receiver ++ chars := by
  unfold memberChars
  split
  · rename_i bare
    exact ⟨_, .point (Bool.and_eq_true_iff.mp bare).1, rfl⟩
  · refine ⟨_, .bracket (quotes_flatMap_escapeChar key.toList), ?_⟩
    simp [stringChars]

namespace Spells

theorem ofPart {expr : Expr} {chars : List Char} (part : Spells (.part expr) chars) :
    Spells (.expression expr) chars := by
  have whole := Spells.expression part .lastPart
  rwa [List.append_nil] at whole

theorem textChars (text : String) : Spells (.part (.text text)) (Expr.text text).chars :=
  .text (quotes_flatMap_escapeChar text.toList)

theorem integerChars (value : Int) :
    Spells (.part (.literal (.int value))) (Expr.literal (.int value)).chars :=
  .integer (writes_intChars value)

theorem textTailChars (texts : List String) :
    SpellsTexts texts (itemTailChars .compact (texts.map Json.str) ++ [']']) := by
  induction texts with
  | nil => exact .last
  | cons text rest ih =>
      have spelled := SpellsTexts.next (quotes_flatMap_escapeChar text.toList) ih
      simpa [itemTailChars, Json.chars, stringChars, Layout.compact] using spelled

theorem arrayChars (text : String) (rest : List String) :
    Spells (.part (.literal (.arr ((text :: rest).map Json.str))))
      (Expr.literal (.arr ((text :: rest).map Json.str))).chars := by
  have spelled := Spells.texts (quotes_flatMap_escapeChar text.toList) (textTailChars rest)
  simpa [Expr.chars, Json.chars, itemChars, stringChars] using spelled

theorem readChars (key : String) : Spells (.part (.read key)) (Expr.read key).chars := by
  obtain ⟨chars, member, written⟩ := memberChars_eq_append Receiver.data.name.toList key
  rw [Expr.read, Expr.chars, written]
  exact .read member

theorem partTailChars {parts : List Expr} (spelled : ∀ part ∈ parts, Spells (.part part) part.chars) :
    Spells (.partTail parts) (Expr.partTailChars parts) := by
  induction parts with
  | nil => exact .lastPart
  | cons part rest ih =>
      exact .nextPart (spelled part List.mem_cons_self) (ih fun part member =>
        spelled part (List.mem_cons_of_mem _ member))

/-- A body is an expression when every part of it is one. -/
theorem joinedChars {parts : List Expr} (spelled : ∀ part ∈ parts, Spells (.part part) part.chars) :
    Spells (.expression (.joined parts)) (Expr.joined parts).chars := by
  cases parts with
  | nil => exact ofPart (textChars "")
  | cons first rest =>
      have whole := Spells.expression (spelled first List.mem_cons_self) (partTailChars fun part member =>
        spelled part (List.mem_cons_of_mem _ member))
      cases rest with
      | nil => rwa [Expr.partTailChars, List.append_nil] at whole
      | cons second rest => exact whole

theorem argTailChars {args : List Expr}
    (spelled : ∀ arg ∈ args, Spells (.expression arg) arg.chars) :
    Spells (.argTail args) (Expr.argTailChars args ++ [')']) := by
  induction args with
  | nil => exact .lastArg
  | cons arg rest ih =>
      have next := Spells.nextArg (spelled arg List.mem_cons_self) (ih fun arg member =>
        spelled arg (List.mem_cons_of_mem _ member))
      simpa [Expr.argTailChars] using next

theorem helperChars (helper : Helper) {first : Expr} {rest : List Expr}
    (spelled : ∀ arg ∈ first :: rest, Spells (.expression arg) arg.chars) :
    Spells (.part (.helper helper (first :: rest))) (Expr.helper helper (first :: rest)).chars := by
  have call := @Spells.helper helper _ _ _ _ (spelled first List.mem_cons_self)
    (argTailChars fun arg member => spelled arg (List.mem_cons_of_mem _ member))
  simpa [Expr.helper, Expr.chars, Expr.argChars] using call

theorem formatterChars (key : String) {first : Expr} {rest : List Expr}
    (spelled : ∀ arg ∈ first :: rest, Spells (.expression arg) arg.chars) :
    Spells (.part (.call (.member .formatters key) (first :: rest)))
      (Expr.call (.member .formatters key) (first :: rest)).chars := by
  obtain ⟨chars, member, written⟩ := memberChars_eq_append Receiver.formatters.name.toList key
  have call := Spells.formatter member (spelled first List.mem_cons_self)
    (argTailChars fun arg member => spelled arg (List.mem_cons_of_mem _ member))
  have callee : (Expr.member .formatters key).chars = 'f' :: 'm' :: 't' :: chars := written
  rw [Expr.chars, callee, Expr.argChars]
  simpa using call

theorem entryTailChars {entries : List (String × Expr)}
    (spelled : ∀ entry ∈ entries, Spells (.expression entry.2) entry.2.chars) :
    Spells (.entryTail entries) (Expr.entryTailChars entries ++ [' ', '}']) := by
  induction entries with
  | nil => exact .lastEntry
  | cons entry rest ih =>
      have next := Spells.nextEntry (spellsKey_propertyChars entry.1) (spelled entry List.mem_cons_self)
        (ih fun entry member => spelled entry (List.mem_cons_of_mem _ member))
      simpa [Expr.entryTailChars] using next

theorem objectChars {entries : List (String × Expr)}
    (spelled : ∀ entry ∈ entries, Spells (.expression entry.2) entry.2.chars) :
    Spells (.part (.object entries)) (Expr.object entries).chars := by
  cases entries with
  | nil => exact .emptyObject
  | cons entry rest =>
      have whole := Spells.object (spellsKey_propertyChars entry.1) (spelled entry List.mem_cons_self)
        (entryTailChars fun entry member => spelled entry (List.mem_cons_of_mem _ member))
      simpa [Expr.chars, Expr.entryChars] using whole

end Spells

end Phrasebook.Target
