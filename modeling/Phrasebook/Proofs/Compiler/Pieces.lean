import Phrasebook.Proofs.Compiler.Tracing

/-!
What the source of a message has from its parts.  Some properties hold of an expression exactly when they
hold of a piece of it: that it reads an argument, that it names a function, that it holds a character.  The
source of a message then has such a property exactly when a part of the message brings in a piece that
does.  The induction over messages is made here once, whatever the property.
-/

namespace Phrasebook

open Target

/-- What a property says of the pieces that messages bring into source. -/
structure Pieces where
  /-- Of a text between quotation marks. -/
  text : String → Prop
  /-- Of an argument read from the data. -/
  read : String → Prop
  formatter : String → Prop
  /-- Of the rule function of a locale. -/
  rules : String → Prop
  /-- Of the key of a case. -/
  key : String → Prop

/-- The pieces of an expression settle whether it has the property.  Numbers, helpers, marks and number
signs play no part in it. -/
structure Pieces.Settle (pieces : Pieces) (has : Expr → Prop) : Prop where
  text : ∀ value, has (.text value) ↔ pieces.text value
  texts : ∀ values : List String,
    has (.literal (.arr (values.map Json.str))) ↔ ∃ value ∈ values, pieces.text value
  int : ∀ value, ¬ has (.literal (.int value))
  float : ∀ value, ¬ has (.literal (.float value))
  read : ∀ key, has (.read key) ↔ pieces.read key
  rules : ∀ tag, has (.name (functionName tag)) ↔ pieces.rules tag
  helper : ∀ helper args, has (.helper helper args) ↔ ∃ arg ∈ args, has arg
  formatter : ∀ key args,
    has (.call (.member .formatters key) args) ↔ pieces.formatter key ∨ ∃ arg ∈ args, has arg
  object : ∀ entries : List (String × Expr),
    has (.object entries) ↔ ∃ entry ∈ entries, pieces.key entry.1 ∨ has entry.2
  joined : ∀ parts, has (.joined parts) ↔ ∃ part ∈ parts, has part
  mark : ∀ locale, ¬ pieces.text (Locale.directionMark locale)
  sign : ¬ pieces.text Value.octothorpeText

/-- The part itself brings in such a piece, apart from the parts inside it. -/
def Token.Brings (pieces : Pieces) (locale : Option String) : Token → Prop
  | .text value => pieces.text value
  | .argument arg => pieces.read arg
  | .octothorpe => False
  | .select arg cases => pieces.read arg ∨ ∃ case ∈ cases, pieces.key case.key
  | .plural arg cases _ | .ordinal arg cases =>
      pieces.read arg ∨ pieces.rules (locale.getD "") ∨ ∃ case ∈ cases, pieces.key case.key
  | .call key arg params =>
      pieces.formatter key ∨ pieces.read arg ∨ pieces.text (locale.getD "") ∨
        ∃ param ∈ params, pieces.text param

/-- One of the parts brings in such a piece. -/
def Token.Brought (pieces : Pieces) (locale : Option String) (parts : List Token) : Prop :=
  ∃ part ∈ parts, part.Brings pieces locale

namespace Pieces.Settle

variable {pieces : Pieces} {has : Expr → Prop}

/-- Number signs show such an argument. -/
def Counted (pieces : Pieces) (count : Option Count) : Prop :=
  ∃ counted ∈ count, pieces.read counted.arg

@[simp] theorem counted_none : ¬ Counted pieces none := by
  simp [Counted]

@[simp] theorem counted_some (count : Count) : Counted pieces (some count) ↔ pieces.read count.arg := by
  simp [Counted]

@[simp] theorem not_brought_nil (locale : Option String) : ¬ Token.Brought pieces locale [] := by
  simp [Token.Brought]

@[simp] theorem brought_cons (locale : Option String) (token : Token) (rest : List Token) :
    Token.Brought pieces locale (token :: rest) ↔
      token.Brings pieces locale ∨ Token.Brought pieces locale rest := by
  simp [Token.Brought]

theorem brought_append (locale : Option String) (first last : List Token) :
    Token.Brought pieces locale (first ++ last) ↔
      Token.Brought pieces locale first ∨ Token.Brought pieces locale last := by
  simp [Token.Brought, or_and_right, exists_or]

theorem offset (settle : pieces.Settle has) (offset : Offset) : ¬ has (.literal offset.toJson) := by
  cases offset with
  | int value => exact settle.int value
  | float value =>
      rw [Offset.toJson]
      cases value.toInt? with
      | none => exact settle.float value
      | some whole => exact settle.int whole

theorem count (settle : pieces.Settle has) (count : Count) :
    has count.emitted ↔ pieces.read count.arg := by
  unfold Count.emitted
  rw [settle.helper]
  split <;> simp [settle.read, settle.offset]

theorem params (settle : pieces.Settle has) (params : List String) :
    (∃ literal ∈ Token.paramLiterals params, has literal) ↔ ∃ param ∈ params, pieces.text param := by
  match params with
  | [] => simp [Token.paramLiterals]
  | [param] => simp [Token.paramLiterals, settle.text]
  | first :: second :: rest =>
      simp only [Token.paramLiterals, List.mem_singleton, exists_eq_left]
      exact settle.texts _

variable (locale : Option String) (bidi : Bool)

mutual

-- What number signs show stands on both sides: it comes from a choice further out, which reads it too.
theorem token (settle : pieces.Settle has) (count : Option Count) : (token : Token) →
    ((∃ part ∈ token.emitted locale bidi count, has part) ∨ Counted pieces count ↔
      Token.Brought pieces locale (token :: token.inside) ∨ Counted pieces count)
  | .text value => by simp [Token.emitted, Token.inside, Token.Brings, settle.text]
  | .argument arg => by
      cases bidi <;>
        simp [Token.emitted, Expr.between, Token.inside, Token.Brings, settle.read, settle.text,
          settle.mark]
  | .octothorpe => by
      cases count <;>
        simp [Token.emitted, Token.inside, Token.Brings, settle.text, settle.sign, settle.count]
  | .select arg cases => by
      have inner := Settle.cases settle count cases
      simp only [Token.emitted, Token.inside, brought_cons, Token.Brings, List.mem_cons,
        List.not_mem_nil, or_false, exists_eq_or_imp, exists_eq_left, settle.helper, settle.read, settle.object]
      grind
  | .plural arg cases offset => by
      have inner := Settle.cases settle (some ⟨arg, offset⟩) cases
      simp only [Token.emitted, Token.inside, brought_cons, Token.Brings, List.mem_cons,
        List.not_mem_nil, or_false, exists_eq_or_imp, exists_eq_left, settle.helper, settle.read, settle.object, settle.offset,
        settle.rules, false_or, counted_some] at inner ⊢
      grind
  | .ordinal arg cases => by
      have inner := Settle.cases settle (some ⟨arg, .int 0⟩) cases
      simp only [Token.emitted, Token.inside, brought_cons, Token.Brings, List.mem_cons,
        List.not_mem_nil, or_false, exists_eq_or_imp, exists_eq_left, settle.helper, settle.read, settle.object, settle.int,
        settle.rules, false_or, counted_some] at inner ⊢
      grind
  | .call key arg params => by
      simp [Token.emitted, Token.inside, Token.Brings, settle.formatter, settle.read, settle.text,
        settle.params]

theorem parts (settle : pieces.Settle has) (count : Option Count) : (tokens : List Token) →
    ((∃ part ∈ Token.emittedParts locale bidi count tokens, has part) ∨ Counted pieces count ↔
      Token.Brought pieces locale (Token.parts tokens) ∨ Counted pieces count)
  | [] => by simp [Token.emittedParts, Token.parts]
  | token :: rest => by
      have first := Settle.token settle count token
      have last := Settle.parts settle count rest
      rw [Token.emittedParts, Token.parts, ← List.cons_append, brought_append]
      simp only [List.mem_append, or_and_right, exists_or]
      grind

theorem cases (settle : pieces.Settle has) (count : Option Count) : (cases : List Case) →
    ((∃ entry ∈ Case.emitted locale bidi count cases, pieces.key entry.1 ∨ has entry.2) ∨
        Counted pieces count ↔
      ((∃ case ∈ cases, pieces.key case.key) ∨ Token.Brought pieces locale (Case.parts cases)) ∨
        Counted pieces count)
  | [] => by simp [Case.emitted, Case.parts]
  | .mk key body :: rest => by
      have first := Settle.parts settle count body
      have last := Settle.cases settle count rest
      have own : (Case.mk key body).key = key := rfl
      rw [Case.emitted, Case.parts, brought_append]
      simp only [List.mem_cons, exists_eq_or_imp, settle.joined, own]
      grind

end

/-- The source of a message has the property exactly when a part of it brings in a piece that does. -/
theorem message (settle : pieces.Settle has) (tokens : List Token) :
    has (.joined (Token.emittedParts locale bidi none tokens)) ↔
      Token.Brought pieces locale (Token.parts tokens) := by
  have parts := Settle.parts locale bidi settle none tokens
  rw [settle.joined]
  simpa using parts

end Pieces.Settle

end Phrasebook
