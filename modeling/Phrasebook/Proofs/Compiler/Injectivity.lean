import Phrasebook.Proofs.Compiler.Preservation

/-!
No two messages compile to the same source.  Everything that is written for a part tells where it ends,
so texts that agree agree part by part, whatever locale they are compiled for.  Only a body without
parts cannot be told from a body with an empty text.
-/

namespace Phrasebook

open Target

/-- A body without parts is written as one with an empty text. -/
def Token.orEmptyText : List Token → List Token
  | [] => [.text ""]
  | tokens => tokens

mutual

/-- The part with an empty text in every case that has no parts. -/
def Token.filled : Token → Token
  | .select arg cases => .select arg (Case.filled cases)
  | .plural arg cases offset => .plural arg (Case.filled cases) offset
  | .ordinal arg cases => .ordinal arg (Case.filled cases)
  | token => token

def Token.eachFilled : List Token → List Token
  | [] => []
  | token :: rest => token.filled :: Token.eachFilled rest

def Case.filled : List Case → List Case
  | [] => []
  | .mk key body :: rest => .mk key (Token.orEmptyText (Token.eachFilled body)) :: Case.filled rest

end

def Token.filledBody (tokens : List Token) : List Token :=
  Token.orEmptyText (Token.eachFilled tokens)

theorem Token.filledBody_eq (tokens : List Token) :
    Token.filledBody tokens = Token.eachFilled (Token.orEmptyText tokens) := by
  cases tokens <;> rfl

mutual

/-- Offsets are integers, and every number sign stands below a plural or ordinal choice; the flag tells
whether there is one around. -/
def Token.IsClear (counted : Bool) : Token → Prop
  | .octothorpe => counted = true
  | .select _ cases => Case.AreClear counted cases
  | .plural _ cases offset => (∃ value, offset = .int value) ∧ Case.AreClear true cases
  | .ordinal _ cases => Case.AreClear true cases
  | _ => True

def Token.AreClear (counted : Bool) : List Token → Prop
  | [] => True
  | token :: rest => token.IsClear counted ∧ Token.AreClear counted rest

def Case.AreClear (counted : Bool) : List Case → Prop
  | [] => True
  | .mk _ body :: rest => Token.AreClear counted body ∧ Case.AreClear counted rest

end

section Filling

variable (locale : Option String) (bidi : Bool)

theorem Token.joined_orEmptyText (count : Option Count) (tokens : List Token) :
    Expr.joined (Token.emittedParts locale bidi count (Token.orEmptyText tokens)) =
      Expr.joined (Token.emittedParts locale bidi count tokens) := by
  cases tokens <;> rfl

mutual

theorem Token.emitted_filled (count : Option Count) : (token : Token) →
    token.filled.emitted locale bidi count = token.emitted locale bidi count
  | .text _ | .argument _ | .octothorpe | .call _ _ _ => rfl
  | .select arg cases => by rw [Token.filled, Token.emitted, Token.emitted, Case.emitted_filled]
  | .plural arg cases offset => by rw [Token.filled, Token.emitted, Token.emitted, Case.emitted_filled]
  | .ordinal arg cases => by rw [Token.filled, Token.emitted, Token.emitted, Case.emitted_filled]

theorem Token.emittedParts_eachFilled (count : Option Count) : (tokens : List Token) →
    Token.emittedParts locale bidi count (Token.eachFilled tokens) =
      Token.emittedParts locale bidi count tokens
  | [] => rfl
  | token :: rest => by
      rw [Token.eachFilled, Token.emittedParts, Token.emittedParts, Token.emitted_filled,
        Token.emittedParts_eachFilled]

theorem Case.emitted_filled (count : Option Count) : (cases : List Case) →
    Case.emitted locale bidi count (Case.filled cases) = Case.emitted locale bidi count cases
  | [] => rfl
  | .mk key body :: rest => by
      rw [Case.filled, Case.emitted, Case.emitted, Token.joined_orEmptyText,
        Token.emittedParts_eachFilled, Case.emitted_filled]

end

/-- What is emitted for a message depends on nothing but the message with its empty bodies filled. -/
theorem Token.joined_filledBody (count : Option Count) (tokens : List Token) :
    Expr.joined (Token.emittedParts locale bidi count (Token.filledBody tokens)) =
      Expr.joined (Token.emittedParts locale bidi count tokens) := by
  rw [Token.filledBody, Token.joined_orEmptyText, Token.emittedParts_eachFilled]

end Filling

section Writing

variable (locale : String) (count : Option Count)

/-- The text of a part without marks of direction.  The others are those of a body, of the parts after
the first of a body, and of cases after others, with the closing brace. -/
def Token.written (token : Token) : List Char :=
  Expr.partChars (token.emitted (some locale) false count)

def Token.bodyWritten (tokens : List Token) : List Char :=
  (Expr.joined (Token.emittedParts (some locale) false count tokens)).chars

def Token.tailWritten (tokens : List Token) : List Char :=
  Expr.partTailChars (Token.emittedParts (some locale) false count tokens)

def Case.written (cases : List Case) : List Char :=
  Expr.entryTailChars (Case.emitted (some locale) false count cases) ++ [' ', '}']

theorem Token.written_of_emitted {token : Token} {expr : Expr}
    (emitted : token.emitted (some locale) false count = [expr]) :
    token.written locale count = expr.chars := by
  rw [Token.written, emitted, Expr.partChars, Expr.partTailChars, List.append_nil]

theorem Token.emitted_eq_singleton (token : Token) :
    ∃ expr, token.emitted (some locale) false count = [expr] := by
  cases token <;> exact ⟨_, rfl⟩

theorem Token.tailWritten_cons (token : Token) (rest : List Token) :
    Token.tailWritten locale count (token :: rest) =
      [' ', '+', ' '] ++ (token.written locale count ++ Token.tailWritten locale count rest) := by
  obtain ⟨expr, emitted⟩ := token.emitted_eq_singleton locale count
  rw [Token.written_of_emitted locale count emitted, Token.tailWritten, Token.emittedParts, emitted]
  rfl

theorem Token.bodyWritten_cons (token : Token) (rest : List Token) :
    Token.bodyWritten locale count (token :: rest) =
      token.written locale count ++ Token.tailWritten locale count rest := by
  obtain ⟨expr, emitted⟩ := token.emitted_eq_singleton locale count
  rw [Token.written_of_emitted locale count emitted, Token.bodyWritten, Token.tailWritten,
    Token.emittedParts, emitted]
  cases Token.emittedParts (some locale) false count rest with
  | nil =>
      rw [Expr.partTailChars, List.append_nil, List.append_nil]
      rfl
  | cons next others => rfl

theorem Token.bodyWritten_orEmptyText (tokens : List Token) :
    Token.bodyWritten locale count (Token.orEmptyText tokens) = Token.bodyWritten locale count tokens := by
  rw [Token.bodyWritten, Token.joined_orEmptyText, Token.bodyWritten]

theorem Case.written_cons (key : String) (body : List Token) (rest : List Case) :
    Case.written locale count (.mk key body :: rest) = ',' :: ' ' :: (propertyChars key ++
      ':' :: ' ' :: (Token.bodyWritten locale count body ++ Case.written locale count rest)) := by
  simp [Case.written, Case.emitted, Expr.entryTailChars, Token.bodyWritten]

/-- The text of a plural or ordinal choice up to the end of its cases, and what follows. -/
def Case.pluralWritten (arg : String) (value : Int) (cases : List Case) (rest : List Char) : List Char :=
  ['p', 'l', 'u', 'r', 'a', 'l', '('] ++ ((Expr.read arg).chars ++ ([',', ' '] ++
    ((Expr.literal (.int value)).chars ++ ([',', ' '] ++ ((functionName locale).toList ++
      ([',', ' ', '{', ' '] ++ (Expr.entryChars (Case.emitted (some locale) false
        (some ⟨arg, .int value⟩) cases) ++ ' ' :: '}' :: rest)))))))

theorem Token.written_select (arg : String) (cases : List Case) (rest : List Char) :
    (Token.select arg cases).written locale count ++ rest =
      ['s', 'e', 'l', 'e', 'c', 't', '('] ++ ((Expr.read arg).chars ++ ([',', ' ', '{', ' '] ++
        (Expr.entryChars (Case.emitted (some locale) false count cases) ++
          ' ' :: '}' :: ')' :: rest))) := by
  rw [Token.written_of_emitted locale count rfl]
  simp [Expr.helper, Expr.chars, Expr.argChars, Expr.argTailChars, Helper.name]

theorem Token.written_plural (arg : String) (cases : List Case) (value : Int) (rest : List Char) :
    (Token.plural arg cases (.int value)).written locale count ++ rest =
      Case.pluralWritten locale arg value cases (')' :: rest) := by
  rw [Token.written_of_emitted locale count rfl]
  simp [Expr.helper, Expr.chars, Expr.argChars, Expr.argTailChars, Helper.name, Offset.toJson,
    Case.pluralWritten]

theorem Token.written_ordinal (arg : String) (cases : List Case) (rest : List Char) :
    (Token.ordinal arg cases).written locale count ++ rest =
      Case.pluralWritten locale arg 0 cases ([',', ' ', '1', ')'] ++ rest) := by
  have one : (Expr.literal (.int 1)).chars = ['1'] := by decide
  rw [Expr.chars] at one
  rw [Token.written_of_emitted locale count rfl]
  simp [Expr.helper, Expr.chars, Expr.argChars, Expr.argTailChars, Helper.name, one, Case.pluralWritten]

end Writing

/-- The first character of what is written for a part, which tells the kinds of parts apart except
for plural and ordinal choices. -/
def Token.lead : Token → Char
  | .text _ => '"'
  | .argument _ => 'd'
  | .octothorpe => 'n'
  | .select _ _ => 's'
  | .plural _ _ _ | .ordinal _ _ => 'p'
  | .call _ _ _ => 'f'

section Cancellation

variable (locale : String) {count : Option Count}

theorem Token.exists_lead (token : Token) (clear : token.IsClear count.isSome) :
    ∃ rest, token.written locale count = token.lead :: rest := by
  obtain ⟨expr, emitted⟩ := token.emitted_eq_singleton locale count
  rw [Token.written_of_emitted locale count emitted]
  cases token with
  | octothorpe =>
      cases count with
      | none => cases clear
      | some inner =>
          cases emitted
          simp [Token.lead, Count.emitted, Expr.helper, Expr.chars, Helper.name]
  | text text =>
      cases emitted
      exact ⟨_, rfl⟩
  | argument arg =>
      obtain ⟨chars, _, written⟩ := memberChars_eq_append Receiver.data.name.toList arg
      cases emitted
      exact ⟨chars, written⟩
  | call key arg params =>
      obtain ⟨chars, _, written⟩ := memberChars_eq_append Receiver.formatters.name.toList key
      cases emitted
      rw [Expr.chars, Expr.chars, written]
      exact ⟨_, rfl⟩
  | select arg cases =>
      cases emitted
      simp [Token.lead, Expr.helper, Expr.chars, Helper.name]
  | plural arg cases offset =>
      cases emitted
      simp [Token.lead, Expr.helper, Expr.chars, Helper.name]
  | ordinal arg cases =>
      cases emitted
      simp [Token.lead, Expr.helper, Expr.chars, Helper.name]

theorem Token.lead_eq {token other : Token} {rest otherRest : List Char}
    (clear : token.IsClear count.isSome) (otherClear : other.IsClear count.isSome)
    (same : token.written locale count ++ rest = other.written locale count ++ otherRest) :
    token.lead = other.lead := by
  obtain ⟨tail, written⟩ := token.exists_lead locale clear
  obtain ⟨otherTail, otherWritten⟩ := other.exists_lead locale otherClear
  rw [written, otherWritten] at same
  exact (List.cons.inj same).1

/-- An item can be told from its text, up to a view of it, and its text from what comes after it. -/
def Delimits {α β : Type} (written : Option Count → α → List Char) (clear : Bool → α → Prop)
    (follows : List Char → Prop) (view : α → β) (item : α) : Prop :=
  ∀ (count : Option Count) (other : α) (rest otherRest : List Char),
    clear count.isSome item → clear count.isSome other → follows rest → follows otherRest →
    written count item ++ rest = written count other ++ otherRest →
    view item = view other ∧ rest = otherRest

def Token.Cancels (token : Token) : Prop :=
  Delimits (Token.written locale) Token.IsClear Stops Token.filled token

def Token.TailCancels (tokens : List Token) : Prop :=
  Delimits (Token.tailWritten locale) Token.AreClear Ends Token.eachFilled tokens

def Token.BodyCancels (tokens : List Token) : Prop :=
  Delimits (Token.bodyWritten locale) Token.AreClear Ends Token.filledBody tokens

def Case.Cancel (cases : List Case) : Prop :=
  Delimits (Case.written locale) Case.AreClear (fun _ => True) Case.filled cases

theorem Token.emitted_cancel {token other : Token} {expr otherExpr : Expr} {rest otherRest : List Char}
    (emitted : token.emitted (some locale) false count = [expr])
    (otherEmitted : other.emitted (some locale) false count = [otherExpr])
    (spells : Spells (.part expr) expr.chars) (otherSpells : Spells (.part otherExpr) otherExpr.chars)
    (stops : Stops rest) (otherStops : Stops otherRest)
    (same : token.written locale count ++ rest = other.written locale count ++ otherRest) :
    expr = otherExpr ∧ rest = otherRest := by
  rw [Token.written_of_emitted locale count emitted,
    Token.written_of_emitted locale count otherEmitted] at same
  exact spells.cancel otherSpells stops otherStops same

theorem Token.text_cancels (text : String) : (Token.text text).Cancels locale := by
  intro count other rest otherRest clear otherClear stops otherStops same
  have lead := Token.lead_eq locale clear otherClear same
  cases other with
  | text other =>
      obtain ⟨exprs, rests⟩ := Token.emitted_cancel locale rfl rfl (.textChars text) (.textChars other)
        stops otherStops same
      cases exprs
      exact ⟨rfl, rests⟩
  | _ => simp [Token.lead] at lead

theorem Token.argument_cancels (arg : String) : (Token.argument arg).Cancels locale := by
  intro count other rest otherRest clear otherClear stops otherStops same
  have lead := Token.lead_eq locale clear otherClear same
  cases other with
  | argument other =>
      obtain ⟨exprs, rests⟩ := Token.emitted_cancel locale rfl rfl (.readChars arg) (.readChars other)
        stops otherStops same
      cases exprs
      exact ⟨rfl, rests⟩
  | _ => simp [Token.lead] at lead

theorem Token.octothorpe_cancels : Token.octothorpe.Cancels locale := by
  intro count other rest otherRest clear otherClear stops otherStops same
  have lead := Token.lead_eq locale clear otherClear same
  cases other with
  | octothorpe => exact ⟨rfl, List.append_cancel_left same⟩
  | _ => simp [Token.lead] at lead

theorem Token.paramLiterals_injective {params others : List String}
    (same : Token.paramLiterals params = Token.paramLiterals others) : params = others := by
  -- None, one and more are written as nothing, a string and an array.
  rcases params with _ | ⟨first, _ | ⟨second, rest⟩⟩
  · rcases others with _ | ⟨other, _ | ⟨next, others⟩⟩
    · rfl
    · cases same
    · cases same
  · rcases others with _ | ⟨other, _ | ⟨next, others⟩⟩
    · cases same
    · cases same
      rfl
    · cases same
  · rcases others with _ | ⟨other, _ | ⟨next, others⟩⟩
    · cases same
    · cases same
    · have texts : (first :: second :: rest).map Json.str = (other :: next :: others).map Json.str := by
        simpa [Token.paramLiterals] using same
      exact (List.map_inj_right fun _ _ => Json.str.inj).mp texts

theorem Token.spells_call (key arg : String) (params : List String) :
    Spells (.part (.call (.member .formatters key)
        (.read arg :: .text locale :: Token.paramLiterals params)))
      (Expr.call (.member .formatters key)
        (.read arg :: .text locale :: Token.paramLiterals params)).chars := by
  apply Spells.formatterChars
  simp only [List.forall_mem_cons]
  exact ⟨.ofPart (.readChars arg), .ofPart (.textChars locale), Token.spells_params params⟩

theorem Token.call_cancels (key arg : String) (params : List String) :
    (Token.call key arg params).Cancels locale := by
  intro count other rest otherRest clear otherClear stops otherStops same
  have lead := Token.lead_eq locale clear otherClear same
  cases other with
  | call otherKey otherArg others =>
      obtain ⟨exprs, rests⟩ := Token.emitted_cancel locale rfl rfl
        (Token.spells_call locale key arg params) (Token.spells_call locale otherKey otherArg others)
        stops otherStops same
      injection exprs with callee args
      injection callee with _ keys
      injection args with reads locales
      injection reads with _ argsSame
      injection locales with _ literals
      rw [keys, argsSame, Token.paramLiterals_injective literals]
      exact ⟨rfl, rests⟩
  | _ => simp [Token.lead] at lead

theorem entryChars_visible (entry : String × Expr) (entries : List (String × Expr))
    (after rest : List Char) : Expr.entryChars (entry :: entries) ++ after ≠ ' ' :: rest := by
  obtain ⟨first, name, spelled, visible⟩ := (spellsKey_propertyChars entry.1).exists_lead
  intro same
  rw [Expr.entryChars, spelled] at same
  exact visible (List.cons.inj same).1

/-- The first entry of an object is written as one after others, but for a comma. -/
theorem Case.written_of_object {cases others : List Case} {rest otherRest : List Char}
    (same : Expr.entryChars (Case.emitted (some locale) false count cases) ++ ' ' :: '}' :: rest =
      Expr.entryChars (Case.emitted (some locale) false count others) ++ ' ' :: '}' :: otherRest) :
    Case.written locale count cases ++ rest = Case.written locale count others ++ otherRest := by
  rw [Case.written, Case.written, List.append_assoc, List.append_assoc]
  match Case.emitted (some locale) false count cases, Case.emitted (some locale) false count others,
    same with
  | [], [], same => exact same
  | _ :: _, _ :: _, same => exact congrArg (fun text => ',' :: ' ' :: text) same
  | [], other :: others, same => exact absurd same.symm (entryChars_visible other others _ _)
  | entry :: entries, [], same => exact absurd same (entryChars_visible entry entries _ _)

theorem Token.select_cancels (arg : String) {cases : List Case} (cancel : Case.Cancel locale cases) :
    (Token.select arg cases).Cancels locale := by
  intro count other rest otherRest clear otherClear _ _ same
  have lead := Token.lead_eq locale clear otherClear same
  cases other with
  | select otherArg others =>
      rw [Token.written_select, Token.written_select] at same
      obtain ⟨reads, objects⟩ := (Spells.readChars arg).cancel (Spells.readChars otherArg)
        (by simp [Stops]) (by simp [Stops]) (List.append_cancel_left same)
      cases reads
      obtain ⟨filled, rests⟩ := cancel count others _ _ clear otherClear trivial trivial
        (Case.written_of_object locale (List.append_cancel_left objects))
      rw [Token.filled, Token.filled, filled]
      exact ⟨rfl, (List.cons.inj rests).2⟩
  | _ => simp [Token.lead] at lead

/-- The text of a plural choice tells its argument, its offset and its cases. -/
theorem Case.pluralWritten_cancel {arg otherArg : String} {value otherValue : Int}
    {cases others : List Case} {rest otherRest : List Char} (cancel : Case.Cancel locale cases)
    (clear : Case.AreClear true cases) (otherClear : Case.AreClear true others)
    (same : Case.pluralWritten locale arg value cases rest =
      Case.pluralWritten locale otherArg otherValue others otherRest) :
    arg = otherArg ∧ value = otherValue ∧ Case.filled cases = Case.filled others ∧
      rest = otherRest := by
  rw [Case.pluralWritten, Case.pluralWritten] at same
  obtain ⟨reads, shifts⟩ := (Spells.readChars arg).cancel (Spells.readChars otherArg)
    (by simp [Stops]) (by simp [Stops]) (List.append_cancel_left same)
  obtain ⟨values, rules⟩ := (Spells.integerChars value).cancel (Spells.integerChars otherValue)
    (by simp [Stops]) (by simp [Stops]) (List.append_cancel_left shifts)
  cases reads
  cases values
  have objects := List.append_cancel_left (List.append_cancel_left rules)
  obtain ⟨filled, rests⟩ := cancel (some ⟨arg, .int value⟩) others rest otherRest clear otherClear
    trivial trivial (Case.written_of_object locale (List.append_cancel_left objects))
  exact ⟨rfl, rfl, filled, rests⟩

theorem Token.plural_cancels (arg : String) {cases : List Case} (offset : Offset)
    (cancel : Case.Cancel locale cases) : (Token.plural arg cases offset).Cancels locale := by
  intro count other rest otherRest clear otherClear _ _ same
  have lead := Token.lead_eq locale clear otherClear same
  obtain ⟨⟨value, rfl⟩, clear⟩ := clear
  rw [Token.written_plural] at same
  cases other with
  | plural otherArg others otherOffset =>
      obtain ⟨⟨otherValue, rfl⟩, otherClear⟩ := otherClear
      rw [Token.written_plural] at same
      obtain ⟨rfl, rfl, filled, rests⟩ := Case.pluralWritten_cancel locale cancel clear otherClear same
      rw [Token.filled, Token.filled, filled]
      exact ⟨rfl, (List.cons.inj rests).2⟩
  | ordinal otherArg others =>
      rw [Token.written_ordinal] at same
      obtain ⟨_, _, _, rests⟩ := Case.pluralWritten_cancel locale cancel clear otherClear same
      -- After the cases one text closes the call where the other goes on.
      cases rests
  | _ => simp [Token.lead] at lead

theorem Token.ordinal_cancels (arg : String) {cases : List Case} (cancel : Case.Cancel locale cases) :
    (Token.ordinal arg cases).Cancels locale := by
  intro count other rest otherRest clear otherClear _ _ same
  have lead := Token.lead_eq locale clear otherClear same
  rw [Token.written_ordinal] at same
  cases other with
  | ordinal otherArg others =>
      rw [Token.written_ordinal] at same
      obtain ⟨rfl, _, filled, rests⟩ := Case.pluralWritten_cancel locale cancel clear otherClear same
      rw [Token.filled, Token.filled, filled]
      exact ⟨rfl, List.append_cancel_left rests⟩
  | plural otherArg others otherOffset =>
      obtain ⟨⟨otherValue, rfl⟩, otherClear⟩ := otherClear
      rw [Token.written_plural] at same
      obtain ⟨_, _, _, rests⟩ := Case.pluralWritten_cancel locale cancel clear otherClear same
      cases rests
  | _ => simp [Token.lead] at lead

/-- What follows a part in a body is another part, or what follows the body. -/
theorem Token.tailWritten_stops (count : Option Count) (tokens : List Token) {rest : List Char}
    (ends : Ends rest) : Stops (Token.tailWritten locale count tokens ++ rest) := by
  cases tokens with
  | nil => exact ends.1
  | cons token others =>
      rw [Token.tailWritten_cons]
      simp [Stops]

theorem Token.parts_cancel {token other : Token} {tokens others : List Token}
    {rest otherRest : List Char} (cancels : token.Cancels locale)
    (tailCancels : Token.TailCancels locale tokens)
    (clear : Token.AreClear count.isSome (token :: tokens))
    (otherClear : Token.AreClear count.isSome (other :: others)) (ends : Ends rest)
    (otherEnds : Ends otherRest)
    (same : token.written locale count ++ (Token.tailWritten locale count tokens ++ rest) =
      other.written locale count ++ (Token.tailWritten locale count others ++ otherRest)) :
    Token.eachFilled (token :: tokens) = Token.eachFilled (other :: others) ∧ rest = otherRest := by
  obtain ⟨filled, tails⟩ := cancels count other _ _ clear.1 otherClear.1
    (Token.tailWritten_stops locale count tokens ends)
    (Token.tailWritten_stops locale count others otherEnds) same
  obtain ⟨tailFilled, rests⟩ := tailCancels count others rest otherRest clear.2 otherClear.2 ends
    otherEnds tails
  exact ⟨by rw [Token.eachFilled, Token.eachFilled, filled, tailFilled], rests⟩

theorem Token.tailWritten_cons_ne (count : Option Count) (token : Token) (tokens : List Token)
    (otherRest : List Char) {rest : List Char} (ends : Ends rest) :
    Token.tailWritten locale count (token :: tokens) ++ otherRest ≠ rest := by
  intro same
  rw [Token.tailWritten_cons] at same
  exact ends.2 ⟨_, same⟩

theorem Token.tailCancels_nil : Token.TailCancels locale [] := by
  intro count others rest otherRest _ _ ends _ same
  cases others with
  | nil => exact ⟨rfl, same⟩
  | cons other others =>
      exact absurd same.symm (Token.tailWritten_cons_ne locale count other others otherRest ends)

theorem Token.tailCancels_cons {token : Token} {tokens : List Token} (cancels : token.Cancels locale)
    (tailCancels : Token.TailCancels locale tokens) : Token.TailCancels locale (token :: tokens) := by
  intro count others rest otherRest clear otherClear ends otherEnds same
  cases others with
  | nil => exact absurd same (Token.tailWritten_cons_ne locale count token tokens rest otherEnds)
  | cons other others =>
      simp only [Token.tailWritten_cons, List.append_assoc] at same
      exact Token.parts_cancel locale cancels tailCancels clear otherClear ends otherEnds
        (List.append_cancel_left same)

theorem Token.bodyCancels_cons {token : Token} {tokens : List Token} (cancels : token.Cancels locale)
    (tailCancels : Token.TailCancels locale tokens) : Token.BodyCancels locale (token :: tokens) := by
  intro count others rest otherRest clear otherClear ends otherEnds same
  -- The other body may have no parts; it is written as if it had an empty text.
  obtain ⟨other, more, nonempty⟩ : ∃ other more, Token.orEmptyText others = other :: more := by
    cases others <;> exact ⟨_, _, rfl⟩
  have moreClear : Token.AreClear count.isSome (other :: more) := by
    rw [← nonempty]
    cases others with
    | nil => exact ⟨trivial, trivial⟩
    | cons _ _ => exact otherClear
  rw [← Token.bodyWritten_orEmptyText locale count others, nonempty] at same
  simp only [Token.bodyWritten_cons, List.append_assoc] at same
  rw [Token.filledBody_eq others, nonempty]
  exact Token.parts_cancel locale cancels tailCancels clear moreClear ends otherEnds same

theorem Token.bodyCancels_nil : Token.BodyCancels locale [] := by
  intro count others rest otherRest _ otherClear ends otherEnds same
  have cancels := Token.bodyCancels_cons locale (Token.text_cancels locale "")
    (Token.tailCancels_nil locale)
  exact cancels count others rest otherRest ⟨trivial, trivial⟩ otherClear ends otherEnds same

theorem Case.cancel_nil : Case.Cancel locale [] := by
  intro count others rest otherRest _ _ _ _ same
  match others with
  | [] => exact ⟨rfl, List.append_cancel_left same⟩
  | .mk otherKey otherBody :: others =>
      rw [Case.written_cons] at same
      cases same

theorem Case.ends_written (count : Option Count) (cases : List Case) (rest : List Char) :
    Ends (Case.written locale count cases ++ rest) := by
  match cases with
  | [] => simp [Case.written, Case.emitted, Expr.entryTailChars, Ends, Stops]
  | .mk key body :: cases => simp [Case.written_cons, Ends, Stops]

theorem Case.cancel_cons (key : String) {body : List Token} {cases : List Case}
    (bodyCancels : Token.BodyCancels locale body) (cancel : Case.Cancel locale cases) :
    Case.Cancel locale (.mk key body :: cases) := by
  intro count others rest otherRest clear otherClear _ _ same
  match others with
  | [] =>
      rw [Case.written_cons] at same
      cases same
  | .mk otherKey otherBody :: others =>
      simp only [Case.written_cons, List.append_assoc, List.cons_append, List.cons.injEq,
        true_and] at same
      obtain ⟨rfl, bodies⟩ := propertyChars_cancel same
      obtain ⟨bodyFilled, more⟩ := bodyCancels count otherBody _ _ clear.1 otherClear.1
        (Case.ends_written locale count cases rest) (Case.ends_written locale count others otherRest)
        bodies
      obtain ⟨filled, rests⟩ := cancel count others rest otherRest clear.2 otherClear.2 trivial trivial
        more
      rw [Token.filledBody, Token.filledBody] at bodyFilled
      rw [Case.filled, Case.filled, bodyFilled, filled]
      exact ⟨rfl, rests⟩

mutual

theorem Token.cancels : (token : Token) → token.Cancels locale
  | .text text => Token.text_cancels locale text
  | .argument arg => Token.argument_cancels locale arg
  | .octothorpe => Token.octothorpe_cancels locale
  | .select arg cases => Token.select_cancels locale arg (Case.cancel cases)
  | .plural arg cases offset => Token.plural_cancels locale arg offset (Case.cancel cases)
  | .ordinal arg cases => Token.ordinal_cancels locale arg (Case.cancel cases)
  | .call key arg params => Token.call_cancels locale key arg params

theorem Token.tailCancels : (tokens : List Token) → Token.TailCancels locale tokens
  | [] => Token.tailCancels_nil locale
  | token :: rest => Token.tailCancels_cons locale token.cancels (Token.tailCancels rest)

theorem Case.cancel : (cases : List Case) → Case.Cancel locale cases
  | [] => Case.cancel_nil locale
  | .mk key [] :: rest => Case.cancel_cons locale key (Token.bodyCancels_nil locale) (Case.cancel rest)
  | .mk key (token :: tokens) :: rest =>
      Case.cancel_cons locale key
        (Token.bodyCancels_cons locale token.cancels (Token.tailCancels tokens)) (Case.cancel rest)

end

end Cancellation

theorem Token.body_cancels (locale : String) (tokens : List Token) :
    Token.BodyCancels locale tokens := by
  cases tokens with
  | nil => exact Token.bodyCancels_nil locale
  | cons token rest =>
      exact Token.bodyCancels_cons locale (token.cancels locale) (Token.tailCancels locale rest)

theorem Target.Expr.functionSource_inj {body other : Expr} :
    body.functionSource = other.functionSource ↔ body.chars = other.chars := by
  rw [functionSource_eq, functionSource_eq, String.append_left_inj, String.append_right_inj, source,
    source, String.ofList_inj]

/-- Messages compile to the same source exactly when they are the same, up to bodies without parts,
which are written as an empty text. -/
theorem compile_tells_messages_apart {φ ψ : Type} (names otherNames : List String) (locale : String)
    (tokens others : List Token) (desk after : Desk φ) (otherDesk otherAfter : Desk ψ)
    (body otherBody : Expr)
    (clear : Token.AreClear false tokens) (otherClear : Token.AreClear false others)
    (unmarked : desk.config.settings.bidi = false) (otherUnmarked : otherDesk.config.settings.bidi = false)
    (returned : (Compilation.compile (.tags names) (some locale)
      (Template.message tokens).toValue).run desk = (.ok (.function body), after))
    (otherReturned : (Compilation.compile (.tags otherNames) (some locale)
      (Template.message others).toValue).run otherDesk = (.ok (.function otherBody), otherAfter)) :
    body.functionSource = otherBody.functionSource ↔
      Token.filledBody tokens = Token.filledBody others := by
  obtain ⟨emitted, _⟩ := Template.follows_of_ok returned
  obtain ⟨otherEmitted, _⟩ := Template.follows_of_ok otherReturned
  rw [unmarked, Template.emitted] at emitted
  rw [otherUnmarked, Template.emitted] at otherEmitted
  cases emitted
  cases otherEmitted
  rw [Expr.functionSource_inj]
  have ends : Ends [] := ⟨by simp [Stops], by simp⟩
  refine ⟨fun same => ?_, fun same => ?_⟩
  · have written : Token.bodyWritten locale none tokens ++ [] =
        Token.bodyWritten locale none others ++ [] := congrArg (· ++ []) same
    exact (Token.body_cancels locale tokens none others [] [] clear otherClear ends ends written).1
  · rw [← Token.joined_filledBody, same, Token.joined_filledBody]

/-- A plural choice and an ordinal one are told apart, also for a locale whose rules have no name. -/
theorem ordinal_is_told_apart :
    ∃ body otherBody after otherAfter,
      (Compilation.compile (.tags []) (some " ") (Template.message
        [.plural "n" [.mk "other" []] (.int 0)]).toValue).run (Desk.sample 1) =
          (.ok (.function body), after) ∧
      (Compilation.compile (.tags []) (some " ") (Template.message
        [.ordinal "n" [.mk "other" [.text ""]]]).toValue).run (Desk.sample 1) =
          (.ok (.function otherBody), otherAfter) ∧
      body.functionSource ≠ otherBody.functionSource := by
  refine ⟨_, _, _, _, rfl, rfl, fun same => ?_⟩
  have clear : Token.AreClear false [.plural "n" [.mk "other" []] (.int 0)] :=
    ⟨⟨⟨0, rfl⟩, trivial, trivial⟩, trivial⟩
  have otherClear : Token.AreClear false [.ordinal "n" [.mk "other" [.text ""]]] :=
    ⟨⟨⟨trivial, trivial⟩, trivial⟩, trivial⟩
  have filled := (compile_tells_messages_apart [] [] " " _ _ (Desk.sample 1) _ (Desk.sample 1) _ _ _
    clear otherClear rfl rfl rfl rfl).mp same
  cases filled

end Phrasebook
