import Phrasebook.Proofs.Visitor.Tour
import Phrasebook.Proofs.Compiler.Tables
import Phrasebook.Summary

/-!
What a summary says.  The walk over a template collects exactly the arguments and formatters of its
parts, and notes whether there are choices of either kind and number signs that count something.
-/

namespace Phrasebook

theorem Value.insert_str (set : List Value) (text : String) :
    ∃ extended, Value.insert set (.str text) = .ok extended ∧
      ExtendedBy set (· = .str text) extended := by
  have hashable : (Value.str text).isHashable = true := rfl
  refine ⟨_, by simp only [Value.insert, hashable]; rfl, ?_⟩
  intro value
  split
  · rename_i present
    obtain ⟨held, member, same⟩ := List.any_eq_true.mp present
    rw [Value.same_str] at same
    constructor
    · exact .inl
    · rintro (old | rfl)
      · exact old
      · rwa [← same]
  · simp

namespace Summary

/-- The second summary is the first with exactly what these parts say. -/
structure Collects (parts : List Token) (before after : Summary) : Prop where
  arguments : ∀ value, value ∈ after.arguments ↔
    value ∈ before.arguments ∨ ∃ key, value = .str key ∧ Token.Reads parts key
  formatters : ∀ value, value ∈ after.formatters ↔
    value ∈ before.formatters ∨ ∃ key, value = .str key ∧ Token.Calls parts key
  usesSelect : after.usesSelect = true ↔
    before.usesSelect = true ∨ ∃ part ∈ parts, part.IsSelect
  usesPlural : after.usesPlural = true ↔
    before.usesPlural = true ∨ ∃ part ∈ parts, part.IsPlural
  usesOctothorpe : after.usesOctothorpe = true ↔
    before.usesOctothorpe = true ∨ Token.NumberShown (before.pluralDepth ≠ 0) parts
  pluralDepth : after.pluralDepth = before.pluralDepth

namespace Collects

variable {first last parts : List Token} {before between after : Summary}

theorem nil (summary : Summary) : Collects [] summary summary := by
  constructor <;> simp [Token.Reads, Token.Calls, Token.NumberShown]

theorem append (one : Collects first before between) (two : Collects last between after) :
    Collects (first ++ last) before after where
  arguments value := by
    rw [two.arguments, one.arguments, or_assoc, ← exists_or]
    simp [Token.Reads, or_and_right, exists_or, and_or_left]
  formatters value := by
    rw [two.formatters, one.formatters, or_assoc, ← exists_or]
    simp [Token.Calls, exists_or, and_or_left]
  usesSelect := by
    rw [two.usesSelect, one.usesSelect]
    simp [or_assoc, or_and_right, exists_or]
  usesPlural := by
    rw [two.usesPlural, one.usesPlural]
    simp [or_assoc, or_and_right, exists_or]
  usesOctothorpe := by
    rw [two.usesOctothorpe, one.usesOctothorpe, one.pluralDepth, or_assoc,
      ← Token.numberShown_append]
  pluralDepth := two.pluralDepth.trans one.pluralDepth

theorem text (text : String) (summary : Summary) : Collects [.text text] summary summary := by
  constructor <;> simp [Token.Reads, Token.Calls, Token.NumberShown, Token.IsSelect, Token.IsPlural,
    Token.arg?]

theorem octothorpe (summary : Summary) : Collects [.octothorpe] summary
    { summary with usesOctothorpe := summary.usesOctothorpe || summary.pluralDepth != 0 } := by
  constructor <;> simp [Token.Reads, Token.Calls, Token.NumberShown, Token.IsSelect, Token.IsPlural,
    Token.arg?]

variable {arguments formatters : List Value}

theorem argument {arg : String} (read : ExtendedBy before.arguments (· = .str arg) arguments) :
    Collects [.argument arg] before { before with arguments := arguments } := by
  have read := fun value => read value
  constructor <;> simp [Token.Reads, Token.Calls, Token.NumberShown, Token.IsSelect, Token.IsPlural,
    Token.arg?, read]

theorem call {key arg : String} (params : List String)
    (read : ExtendedBy before.arguments (· = .str arg) arguments)
    (called : ExtendedBy before.formatters (· = .str key) formatters) :
    Collects [.call key arg params] before
      { before with arguments := arguments, formatters := formatters } := by
  have read := fun value => read value
  have called := fun value => called value
  constructor <;> simp [Token.Reads, Token.Calls, Token.NumberShown, Token.IsSelect, Token.IsPlural,
    Token.arg?, read, called]

theorem select {arg : String} (cases : List Case)
    (read : ExtendedBy before.arguments (· = .str arg) arguments) :
    Collects [.select arg cases] before
      { before with arguments := arguments, usesSelect := true } := by
  have read := fun value => read value
  constructor <;> simp [Token.Reads, Token.Calls, Token.NumberShown, Token.IsSelect, Token.IsPlural,
    Token.arg?, read]

/-- A plural choice counts as one more around what is inside it, and no longer after it. -/
theorem plural {token : Token} {arg : String} (isPlural : token.IsPlural) (has : token.arg? = some arg)
    (read : ExtendedBy before.arguments (· = .str arg) arguments)
    (inside : Collects token.inside
      { before with
        arguments := arguments
        usesPlural := true
        pluralDepth := before.pluralDepth + 1 } between) :
    Collects (token :: token.inside) before
      { between with pluralDepth := between.pluralDepth - 1 } where
  arguments value := by
    simp only [inside.arguments, read value]
    simp [Token.Reads, has, or_and_right, exists_or, and_or_left, or_assoc]
  formatters value := by
    simp only [inside.formatters]
    rcases isPlural with ⟨_, _, _, rfl⟩ | ⟨_, _, rfl⟩ <;> simp [Token.Calls]
  usesSelect := by
    simp only [inside.usesSelect]
    rcases isPlural with ⟨_, _, _, rfl⟩ | ⟨_, _, rfl⟩ <;> simp [Token.IsSelect]
  usesPlural := by simp [inside.usesPlural, isPlural]
  usesOctothorpe := by
    simp only [inside.usesOctothorpe, Token.numberShown_plural isPlural]
    simp
  pluralDepth := by simp [inside.pluralDepth]

end Collects

variable (summary : Summary)

theorem addArgument_str (part : Value) {arg : String} (has : part.arg? = some (.str arg)) :
    ∃ arguments, summary.addArgument part = .ok { summary with arguments := arguments } ∧
      ExtendedBy summary.arguments (· = .str arg) arguments := by
  obtain ⟨extended, inserted, read⟩ := Value.insert_str summary.arguments arg
  refine ⟨extended, ?_, read⟩
  simp only [addArgument, has, inserted]
  rfl

theorem addFormatter_str (part : Value) {key : String} (has : part.key? = some (.str key)) :
    ∃ formatters, summary.addFormatter part = .ok { summary with formatters := formatters } ∧
      ExtendedBy summary.formatters (· = .str key) formatters := by
  obtain ⟨extended, inserted, called⟩ := Value.insert_str summary.formatters key
  refine ⟨extended, ?_, called⟩
  simp only [addFormatter, has, inserted]
  rfl

/-- A walk over an outline notes what these parts say. -/
def Noted (depth : Int) (outline : Outline) (parts : List Token) (before : Summary) : Prop :=
  ∃ after, visitor.Notes depth outline before after ∧ Collects parts before after

namespace Noted

variable {depth : Int} {value : Value} {inside rest : Outline} {own parts last : List Token}
  {before entry : Summary} {handler : Handler Summary}

theorem done (depth : Int) (summary : Summary) : Noted depth .done [] summary :=
  ⟨summary, .done, .nil summary⟩

theorem unhandled (none : visitor.handler? value.typeName = none)
    (within : Noted (depth + 1) inside parts before) (further : ∀ between, Noted depth rest last between) :
    Noted depth (.part value inside rest) (parts ++ last) before := by
  obtain ⟨between, notes, collects⟩ := within
  obtain ⟨after, furtherNotes, others⟩ := further between
  exact ⟨after, .unhandled none notes furtherNotes, collects.append others⟩

theorem leaf (found : visitor.handler? value.typeName = some handler)
    (entered : handler.enter value depth before = .ok entry) (stays : handler.descends = false)
    (collects : Collects own before entry) (further : ∀ between, Noted depth rest last between) :
    Noted depth (.part value inside rest) (own ++ last) before := by
  obtain ⟨after, furtherNotes, others⟩ := further entry
  exact ⟨after, .leaf found entered stays furtherNotes, collects.append others⟩

theorem through (found : visitor.handler? value.typeName = some handler)
    (entered : handler.enter value depth before = .ok entry) (descends : handler.descends = true)
    (within : Noted (depth + 1) inside parts entry)
    (whole : ∀ between, Collects parts entry between → Collects own before (handler.leave between))
    (further : ∀ between, Noted depth rest last between) :
    Noted depth (.part value inside rest) (own ++ last) before := by
  obtain ⟨between, notes, collects⟩ := within
  obtain ⟨after, furtherNotes, others⟩ := further (handler.leave between)
  exact ⟨after, .through found entered descends notes furtherNotes,
    (whole between collects).append others⟩

end Noted

theorem pluralHandler_enter (part : Value) {arg : String} (has : part.arg? = some (.str arg))
    (depth : Int) :
    ∃ arguments, pluralHandler.enter part depth summary = .ok { summary with
        arguments := arguments
        usesPlural := true
        pluralDepth := summary.pluralDepth + 1 } ∧
      ExtendedBy summary.arguments (· = .str arg) arguments := by
  obtain ⟨arguments, added, read⟩ := summary.addArgument_str part has
  refine ⟨arguments, ?_, read⟩
  simp only [pluralHandler, added]
  rfl

mutual

theorem noted_token (depth : Int) (before : Summary) {rest : Outline} {last : List Token}
    (further : ∀ between, Noted depth rest last between) : (token : Token) →
    Noted depth (.part token.toValue token.insideOutline rest) (token :: token.inside ++ last) before
  | .text text => by
      exact .unhandled rfl ⟨before, .done, .text text before⟩ further
  | .argument arg => by
      obtain ⟨arguments, added, read⟩ := before.addArgument_str (Token.argument arg).toValue rfl
      exact .leaf rfl added rfl (.argument read) further
  | .octothorpe => .leaf rfl rfl rfl (.octothorpe before) further
  | .select arg cases => by
      obtain ⟨arguments, added, read⟩ :=
        before.addArgument_str (Token.select arg cases).toValue rfl
      have entered : selectHandler.enter (Token.select arg cases).toValue depth before =
          .ok { before with arguments := arguments, usesSelect := true } := by
        simp only [selectHandler, added]
        rfl
      exact .through rfl entered rfl (noted_cases (depth + 1) _ cases)
        (fun between inside => (Collects.select cases read).append inside) further
  | .plural arg cases offset => by
      obtain ⟨arguments, entered, read⟩ :=
        before.pluralHandler_enter (Token.plural arg cases offset).toValue rfl depth
      have isPlural : (Token.plural arg cases offset).IsPlural := .inl ⟨arg, cases, offset, rfl⟩
      exact .through rfl entered rfl (noted_cases (depth + 1) _ cases)
        (fun between inside => .plural isPlural rfl read inside) further
  | .ordinal arg cases => by
      obtain ⟨arguments, entered, read⟩ :=
        before.pluralHandler_enter (Token.ordinal arg cases).toValue rfl depth
      have isPlural : (Token.ordinal arg cases).IsPlural := .inr ⟨arg, cases, rfl⟩
      exact .through rfl entered rfl (noted_cases (depth + 1) _ cases)
        (fun between inside => .plural isPlural rfl read inside) further
  | .call key arg params => by
      obtain ⟨arguments, added, read⟩ :=
        before.addArgument_str (Token.call key arg params).toValue rfl
      obtain ⟨formatters, addedKey, called⟩ :=
        addFormatter_str { before with arguments := arguments }
          (Token.call key arg params).toValue rfl
      have entered : callHandler.enter (Token.call key arg params).toValue depth before =
          .ok { before with arguments := arguments, formatters := formatters } := by
        simp only [callHandler, added]
        exact addedKey
      exact .leaf rfl entered rfl (.call params read called) further

theorem noted_tokens (depth : Int) (before : Summary) : (tokens : List Token) →
    Noted depth (Token.outline tokens) (Token.parts tokens) before
  | [] => .done depth before
  | token :: rest => noted_token depth before (fun between => noted_tokens depth between rest) token

theorem noted_cases (depth : Int) (before : Summary) : (cases : List Case) →
    Noted depth (Case.outline cases) (Case.parts cases) before
  | [] => .done depth before
  | .mk _ body :: rest =>
      .unhandled rfl (noted_tokens (depth + 1) before body) fun between =>
        noted_cases depth between rest

end

mutual

theorem noted_template (depth : Int) (before : Summary) {rest : Outline} {last : List Token}
    (further : ∀ between, Noted depth rest last between) : (template : Template) →
    Noted depth (.part template.toValue template.insideOutline rest) (template.parts ++ last) before
  | .message tokens => by
      rw [Template.parts_message]
      exact .unhandled rfl (noted_tokens (depth + 1) before tokens) further
  | .catalog entries => .unhandled rfl (noted_branches (depth + 1) before entries) further

theorem noted_branches (depth : Int) (before : Summary) : (entries : List (String × Template)) →
    Noted depth (Template.branchOutline entries) (Template.catalog entries).parts before
  | [] => .done depth before
  | (key, branch) :: rest => by
      rw [Template.parts_cons]
      exact noted_template depth before (fun between => noted_branches depth between rest) branch

end

/-- Summarising a template ends with what all its parts say, or is refused at the limit. -/
theorem ofTemplate_cases (template : Template) :
    (visitor.levels template.outline ≤ Guard.defaultLimit ∧
      ∃ summary, ofTemplate template.toValue = .ok summary ∧ Collects template.parts {} summary) ∨
    (Guard.defaultLimit < visitor.levels template.outline ∧
      ofTemplate template.toValue = .error (.template (.depthLimitExceeded Guard.defaultLimit))) := by
  have noted : Noted 0 template.outline (template.parts ++ []) {} :=
    noted_template 0 {} (.done 0) template
  rw [List.append_nil] at noted
  obtain ⟨after, notes, collects⟩ := noted
  have ends := notes.ends { notes := {}, guard := .ofLimit Guard.defaultLimit } rfl rfl
  have room := Guard.ofLimit_hasRoom Guard.defaultLimit 1000 (visitor.levels template.outline)
  rw [show max (min Guard.defaultLimit 950) 0 = Guard.defaultLimit from by decide] at room
  have light := visitor.load_frames_le template.outline
  simp only [ofTemplate, Visitor.visit_template, Attempt.run_apply]
  by_cases enough : visitor.levels template.outline ≤ Guard.defaultLimit
  · have frames : (visitor.load template.outline).frames ≤ 1000 := by
      have bound : Guard.defaultLimit = 100 := rfl
      omega
    rw [Attempt.bind_of_ok (ends.returns ⟨room.mpr enough, frames⟩)]
    exact .inl ⟨enough, after, rfl, collects⟩
  · obtain ⟨failure, stopped, refuses, _, refused⟩ := ends.refuses fun bears => enough (room.mp bears.1)
    have ample := ends.ample (show 3 * (Guard.defaultLimit - 0) ≤ (1000 : Nat) by decide)
    rw [refused] at ample
    rw [Attempt.bind_of_error refused]
    cases refuses with
    | tooDeep _ => exact .inr ⟨Int.not_le.mp enough, rfl⟩
    | outOfFrames _ => exact absurd rfl ample

theorem collects_of_ok {template : Template} {summary : Summary}
    (summarised : ofTemplate template.toValue = .ok summary) : Collects template.parts {} summary := by
  rcases ofTemplate_cases template with ⟨_, found, returned, collects⟩ | ⟨_, refused⟩
  · rw [returned] at summarised
    cases summarised
    exact collects
  · rw [refused] at summarised
    cases summarised

end Summary

end Phrasebook
