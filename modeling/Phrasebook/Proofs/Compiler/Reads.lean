import Phrasebook.Proofs.Compiler.Acceptance
import Phrasebook.Proofs.Compiler.Pieces
import Phrasebook.Proofs.Target.Reads

/-!
The data that emitted source reads.  A message function reads exactly the arguments of the parts of its
message: a number sign reads an argument too, but only one that the choice around it reads already.
-/

namespace Phrasebook

open Target

section Shown

variable (locale : Option String) (bidi : Bool)

theorem Offset.shows_toJson (offset : Offset) : (Expr.literal offset.toJson).ShowsReads := by
  cases offset with
  | int value => exact .int value
  | float value =>
      rw [Offset.toJson]
      cases value.toInt? with
      | none => exact .float value
      | some whole => exact .int whole

theorem Count.shows_emitted (count : Count) : count.emitted.ShowsReads := by
  unfold Count.emitted
  apply Expr.ShowsReads.helper
  split
  · simpa using ⟨.read count.arg, count.offset.shows_toJson⟩
  · simpa using .read count.arg

theorem Token.shows_params (params : List String) :
    ∀ literal ∈ Token.paramLiterals params, literal.ShowsReads := by
  match params with
  | [] => simp [paramLiterals]
  | [param] => simpa [paramLiterals] using .text param
  | first :: second :: rest => simpa [paramLiterals] using .texts first (second :: rest)

theorem shows_rules : (Expr.name (functionName (locale.getD ""))).ShowsReads :=
  .name fun _ member => isIdentifierChar_of_mem_functionName member

mutual

theorem Token.shows_emitted (count : Option Count) : (token : Token) →
    ∀ part ∈ token.emitted locale bidi count, part.ShowsReads
  | .text text => by simpa [Token.emitted] using .text text
  | .argument arg => by
      have read := Expr.ShowsReads.read arg
      have mark := Expr.ShowsReads.text (Locale.directionMark locale)
      cases bidi with
      | false => simpa [Token.emitted] using read
      | true => simpa [Token.emitted, Expr.between, mark] using read
  | .octothorpe => by
      cases count with
      | none => simpa [Token.emitted] using .text Value.octothorpeText
      | some count => simpa [Token.emitted] using count.shows_emitted
  | .select arg cases => by
      have object := Expr.ShowsReads.object (Case.shows_emitted count cases)
      simpa [Token.emitted] using .helper .select (by simpa using ⟨.read arg, object⟩)
  | .plural arg cases offset => by
      have object := Expr.ShowsReads.object (Case.shows_emitted (some ⟨arg, offset⟩) cases)
      simpa [Token.emitted] using .helper .plural
        (by simpa using ⟨.read arg, offset.shows_toJson, shows_rules locale, object⟩)
  | .ordinal arg cases => by
      have object := Expr.ShowsReads.object (Case.shows_emitted (some ⟨arg, .int 0⟩) cases)
      simpa [Token.emitted] using .helper .plural
        (by simpa using ⟨.read arg, .int 0, shows_rules locale, object, .int 1⟩)
  | .call key arg params => by
      simpa [Token.emitted] using .formatter key
        (by simpa using ⟨.read arg, .text (locale.getD ""), Token.shows_params params⟩)

theorem Token.shows_emittedParts (count : Option Count) : (tokens : List Token) →
    ∀ part ∈ Token.emittedParts locale bidi count tokens, part.ShowsReads
  | [] => by simp [Token.emittedParts]
  | token :: rest =>
      List.forall_mem_append.mpr
        ⟨Token.shows_emitted count token, Token.shows_emittedParts count rest⟩

theorem Case.shows_emitted (count : Option Count) : (cases : List Case) →
    ∀ entry ∈ Case.emitted locale bidi count cases, entry.2.ShowsReads
  | [] => by simp [Case.emitted]
  | .mk _ body :: rest =>
      List.forall_mem_cons.mpr
        ⟨.joined (Token.shows_emittedParts count body), Case.shows_emitted count rest⟩

end

end Shown

/-- To read this argument. -/
def Pieces.reading (key : String) : Pieces where
  text _ := False
  read arg := arg = key
  formatter _ := False
  rules _ := False
  key _ := False

theorem Pieces.settle_reading (key : String) :
    (reading key).Settle fun expr => key ∈ expr.dataKeys where
  text _ := by simp [reading]
  texts _ := by simp [reading, Expr.dataKeys]
  int _ := by simp [Expr.dataKeys]
  float _ := by simp [Expr.dataKeys]
  read _ := by simp [reading, eq_comm]
  rules _ := by simp [reading, Expr.dataKeys]
  helper _ args := by rw [Expr.dataKeys_helper, Expr.mem_listKeys]
  formatter _ args := by simp [reading, Expr.dataKeys, Expr.mem_listKeys]
  object entries := by simp [reading, Expr.dataKeys, Expr.mem_entryKeys]
  joined parts := by rw [Expr.dataKeys_joined, Expr.mem_listKeys]
  mark _ := id
  sign := id

namespace Token

variable {key : String}

@[simp] theorem reads_nil : ¬ Reads [] key := by
  simp [Reads]

theorem reads_append (first last : List Token) :
    Reads (first ++ last) key ↔ Reads first key ∨ Reads last key := by
  simp [Reads, or_and_right, exists_or]

theorem brings_reading (locale : Option String) (token : Token) :
    token.Brings (.reading key) locale ↔ token.arg? = some key := by
  cases token <;> simp [Brings, Pieces.reading, arg?]

end Token

mutual

/-- The texts of the functions of a compiled template, in order. -/
def Compiled.sources : Compiled → List String
  | .function body => [body.functionSource]
  | .catalog entries => Compiled.entrySources entries

def Compiled.entrySources : List (String × Compiled) → List String
  | [] => []
  | (_, compiled) :: rest => compiled.sources ++ Compiled.entrySources rest

end

theorem Token.mem_dataReads (locale : Option String) (bidi : Bool) (tokens : List Token) (key : String) :
    key ∈ dataReads (Expr.joined (Token.emittedParts locale bidi none tokens)).functionSource.toList ↔
      Token.Reads (Token.parts tokens) key := by
  have shown := Expr.ShowsReads.joined (Token.shows_emittedParts locale bidi none tokens)
  rw [Expr.functionSource, String.toList_ofList, Expr.dataReads_functionChars shown,
    (Pieces.settle_reading key).message, Token.Brought]
  simp only [Token.brings_reading, Token.Reads]

namespace Template

variable (names : List String) (bidi : Bool) {key : String}

mutual

/-- The functions of a compiled template read the arguments of its parts and nothing else. -/
theorem reads_emitted (locale : Option String) : (template : Template) →
    ((∃ source ∈ (template.emitted names bidi locale).sources, key ∈ dataReads source.toList) ↔
      Token.Reads template.parts key)
  | .message tokens => by
      simp [emitted, Compiled.sources, Token.mem_dataReads, parts, leaves]
  | .catalog entries => by
      rw [emitted, Compiled.sources]
      exact reads_branchesEmitted locale entries

theorem reads_branchesEmitted (locale : Option String) : (entries : List (String × Template)) →
    ((∃ source ∈ Compiled.entrySources (branchesEmitted names bidi locale entries),
        key ∈ dataReads source.toList) ↔
      Token.Reads (Template.catalog entries).parts key)
  | [] => by simp [branchesEmitted, Compiled.entrySources, parts, leaves, branchLeaves]
  | (_, branch) :: rest => by
      rw [branchesEmitted, Compiled.entrySources, parts_cons, Token.reads_append]
      simp only [List.mem_append, or_and_right, exists_or]
      exact or_congr (reads_emitted _ branch) (reads_branchesEmitted locale rest)

end

end Template

end Phrasebook
