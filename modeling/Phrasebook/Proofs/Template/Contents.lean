import Phrasebook.Compiler.Token
import Phrasebook.Template.Basic

/-!
What a well-formed template contains: the parts of its messages at every depth, how deep choices and
catalogs are nested and how much of the stack that takes, and the messages themselves with the path of
keys that leads to each.
-/

namespace Phrasebook

def Case.key : Case → String
  | .mk key _ => key

namespace Token

def cases? : Token → Option (List Case)
  | .select _ cases | .plural _ cases _ | .ordinal _ cases => some cases
  | _ => none

/-- The argument that a part reads. -/
def arg? : Token → Option String
  | .argument arg | .select arg _ | .plural arg _ _ | .ordinal arg _ | .call _ arg _ => some arg
  | .text _ | .octothorpe => none

def Reads (parts : List Token) (key : String) : Prop :=
  ∃ part ∈ parts, part.arg? = some key

def Calls (parts : List Token) (key : String) : Prop :=
  ∃ arg params, Token.call key arg params ∈ parts

/-- A choice has a case for everything else; other parts have nothing to fulfil. -/
def HasFallback (token : Token) : Prop :=
  ∀ cases, token.cases? = some cases → ∃ case ∈ cases, case.key = Value.fallbackKey

def IsSelect (token : Token) : Prop :=
  ∃ arg cases, token = .select arg cases

/-- Plural and ordinal choices, which give number signs inside them a meaning. -/
def IsPlural (token : Token) : Prop :=
  (∃ arg cases offset, token = .plural arg cases offset) ∨ ∃ arg cases, token = .ordinal arg cases

end Token

mutual

/-- The parts inside a part, at every depth and in order. -/
def Token.inside : Token → List Token
  | .select _ cases | .plural _ cases _ | .ordinal _ cases => Case.parts cases
  | _ => []

def Token.parts : List Token → List Token
  | [] => []
  | token :: rest => token :: (token.inside ++ Token.parts rest)

def Case.parts : List Case → List Token
  | [] => []
  | .mk _ body :: rest => Token.parts body ++ Case.parts rest

end

mutual

def Token.nesting : Token → Nat
  | .select _ cases | .plural _ cases _ | .ordinal _ cases => 1 + Case.nesting cases
  | _ => 0

def Token.bodyNesting : List Token → Nat
  | [] => 0
  | token :: rest => max token.nesting (Token.bodyNesting rest)

def Case.nesting : List Case → Nat
  | [] => 0
  | .mk _ body :: rest => max (Token.bodyNesting body) (Case.nesting rest)

end

mutual

def Token.frames : Token → Nat
  | .select _ cases | .plural _ cases _ | .ordinal _ cases =>
      Compilation.caseFrames + Case.frames cases
  | _ => 0

def Token.bodyFrames : List Token → Nat
  | [] => 0
  | token :: rest => max token.frames (Token.bodyFrames rest)

def Case.frames : List Case → Nat
  | [] => 0
  | .mk _ body :: rest => max (Token.bodyFrames body) (Case.frames rest)

end

namespace Template

mutual

/-- How deep catalogs, and choices in their messages, are nested. -/
def nesting : Template → Nat
  | .message tokens => Token.bodyNesting tokens
  | .catalog entries => 1 + branchNesting entries

def branchNesting : List (String × Template) → Nat
  | [] => 0
  | (_, branch) :: rest => max branch.nesting (branchNesting rest)

end

mutual

/-- The frames in use where compiling the template is deepest in them. -/
def frames : Template → Nat
  | .message tokens => Token.bodyFrames tokens
  | .catalog entries => Compilation.catalogFrames + branchFrames entries

def branchFrames : List (String × Template) → Nat
  | [] => 0
  | (_, branch) :: rest => max branch.frames (branchFrames rest)

end

mutual

/-- The messages of a template in order, each with the keys that lead to it. -/
def leaves : Template → List (List String × List Token)
  | .message tokens => [([], tokens)]
  | .catalog entries => branchLeaves entries

def branchLeaves : List (String × Template) → List (List String × List Token)
  | [] => []
  | (key, branch) :: rest =>
      branch.leaves.map (fun leaf => (key :: leaf.1, leaf.2)) ++ branchLeaves rest

end

def parts (template : Template) : List Token :=
  template.leaves.flatMap fun leaf => Token.parts leaf.2

theorem parts_message (tokens : List Token) : (message tokens).parts = Token.parts tokens :=
  List.append_nil _

theorem parts_cons (key : String) (branch : Template) (rest : List (String × Template)) :
    (catalog ((key, branch) :: rest)).parts = branch.parts ++ (catalog rest).parts := by
  simp [parts, leaves, branchLeaves, List.flatMap_map]

def HasFallbacks (template : Template) : Prop :=
  ∀ part ∈ template.parts, part.HasFallback

def Calls (template : Template) (key : String) : Prop :=
  ∃ arg params, Token.call key arg params ∈ template.parts

end Template

mutual

theorem Token.frames_le : (token : Token) → token.frames ≤ Compilation.caseFrames * token.nesting
  | .select _ cases | .plural _ cases _ | .ordinal _ cases => by
      have inner := Case.frames_le cases
      simp only [Token.frames, Token.nesting, Compilation.caseFrames] at inner ⊢
      omega
  | .text _ | .argument _ | .octothorpe | .call _ _ _ => Nat.le_refl 0

theorem Token.bodyFrames_le : (tokens : List Token) →
    Token.bodyFrames tokens ≤ Compilation.caseFrames * Token.bodyNesting tokens
  | [] => Nat.le_refl 0
  | token :: rest => by
      have first := token.frames_le
      have last := Token.bodyFrames_le rest
      simp only [Token.bodyFrames, Token.bodyNesting, Compilation.caseFrames] at first last ⊢
      omega

theorem Case.frames_le : (cases : List Case) →
    Case.frames cases ≤ Compilation.caseFrames * Case.nesting cases
  | [] => Nat.le_refl 0
  | .mk _ body :: rest => by
      have first := Token.bodyFrames_le body
      have last := Case.frames_le rest
      simp only [Case.frames, Case.nesting, Compilation.caseFrames] at first last ⊢
      omega

end

namespace Template

mutual

/-- A level takes as many frames as a choice at most. -/
theorem frames_le : (template : Template) →
    template.frames ≤ Compilation.caseFrames * template.nesting
  | .message tokens => Token.bodyFrames_le tokens
  | .catalog entries => by
      have inner := branchFrames_le entries
      simp only [frames, nesting, Compilation.caseFrames, Compilation.catalogFrames] at inner ⊢
      omega

theorem branchFrames_le : (entries : List (String × Template)) →
    branchFrames entries ≤ Compilation.caseFrames * branchNesting entries
  | [] => Nat.le_refl 0
  | (_, branch) :: rest => by
      have first := branch.frames_le
      have last := branchFrames_le rest
      simp only [branchFrames, branchNesting, Compilation.caseFrames] at first last ⊢
      omega

end

end Template

/-- A message whose plural choice calls a formatter. -/
def Token.guests : List Token :=
  [.plural "n" [.mk "one" [.octothorpe], .mk "other" [.call "number" "n" [], .text "!"]] (.int 1)]

def Template.guests : Template :=
  .catalog [("ar", .catalog [("guests", .message Token.guests)])]

/-- So many selections, each in the only case of the one before, around a text. -/
def Token.nestedSelect : Nat → Token
  | 0 => .text "x"
  | n + 1 => .select "a" [.mk Value.fallbackKey [nestedSelect n]]

namespace Token

theorem nestedSelect_nesting (n : Nat) : (nestedSelect n).nesting = n := by
  induction n with
  | zero => rfl
  | succ n ih =>
      simp only [nestedSelect, nesting, Case.nesting, bodyNesting, ih]
      omega

theorem nestedSelect_frames (n : Nat) : (nestedSelect n).frames = Compilation.caseFrames * n := by
  induction n with
  | zero => rfl
  | succ n ih =>
      simp only [nestedSelect, frames, Case.frames, bodyFrames, ih, Nat.max_zero, Nat.mul_succ]
      exact Nat.add_comm _ _

theorem nestedSelect_parts (n : Nat) : ∀ part ∈ parts [nestedSelect n],
    part.HasFallback ∧ ∀ key arg params, part ≠ .call key arg params := by
  induction n with
  | zero => simp [nestedSelect, parts, inside, HasFallback, cases?]
  | succ n ih =>
      intro part member
      rcases List.mem_cons.mp member with rfl | inner
      · simp [nestedSelect, HasFallback, cases?, Case.key]
      · apply ih
        simpa [nestedSelect, inside, Case.parts, parts] using inner

end Token

/-- The locale of a message: the last key on its path that denotes a locale, or else the one given
from outside. -/
def effectiveLocale (names : List String) (locale : String) (path : List String) : String :=
  (path.filter names.contains).getLast?.getD locale

@[simp] theorem effectiveLocale_nil (names : List String) (locale : String) :
    effectiveLocale names locale [] = locale := rfl

theorem effectiveLocale_cons (names : List String) (locale key : String) (path : List String) :
    effectiveLocale names locale (key :: path) =
      effectiveLocale names (if names.contains key then key else locale) path := by
  unfold effectiveLocale
  cases denotes : names.contains key with
  | false =>
      rw [List.filter_cons_of_neg (by rw [denotes]; exact Bool.false_ne_true)]
      rfl
  | true =>
      rw [List.filter_cons_of_pos denotes, List.getLast?_cons]
      rfl

end Phrasebook
