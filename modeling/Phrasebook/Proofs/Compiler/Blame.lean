import Phrasebook.Proofs.Compiler.Acceptance
import Phrasebook.Proofs.Compiler.Conduct

/-!
Where an error of a catalog comes from.  The walk over a catalog fails at the first node that fails:
a message that cannot be compiled alone, or a catalog that lies too deep to be entered.  The error is
the one of that node, seen through the keys that lead to it, and names them in its text.
-/

namespace Phrasebook

open Target

namespace TemplateError

/-- The error seen through the keys of a path, from the root of the catalogs. -/
def under (path : List String) (error : TemplateError) : TemplateError :=
  path.foldr within error

theorem report_under {error : TemplateError} {diagnostic : Diagnostic}
    (reported : error.report = .diagnostic diagnostic) (pathless : diagnostic.path = none)
    (path : List String) : error.under path =
      ⟨error.kind, .diagnostic { diagnostic with path := if path = [] then none else some path }⟩ := by
  induction path with
  | nil =>
      cases error
      cases diagnostic
      simp only at reported pathless
      simp [under, reported, pathless]
  | cons key path ih =>
      rw [under] at ih
      rw [under, List.foldr_cons, ih]
      by_cases last : path = []
      · simp [within, Diagnostic.within, last]
      · simp [within, Diagnostic.within, last]

end TemplateError

namespace Renderer

end Renderer

namespace Template

def IsMessage (template : Template) : Prop :=
  ∃ tokens, template = .message tokens

mutual

/-- The nodes of a template in the order of the walk, each with the keys that lead to it: a catalog
stands before what it holds. -/
def nodes : Template → List (List String × Template)
  | .message tokens => [([], .message tokens)]
  | .catalog entries => ([], .catalog entries) :: branchNodes entries

def branchNodes : List (String × Template) → List (List String × Template)
  | [] => []
  | (key, branch) :: rest =>
      branch.nodes.map (fun found => (key :: found.1, found.2)) ++ branchNodes rest

end

end Template

section Blame

variable {φ α β : Type} (run : Config φ → List String × Template → Except Failure Compiled × Config φ)
  (full : List String → Prop)

/-- The messages among the nodes return one after the other, each with the configuration that the one
before it left. -/
inductive Passes : Config φ → List (List String × Template) → Config φ → Prop where
  | done (config : Config φ) : Passes config [] config
  | message {config after last : Config φ} {path : List String} {tokens : List Token}
      {rest : List (List String × Template)} {result : Compiled}
      (returns : run config (path, .message tokens) = (.ok result, after))
      (others : Passes after rest last) : Passes config ((path, .message tokens) :: rest) last
  | catalog {config last : Config φ} {path : List String} {entries : List (String × Template)}
      {rest : List (List String × Template)} (others : Passes config rest last) :
      Passes config ((path, .catalog entries) :: rest) last

/-- The first of the nodes that fails does so with this error, seen through the keys of its path. -/
inductive Blames : Config φ → List (List String × Template) → TemplateError → Prop where
  | intro {config between : Config φ} {before : List (List String × Template)}
      {found : List String × Template} {own : TemplateError} (passed : Passes run config before between)
      (fails : (run between found).1 = .error (.template own)) (kind : found.2.IsMessage ∨ full found.1)
      (later : List (List String × Template)) :
      Blames config (before ++ found :: later) (own.under found.1)

/-- What a walk over some nodes ends with, said by what becomes of each of them alone. -/
def Accounts (config : Config φ) (nodes : List (List String × Template)) :
    Except Failure α × Desk φ → Prop
  | (.ok _, after) => Passes run config nodes after.config
  | (.error (.template error), _) => Blames run full config nodes error
  | (.error (.fault _), _) => True

variable {run full} {config between last : Config φ} {first second : List (List String × Template)}
  {error : TemplateError}

theorem Passes.append (passes : Passes run config first between)
    (others : Passes run between second last) : Passes run config (first ++ second) last := by
  induction passes with
  | done => exact others
  | message returns _ ih => exact .message returns (ih others)
  | catalog _ ih => exact .catalog (ih others)

theorem Blames.append (passes : Passes run config first between)
    (blames : Blames run full between second error) :
    Blames run full config (first ++ second) error := by
  cases blames with
  | intro passed fails kind later =>
      rw [← List.append_assoc]
      exact .intro (passes.append passed) fails kind later

theorem Blames.stop (blames : Blames run full config first error) :
    Blames run full config (first ++ second) error := by
  cases blames with
  | intro passed fails kind later =>
      rw [List.append_assoc, List.cons_append]
      exact .intro passed fails kind (later ++ second)

/-! Seen from one catalog further out, the nodes have one key more on their paths. -/

section Within

variable {inner : Config φ → List String × Template → Except Failure Compiled × Config φ}
  {innerFull : List String → Prop} {key : String}
  (outside : ∀ config found, inner config found = run config (key :: found.1, found.2))

include outside

theorem Passes.within (passes : Passes inner config first last) :
    Passes run config (first.map fun found => (key :: found.1, found.2)) last := by
  induction passes with
  | done config => exact .done config
  | message returns _ ih =>
      rw [outside] at returns
      exact .message returns ih
  | catalog _ ih => exact .catalog ih

theorem Blames.within (deeper : ∀ path, innerFull path → full (key :: path))
    (blames : Blames inner innerFull config first error) :
    Blames run full config (first.map fun found => (key :: found.1, found.2)) (error.within key) := by
  cases blames with
  | @intro between before found own passed fails kind later =>
      rw [outside] at fails
      rw [List.map_append, List.map_cons]
      exact .intro (passed.within outside) fails (kind.imp_right (deeper found.1)) _

end Within

namespace Accounts

variable {attempt : Attempt (Desk φ) α} {desk : Desk φ}

theorem append {ran : Except Failure α × Desk φ} (passes : Passes run config first between)
    (accounts : Accounts run full between second ran) :
    Accounts run full config (first ++ second) ran := by
  match ran, accounts with
  | (.ok _, _), others => exact passes.append others
  | (.error (.template _), _), blames => exact Blames.append passes blames
  | (.error (.fault _), _), _ => trivial

/-- Only the configuration counts of how the desk is left. -/
theorem left {ran : Except Failure α × Desk φ} (accounts : Accounts run full config first ran)
    {after : Desk φ} (same : after.config = ran.2.config) :
    Accounts run full config first (ran.1, after) := by
  match ran, accounts with
  | (.ok _, _), passes =>
      change Passes run config first after.config
      rwa [same]
  | (.error (.template _), _), blames => exact blames
  | (.error (.fault _), _), _ => trivial

theorem bind {next : α → Attempt (Desk φ) β} (accounts : Accounts run full config first (attempt desk))
    (rest : ∀ value after, attempt desk = (.ok value, after) →
      Accounts run full after.config second (next value after)) :
    Accounts run full config (first ++ second) ((attempt >>= next) desk) := by
  rcases Attempt.bind_cases attempt next desk with
    ⟨value, after, ran, goesOn⟩ | ⟨failure, after, ran, ends⟩
  · rw [ran] at accounts
    rw [goesOn]
    exact append accounts (rest value after ran)
  · rw [ran] at accounts
    rw [ends]
    cases failure with
    | template error => exact Blames.stop accounts
    | fault reason => trivial

theorem map (change : α → β) (accounts : Accounts run full config first (attempt desk)) :
    Accounts run full config first ((attempt >>= fun value => pure (change value)) desk) := by
  have none (value : α) (after : Desk φ) :
      Accounts run full after.config [] ((pure (change value) : Attempt (Desk φ) β) after) :=
    Passes.done _
  have whole := accounts.bind fun value after _ => none value after
  rwa [List.append_nil] at whole

theorem within {inner : Config φ → List String × Template → Except Failure Compiled × Config φ}
    {innerFull : List String → Prop} {key : String}
    (outside : ∀ config found, inner config found = run config (key :: found.1, found.2))
    (deeper : ∀ path, innerFull path → full (key :: path))
    (accounts : Accounts inner innerFull config first (attempt desk)) :
    Accounts run full config (first.map fun found => (key :: found.1, found.2))
      (Attempt.mapFailure (.within key) attempt desk) := by
  rcases Attempt.mapFailure_cases (.within key) attempt desk with
    ⟨value, after, ran, mapped⟩ | ⟨failure, after, ran, mapped⟩
  · rw [ran] at accounts
    rw [mapped]
    exact Passes.within outside accounts
  · rw [ran] at accounts
    rw [mapped]
    cases failure with
    | template error => exact Blames.within outside deeper accounts
    | fault reason => trivial

end Accounts

end Blame

section Walk

variable {φ : Type}

open Compilation

/-- A fresh compiler in the same surroundings that stands so many catalogs further down. -/
def Desk.standing (desk : Desk φ) (levels : Nat) : Desk φ :=
  { config := desk.config
    compiler := { guard := { desk.compiler.guard with
      depth := desk.compiler.guard.depth + levels
      free := desk.compiler.guard.free - levels * catalogFrames } } }

def Desk.FullAt (desk : Desk φ) (path : List String) : Prop :=
  desk.compiler.guard.limit ≤ desk.compiler.guard.depth + path.length

namespace Template

/-- What compiling a node by itself leads to, in the locale of its path and at the depth of its
path. -/
def alone (names : List String) (locale : String) (desk : Desk φ)
    (found : List String × Template) : Except Failure Compiled :=
  ((compile (.tags names) (some (effectiveLocale names locale found.1)) found.2.toValue).run
    (desk.standing found.1.length)).1

/-- What compiling a node by itself leads to with this configuration, and the configuration that it
leaves to the next node. -/
def inTurn (names : List String) (locale : String) (desk : Desk φ) (config : Config φ)
    (found : List String × Template) : Except Failure Compiled × Config φ :=
  (alone names locale { desk with config := config } found,
    ((compile (.tags names) (some (effectiveLocale names locale found.1)) found.2.toValue).run
      ({ desk with config := config }.standing found.1.length)).2.config)

theorem inTurn_nil (names : List String) (locale : String) (desk : Desk φ) (template : Template) :
    inTurn names locale desk desk.config ([], template) =
      ((compile (.tags names) (some locale) template.toValue desk).1,
        (compile (.tags names) (some locale) template.toValue desk).2.config) := by
  have same : desk.Equipped (desk.standing 0) := ⟨by simp [Desk.standing], rfl⟩
  obtain ⟨outcomes, states⟩ := template.compile_agrees (Desk.equipped_likeness φ)
    Desk.Equipped.marks names (some locale) _ _ same
  exact Prod.ext outcomes states.config

/-- From inside a catalog its nodes look as they do from outside. -/
theorem inTurn_cons {outer desk : Desk φ}
    (inside : desk.compiler.guard = (outer.standing 1).compiler.guard) (names : List String)
    (locale key : String) (config : Config φ) (found : List String × Template) :
    inTurn names (if names.contains key then key else locale) desk config found =
      inTurn names locale outer config (key :: found.1, found.2) := by
  have same : { desk with config := config }.standing found.1.length =
      { outer with config := config }.standing (key :: found.1).length := by
    simp only [Desk.standing, inside, List.length_cons, Desk.mk.injEq, Compiler.mk.injEq,
      Guard.mk.injEq, true_and, and_true, catalogFrames]
    omega
  rw [inTurn, inTurn, alone, alone, effectiveLocale_cons, same]

theorem compileEntries_cons (names : List String) (locale key : String) (branch : Value)
    (rest : List (String × Value)) :
    (compileEntries (.tags names) (some locale) ((key, branch) :: rest) :
      Compilation φ (List (String × Compiled))) =
      Attempt.mapFailure (.within key)
          (compile (.tags names) (some (if names.contains key then key else locale)) branch) >>=
        fun head => compileEntries (.tags names) (some locale) rest >>=
          fun tail => pure ((key, head) :: tail) := by
  rw [compileEntries, apply_ite some]
  rfl

mutual

theorem compile_accounts (names : List String) (locale : String) (desk : Desk φ) :
    (template : Template) → Accounts (inTurn names locale desk) desk.FullAt desk.config template.nodes
      (compile (.tags names) (some locale) template.toValue desk)
  | .message tokens => by
      have ends := inTurn_nil names locale desk (.message tokens)
      match ran : compile (.tags names) (some locale) (message tokens).toValue desk with
      | (.ok result, after) =>
          rw [ran] at ends
          exact .message ends (.done _)
      | (.error (.template error), after) =>
          rw [ran] at ends
          exact .intro (.done _) (congrArg Prod.fst ends) (.inl ⟨tokens, rfl⟩) []
      | (.error (.fault reason), after) => trivial
  | .catalog entries => by
      have ends := inTurn_nil names locale desk (.catalog entries)
      cases entered : desk.compiler.guard.enter catalogFrames with
      | ok guard =>
          have inside : guard = (desk.standing 1).compiler.guard := by
            rw [(Guard.of_enter entered).2]
            simp [Desk.standing]
          have within := compileEntries_accounts names locale desk (desk.withGuard guard) inside entries
          have below : Accounts (inTurn names locale desk) desk.FullAt desk.config (branchNodes entries)
              (nested catalogFrames
                (compileEntries (.tags names) (some locale) (toBranches entries)) desk) := by
            rw [nested_of_entered _ entered]
            exact within.left rfl
          rw [toValue, compile]
          exact .append (.catalog (.done _)) (below.map Compiled.catalog)
      | error failure =>
          have ran : compile (.tags names) (some locale) (catalog entries).toValue desk =
              (.error failure, desk) := by
            rw [toValue, compile]
            exact Attempt.bind_of_error (nested_of_refused _ entered)
          rw [ran] at ends ⊢
          rcases Guard.of_refused entered with ⟨full, rfl⟩ | ⟨_, rfl⟩
          · have fullHere : desk.FullAt [] := by
              rwa [Desk.FullAt, List.length_nil, Int.natCast_zero, Int.add_zero]
            exact .intro (.done _) (congrArg Prod.fst ends) (.inr fullHere) _
          · trivial

theorem compileEntries_accounts (names : List String) (locale : String) (outer desk : Desk φ)
    (inside : desk.compiler.guard = (outer.standing 1).compiler.guard) :
    (entries : List (String × Template)) →
    Accounts (inTurn names locale outer) outer.FullAt desk.config (branchNodes entries)
      (compileEntries (.tags names) (some locale) (toBranches entries) desk)
  | [] => .done _
  | (key, branch) :: rest => by
      have deeper (path : List String) (full : desk.FullAt path) : outer.FullAt (key :: path) := by
        simp only [Desk.FullAt, inside, Desk.standing, List.length_cons] at full ⊢
        omega
      have here := (compile_accounts names (if names.contains key then key else locale) desk
        branch).within (inTurn_cons inside names locale key) deeper
      rw [toBranches, compileEntries_cons, branchNodes]
      refine here.bind fun head after ran =>
        (compileEntries_accounts names locale outer after ?_ rest).map _
      have obeys : (Attempt.mapFailure (.within key) (compile (.tags names)
          (some (if names.contains key then key else locale)) branch.toValue)).Obeys
            (@Desk.Move φ) fun _ => True :=
        (compile_obeys _ _ _).mapFailure fun _ _ => trivial
      have moves : desk.Moves after := by
        have moved := (obeys desk).moves
        rwa [ran] at moved
      exact moves.guard.trans inside

end

end Template

end Walk

/-- A message, and below the key of a locale one more and a choice without cases. -/
def Template.flawed : List (String × Template) :=
  [("guests", .message Token.guests),
    ("ar", .catalog [("guests", .message Token.guests), ("sum", .message [.select "n" []])])]

end Phrasebook
