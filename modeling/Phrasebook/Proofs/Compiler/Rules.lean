import Phrasebook.Proofs.Compiler.Pieces
import Phrasebook.Proofs.Compiler.Tables
import Phrasebook.Proofs.Locale.Tags

/-!
The plural rules that emitted source calls.  A message names one rule function, that of its locale, and
only if it makes plural or ordinal choices; the functions named in all sources of a template are those of
the locales noted in the table.
-/

namespace Phrasebook

open Target

namespace Target.Expr

mutual

/-- The functions that are handed to calls by their names. -/
def ruleNames : Expr → List String
  | .name identifier => [identifier]
  | .literal _ | .member _ _ => []
  | .call _ args => listRuleNames args
  | .object entries => entryRuleNames entries
  | .concat parts => listRuleNames parts

def listRuleNames : List Expr → List String
  | [] => []
  | expr :: rest => ruleNames expr ++ listRuleNames rest

def entryRuleNames : List (String × Expr) → List String
  | [] => []
  | (_, value) :: rest => ruleNames value ++ entryRuleNames rest

end

theorem mem_listRuleNames {name : String} (exprs : List Expr) :
    name ∈ listRuleNames exprs ↔ ∃ expr ∈ exprs, name ∈ expr.ruleNames := by
  induction exprs with
  | nil => simp [listRuleNames]
  | cons expr rest ih => simp [listRuleNames, ih]

theorem mem_entryRuleNames {name : String} (entries : List (String × Expr)) :
    name ∈ entryRuleNames entries ↔ ∃ entry ∈ entries, name ∈ entry.2.ruleNames := by
  induction entries with
  | nil => simp [entryRuleNames]
  | cons entry rest ih => simp [entryRuleNames, ih]

theorem ruleNames_joined (parts : List Expr) : (joined parts).ruleNames = listRuleNames parts := by
  match parts with
  | [] => rfl
  | [part] => simp [joined, listRuleNames]
  | first :: second :: rest => simp [joined, ruleNames]

end Target.Expr

/-- To name this function. -/
def Pieces.naming (name : String) : Pieces where
  text _ := False
  read _ := False
  formatter _ := False
  rules tag := name = functionName tag
  key _ := False

theorem Pieces.settle_naming (name : String) :
    (naming name).Settle fun expr => name ∈ expr.ruleNames where
  text _ := by simp [naming, Expr.text, Expr.ruleNames]
  texts _ := by simp [naming, Expr.ruleNames]
  int _ := by simp [Expr.ruleNames]
  float _ := by simp [Expr.ruleNames]
  read _ := by simp [naming, Expr.read, Expr.ruleNames]
  rules _ := by simp [naming, Expr.ruleNames]
  helper _ args := by rw [Expr.helper, Expr.ruleNames, Expr.mem_listRuleNames]
  formatter _ args := by simp [naming, Expr.ruleNames, Expr.mem_listRuleNames]
  object entries := by simp [naming, Expr.ruleNames, Expr.mem_entryRuleNames]
  joined parts := by rw [Expr.ruleNames_joined, Expr.mem_listRuleNames]
  mark _ := id
  sign := id

theorem Token.brings_naming {name : String} (locale : Option String) (token : Token) :
    token.Brings (.naming name) locale ↔ token.IsPlural ∧ name = functionName (locale.getD "") := by
  cases token <;> simp [Brings, Pieces.naming, IsPlural]

mutual

/-- What the functions of a compiled template return, in order. -/
def Compiled.bodies : Compiled → List Expr
  | .function body => [body]
  | .catalog entries => Compiled.entryBodies entries

def Compiled.entryBodies : List (String × Compiled) → List Expr
  | [] => []
  | (_, compiled) :: rest => compiled.bodies ++ Compiled.entryBodies rest

end

/-- The plural rules that the functions of a compiled template call, by their names. -/
def Compiled.ruleNames (compiled : Compiled) : List String :=
  compiled.bodies.flatMap Expr.ruleNames

namespace Template

variable (names : List String) (bidi : Bool)

mutual

/-- Every message has a function, in the locale that its keys decide about. -/
theorem bodies_emitted (locale : String) : (template : Template) →
    (template.emitted names bidi (some locale)).bodies = template.leaves.map fun leaf =>
      .joined (Token.emittedParts (some (effectiveLocale names locale leaf.1)) bidi none leaf.2)
  | .message tokens => rfl
  | .catalog entries => by
      rw [emitted, Compiled.bodies, entryBodies_emitted locale entries, leaves]

theorem entryBodies_emitted (locale : String) : (entries : List (String × Template)) →
    Compiled.entryBodies (branchesEmitted names bidi (some locale) entries) =
      (branchLeaves entries).map fun leaf =>
        .joined (Token.emittedParts (some (effectiveLocale names locale leaf.1)) bidi none leaf.2)
  | [] => rfl
  | (key, branch) :: rest => by
      rw [branchesEmitted, Compiled.entryBodies, ← apply_ite some, bodies_emitted _ branch,
        entryBodies_emitted locale rest, branchLeaves, List.map_append, List.map_map]
      simp only [Function.comp_def, effectiveLocale_cons]

end

theorem mem_ruleNames_emitted (locale : String) (template : Template) (name : String) :
    name ∈ (template.emitted names bidi (some locale)).ruleNames ↔
      ∃ tag, template.NeedsRules names locale tag ∧ name = functionName tag := by
  simp only [Compiled.ruleNames, bodies_emitted, List.flatMap_map, List.mem_flatMap,
    (Pieces.settle_naming name).message, Token.Brought, Token.brings_naming, Option.getD_some]
  constructor
  · intro named
    obtain ⟨leaf, member, part, inside, plural, same⟩ := named
    exact ⟨_, ⟨leaf, member, ⟨part, inside, plural⟩, rfl⟩, same⟩
  · intro needed
    obtain ⟨tag, ⟨leaf, member, ⟨part, inside, plural⟩, effective⟩, same⟩ := needed
    rw [effective] at same
    exact ⟨leaf, member, part, inside, plural, same⟩

/-- On a compiler that has noted no locale yet, the rule functions that are called are those of the
locales noted afterwards. -/
theorem mem_ruleNames_of_ok {φ : Type} {names : List String} {locale : String} {template : Template}
    {desk after : Desk φ} {compiled : Compiled} (fresh : desk.compiler.locales = [])
    (returned : Compilation.compile (.tags names) (some locale) template.toValue desk =
      (.ok compiled, after)) (name : String) :
    name ∈ compiled.ruleNames ↔ ∃ tag ∈ after.compiler.locales, name = functionName tag := by
  obtain ⟨rfl, follows⟩ := Template.follows_of_ok returned
  have noted := follows.extendedBy Demand.mem_note_locales (template.exists_locales names locale)
  rw [mem_ruleNames_emitted]
  simp only [noted _, fresh, List.not_mem_nil, false_or]

end Template

/-- Two tags name the same rule function exactly when they differ in nothing but their separators, also
where one of them is a reserved word or starts with a digit.  So two locales noted by a compiler share a
rule function of the emitted sources exactly when their tags are the same up to separators. -/
theorem rule_functions_separate_locales {first second : String} (isFirst : Locale.IsTag first.toList)
    (isSecond : Locale.IsTag second.toList) :
    (functionName first = functionName second ↔
      Locale.withHyphens first = Locale.withHyphens second) ∧
    ∀ (φ : Type) (names : List String) (locale : String) (template : Template) (desk after : Desk φ)
      (compiled : Compiled), desk.compiler.locales = [] →
      (Compilation.compile (.tags names) (some locale) template.toValue).run desk =
        (.ok compiled, after) →
      first ∈ after.compiler.locales → second ∈ after.compiler.locales →
      ((∃ name ∈ compiled.ruleNames, name = functionName first ∧ name = functionName second) ↔
        Locale.withHyphens first = Locale.withHyphens second) := by
  have separate := Locale.functionName_eq_iff isFirst isSecond
  refine ⟨separate, fun φ names locale template desk after compiled fresh returned noted _ => ?_⟩
  constructor
  · intro shared
    obtain ⟨name, _, isOfFirst, isOfSecond⟩ := shared
    exact separate.mp (isOfFirst.symm.trans isOfSecond)
  · intro same
    have called := (Template.mem_ruleNames_of_ok fresh returned (functionName first)).mpr
      ⟨first, noted, rfl⟩
    exact ⟨functionName first, called, rfl, separate.mpr same⟩

/-- Two spellings of one locale, and a locale whose tag is a reserved word. -/
def Template.spellings : Template :=
  .catalog [("pt-BR", .message Token.guests), ("in", .message Token.guests),
    ("pt_BR", .message Token.guests)]

theorem spellings_share_rules :
    ∃ compiled after, (Compilation.compile (.tags ["in", "pt-BR", "pt_BR"]) (some "en")
        Template.spellings.toValue).run (Desk.sample 3) = (.ok compiled, after) ∧
      (∃ name ∈ compiled.ruleNames, name = functionName "pt-BR" ∧ name = functionName "pt_BR") ∧
      ¬ ∃ name ∈ compiled.ruleNames, name = functionName "in" ∧ name = functionName "pt_BR" := by
  have hyphen : Locale.IsTag "pt-BR".toList :=
    show Locale.IsTag (['p', 't'] ++ '-' :: ['B', 'R']) from
      .joined (by decide) (.inl rfl) (.last (by decide))
  have underscore : Locale.IsTag "pt_BR".toList :=
    show Locale.IsTag (['p', 't'] ++ '_' :: ['B', 'R']) from
      .joined (by decide) (.inr rfl) (.last (by decide))
  have reserved : Locale.IsTag "in".toList := show Locale.IsTag ['i', 'n'] from .last (by decide)
  have same : (Locale.withHyphens "pt-BR").toList = (Locale.withHyphens "pt_BR").toList := by
    rw [Locale.withHyphens, Locale.withHyphens, String.toList_map, String.toList_map]
    decide
  have different : (Locale.withHyphens "in").toList ≠ (Locale.withHyphens "pt_BR").toList := by
    rw [Locale.withHyphens, Locale.withHyphens, String.toList_map, String.toList_map]
    decide
  refine ⟨_, _, rfl, ?_, ?_⟩
  · exact ((rule_functions_separate_locales hyphen underscore).2 Unit ["in", "pt-BR", "pt_BR"] "en"
      .spellings (.sample 3) _ _ rfl rfl (by decide) (by decide)).mpr (String.toList_injective same)
  · intro shared
    have alike := ((rule_functions_separate_locales reserved underscore).2 Unit ["in", "pt-BR", "pt_BR"]
      "en" .spellings (.sample 3) _ _ rfl rfl (by decide) (by decide)).mp shared
    exact different (congrArg String.toList alike)

end Phrasebook
