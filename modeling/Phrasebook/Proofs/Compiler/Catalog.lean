import Phrasebook.Proofs.Compiler.Acceptance

/-!
Catalogs compile leaf by leaf.  The result has the keys of the catalog in the same order at every
level, and each of its functions is what the message alone compiles to in its own locale, on a
compiler that has seen nothing else.

A message alone finds the defaults unsupplied that the messages before it have had registered.  That
makes a difference to a default that looks at the registered formatters, and may fail over them.
-/

namespace Phrasebook

open Target

namespace Template

section Mirrors

variable (leaf : List String → List Token → Expr → Prop)

mutual

/-- The compiled template has the keys of this one in the same order at every level, and for every
message a function that `leaf` accepts at the path of the message. -/
def Mirrors (path : List String) : Template → Compiled → Prop
  | .message tokens, .function body => leaf path tokens body
  | .catalog entries, .catalog results => BranchesMirror path entries results
  | _, _ => False

def BranchesMirror (path : List String) :
    List (String × Template) → List (String × Compiled) → Prop
  | [], [] => True
  | (key, branch) :: rest, (resultKey, result) :: results =>
      resultKey = key ∧ branch.Mirrors (path ++ [key]) result ∧ BranchesMirror path rest results
  | _, _ => False

end

variable {leaf} (names : List String) (bidi : Bool)

mutual

/-- What is emitted mirrors the template when every message is accepted in its own locale. -/
theorem mirrors_emitted (path : List String) (locale : String) : (template : Template) →
    (∀ found ∈ template.leaves, leaf (path ++ found.1) found.2 (.joined
      (Token.emittedParts (some (effectiveLocale names locale found.1)) bidi none found.2))) →
    template.Mirrors leaf path (template.emitted names bidi (some locale))
  | .message tokens, accepted => by
      simpa [leaves, emitted, Mirrors] using accepted
  | .catalog entries, accepted => by
      rw [emitted, Mirrors]
      exact branchesMirror_emitted path locale entries accepted

theorem branchesMirror_emitted (path : List String) (locale : String) :
    (entries : List (String × Template)) →
    (∀ found ∈ branchLeaves entries, leaf (path ++ found.1) found.2 (.joined
      (Token.emittedParts (some (effectiveLocale names locale found.1)) bidi none found.2))) →
    BranchesMirror leaf path entries (branchesEmitted names bidi (some locale) entries)
  | [], _ => by simp [branchesEmitted, BranchesMirror]
  | (key, branch) :: rest, accepted => by
      rw [branchesEmitted, BranchesMirror, ← apply_ite some]
      refine ⟨rfl, mirrors_emitted _ _ branch ?_, branchesMirror_emitted path locale rest ?_⟩
      · intro found member
        have here := accepted (key :: found.1, found.2)
          (List.mem_append_left _ (List.mem_map_of_mem member))
        rwa [effectiveLocale_cons, List.append_cons] at here
      · intro found member
        exact accepted found (List.mem_append_right _ member)

end

end Mirrors

mutual

/-- A message of a template is nested no deeper than the template, in levels and in frames. -/
theorem leaf_le_load {path : List String} {tokens : List Token} : (template : Template) →
    (path, tokens) ∈ template.leaves →
    Token.bodyNesting tokens ≤ template.nesting ∧ Token.bodyFrames tokens ≤ template.frames
  | .message _, member => by
      cases List.mem_singleton.mp member
      exact ⟨Nat.le_refl _, Nat.le_refl _⟩
  | .catalog entries, member => by
      have below := leaf_le_branchLoad entries member
      rw [nesting, frames]
      omega

theorem leaf_le_branchLoad {path : List String} {tokens : List Token} :
    (entries : List (String × Template)) → (path, tokens) ∈ branchLeaves entries →
    Token.bodyNesting tokens ≤ branchNesting entries ∧ Token.bodyFrames tokens ≤ branchFrames entries
  | (key, branch) :: rest, member => by
      rw [branchNesting, branchFrames]
      rcases List.mem_append.mp member with member | member
      · obtain ⟨inner, innerMember, same⟩ := List.mem_map.mp member
        cases same
        have here := leaf_le_load branch innerMember
        omega
      · have later := leaf_le_branchLoad rest member
        omega

end

/-- A message of a template that compiles also compiles alone, in its own locale. -/
theorem compile_leaf {φ : Type} {names : List String} {locale : String} {template : Template}
    {desk fresh after : Desk φ} {path : List String} {tokens : List Token}
    (ignore : desk.config.DefaultsIgnoreRegistry)
    (follows : Follows (template.route names (some locale)) desk (.ok ()) after)
    (config : fresh.config = desk.config) (guard : fresh.compiler.guard = desk.compiler.guard)
    (found : (path, tokens) ∈ template.leaves) :
    ∃ afterwards, Compilation.compile (.tags names) (some (effectiveLocale names locale path))
        (Template.message tokens).toValue fresh =
      (.ok (.function (.joined (Token.emittedParts (some (effectiveLocale names locale path))
        desk.config.settings.bidi none tokens))), afterwards) := by
  have verdict := follows.verdict ignore
  rw [route_load] at verdict
  have able : ∀ demand ∈ ((Template.message tokens).route names
      (some (effectiveLocale names locale path))).demands, demand.Meetable fresh.config := by
    intro demand member
    rw [config]
    apply verdict.1
    rw [mem_route] at member ⊢
    obtain ⟨leaf, leafMember, demands⟩ := member
    cases List.mem_singleton.mp leafMember
    exact ⟨(path, tokens), found, demands⟩
  have bears : fresh.compiler.guard.Bears (Template.message tokens).compileLoad := by
    have below := template.leaf_le_load found
    obtain ⟨room, enough⟩ := verdict.2
    rw [guard]
    simp only [Guard.Bears, Guard.HasRoom, Guard.HasFrames, compileLoad, nesting,
      frames] at room enough ⊢
    omega
  rw [← config] at ignore ⊢
  exact compile_of_meetable ignore able bears

end Template

/-- The result of compiling a catalog has its keys in order at every level, and each message compiles
to what a fresh compiler makes of it in the locale of its path. -/
theorem compile_leafwise {φ : Type} (names : List String) (locale : String) (limit : Int)
    (template : Template) (desk after : Desk φ) (compiled : Compiled)
    (idle : desk.compiler.guard = .ofLimit limit) (ignore : desk.config.DefaultsIgnoreRegistry)
    (returned : (Compilation.compile (.tags names) (some locale) template.toValue).run desk =
      (.ok compiled, after)) :
    template.Mirrors (fun path tokens body => ∃ afterwards,
        (Compilation.compile (.tags names) (some (effectiveLocale names locale path))
          (Template.message tokens).toValue).run
            { config := desk.config, compiler := .ofLimit limit } =
          (.ok (.function body), afterwards))
      [] compiled := by
  obtain ⟨emitted, follows⟩ := Template.follows_of_ok returned
  rw [emitted]
  apply Template.mirrors_emitted
  intro found member
  exact Template.compile_leaf ignore follows rfl idle.symm member

/-- The message below the key of a locale compiles in that locale. -/
theorem guests_leafwise :
    (Desk.sample 3).config.DefaultsIgnoreRegistry ∧ ∃ body,
      (∃ after, (Compilation.compile (.tags ["ar"]) (some "en") Template.guests.toValue).run
        (Desk.sample 3) = (.ok (.catalog [("ar", .catalog [("guests", .function body)])]), after)) ∧
      ∃ after, (Compilation.compile (.tags ["ar"]) (some "ar") (Template.message Token.guests).toValue).run
        (Desk.sample 3) = (.ok (.function body), after) := by
  have ignore := (Desk.sample_defaultsReturn 3).ignoreRegistry
  exact ⟨ignore, _, ⟨_, rfl⟩,
    (compile_leafwise ["ar"] "en" 3 .guests (.sample 3) _ _ rfl ignore rfl).2.1.2.1⟩

/-- A desk with a formatter under a number, and two defaults: one is a formatter, the other is tried on
the registered formatters, of which it writes the keys in order. -/
def Desk.unordered (limit : Int) : Desk Unit :=
  { config :=
      { registry := .ofEntries [(.int 5, ())]
        defaults := [("plain", ⟨(), none⟩),
          ("listing", ⟨(), some fun _ registry => registry.shown.map fun _ => none⟩)] }
    compiler := .ofLimit limit }

/-- The first message supplies the default that lists the keys while these can still be put in order.
The second message alone has another default supplied before, and then they cannot. -/
theorem listing_default_fails_alone :
    (∃ first second after, (Compilation.compile (.tags []) (some "en") (Template.catalog [
        ("first", .message [.call "listing" "x" []]),
        ("second", .message [.call "plain" "x" [], .call "listing" "x" []])]).toValue).run
          (Desk.unordered 3) =
      (.ok (.catalog [("first", .function first), ("second", .function second)]), after)) ∧
    ∃ after, (Compilation.compile (.tags []) (some "en")
        (Template.message [.call "plain" "x" [], .call "listing" "x" []]).toValue).run
          (Desk.unordered 3) =
      (.error (.fault .notComparable), after) :=
  ⟨⟨_, _, _, rfl⟩, _, rfl⟩

end Phrasebook
