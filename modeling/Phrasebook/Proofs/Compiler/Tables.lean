import Phrasebook.Proofs.Compiler.Acceptance

/-!
The tables of what emitted source has to be linked with.  Compiling a template adds to them exactly
what its messages need; compiling one that fails adds nothing else and loses nothing.
-/

namespace Phrasebook

open Target

namespace Demand

def helpers : Demand → List Helper
  | .helper needed => [needed]
  | .rules _ => [.plural]
  | _ => []

def locales : Demand → List String
  | .rules locale => [locale.getD ""]
  | _ => []

def formatters : Demand → List String
  | .formatter key _ => [key]
  | _ => []

theorem mem_note_helpers (needed : Helper) (demand : Demand) (compiler : Compiler) :
    needed ∈ (demand.note compiler).helpers ↔ needed ∈ compiler.helpers ∨ needed ∈ demand.helpers := by
  cases demand <;> simp [note, helpers, or_comm]

theorem mem_note_locales (tag : String) (demand : Demand) (compiler : Compiler) :
    tag ∈ (demand.note compiler).locales ↔ tag ∈ compiler.locales ∨ tag ∈ demand.locales := by
  cases demand <;> simp [note, locales, or_comm]

theorem mem_note_formatters (key : String) (demand : Demand) (compiler : Compiler) :
    key ∈ (demand.note compiler).formatters ↔
      key ∈ compiler.formatters ∨ key ∈ demand.formatters := by
  cases demand <;> simp [note, formatters, or_comm]

theorem mem_foldl_note {α : Type} {table : Compiler → List α} {adds : Demand → List α} {item : α}
    (step : ∀ demand compiler, item ∈ table (note compiler demand) ↔
      item ∈ table compiler ∨ item ∈ adds demand)
    (demands : List Demand) (compiler : Compiler) :
    item ∈ table (demands.foldl note compiler) ↔
      item ∈ table compiler ∨ ∃ demand ∈ demands, item ∈ adds demand := by
  induction demands generalizing compiler with
  | nil => simp
  | cons demand rest ih =>
      rw [List.foldl_cons, ih, step]
      simp only [List.mem_cons, exists_eq_or_imp, or_assoc]

end Demand

/-- The new table is the old one with exactly what is needed. -/
def ExtendedBy {α : Type} (old : List α) (needed : α → Prop) (new : List α) : Prop :=
  ∀ item, item ∈ new ↔ item ∈ old ∨ needed item

/-- The new table is the old one with some of what is needed. -/
def ExtendedWithin {α : Type} (old : List α) (needed : α → Prop) (new : List α) : Prop :=
  (∀ item ∈ old, item ∈ new) ∧ ∀ item ∈ new, item ∈ old ∨ needed item

section Noted

variable {φ α : Type} {route : Route} {desk after : Desk φ} {outcome : Except Failure Unit}
  {table : Compiler → List α} {adds : Demand → List α} {needed : α → Prop}

theorem Follows.extendedBy (follows : Follows route desk (.ok ()) after)
    (step : ∀ item demand compiler, item ∈ table (Demand.note compiler demand) ↔
      item ∈ table compiler ∨ item ∈ adds demand)
    (needs : ∀ item, (∃ demand ∈ route.demands, item ∈ adds demand) ↔ needed item) :
    ExtendedBy (table desk.compiler) needed (table after.compiler) := by
  intro item
  rw [follows.compiler_of_ok, Demand.mem_foldl_note (step item), needs]

theorem Follows.extendedWithin (follows : Follows route desk outcome after)
    (step : ∀ item demand compiler, item ∈ table (Demand.note compiler demand) ↔
      item ∈ table compiler ∨ item ∈ adds demand)
    (needs : ∀ item, (∃ demand ∈ route.demands, item ∈ adds demand) ↔ needed item) :
    ExtendedWithin (table desk.compiler) needed (table after.compiler) := by
  obtain ⟨met, within, _, noted⟩ := follows.notes
  rw [noted]
  constructor
  · intro item member
    exact (Demand.mem_foldl_note (step item) met _).mpr (.inl member)
  · intro item member
    rcases (Demand.mem_foldl_note (step item) met _).mp member with old | ⟨demand, done, added⟩
    · exact .inl old
    · exact .inr ((needs item).mp ⟨demand, within.mem done, added⟩)

end Noted

namespace Token

variable (locale : String) (part : Token)

theorem own_helpers (needed : Helper) :
    (∃ demand ∈ part.ownDemands (some locale), needed ∈ demand.helpers) ↔
      (needed = .select ∧ part.IsSelect) ∨ (needed = .plural ∧ part.IsPlural) := by
  cases part <;> simp [ownDemands, ownDemands.missing, Demand.helpers, IsSelect, IsPlural]

theorem own_locales (tag : String) :
    (∃ demand ∈ part.ownDemands (some locale), tag ∈ demand.locales) ↔
      part.IsPlural ∧ tag = locale := by
  cases part <;> simp [ownDemands, ownDemands.missing, Demand.locales, IsPlural]

theorem own_formatters (key : String) :
    (∃ demand ∈ part.ownDemands (some locale), key ∈ demand.formatters) ↔
      ∃ arg params, part = .call key arg params := by
  cases part <;> simp [ownDemands, ownDemands.missing, Demand.formatters, eq_comm (a := key)]

end Token

namespace Template

/-- The helpers without which the messages of a template cannot run. -/
def NeedsHelper (template : Template) : Helper → Prop
  | .select => ∃ part ∈ template.parts, part.IsSelect
  | .plural => ∃ part ∈ template.parts, part.IsPlural
  | .number => ∃ part ∈ template.parts, part.IsPlural ∧ .octothorpe ∈ part.inside

def NeedsRules (names : List String) (locale : String) (template : Template) (tag : String) : Prop :=
  ∃ leaf ∈ template.leaves, (∃ part ∈ Token.parts leaf.2, part.IsPlural) ∧
    tag = effectiveLocale names locale leaf.1

variable (names : List String) (locale : String) (template : Template)

theorem exists_mem_parts {property : Token → Prop} :
    (∃ part ∈ template.parts, property part) ↔
      ∃ leaf ∈ template.leaves, ∃ part ∈ Token.parts leaf.2, property part := by
  constructor
  · intro found
    obtain ⟨part, member, holds⟩ := found
    obtain ⟨leaf, leafMember, partMember⟩ := mem_parts.mp member
    exact ⟨leaf, leafMember, part, partMember, holds⟩
  · intro found
    obtain ⟨leaf, leafMember, part, partMember, holds⟩ := found
    exact ⟨part, mem_parts.mpr ⟨leaf, leafMember, partMember⟩, holds⟩

/-- What a template's demands add to a table, part by part, when entering a message and reporting it
add nothing. -/
theorem exists_adds {α : Type} {adds : Demand → List α} (item : α)
    (entering : ∀ inner, adds (.message inner) = []) (reporting : ∀ event, adds (.report event) = []) :
    (∃ demand ∈ (template.route names (some locale)).demands, item ∈ adds demand) ↔
      ∃ leaf ∈ template.leaves,
        (∃ part ∈ Token.parts leaf.2,
          ∃ demand ∈ part.ownDemands (some (effectiveLocale names locale leaf.1)),
            item ∈ adds demand) ∨
        (item ∈ adds (.helper .number) ∧ Token.NumberShown False (Token.parts leaf.2)) := by
  constructor
  · intro adds
    obtain ⟨demand, member, added⟩ := adds
    obtain ⟨leaf, leafMember, origin⟩ := (mem_route names locale template).mp member
    refine ⟨leaf, leafMember, ?_⟩
    rcases origin with rfl | rfl | ⟨part, partMember, owned⟩ | ⟨rfl, shown⟩
    · simp [entering] at added
    · simp [reporting] at added
    · exact .inl ⟨part, partMember, demand, owned, added⟩
    · exact .inr ⟨added, shown⟩
  · intro adds
    rcases adds with ⟨leaf, leafMember, ⟨part, partMember, demand, owned, added⟩ | ⟨added, shown⟩⟩
    · exact ⟨demand, (mem_route names locale template).mpr
        ⟨leaf, leafMember, .inr (.inr (.inl ⟨part, partMember, owned⟩))⟩, added⟩
    · exact ⟨.helper .number, (mem_route names locale template).mpr
        ⟨leaf, leafMember, .inr (.inr (.inr ⟨rfl, shown⟩))⟩, added⟩

theorem exists_helpers (needed : Helper) :
    (∃ demand ∈ (template.route names (some locale)).demands, needed ∈ demand.helpers) ↔
      template.NeedsHelper needed := by
  rw [exists_adds names locale template needed (fun _ => rfl) fun _ => rfl]
  simp only [Token.own_helpers]
  cases needed with
  | select => simp [NeedsHelper, exists_mem_parts, Demand.helpers]
  | plural => simp [NeedsHelper, exists_mem_parts, Demand.helpers]
  | number => simp [NeedsHelper, exists_mem_parts, Demand.helpers, Token.NumberShown]

theorem exists_locales (tag : String) :
    (∃ demand ∈ (template.route names (some locale)).demands, tag ∈ demand.locales) ↔
      template.NeedsRules names locale tag := by
  rw [exists_adds names locale template tag (fun _ => rfl) fun _ => rfl]
  simp only [Token.own_locales]
  simp [NeedsRules, Demand.locales, ← and_assoc]

theorem exists_formatters (key : String) :
    (∃ demand ∈ (template.route names (some locale)).demands, key ∈ demand.formatters) ↔
      template.Calls key := by
  rw [exists_adds names locale template key (fun _ => rfl) fun _ => rfl]
  simp only [Token.own_formatters]
  simp only [Demand.formatters, List.not_mem_nil, false_and, or_false, ← exists_mem_parts]
  constructor
  · intro found
    obtain ⟨_, member, arg, params, rfl⟩ := found
    exact ⟨arg, params, member⟩
  · intro called
    obtain ⟨arg, params, member⟩ := called
    exact ⟨_, member, arg, params, rfl⟩

/-- Every table stands in one relation to its old contents and to what the template needs. -/
structure Linked (extended : (α : Type) → List α → (α → Prop) → List α → Prop)
    (before after : Compiler) : Prop where
  helpers : extended Helper before.helpers template.NeedsHelper after.helpers
  locales : extended String before.locales (template.NeedsRules names locale) after.locales
  formatters : extended String before.formatters template.Calls after.formatters

end Template

/-- After a template compiled, every table is what it was with exactly what the template needs; after
a failure nothing is lost, and nothing is there that the template does not need. -/
theorem compile_links_needs {φ : Type} (names : List String) (locale : String) (template : Template)
    (desk : Desk φ) :
    (∀ compiled after, (Compilation.compile (.tags names) (some locale) template.toValue).run desk =
        (.ok compiled, after) →
      template.Linked names locale @ExtendedBy desk.compiler after.compiler) ∧
    ∀ failure after, (Compilation.compile (.tags names) (some locale) template.toValue).run desk =
        (.error failure, after) →
      template.Linked names locale @ExtendedWithin desk.compiler after.compiler := by
  have helpers := template.exists_helpers names locale
  have locales := template.exists_locales names locale
  have formatters := template.exists_formatters names locale
  constructor
  · intro compiled after returned
    have follows := (Template.follows_of_ok returned).2
    exact ⟨follows.extendedBy Demand.mem_note_helpers helpers,
      follows.extendedBy Demand.mem_note_locales locales,
      follows.extendedBy Demand.mem_note_formatters formatters⟩
  · intro failure after failed
    have follows := Template.follows_of_error failed
    exact ⟨follows.extendedWithin Demand.mem_note_helpers helpers,
      follows.extendedWithin Demand.mem_note_locales locales,
      follows.extendedWithin Demand.mem_note_formatters formatters⟩

/-- The number sign and the plural choice are noted, a selection is not, and the rules are those of
the inner locale. -/
theorem guests_links :
    ∃ compiled after, (Compilation.compile (.tags ["ar"]) (some "en") Template.guests.toValue).run
        (Desk.sample 3) = (.ok compiled, after) ∧
      Helper.number ∈ after.compiler.helpers ∧ Helper.select ∉ after.compiler.helpers ∧
      ∀ tag, tag ∈ after.compiler.locales ↔ tag = "ar" := by
  refine ⟨_, _, rfl, ?_⟩
  have linked := (compile_links_needs ["ar"] "en" .guests (.sample 3)).1 _ _ rfl
  refine ⟨(linked.helpers _).mpr (.inr ?_), fun noted => ?_, fun tag => (linked.locales tag).trans ?_⟩
  · exact ⟨_, List.mem_cons_self, .inl ⟨_, _, _, rfl⟩, List.mem_cons_self⟩
  · rcases (linked.helpers _).mp noted with old | ⟨part, member, arg, cases, rfl⟩
    · cases old
    · simp [Template.guests, Token.guests, Template.parts, Template.leaves, Template.branchLeaves, Token.parts,
        Token.inside, Case.parts] at member
  · constructor
    · intro noted
      rcases noted with old | ⟨leaf, member, _, rfl⟩
      · cases old
      · rw [List.mem_singleton.mp member]
        rfl
    · intro same
      subst same
      exact .inr ⟨_, List.mem_cons_self, ⟨_, List.mem_cons_self, .inl ⟨_, _, _, rfl⟩⟩, rfl⟩

end Phrasebook
