import Phrasebook.Proofs.Compiler.Reads
import Phrasebook.Proofs.Summary.Depth

/-!
Summaries agree with the compiler.  The summary of a template names the helpers and formatters that
its compiled messages are linked with and the data that their source reads.
-/

namespace Phrasebook

open Target

namespace Summary

/-- What a summary promises of a compiled template and of the tables it is linked with. -/
structure Describes (summary : Summary) (compiled : Compiled) (tables : Compiler) : Prop where
  usesSelect : summary.usesSelect = true ↔ Helper.select ∈ tables.helpers
  usesPlural : summary.usesPlural = true ↔ Helper.plural ∈ tables.helpers
  usesOctothorpe : summary.usesOctothorpe = true ↔ Helper.number ∈ tables.helpers
  formatters : ∀ value, value ∈ summary.formatters ↔ ∃ key, value = .str key ∧ key ∈ tables.formatters
  arguments : ∀ value, value ∈ summary.arguments ↔
    ∃ key, value = .str key ∧ ∃ source ∈ compiled.sources, key ∈ dataReads source.toList

/-- Whether a summary says that a helper is called. -/
def uses (summary : Summary) : Helper → Bool
  | .select => summary.usesSelect
  | .plural => summary.usesPlural
  | .number => summary.usesOctothorpe

theorem Collects.uses_iff {template : Template} {summary : Summary}
    (collects : Collects template.parts {} summary) (needed : Helper) :
    summary.uses needed = true ↔ template.NeedsHelper needed := by
  cases needed with
  | select => simp [uses, Template.NeedsHelper, collects.usesSelect]
  | plural => simp [uses, Template.NeedsHelper, collects.usesPlural]
  | number => simp [uses, Template.NeedsHelper, collects.usesOctothorpe, Token.NumberShown]

end Summary

/-- The summary of a template describes what a compiler that has compiled nothing else makes of it. -/
theorem summary_describes_compiled {φ : Type} (names : List String) (locale : String) (limit : Int)
    (template : Template) (config : Config φ) (summary : Summary) (compiled : Compiled)
    (after : Desk φ) (summarised : Summary.ofTemplate template.toValue = .ok summary)
    (returned : (Compilation.compile (.tags names) (some locale) template.toValue).run
      { config := config, compiler := .ofLimit limit } = (.ok compiled, after)) :
    summary.Describes compiled after.compiler := by
  have collects := Summary.collects_of_ok summarised
  obtain ⟨emitted, follows⟩ := Template.follows_of_ok returned
  have helpers := follows.extendedBy Demand.mem_note_helpers (template.exists_helpers names locale)
  have formatters :=
    follows.extendedBy Demand.mem_note_formatters (template.exists_formatters names locale)
  have linked (needed : Helper) : summary.uses needed = true ↔ needed ∈ after.compiler.helpers := by
    rw [collects.uses_iff]
    simpa [Compiler.ofLimit] using (helpers needed).symm
  have called (key : String) : key ∈ after.compiler.formatters ↔ template.Calls key := by
    simpa [Compiler.ofLimit] using formatters key
  refine ⟨linked .select, linked .plural, linked .number, fun value => ?_, fun value => ?_⟩
  · simp only [collects.formatters, called, List.not_mem_nil, false_or]
    rfl
  · simp only [collects.arguments, emitted, Template.reads_emitted, List.not_mem_nil, false_or]

/-- The number sign and the formatter of a plural choice are in its summary. -/
theorem guests_summary_describes_compiled :
    ∃ summary compiled after, Summary.ofTemplate Template.guests.toValue = .ok summary ∧
      (Compilation.compile (.tags ["ar"]) (some "en") Template.guests.toValue).run (Desk.sample 3) =
        (.ok compiled, after) ∧
      summary.Describes compiled after.compiler ∧
      summary.usesOctothorpe = true ∧ .str "number" ∈ summary.formatters := by
  obtain ⟨summary, summarised⟩ :=
    Summary.exists_summary (show Template.guests.visitedDepth ≤ Guard.defaultLimit by decide)
  have described := summary_describes_compiled ["ar"] "en" 3 .guests (Desk.sample 3).config summary
    _ _ summarised rfl
  refine ⟨summary, _, _, summarised, rfl, described, described.usesOctothorpe.mpr ?_,
    (described.formatters _).mpr ⟨"number", rfl, ?_⟩⟩
  · decide
  · decide

end Phrasebook
