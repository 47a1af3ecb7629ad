import Phrasebook.Proofs.Compiler.Origins
import Phrasebook.Proofs.Target.LineTerminators

/-!
Line terminators in renderings on one line.  The keys of cases are quoted with what cannot be printed
escaped; the argument of a choice and the key of a formatter stand in a message as they are.  So a
rendering is broken into lines exactly by the terminators of these two.
-/

namespace Phrasebook

open Target Text

section

variable {c : Char} (line : c ∈ lineTerminators)
include line

theorem not_isPrintable : isPrintable c = false := by
  rcases line_cases line with rfl | rfl | rfl | rfl <;> decide +kernel

theorem not_mem_escapeQuoted {mark : Char} (plain : isPlain mark = true) (d : Char) :
    c ∉ escapeQuoted mark d := by
  unfold escapeQuoted
  split <;> rename_i shielded
  · have plain : isPlain d = true := by
      rcases Bool.or_eq_true_iff.mp shielded with same | same
      · rwa [eq_of_beq same]
      · rw [eq_of_beq same]
        decide
    exact not_mem_of_plain line (by simp [plain, show isPlain '\\' = true by decide])
  split
  · exact not_mem_of_plain line (by decide)
  split
  · exact not_mem_of_plain line (by decide)
  split
  · exact not_mem_of_plain line (by decide)
  split <;> rename_i printable
  · -- No terminator is printable, so the separators do not come through here either.
    intro member
    rw [← List.mem_singleton.mp member, not_isPrintable line] at printable
    contradiction
  · repeat' split
    all_goals
      simp (disch := decide) only [mem_cons_of_plain line]
      exact not_mem_hexDigits line _ _

theorem not_mem_quoted (text : String) : c ∉ (quoted text).toList := by
  have plain : isPlain (quoteMark text.toList) = true := by
    unfold quoteMark
    split <;> decide
  have inside : c ∉ text.toList.flatMap (escapeQuoted (quoteMark text.toList)) := by
    intro member
    obtain ⟨d, _, escaped⟩ := List.mem_flatMap.mp member
    exact not_mem_escapeQuoted line plain d escaped
  rw [quoted, String.toList_ofList, quotedChars, List.cons_append, mem_cons_of_plain line plain,
    List.mem_append, mem_cons_of_plain line plain]
  exact not_or.mpr ⟨inside, List.not_mem_nil⟩

theorem not_mem_commaSeparated {items : List String} (plain : ∀ item ∈ items, c ∉ item.toList) :
    c ∉ (commaSeparated items).toList := by
  induction items with
  | nil => exact List.not_mem_nil
  | cons item rest ih =>
      obtain ⟨first, others⟩ := List.forall_mem_cons.mp plain
      cases rest with
      | nil => simpa [commaSeparated] using first
      | cons next rest =>
          have comma : c ∉ ", ".toList := not_mem_of_plain line (by decide)
          rw [commaSeparated, String.intercalate_cons_cons, ← commaSeparated]
          simp only [String.toList_append, List.mem_append, first, comma, ih others, or_self,
            not_false_eq_true]

theorem not_mem_toString (value : Int) : c ∉ (toString value).toList := by
  rw [Int.toString_eq_repr, Int.repr_eq_if]
  split
  · rw [Nat.toList_repr]
    exact not_mem_numeral line (.digits _)
  · rw [String.toList_append, Nat.toList_repr, mem_append_of_plain line (by decide)]
    exact not_mem_numeral line (.digits _)

end

/-- The keys of a part that its errors repeat as they are. -/
def Token.repeatedKeys : Token → List String
  | .select arg _ | .plural arg _ _ | .ordinal arg _ => [arg]
  | .call key _ _ => [key]
  | .text _ | .argument _ | .octothorpe => []

/-- The character stands in the argument or in the formatter that the diagnostic names. -/
def Diagnostic.Repeats (diagnostic : Diagnostic) (c : Char) : Prop :=
  c ∈ diagnostic.argumentName.plain.toList ∨ c ∈ diagnostic.formatterKey.plain.toList

theorem Value.shown_str (text : String) : (Value.str text).shown = quoted text := rfl

namespace Diagnostic

section

variable {c : Char} (line : c ∈ lineTerminators)
include line

theorem not_mem_null : c ∉ Value.null.plain.toList :=
  not_mem_of_plain line (by decide)

theorem not_mem_shown (keys : List String) :
    c ∉ (commaSeparated ((keys.map Value.str).map Value.shown)).toList := by
  apply not_mem_commaSeparated line
  intro item member
  obtain ⟨value, listed, rfl⟩ := List.mem_map.mp member
  obtain ⟨key, _, rfl⟩ := List.mem_map.mp listed
  rw [Value.shown_str]
  exact not_mem_quoted line key

theorem mem_missingFallbackCase {choice : String} (plain : choice.toList.all isPlain = true)
    (arg : String) (keys : List String) :
    c ∈ (missingFallbackCase choice (.str arg) (keys.map .str)).message.toList ↔ c ∈ arg.toList := by
  have listed : c ∉ (if (commaSeparated ((keys.map Value.str).map Value.shown)).isEmpty then "none"
      else commaSeparated ((keys.map Value.str).map Value.shown)).toList := by
    split
    · exact not_mem_of_plain line (by decide)
    · exact not_mem_shown line keys
  simp (disch := decide) only [missingFallbackCase, String.toList_append, List.mem_append,
    not_mem_of_plain line plain, listed, not_mem_of_plain line, or_false, false_or, Value.plain]

theorem mem_unresolvedFormatter (key : String) (locale : Option String) :
    c ∈ (unresolvedFormatter (.str key) locale).message.toList ↔ c ∈ key.toList := by
  simp (disch := decide) only [unresolvedFormatter, String.toList_append, List.mem_append,
    not_mem_of_plain line, or_false, false_or, Value.plain]

theorem not_mem_maxDepthExceeded (limit : Int) : c ∉ (maxDepthExceeded limit).message.toList := by
  simp (disch := decide) only [maxDepthExceeded, String.toList_append, List.mem_append,
    not_mem_of_plain line, not_mem_toString line, or_self, not_false_eq_true]

end

/-- Message and named keys of the diagnostic hold the line terminators of this key. -/
def BreaksLike (diagnostic : Diagnostic) (key : String) : Prop :=
  ∀ c ∈ lineTerminators,
    (c ∈ diagnostic.message.toList ↔ c ∈ key.toList) ∧ (diagnostic.Repeats c ↔ c ∈ key.toList)

theorem BreaksLike.missing {choice : String} (plain : choice.toList.all isPlain = true) (arg : String)
    (cases : List Case) :
    (missingFallbackCase choice (.str arg) (cases.map fun case => .str case.key)).BreaksLike arg := by
  have same : cases.map (fun case => Value.str case.key) = (cases.map Case.key).map Value.str := by simp
  intro c line
  rw [same]
  exact ⟨mem_missingFallbackCase line plain arg _, or_iff_left (not_mem_null line)⟩

theorem BreaksLike.unresolved (key : String) (locale : Option String) :
    (unresolvedFormatter (.str key) locale).BreaksLike key := by
  intro c line
  exact ⟨mem_unresolvedFormatter line key locale, or_iff_right (not_mem_null line)⟩

end Diagnostic

namespace Renderer

variable {c : Char} (line : c ∈ lineTerminators)
include line

theorem mem_of_mem_cut {renderer : Renderer} {text : String} (member : c ∈ (renderer.cut text).toList) :
    c ∈ text.toList := by
  unfold cut at member
  split at member
  · rw [String.toList_append, List.mem_append,
      or_iff_left (not_mem_of_plain line (by decide)), firstChars, String.toList_ofList] at member
    exact List.mem_of_mem_take member
  · exact member

theorem mem_simple (renderer : Renderer) (diagnostic : Diagnostic) :
    c ∈ (renderer.simple diagnostic).toList ↔ c ∈ (renderer.cut diagnostic.message).toList := by
  have name : c ∉ diagnostic.code.name.toList := by
    cases diagnostic.code <;> exact not_mem_of_plain line (by decide)
  simp (disch := decide) only [simple, String.toList_append, List.mem_append, name,
    not_mem_of_plain line, false_or]

end Renderer

/-- An error of a part repeats one of its keys as it is, and holds no other terminator. -/
theorem Token.Raises.repeats {part : Token} {error : TemplateError} (raises : part.Raises error) :
    ∃ diagnostic, error.report = .diagnostic diagnostic ∧ diagnostic.path = none ∧
      ∃ key ∈ part.repeatedKeys, diagnostic.BreaksLike key := by
  cases raises with
  | select arg cases => exact ⟨_, rfl, rfl, arg, List.mem_cons_self, .missing (by decide) arg cases⟩
  | plural arg cases _ => exact ⟨_, rfl, rfl, arg, List.mem_cons_self, .missing (by decide) arg cases⟩
  | ordinal arg cases => exact ⟨_, rfl, rfl, arg, List.mem_cons_self, .missing (by decide) arg cases⟩
  | call key _ _ locale => exact ⟨_, rfl, rfl, key, List.mem_cons_self, .unresolved key locale⟩

theorem Template.Raises.repeats {template : Template} {error : TemplateError}
    (raises : template.Raises error) :
    ∃ diagnostic, error.report = .diagnostic diagnostic ∧ diagnostic.path = none ∧
      ∀ c ∈ lineTerminators, (c ∈ diagnostic.message.toList ↔ diagnostic.Repeats c) ∧
        (diagnostic.Repeats c → ∃ part ∈ template.parts, ∃ key ∈ part.repeatedKeys, c ∈ key.toList) := by
  rcases raises with ⟨part, member, raises⟩ | ⟨limit, rfl⟩
  · obtain ⟨diagnostic, reported, pathless, key, repeated, breaks⟩ := raises.repeats
    refine ⟨diagnostic, reported, pathless, fun c line => ?_⟩
    obtain ⟨message, repeats⟩ := breaks c line
    exact ⟨message.trans repeats.symm, fun found => ⟨part, member, key, repeated, repeats.mp found⟩⟩
  · refine ⟨_, rfl, rfl, fun c line => ?_⟩
    have absent : ¬ (Diagnostic.maxDepthExceeded limit).Repeats c :=
      not_or.mpr ⟨Diagnostic.not_mem_null line, Diagnostic.not_mem_null line⟩
    exact ⟨iff_of_false (Diagnostic.not_mem_maxDepthExceeded line limit) absent,
      fun found => absurd found absent⟩

/-- A rendering on one line is broken only by the terminators of an argument or of a formatter that the
template names, and by every one of them that the diagnostic repeats unless the message is cut. -/
theorem simple_rendering_breaks_only_at_keys {φ : Type} (names : List String) (locale : String)
    (template : Template) (desk after : Desk φ) (error : TemplateError)
    (failed : (Compilation.compile (.tags names) (some locale) template.toValue).run desk =
      (.error (.template error), after)) (renderer : Renderer) (style : renderer.style = some .simple) :
    ∃ diagnostic text, error.report = .diagnostic diagnostic ∧
      renderer.render diagnostic = .ok (some text) ∧
      ∀ c ∈ lineTerminators,
        (c ∈ text.toList → ∃ part ∈ template.parts, ∃ key ∈ part.repeatedKeys, c ∈ key.toList) ∧
        (renderer.sanitize = false → (c ∈ text.toList ↔ diagnostic.Repeats c)) := by
  obtain ⟨path, own, rfl, raises⟩ := Template.raises_of_compile failed
  obtain ⟨diagnostic, reported, pathless, breaks⟩ := raises.repeats
  rw [TemplateError.report_under reported pathless]
  refine ⟨_, _, rfl, by rw [Renderer.render, style]; rfl, fun c line => ?_⟩
  obtain ⟨message, source⟩ := breaks c line
  rw [Renderer.mem_simple line]
  refine ⟨fun member => source (message.mp (Renderer.mem_of_mem_cut line member)), fun whole => ?_⟩
  rw [Renderer.cut, whole]
  exact message

/-- The argument of a choice breaks its rendering, and the key of its case does not. -/
theorem choice_rendering_breaks_at_argument :
    ∃ (error : TemplateError) (after : Desk Unit) (diagnostic : Diagnostic) (text : String),
      (Compilation.compile (.tags []) (some "en")
          (Template.message [.select "a\nb" [.mk "c\rd" []]]).toValue).run (.sample 5) =
        (.error (.template error), after) ∧
      error.report = .diagnostic diagnostic ∧
      Renderer.render { style := some .simple } diagnostic = .ok (some text) ∧
      '\n' ∈ text.toList ∧ '\r' ∉ text.toList := by
  have failed : (Compilation.compile (.tags []) (some "en")
      (Template.message [.select "a\nb" [.mk "c\rd" []]]).toValue).run (.sample 5) =
        (.error (.template (.missingFallbackCase "select" (.str "a\nb") [.str "c\rd"])), _) := rfl
  obtain ⟨diagnostic, text, reported, rendered, breaks⟩ :=
    simple_rendering_breaks_only_at_keys _ _ _ _ _ _ failed { style := some .simple } rfl
  refine ⟨_, _, diagnostic, text, failed, reported, rendered, ?_, fun found => ?_⟩
  · cases reported
    exact ((breaks '\n' (by decide)).2 rfl).mpr (.inl (by decide))
  · obtain ⟨part, member, key, repeated, inside⟩ := (breaks '\r' (by decide)).1 found
    obtain rfl : part = .select "a\nb" [.mk "c\rd" []] := by
      simpa [Template.parts, Template.leaves, Token.parts, Token.inside, Case.parts] using member
    rw [List.mem_singleton.mp repeated] at inside
    revert inside
    decide

theorem newline_in_simple_rendering :
    ∃ (error : TemplateError) (after : Desk Unit) (diagnostic : Diagnostic) (text : String),
      (Compilation.compile (.tags []) (some "en") (Template.message [.select "a\nb" []]).toValue).run
        (.sample 5) = (.error (.template error), after) ∧
      error.report = .diagnostic diagnostic ∧
      Renderer.render { style := some .simple } diagnostic = .ok (some text) ∧ '\n' ∈ text.toList :=
  ⟨_, _, _, _, rfl, rfl, rfl, by decide⟩

end Phrasebook
