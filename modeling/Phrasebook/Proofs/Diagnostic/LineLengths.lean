import Phrasebook.Diagnostic.Renderer

/-!
How long the lines of a rendering get when its contents are cut.  Message and hint are cut to a length;
whatever else a rendering over several lines tells is printed whole: the path, the kind of the part, its
argument, its formatter and the locale.  So the one style has short lines, and the other has them but for
the lines of those fields, which no length bounds.
-/

namespace Phrasebook

namespace Text

/-- The lines of a text, which newlines separate. -/
def lines (text : String) : List (List Char) :=
  text.toList.splitOn '\n'

theorem lines_intercalate (text : String) (more : List String) :
    lines (String.intercalate "\n" (text :: more)) = (text :: more).flatMap lines := by
  induction more generalizing text with
  | nil => simp
  | cons next more ih =>
      have split := List.splitOn_append_cons_self (a := '\n') text.toList
        (String.intercalate "\n" (next :: more)).toList
      rw [String.intercalate_cons_cons, List.flatMap_cons, ← ih next]
      simpa [lines] using split

theorem length_le_of_mem_lines {text : String} {line : List Char} (member : line ∈ lines text) :
    line.length ≤ text.length := by
  rw [← String.length_toList]
  unfold lines at member
  generalize text.toList = chars at member
  induction chars generalizing line with
  | nil =>
      rw [List.splitOn_nil, List.mem_singleton] at member
      exact Nat.le_of_eq (congrArg List.length member)
  | cons c rest ih =>
      obtain ⟨first, more, split⟩ := List.exists_cons_of_ne_nil (List.splitOn_ne_nil '\n' rest)
      -- The character ends a line, or it comes before the first line of the rest.
      rw [List.splitOn_cons_eq_if_modifyHead] at member
      rw [split] at ih member
      split at member
      · rcases List.mem_cons.mp member with rfl | later
        · exact Nat.zero_le _
        · exact Nat.le_succ_of_le (ih later)
      · rcases List.mem_cons.mp member with rfl | later
        · exact Nat.succ_le_succ (ih List.mem_cons_self)
        · exact Nat.le_succ_of_le (ih (List.mem_cons_of_mem _ later))

/-- Whatever stands before the first newline is on the first line. -/
theorem exists_line_of_start {text start : String} {rest : List Char} (unbroken : '\n' ∉ start.toList)
    (starts : text.toList = start.toList ++ rest) : ∃ line ∈ lines text, start.length ≤ line.length := by
  rw [← String.length_toList]
  simp only [lines, starts]
  suffices first : ∃ line more, (start.toList ++ rest).splitOn '\n' = (start.toList ++ line) :: more by
    obtain ⟨line, more, split⟩ := first
    exact ⟨start.toList ++ line, by simp [split], by simp⟩
  generalize start.toList = chars at unbroken
  induction chars with
  | nil => exact List.exists_cons_of_ne_nil (List.splitOn_ne_nil '\n' rest)
  | cons c chars ih =>
      rw [List.mem_cons, not_or] at unbroken
      obtain ⟨line, more, split⟩ := ih unbroken.2
      refine ⟨line, more, ?_⟩
      rw [List.cons_append, List.splitOn_cons_eq_if_modifyHead, if_neg, split]
      · rfl
      · simpa using Ne.symm unbroken.1

end Text

namespace Diagnostic

/-- The diagnostics that errors come with: one for each code, seen through any number of catalogs. -/
inductive IsBuilt : Diagnostic → Prop where
  | missingFallbackCase (tokenType : String) (arg : Value) (keys : List Value) :
      IsBuilt (.missingFallbackCase tokenType arg keys)
  | unresolvedFormatter (key : Value) (locale : Option String) :
      IsBuilt (.unresolvedFormatter key locale)
  | unrecognizedToken (token : Value) : IsBuilt (.unrecognizedToken token)
  | malformedToken (token : Value) (detail : String) : IsBuilt (.malformedToken token detail)
  | maxDepthExceeded (limit : Int) : IsBuilt (.maxDepthExceeded limit)
  | within {diagnostic : Diagnostic} (key : String) (built : IsBuilt diagnostic) :
      IsBuilt (diagnostic.within key)

theorem IsBuilt.helpUrl {diagnostic : Diagnostic} (built : diagnostic.IsBuilt) :
    ∀ url ∈ diagnostic.helpUrl, url = guideUrl := by
  induction built with
  | missingFallbackCase tokenType arg keys =>
      rintro url ⟨⟩
      rfl
  | within key built ih => exact ih
  | _ =>
      rintro url ⟨⟩

/-- The fields that are never cut. -/
def wholeFields (diagnostic : Diagnostic) : List String :=
  [String.intercalate "." (diagnostic.path.getD []), diagnostic.tokenType.getD "",
    diagnostic.argumentName.plain, diagnostic.formatterKey.plain, diagnostic.locale.getD ""]

end Diagnostic

namespace Renderer

open Text

theorem length_cut {renderer : Renderer} {n : Nat} (cuts : renderer.sanitize = true)
    (atLength : renderer.maxLength = n) (text : String) : (renderer.cut text).length ≤ n + 3 := by
  unfold cut
  split
  · have kept : (firstChars n text).length ≤ n := by
      simp only [firstChars, Int.natCast_nonneg, if_true, Int.toNat_natCast, String.length_ofList,
        List.length_take]
      exact Nat.min_le_left n _
    have dots : "...".length = 3 := rfl
    rw [atLength, String.length_append]
    omega
  · rename_i within
    simp only [cuts, atLength, Bool.true_and, decide_eq_true_eq] at within
    omega

theorem length_name (code : DiagnosticCode) : code.name.length ≤ 21 := by
  cases code <;> decide

theorem length_severityText (renderer : Renderer) (diagnostic : Diagnostic) :
    (renderer.severityText diagnostic).length ≤ 18 := by
  unfold severityText
  cases renderer.color <;> cases diagnostic.severity == "warning" <;> decide

def headline (renderer : Renderer) (diagnostic : Diagnostic) : String :=
  renderer.severityText diagnostic ++ "[" ++ diagnostic.code.name ++ "]: "
    ++ renderer.cut diagnostic.message

theorem mem_lines_rust {renderer : Renderer} {diagnostic : Diagnostic} {line : List Char} :
    line ∈ lines (renderer.rust diagnostic) ↔
      line ∈ lines (renderer.headline diagnostic) ∨
        ∃ detail ∈ renderer.details diagnostic, line ∈ lines detail := by
  rw [rust, ← headline, lines_intercalate, List.flatMap_cons, List.mem_append, List.mem_flatMap]

/-- A detail is a label with a field printed whole, with a hint that was cut, or with the address of the
guide. -/
theorem mem_details {renderer : Renderer} {diagnostic : Diagnostic} {detail : String}
    (member : detail ∈ renderer.details diagnostic) :
    (∃ label, label.length ≤ 15 ∧ ∃ field ∈ diagnostic.wholeFields, detail = label ++ field) ∨
      (∃ hint, detail = "  = help: " ++ renderer.cut hint) ∨
      ∃ url ∈ diagnostic.helpUrl, detail = "  = note: see " ++ url := by
  obtain ⟨printed, place, rfl⟩ := List.mem_filterMap.mp member
  simp only [List.mem_cons, List.not_mem_nil, or_false] at place
  have whole {label : String} {text : Option String} (labelled : label.length ≤ 15)
      (field : ∀ content ∈ text, content ∈ diagnostic.wholeFields)
      (here : some detail = text.map (label ++ ·)) :
      ∃ label, label.length ≤ 15 ∧ ∃ field ∈ diagnostic.wholeFields, detail = label ++ field := by
    obtain ⟨content, found, rfl⟩ := Option.map_eq_some_iff.mp here.symm
    exact ⟨label, labelled, content, field content found, rfl⟩
  rcases place with path | token | argument | formatter | locale | help | note
  · refine .inl (whole (by decide) (fun content found => ?_) path)
    obtain ⟨keys, kept, rfl⟩ := Option.map_eq_some_iff.mp found
    simp [Diagnostic.wholeFields, (Option.filter_eq_some_iff.mp kept).1]
  · refine .inl (whole (by decide) (fun content found => ?_) token)
    simp [Diagnostic.wholeFields, (Option.filter_eq_some_iff.mp found).1]
  · refine .inl (whole (by decide) (fun content found => ?_) argument)
    obtain ⟨_, rfl⟩ : _ ∧ _ = content := by simpa using found
    simp [Diagnostic.wholeFields]
  · refine .inl (whole (by decide) (fun content found => ?_) formatter)
    obtain ⟨_, rfl⟩ : _ ∧ _ = content := by simpa using found
    simp [Diagnostic.wholeFields]
  · refine .inl (whole (by decide) (fun content found => ?_) locale)
    simp [Diagnostic.wholeFields, (Option.filter_eq_some_iff.mp found).1]
  · obtain ⟨content, found, rfl⟩ := Option.map_eq_some_iff.mp help.symm
    obtain ⟨hint, _, rfl⟩ := Option.map_eq_some_iff.mp found
    exact .inr (.inl ⟨hint, rfl⟩)
  · obtain ⟨url, found, rfl⟩ := Option.map_eq_some_iff.mp note.symm
    exact .inr (.inr ⟨url, (Option.filter_eq_some_iff.mp found).1, rfl⟩)

theorem length_line_simple {renderer : Renderer} {n : Nat} (cuts : renderer.sanitize = true)
    (atLength : renderer.maxLength = n) {diagnostic : Diagnostic} {line : List Char}
    (member : line ∈ lines (renderer.simple diagnostic)) : line.length ≤ n + 26 := by
  have short := length_le_of_mem_lines member
  have name := length_name diagnostic.code
  have message := length_cut cuts atLength diagnostic.message
  have colon : ": ".length = 2 := rfl
  simp only [simple, String.length_append] at short
  omega

theorem length_line_rust {renderer : Renderer} {n : Nat} (cuts : renderer.sanitize = true)
    (atLength : renderer.maxLength = n) {diagnostic : Diagnostic} (built : diagnostic.IsBuilt)
    {line : List Char} (member : line ∈ lines (renderer.rust diagnostic)) :
    line.length ≤ n + 80 ∨ ∃ field ∈ diagnostic.wholeFields, line.length ≤ field.length + 15 := by
  rcases mem_lines_rust.mp member with first | ⟨detail, listed, further⟩
  · have short := length_le_of_mem_lines first
    have severity := length_severityText renderer diagnostic
    have name := length_name diagnostic.code
    have message := length_cut cuts atLength diagnostic.message
    -- The colours are counted too, though a terminal does not show them.
    have marks : "[".length = 1 ∧ "]: ".length = 3 := ⟨rfl, rfl⟩
    simp only [headline, String.length_append] at short
    omega
  · have short := length_le_of_mem_lines further
    rcases mem_details listed with ⟨label, labelled, field, whole, rfl⟩ | ⟨hint, rfl⟩ | ⟨url, given, rfl⟩
    · rw [String.length_append] at short
      exact .inr ⟨field, whole, by omega⟩
    · have help := length_cut cuts atLength hint
      have label : "  = help: ".length = 10 := rfl
      rw [String.length_append] at short
      omega
    · have guide : ("  = note: see " ++ Diagnostic.guideUrl).length = 80 := by decide
      rw [built.helpUrl url given, guide] at short
      omega

/-- The keys of a path are printed whole, so a long key makes a long line. -/
theorem exists_long_line_rust (renderer : Renderer) (diagnostic : Diagnostic) (bound : Nat) :
    ∃ key, ∃ line ∈ lines (renderer.rust (diagnostic.within key)), bound < line.length := by
  let key := String.ofList (List.replicate bound 'k')
  let located := "  --> " ++ String.intercalate "." (key :: diagnostic.path.getD [])
  have listed : located ∈ renderer.details (diagnostic.within key) :=
    List.mem_filterMap.mpr ⟨some located, List.mem_cons_self, rfl⟩
  obtain ⟨rest, starts⟩ : ∃ rest, located.toList = ("  --> " ++ key).toList ++ rest := by
    simp only [located]
    cases diagnostic.path.getD [] <;> simp
  have unbroken : '\n' ∉ ("  --> " ++ key).toList := by simp [key]
  obtain ⟨line, further, long⟩ := exists_line_of_start unbroken starts
  have label : "  --> ".length = 6 := rfl
  rw [String.length_append, label, String.length_ofList, List.length_replicate] at long
  exact ⟨key, line, mem_lines_rust.mpr (.inr ⟨located, listed, further⟩), by omega⟩

end Renderer

open Text

/-- Cutting contents bounds the lines of the one style.  In the other a line is as short, or it is no longer
than the label and one field that is printed whole; and there every diagnostic comes with lines of any length,
inside catalogs with long keys. -/
theorem cut_lines_are_short_but_for_whole_fields (n : Nat) (color : Bool) {diagnostic : Diagnostic}
    (built : diagnostic.IsBuilt) :
    (∃ text, Renderer.render ⟨some .simple, true, color, n⟩ diagnostic = .ok (some text) ∧
      ∀ line ∈ lines text, line.length ≤ n + 26) ∧
    (∃ text, Renderer.render ⟨some .rust, true, color, n⟩ diagnostic = .ok (some text) ∧
      ∀ line ∈ lines text, line.length ≤ n + 80 ∨
        ∃ field ∈ diagnostic.wholeFields, line.length ≤ field.length + 15) ∧
    ∀ bound, ∃ key text,
      Renderer.render ⟨some .rust, true, color, n⟩ (diagnostic.within key) = .ok (some text) ∧
        ∃ line ∈ lines text, bound < line.length := by
  refine ⟨⟨_, rfl, ?_⟩, ⟨_, rfl, ?_⟩, fun bound => ?_⟩
  · intro line member
    exact Renderer.length_line_simple rfl rfl member
  · intro line member
    exact Renderer.length_line_rust rfl rfl built member
  · obtain ⟨key, line, member, long⟩ :=
      Renderer.exists_long_line_rust ⟨some .rust, true, color, n⟩ diagnostic bound
    exact ⟨key, _, rfl, line, member, long⟩

theorem cut_lines_of_formatter :
    ((Diagnostic.unresolvedFormatter (.str "money") (some "en")).within "menu").IsBuilt ∧
      ∃ text, Renderer.render ⟨some .simple, true, false, 10⟩
          ((Diagnostic.unresolvedFormatter (.str "money") (some "en")).within "menu") = .ok (some text) ∧
        ∀ line ∈ lines text, line.length ≤ 36 :=
  have built := .within "menu" (.unresolvedFormatter (.str "money") (some "en"))
  ⟨built, (cut_lines_are_short_but_for_whole_fields 10 false built).1⟩

/-- No constant is enough in the style of several lines, already for one choice without cases. -/
theorem cut_lines_unbounded : ¬ ∃ constant, ∀ (n : Nat) (diagnostic : Diagnostic) (text : String),
    diagnostic.IsBuilt → Renderer.render ⟨some .rust, true, false, n⟩ diagnostic = .ok (some text) →
      ∀ line ∈ lines text, line.length ≤ n + constant := by
  rintro ⟨constant, bounded⟩
  obtain ⟨key, line, member, long⟩ := Renderer.exists_long_line_rust ⟨some .rust, true, false, 10⟩
    (.missingFallbackCase "select" (.str "gender") []) (10 + constant)
  have built := Diagnostic.IsBuilt.within key (.missingFallbackCase "select" (.str "gender") [])
  have short := bounded 10 _ _ built rfl line member
  omega

end Phrasebook
