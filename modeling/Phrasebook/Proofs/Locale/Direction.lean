import Phrasebook.Locale.Direction
import Phrasebook.Proofs.Locale.Tags

/-!
The writing direction of a tag, told from its subtags.  A start in the table of right-to-left locales is
itself one subtag or two.  A tag that starts so has these subtags in front, but the last of them may go on
in the tag: a language whose code is longer is taken for the one whose code begins it.  The table is free
of starts that begin another, so no tag both names a right-to-left locale and overruns one.
-/

namespace Phrasebook.Locale

def isSeparator (c : Char) : Bool :=
  c == '-' || c == '_'

def subtags (tag : List Char) : List (List Char) :=
  tag.splitOnP isSeparator

theorem subtags_ne_nil (tag : List Char) : subtags tag ≠ [] :=
  List.splitOnP_ne_nil _ tag

theorem subtags_of_separator {c : Char} (separates : isSeparator c = true) (tag : List Char) :
    subtags (c :: tag) = [] :: subtags tag := by
  rw [subtags, List.splitOnP_cons_eq_if_modifyHead, if_pos separates, subtags]

theorem subtags_of_inside {c : Char} {tag first : List Char} {rest : List (List Char)}
    (inside : isSeparator c = false) (split : subtags tag = first :: rest) :
    subtags (c :: tag) = (c :: first) :: rest := by
  rw [subtags, List.splitOnP_cons_eq_if_modifyHead, if_neg (by simp [inside]), ← subtags, split,
    List.modifyHead_cons]

/-- Induction along a text and its subtags. -/
@[elab_as_elim]
theorem subtags_induction {motive : List Char → List (List Char) → Prop} (nil : motive [] [[]])
    (separator : ∀ c tag first rest, isSeparator c = true → motive tag (first :: rest) →
      motive (c :: tag) ([] :: first :: rest))
    (inside : ∀ c tag first rest, isSeparator c = false → motive tag (first :: rest) →
      motive (c :: tag) ((c :: first) :: rest)) (tag : List Char) : motive tag (subtags tag) := by
  induction tag with
  | nil => exact nil
  | cons c tag ih =>
      obtain ⟨first, rest, split⟩ := List.exists_cons_of_ne_nil (subtags_ne_nil tag)
      rw [split] at ih
      cases separates : isSeparator c with
      | true =>
          rw [subtags_of_separator separates, split]
          exact separator c tag first rest separates ih
      | false =>
          rw [subtags_of_inside separates split]
          exact inside c tag first rest separates ih

theorem isSeparator_of_mem_subtags {tag subtag : List Char} {c : Char} (member : subtag ∈ subtags tag)
    (inner : c ∈ subtag) : isSeparator c = false := by
  induction tag using subtags_induction generalizing subtag with
  | nil =>
      rw [List.mem_singleton.mp member] at inner
      contradiction
  | separator first tag head tail separates ih =>
      rcases List.mem_cons.mp member with rfl | member
      · contradiction
      · exact ih member inner
  | inside first tag head tail inside ih =>
      rcases List.mem_cons.mp member with rfl | member
      · rcases List.mem_cons.mp inner with rfl | inner
        · exact inside
        · exact ih List.mem_cons_self inner
      · exact ih (List.mem_cons_of_mem _ member) inner

theorem subtags_append {tag others last first : List Char} {front rest : List (List Char)}
    (before : subtags tag = front ++ [last]) (after : subtags others = first :: rest) :
    subtags (tag ++ others) = front ++ (last ++ first) :: rest := by
  -- The induction is on the first text; its last subtag is the first one only at the end.
  induction tag using subtags_induction generalizing front last with
  | nil =>
      cases front with
      | nil =>
          cases before
          exact after
      | cons subtag front => simp at before
  | separator c tag head tail separates ih =>
      rw [List.cons_append, subtags_of_separator separates]
      cases front with
      | nil => simp at before
      | cons subtag front =>
          obtain ⟨rfl, more⟩ := List.cons.inj before
          rw [ih more, List.cons_append]
  | inside c tag head tail inside ih =>
      cases front with
      | nil =>
          cases before
          exact subtags_of_inside inside (@ih head [] rfl)
      | cons subtag front =>
          obtain ⟨rfl, more⟩ := List.cons.inj before
          rw [more] at ih
          exact subtags_of_inside inside (@ih last (head :: front) rfl)

def hyphenated (tag : List Char) : List Char :=
  tag.map fun c => if c == '_' then '-' else c

theorem toList_withHyphens (tag : String) : (withHyphens tag).toList = hyphenated tag.toList :=
  String.toList_map

theorem hyphenated_of_separator {c : Char} (separates : isSeparator c = true) (tag : List Char) :
    hyphenated (c :: tag) = '-' :: hyphenated tag := by
  rw [isSeparator, Bool.or_eq_true, beq_iff_eq, beq_iff_eq] at separates
  rcases separates with rfl | rfl <;> rfl

theorem hyphenated_of_inside {c : Char} (inside : isSeparator c = false) (tag : List Char) :
    hyphenated (c :: tag) = c :: hyphenated tag := by
  rw [isSeparator, Bool.or_eq_false_iff] at inside
  rw [hyphenated, List.map_cons, if_neg (by simp [inside.2]), ← hyphenated]

theorem subtags_hyphenated (tag : List Char) : subtags (hyphenated tag) = subtags tag := by
  induction tag using subtags_induction with
  | nil => rfl
  | separator c tag head tail separates ih =>
      rw [hyphenated_of_separator separates, subtags_of_separator rfl, ih]
  | inside c tag head tail inside ih =>
      rw [hyphenated_of_inside inside, subtags_of_inside inside ih]

theorem hyphenated_eq_intercalate (tag : List Char) :
    hyphenated tag = ['-'].intercalate (subtags tag) := by
  induction tag using subtags_induction with
  | nil => rfl
  | separator c tag head tail separates ih =>
      rw [hyphenated_of_separator separates, ih, List.intercalate_cons_of_ne_nil (List.cons_ne_nil _ _)]
      rfl
  | inside c tag head tail inside ih =>
      rw [hyphenated_of_inside inside, ih, List.intercalate_cons_cons_left]

theorem head?_hyphenated {tag first : List Char} {rest : List (List Char)} {next : Char}
    (split : subtags tag = first :: rest) (leads : first.head? = some next) :
    (hyphenated tag).head? = some next := by
  obtain ⟨more, rfl⟩ := List.head?_eq_some_iff.mp leads
  rw [hyphenated_eq_intercalate, split, List.intercalate_cons_cons_left, List.head?_cons]

theorem intercalate_append (front : List (List Char)) (last more : List Char) (rest : List (List Char)) :
    ∃ after, ['-'].intercalate (front ++ (last ++ more) :: rest) =
      ['-'].intercalate (front ++ [last]) ++ (more ++ after) ∧ ∀ next ∈ after.head?, next = '-' := by
  induction front with
  | nil =>
      cases rest with
      | nil => exact ⟨[], by simp, by simp⟩
      | cons subtag rest =>
          refine ⟨'-' :: ['-'].intercalate (subtag :: rest), ?_, by simp⟩
          rw [List.nil_append, List.intercalate_cons_of_ne_nil (List.cons_ne_nil _ _)]
          simp
  | cons subtag front ih =>
      obtain ⟨after, same, hyphen⟩ := ih
      refine ⟨after, ?_, hyphen⟩
      rw [List.cons_append, List.intercalate_cons_of_ne_nil (by simp), same, List.cons_append,
        List.intercalate_cons_of_ne_nil (by simp)]
      simp only [List.append_assoc]

/-- The named subtags are in front, but the last of them goes on with more characters. -/
def Extends (named : List (List Char)) (more : List Char) (subtags : List (List Char)) : Prop :=
  ∃ front last rest, named = front ++ [last] ∧ subtags = front ++ (last ++ more) :: rest

theorem exists_front_last {named : List (List Char)} (nonempty : named ≠ []) :
    ∃ front last, named = front ++ [last] :=
  ⟨_, _, (List.dropLast_concat_getLast nonempty).symm⟩

theorem extends_nil_iff {named subtags : List (List Char)} (nonempty : named ≠ []) :
    Extends named [] subtags ↔ named <+: subtags := by
  constructor
  · rintro ⟨front, last, rest, rfl, rfl⟩
    exact ⟨rest, by simp⟩
  · rintro ⟨rest, rfl⟩
    obtain ⟨front, last, rfl⟩ := exists_front_last nonempty
    exact ⟨front, last, rest, rfl, by simp⟩

theorem Extends.exists_after {letters tag more : List Char}
    (extended : Extends (subtags letters) more (subtags tag)) :
    ∃ after, hyphenated tag = hyphenated letters ++ (more ++ after) ∧ ∀ next ∈ after.head?, next = '-' := by
  obtain ⟨front, last, rest, named, split⟩ := extended
  rw [hyphenated_eq_intercalate, hyphenated_eq_intercalate letters, named, split]
  exact intercalate_append front last more rest

theorem Extends.isSeparator {named : List (List Char)} {next : Char} {more tag : List Char}
    (extended : Extends named (next :: more) (subtags tag)) : isSeparator next = false := by
  obtain ⟨front, last, rest, _, split⟩ := extended
  have member : last ++ next :: more ∈ subtags tag := by simp [split]
  exact isSeparator_of_mem_subtags member (List.mem_append_right last List.mem_cons_self)

namespace TagStart

theorem holds_iff (start : TagStart) (tag : List Char) :
    start.holds tag = true ↔
      ∃ rest, tag = start.letters.toList ++ rest ∧ ∀ next ∈ rest.head?, next ∉ start.except.toList := by
  rw [holds, Bool.and_eq_true, List.isPrefixOf_iff_prefix]
  constructor
  · rintro ⟨⟨rest, same⟩, free⟩
    refine ⟨rest, same.symm, fun next first member => ?_⟩
    rw [← same, List.drop_left, first] at free
    simp [member] at free
  · rintro ⟨rest, rfl, free⟩
    refine ⟨List.prefix_append _ _, ?_⟩
    rw [List.drop_left]
    cases first : rest.head? with
    | none => rfl
    | some next => simp [free next first]

theorem holds_iff_extends (start : TagStart)
    (spelled : hyphenated start.letters.toList = start.letters.toList)
    (hyphen : '-' ∉ start.except.toList) (tag : List Char) :
    start.holds (hyphenated tag) = true ↔
      ∃ more, Extends (subtags start.letters.toList) more (subtags tag) ∧
        ∀ next ∈ more.head?, next ∉ start.except.toList := by
  rw [start.holds_iff]
  constructor
  · rintro ⟨rest, same, free⟩
    obtain ⟨chars, others, rfl, letters, rfl⟩ := List.map_eq_append_iff.mp same
    have named : subtags start.letters.toList = subtags chars := by
      rw [← letters]
      exact subtags_hyphenated chars
    obtain ⟨more, after, split⟩ := List.exists_cons_of_ne_nil (subtags_ne_nil others)
    obtain ⟨front, last, ends⟩ := exists_front_last (subtags_ne_nil chars)
    refine ⟨more, ⟨front, last, after, named.trans ends, subtags_append ends split⟩, fun next first => ?_⟩
    exact free next (head?_hyphenated split first)
  · rintro ⟨more, extended, free⟩
    obtain ⟨after, same, hyphens⟩ := extended.exists_after
    rw [spelled] at same
    refine ⟨more ++ after, same, fun next first => ?_⟩
    cases more with
    | nil =>
        rw [hyphens next first]
        exact hyphen
    | cons c more => exact free next first

end TagStart

/-- The subtags that name right-to-left locales: a language, or a language and its script. -/
def rightToLeftSubtags : List (List String) := [
  ["ar"], ["ckb"], ["fa"], ["he"], ["ks"], ["lrc"], ["mzn"], ["pa", "Arab"], ["ps"], ["ug"], ["ur"],
  ["uz", "Arab"], ["yi"]]

/-- The first subtags of the tag name a right-to-left locale. -/
def NamesRightToLeft (tag : String) : Prop :=
  ∃ named ∈ rightToLeftSubtags, named.map String.toList <+: subtags tag.toList

instance (tag : String) : Decidable (NamesRightToLeft tag) :=
  List.decidableBEx _ rightToLeftSubtags

/-- The first subtags of the tag only begin as those of a right-to-left locale: the last of them goes on.
After `ks` no `b`, `f` or `h` may follow. -/
def OverrunsRightToLeft (tag : String) : Prop :=
  ∃ named ∈ rightToLeftSubtags, ∃ next more,
    Extends (named.map String.toList) (next :: more) (subtags tag.toList) ∧
      (named = ["ks"] → next ∉ ['b', 'f', 'h'])

namespace TagStart

def ofSubtags (named : List String) : TagStart :=
  ⟨"-".intercalate named, if named = ["ks"] then "bfh" else ""⟩

theorem subtags_ofSubtags : ∀ named ∈ rightToLeftSubtags,
    subtags (ofSubtags named).letters.toList = named.map String.toList := by
  decide

theorem hyphenated_ofSubtags : ∀ named ∈ rightToLeftSubtags,
    hyphenated (ofSubtags named).letters.toList = (ofSubtags named).letters.toList := by
  decide

theorem eq_of_ofSubtags_prefix : ∀ named ∈ rightToLeftSubtags, ∀ other ∈ rightToLeftSubtags,
    (ofSubtags named).letters.toList <+: (ofSubtags other).letters.toList → named = other := by
  decide

theorem mem_except_ofSubtags (named : List String) (c : Char) :
    c ∈ (ofSubtags named).except.toList ↔ named = ["ks"] ∧ c ∈ ['b', 'f', 'h'] := by
  by_cases exclusive : named = ["ks"] <;> simp [ofSubtags, exclusive]

end TagStart

theorem rightToLeftStarts_eq : rightToLeftStarts = rightToLeftSubtags.map TagStart.ofSubtags :=
  rfl

theorem map_toList_ne_nil : ∀ named ∈ rightToLeftSubtags, named.map String.toList ≠ [] := by
  decide

theorem isRightToLeft_iff_extends (tag : String) :
    isRightToLeft tag = true ↔ ∃ named ∈ rightToLeftSubtags, ∃ more,
      Extends (named.map String.toList) more (subtags tag.toList) ∧
        ∀ next ∈ more.head?, named = ["ks"] → next ∉ ['b', 'f', 'h'] := by
  rw [isRightToLeft, rightToLeftStarts_eq, List.any_map, List.any_eq_true, toList_withHyphens]
  refine exists_congr fun named => and_congr_right fun member => ?_
  have hyphen : '-' ∉ (TagStart.ofSubtags named).except.toList := by
    simp [TagStart.mem_except_ofSubtags]
  rw [Function.comp_apply, TagStart.holds_iff_extends _ (TagStart.hyphenated_ofSubtags named member) hyphen,
    TagStart.subtags_ofSubtags named member]
  simp only [TagStart.mem_except_ofSubtags, not_and]

theorem isRightToLeft_iff (tag : String) :
    isRightToLeft tag = true ↔ NamesRightToLeft tag ∨ OverrunsRightToLeft tag := by
  rw [isRightToLeft_iff_extends]
  constructor
  · rintro ⟨named, member, more, extended, free⟩
    cases more with
    | nil => exact .inl ⟨named, member, (extends_nil_iff (map_toList_ne_nil named member)).mp extended⟩
    | cons next more => exact .inr ⟨named, member, next, more, extended, free next rfl⟩
  · rintro (⟨named, member, whole⟩ | ⟨named, member, next, more, extended, free⟩)
    · exact ⟨named, member, [], (extends_nil_iff (map_toList_ne_nil named member)).mpr whole, by simp⟩
    · refine ⟨named, member, next :: more, extended, ?_⟩
      rintro _ ⟨⟩
      exact free

theorem not_namesRightToLeft_of_overruns {tag : String} (overruns : OverrunsRightToLeft tag) :
    ¬ NamesRightToLeft tag := by
  rintro ⟨named, isNamed, whole⟩
  obtain ⟨other, isOther, next, more, extended, _⟩ := overruns
  have inside := extended.isSeparator
  rw [← TagStart.subtags_ofSubtags named isNamed, ← extends_nil_iff (subtags_ne_nil _)] at whole
  rw [← TagStart.subtags_ofSubtags other isOther] at extended
  obtain ⟨after, first, hyphen⟩ := whole.exists_after
  obtain ⟨rest, second, _⟩ := extended.exists_after
  rw [TagStart.hyphenated_ofSubtags named isNamed, List.nil_append] at first
  rw [TagStart.hyphenated_ofSubtags other isOther] at second
  -- Both starts begin the tag, so one of them begins the other.
  have same : named = other := by
    rcases List.prefix_or_prefix_of_prefix ⟨_, first.symm⟩ ⟨_, second.symm⟩ with begins | begins
    · exact TagStart.eq_of_ofSubtags_prefix named isNamed other isOther begins
    · exact (TagStart.eq_of_ofSubtags_prefix other isOther named isNamed begins).symm
  -- After a whole start comes a hyphen, and after an overrun one a character of the subtag.
  rw [same] at first
  have tails : after = next :: (more ++ rest) := List.append_cancel_left (first.symm.trans second)
  rw [hyphen next (by rw [tails, List.head?_cons]; rfl)] at inside
  contradiction

/-- A tag counts as right to left when whole subtags say so, and also when they are overrun.  So whole
subtags decide the direction of exactly the tags that overrun none. -/
theorem right_to_left_unless_overrun (tag : String) :
    (isRightToLeft tag = true ↔ NamesRightToLeft tag ∨ OverrunsRightToLeft tag) ∧
      ((isRightToLeft tag = true ↔ NamesRightToLeft tag) ↔ ¬ OverrunsRightToLeft tag) := by
  refine ⟨isRightToLeft_iff tag, fun agrees overruns => ?_, fun none => ?_⟩
  · have detected := (isRightToLeft_iff tag).mpr (.inr overruns)
    exact not_namesRightToLeft_of_overruns overruns (agrees.mp detected)
  · rw [isRightToLeft_iff, or_iff_left none]

/-- `arn` is the code of a language that is written from left to right, and begins with that of another. -/
theorem longer_language_is_right_to_left :
    IsTag "arn".toList ∧ isRightToLeft "arn" = true ∧ ¬ NamesRightToLeft "arn" := by
  refine ⟨.last (by decide), ?_, by decide⟩
  rw [isRightToLeft, toList_withHyphens]
  decide

end Phrasebook.Locale
