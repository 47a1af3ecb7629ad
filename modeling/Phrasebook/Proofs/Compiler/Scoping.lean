import Phrasebook.Proofs.Compiler.Tables

/-!
The scope of number signs.  A number sign counts what the nearest plural or ordinal choice around it
counts.  So a part whose number signs all stand inside such choices of its own compiles to the same
wherever it stands, and a part with a free number sign does not: the call that shows a count is longer
than the text of a number sign, and nothing else in the emitted source depends on what stands around.
-/

namespace Phrasebook

open Target

mutual

/-- The number signs of a part that no plural or ordinal choice of the part encloses. -/
def Token.freeSigns : Token → Nat
  | .octothorpe => 1
  | .select _ cases => Case.freeSigns cases
  | .text _ | .argument _ | .plural _ _ _ | .ordinal _ _ | .call _ _ _ => 0

def Token.bodyFreeSigns : List Token → Nat
  | [] => 0
  | token :: rest => token.freeSigns + Token.bodyFreeSigns rest

def Case.freeSigns : List Case → Nat
  | [] => 0
  | .mk _ body :: rest => Token.bodyFreeSigns body + Case.freeSigns rest

end

/-- The nearest plural or ordinal choice around a part, if there is one. -/
inductive Surrounding where
  | nothing
  | plural (arg : String) (cases : List Value) (offset : Int)
  | ordinal (arg : String) (cases : List Value)

namespace Surrounding

def toValue : Surrounding → Value
  | .nothing => .null
  | .plural arg cases offset => .plural (.str arg) cases (.int offset)
  | .ordinal arg cases => .ordinal (.str arg) cases

/-- The argument and the offset of the choice; ordinals have the offset zero. -/
def count : Surrounding → Option Count
  | .nothing => none
  | .plural arg _ offset => some ⟨arg, .int offset⟩
  | .ordinal arg _ => some ⟨arg, .int 0⟩

theorem counts (around : Surrounding) : around.toValue.Counts around.count := by
  cases around with
  | nothing => exact .nothing
  | plural arg cases offset => exact .plural arg cases (.int offset)
  | ordinal arg cases => exact .ordinal arg cases

end Surrounding

section Bound

variable (locale : Option String) (bidi : Bool) (count other : Option Count)

mutual

theorem Token.bound : (token : Token) → token.freeSigns = 0 →
    token.route locale count = token.route locale other ∧
      token.emitted locale bidi count = token.emitted locale bidi other
  | .text _, _ => ⟨rfl, rfl⟩
  | .argument _, _ => ⟨rfl, rfl⟩
  | .octothorpe, closed => nomatch closed
  | .select arg cases, closed => by
      obtain ⟨routes, entries⟩ := Case.bound cases closed
      rw [Token.route, Token.route, routes, Token.emitted, Token.emitted, entries]
      exact ⟨rfl, rfl⟩
  | .plural _ _ _, _ => ⟨rfl, rfl⟩
  | .ordinal _ _, _ => ⟨rfl, rfl⟩
  | .call _ _ _, _ => ⟨rfl, rfl⟩

theorem Token.bodyBound : (tokens : List Token) → Token.bodyFreeSigns tokens = 0 →
    Token.routes locale count tokens = Token.routes locale other tokens ∧
      Token.emittedParts locale bidi count tokens = Token.emittedParts locale bidi other tokens
  | [], _ => ⟨rfl, rfl⟩
  | token :: rest, closed => by
      obtain ⟨first, others⟩ := Nat.add_eq_zero_iff.mp closed
      obtain ⟨route, parts⟩ := token.bound first
      obtain ⟨routes, tail⟩ := Token.bodyBound rest others
      rw [Token.routes, Token.routes, route, routes, Token.emittedParts, Token.emittedParts, parts, tail]
      exact ⟨rfl, rfl⟩

theorem Case.bound : (cases : List Case) → Case.freeSigns cases = 0 →
    Case.routes locale count cases = Case.routes locale other cases ∧
      Case.emitted locale bidi count cases = Case.emitted locale bidi other cases
  | [], _ => ⟨rfl, rfl⟩
  | .mk key body :: rest, closed => by
      obtain ⟨first, others⟩ := Nat.add_eq_zero_iff.mp closed
      obtain ⟨route, parts⟩ := Token.bodyBound body first
      obtain ⟨routes, tail⟩ := Case.bound rest others
      rw [Case.routes, Case.routes, route, routes, Case.emitted, Case.emitted, parts, tail]
      exact ⟨rfl, rfl⟩

end

end Bound

section Signs

mutual

theorem Token.octothorpe_of_freeSigns : (token : Token) → 0 < token.freeSigns →
    .octothorpe ∈ token :: token.inside
  | .octothorpe, _ => List.mem_cons_self
  | .select _ cases, free => List.mem_cons_of_mem _ (Case.octothorpe_of_freeSigns cases free)

theorem Token.octothorpe_of_bodyFreeSigns : (tokens : List Token) →
    0 < Token.bodyFreeSigns tokens → .octothorpe ∈ Token.parts tokens
  | token :: rest, free => by
      rw [Token.parts, ← List.cons_append, List.mem_append]
      rcases Nat.add_pos_iff_pos_or_pos.mp free with first | later
      · exact .inl (token.octothorpe_of_freeSigns first)
      · exact .inr (Token.octothorpe_of_bodyFreeSigns rest later)

theorem Case.octothorpe_of_freeSigns : (cases : List Case) → 0 < Case.freeSigns cases →
    .octothorpe ∈ Case.parts cases
  | .mk _ body :: rest, free => by
      rw [Case.parts, List.mem_append]
      rcases Nat.add_pos_iff_pos_or_pos.mp free with first | later
      · exact .inl (Token.octothorpe_of_bodyFreeSigns body first)
      · exact .inr (Case.octothorpe_of_freeSigns rest later)

end

theorem Token.number_of_follows {φ : Type} {locale : Option String} {count : Count} {token : Token}
    {desk after : Desk φ} (free : 0 < token.freeSigns)
    (follows : Follows (token.route locale (some count)) desk (.ok ()) after) :
    .number ∈ after.compiler.helpers := by
  have demanded : .helper .number ∈ (token.route locale (some count)).demands :=
    (Token.mem_route (some count) token).mpr
      (.inr ⟨rfl, .inl ⟨rfl, token.octothorpe_of_freeSigns free⟩⟩)
  rw [follows.compiler_of_ok, Demand.mem_foldl_note (Demand.mem_note_helpers .number)]
  exact .inr ⟨_, demanded, List.mem_singleton_self _⟩

end Signs

namespace Target.Expr

theorem partTailChars_append (first last : List Expr) :
    partTailChars (first ++ last) = partTailChars first ++ partTailChars last := by
  induction first with
  | nil => rfl
  | cons part rest ih => simp only [List.cons_append, partTailChars, ih, List.append_assoc]

theorem chars_joined_cons (part : Expr) (rest : List Expr) :
    (joined (part :: rest)).chars = part.chars ++ partTailChars rest := by
  cases rest with
  | nil => exact (List.append_nil _).symm
  | cons => rfl

/-- Bodies are as much longer as their parts are. -/
theorem length_joined_le {short long : List Expr} {gain : Nat} (empty : short = [] ↔ long = [])
    (longer : (partTailChars short).length + gain ≤ (partTailChars long).length) :
    (joined short).chars.length + gain ≤ (joined long).chars.length := by
  cases short with
  | nil =>
      rw [empty.mp rfl] at longer ⊢
      simp only [partTailChars, List.length_nil] at longer
      omega
  | cons part rest =>
      cases long with
      | nil => exact nomatch empty.mpr rfl
      | cons other others =>
          simp only [partTailChars, chars_joined_cons, List.length_cons, List.length_append] at longer ⊢
          omega

theorem length_entryChars_le {short long : List (String × Expr)} {gain : Nat}
    (empty : short = [] ↔ long = [])
    (longer : (entryTailChars short).length + gain ≤ (entryTailChars long).length) :
    (entryChars short).length + gain ≤ (entryChars long).length := by
  cases short with
  | nil => rwa [empty.mp rfl] at longer ⊢
  | cons entry rest =>
      cases long with
      | nil => exact nomatch empty.mpr rfl
      | cons other others =>
          simp only [entryTailChars, entryChars, List.length_cons, List.length_append] at longer ⊢
          omega

end Target.Expr

section Lengths

variable (locale : Option String) (bidi : Bool) (count : Count)

theorem Count.length_emitted : 3 < count.emitted.chars.length := by
  simp only [Count.emitted, Expr.helper, Expr.chars, List.length_append, List.length_cons,
    List.length_nil]
  have name : Helper.number.name.toList.length = 6 := by decide
  omega

theorem Token.emitted_ne_nil (count : Option Count) (token : Token) :
    token.emitted locale bidi count ≠ [] := by
  cases token with
  | argument arg =>
      rw [Token.emitted]
      split <;> exact List.cons_ne_nil _ _
  | _ => exact List.cons_ne_nil _ _

theorem Token.emittedParts_eq_nil_iff (count : Option Count) (tokens : List Token) :
    Token.emittedParts locale bidi count tokens = [] ↔ tokens = [] := by
  cases tokens with
  | nil => exact iff_of_true rfl rfl
  | cons token rest =>
      refine iff_of_false (fun empty => ?_) (List.cons_ne_nil _ _)
      exact token.emitted_ne_nil locale bidi count (List.append_eq_nil_iff.mp empty).1

theorem Case.emitted_eq_nil_iff (count : Option Count) (cases : List Case) :
    Case.emitted locale bidi count cases = [] ↔ cases = [] := by
  cases cases with
  | nil => exact iff_of_true rfl rfl
  | cons case rest =>
      obtain ⟨key, body⟩ := case
      exact iff_of_false (List.cons_ne_nil _ _) (List.cons_ne_nil _ _)

mutual

/-- Every free number sign makes what is emitted longer when something is counted. -/
theorem Token.length_emitted_le : (token : Token) →
    (Expr.partTailChars (token.emitted locale bidi none)).length + token.freeSigns ≤
      (Expr.partTailChars (token.emitted locale bidi (some count))).length
  | .text _ => Nat.le_refl _
  | .argument _ => Nat.le_refl _
  | .octothorpe => by
      have shown := count.length_emitted
      have sign : (Expr.text Value.octothorpeText).chars.length = 3 := by decide
      simp only [Token.emitted, Token.freeSigns, Option.map_none, Option.map_some, Option.getD_none,
        Option.getD_some, Expr.partTailChars, List.length_cons, List.length_append, List.length_nil, sign]
      omega
  | .select arg cases => by
      have entries := Expr.length_entryChars_le
        ((Case.emitted_eq_nil_iff locale bidi none cases).trans
          (Case.emitted_eq_nil_iff locale bidi (some count) cases).symm) (Case.length_emitted_le cases)
      simp only [Token.emitted, Token.freeSigns, Expr.partTailChars, Expr.helper, Expr.chars,
        Expr.argChars, Expr.argTailChars, List.length_cons, List.length_append, List.length_nil]
      omega
  | .plural _ _ _ => Nat.le_refl _
  | .ordinal _ _ => Nat.le_refl _
  | .call _ _ _ => Nat.le_refl _

theorem Token.length_emittedParts_le : (tokens : List Token) →
    (Expr.partTailChars (Token.emittedParts locale bidi none tokens)).length +
        Token.bodyFreeSigns tokens ≤
      (Expr.partTailChars (Token.emittedParts locale bidi (some count) tokens)).length
  | [] => Nat.le_refl _
  | token :: rest => by
      have head := token.length_emitted_le
      have tail := Token.length_emittedParts_le rest
      simp only [Token.emittedParts, Token.bodyFreeSigns, Expr.partTailChars_append, List.length_append]
      omega

theorem Case.length_emitted_le : (cases : List Case) →
    (Expr.entryTailChars (Case.emitted locale bidi none cases)).length + Case.freeSigns cases ≤
      (Expr.entryTailChars (Case.emitted locale bidi (some count) cases)).length
  | [] => Nat.le_refl _
  | .mk key body :: rest => by
      have value := Expr.length_joined_le
        ((Token.emittedParts_eq_nil_iff locale bidi none body).trans
          (Token.emittedParts_eq_nil_iff locale bidi (some count) body).symm)
        (Token.length_emittedParts_le body)
      have tail := Case.length_emitted_le rest
      simp only [Case.emitted, Case.freeSigns, Expr.entryTailChars, List.length_cons, List.length_append]
      omega

end

theorem Token.source_ne_of_freeSigns {token : Token} (free : 0 < token.freeSigns) :
    (Expr.joined (token.emitted locale bidi none)).source ≠
      (Expr.joined (token.emitted locale bidi (some count))).source := by
  have longer := Expr.length_joined_le
    (iff_of_false (token.emitted_ne_nil locale bidi none)
      (token.emitted_ne_nil locale bidi (some count))) (token.length_emitted_le locale bidi count)
  intro same
  rw [String.ofList_inj.mp same] at longer
  omega

end Lengths

def Desk.inLocale {φ : Type} (desk : Desk φ) (tag : String) : Desk φ :=
  { desk with compiler := { desk.compiler with locale := some tag } }

theorem Token.compileExpr_traces {φ : Type} (locale : Option String) (bidi : Bool)
    (around : Surrounding) (token : Token) :
    Traces (Scene locale bidi)
      (Compilation.compileExpr token.toValue around.toValue : Compilation φ Expr)
      (token.route locale around.count) (.joined (token.emitted locale bidi around.count)) :=
  (token.traces locale bidi around.counts).map Expr.joined

/-- A part without free number signs compiles alike wherever it stands, every part does in choices that
count the same, and a part with a free number sign compiles to different sources inside a choice and
outside of any. -/
theorem number_signs_are_scoped {φ : Type} (token : Token) (desk : Desk φ) :
    (token.freeSigns = 0 → ∀ around other : Surrounding,
      (Compilation.compileExpr token.toValue around.toValue).run desk =
        (Compilation.compileExpr token.toValue other.toValue).run desk) ∧
    (∀ around other : Surrounding, around.count = other.count →
      (Compilation.compileExpr token.toValue around.toValue).run desk =
        (Compilation.compileExpr token.toValue other.toValue).run desk) ∧
    (0 < token.freeSigns → ∀ around : Surrounding, around ≠ .nothing →
      ∀ alone counted afterAlone afterCounted,
      (Compilation.compileExpr token.toValue Surrounding.nothing.toValue).run desk =
        (.ok alone, afterAlone) →
      (Compilation.compileExpr token.toValue around.toValue).run desk = (.ok counted, afterCounted) →
      alone.source ≠ counted.source ∧ .number ∈ afterCounted.compiler.helpers) := by
  have traces (around : Surrounding) : Traces (Scene desk.compiler.locale desk.config.settings.bidi)
      (Compilation.compileExpr token.toValue around.toValue : Compilation φ Expr) _ _ :=
    token.compileExpr_traces desk.compiler.locale desk.config.settings.bidi around
  simp only [Attempt.run_apply]
  refine ⟨fun closed around other => ?_, fun around other same => ?_, ?_⟩
  · obtain ⟨route, emitted⟩ := token.bound desk.compiler.locale desk.config.settings.bidi around.count
      other.count closed
    rw [traces around desk ⟨rfl, rfl⟩, traces other desk ⟨rfl, rfl⟩, route, emitted]
  · rw [traces around desk ⟨rfl, rfl⟩, traces other desk ⟨rfl, rfl⟩, same]
  · intro free around given alone counted afterAlone afterCounted ranAlone ranCounted
    obtain ⟨count, counting⟩ : ∃ count, around.count = some count := by
      cases around with
      | nothing => exact absurd rfl given
      | plural arg cases offset => exact ⟨_, rfl⟩
      | ordinal arg cases => exact ⟨_, rfl⟩
    obtain ⟨emittedAlone, _⟩ := (traces .nothing).follows_of_ok ⟨rfl, rfl⟩ ranAlone
    obtain ⟨emittedCounted, follows⟩ := (traces around).follows_of_ok ⟨rfl, rfl⟩ ranCounted
    rw [counting] at emittedCounted follows
    rw [emittedAlone, emittedCounted]
    exact ⟨token.source_ne_of_freeSigns _ _ count free, Token.number_of_follows free follows⟩

/-- A selection with two number signs, of which the plural choice binds the second. -/
def Token.halfBound : Token :=
  .select "g" [.mk "other" [.octothorpe, .plural "n" [.mk "other" [.octothorpe]] (.int 1)]]

/-- The free number sign shows the argument of an ordinal choice around the selection, the other one
that of the plural choice in either place. -/
theorem halfBound_shows_surrounding_count :
    Token.halfBound.freeSigns = 1 ∧
    ∃ alone counted afterAlone afterCounted,
      (Compilation.compileExpr Token.halfBound.toValue Surrounding.nothing.toValue).run
        ((Desk.sample 2).inLocale "en") = (.ok alone, afterAlone) ∧
      (Compilation.compileExpr Token.halfBound.toValue (Surrounding.ordinal "m" []).toValue).run
        ((Desk.sample 2).inLocale "en") = (.ok counted, afterCounted) ∧
      alone.source ≠ counted.source ∧ Helper.number ∈ afterCounted.compiler.helpers :=
  ⟨rfl, _, _, _, _, rfl, rfl, (number_signs_are_scoped Token.halfBound
    ((Desk.sample 2).inLocale "en")).2.2 Nat.one_pos (.ordinal "m" []) nofun _ _ _ _ rfl rfl⟩

end Phrasebook
