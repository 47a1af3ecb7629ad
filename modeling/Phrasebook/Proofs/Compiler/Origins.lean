import Phrasebook.Proofs.Compiler.Blame

/-!
Where an error of compiling comes from.  It is raised by one part of the template, a choice without a
case for everything else or a call of an unknown formatter, or by the limit of nesting; on its way out
only catalog keys are added to it.
-/

namespace Phrasebook

open Target

/-- The errors that a part of a template raises by itself. -/
inductive Token.Raises : Token → TemplateError → Prop where
  | select (arg : String) (cases : List Case) :
      Raises (.select arg cases) (Case.missing "select" arg cases)
  | plural (arg : String) (cases : List Case) (offset : Offset) :
      Raises (.plural arg cases offset) (Case.missing "plural" arg cases)
  | ordinal (arg : String) (cases : List Case) :
      Raises (.ordinal arg cases) (Case.missing "selectordinal" arg cases)
  | call (key arg : String) (params : List String) (locale : Option String) :
      Raises (.call key arg params) (.unresolvedFormatter (.str key) locale)

/-- The error is raised by a part of the template, or by its nesting. -/
def Template.Raises (template : Template) (error : TemplateError) : Prop :=
  (∃ part ∈ template.parts, part.Raises error) ∨ ∃ limit, error = .depthLimitExceeded limit

namespace Demand

variable {φ : Type}

def Raises (error : TemplateError) : Demand → Prop
  | .fallback missing => error = missing
  | .formatter key locale => error = .unresolvedFormatter (.str key) locale
  | .message _ | .helper _ | .rules _ | .report _ => False

theorem raises_of_meet {demand : Demand} {desk after : Desk φ} {error : TemplateError}
    (failed : demand.meet desk = (.error (.template error), after)) : demand.Raises error := by
  cases demand with
  | message locale => cases failed
  | helper needed => cases failed
  | rules locale => cases locale <;> cases failed
  | formatter key locale =>
      rw [meet] at failed
      rcases Attempt.bind_cases (Compilation.resolveFormatter (.str key)) _ desk with
        ⟨found, between, resolved, goesOn⟩ | ⟨failure, between, resolved, ends⟩
      · rw [goesOn] at failed
        cases found with
        | none =>
            cases failed
            rfl
        | some made => cases locale <;> cases failed
      · -- A default formatter that cannot be made is a fault, not an error of the template.
        rw [ends] at failed
        cases failed
        simp only [Compilation.resolveFormatter] at resolved
        split at resolved <;> cases resolved
  | fallback missing =>
      cases failed
      rfl
  | report event => cases failed

end Demand

namespace Route

/-- An error of this outcome is raised on the route, and seen through some keys. -/
def Explains (route : Route) : Except Failure Unit → Prop
  | .error (.template error) => ∃ path own, error = own.under path ∧
      ((∃ demand ∈ route.demands, demand.Raises own) ∨ ∃ limit, own = .depthLimitExceeded limit)
  | .error (.fault _) | .ok _ => True

variable {route inner : Route}

theorem Explains.mono {outcome : Except Failure Unit} (explains : inner.Explains outcome)
    (within : inner.demands ⊆ route.demands) : route.Explains outcome := by
  match outcome, explains with
  | .error (.template _), ⟨path, own, same, .inl ⟨demand, member, raises⟩⟩ =>
      exact ⟨path, own, same, .inl ⟨demand, within member, raises⟩⟩
  | .error (.template _), ⟨path, own, same, .inr nesting⟩ => exact ⟨path, own, same, .inr nesting⟩
  | .error (.fault _), _ => trivial
  | .ok _, _ => trivial

theorem Explains.within {failure : Failure} (key : String) (explains : inner.Explains (.error failure)) :
    inner.Explains (.error (failure.within key)) := by
  match failure, explains with
  | .template _, ⟨path, own, same, raised⟩ =>
      refine ⟨key :: path, own, ?_, raised⟩
      rw [same]
      rfl
  | .fault _, _ => trivial

end Route

theorem Follows.explains {φ : Type} {route : Route} {desk after : Desk φ} {outcome : Except Failure Unit}
    (follows : Follows route desk outcome after) : route.Explains outcome := by
  induction follows with
  | done => trivial
  | step _ _ ih => exact ih.mono (List.subset_cons_self _ _)
  | @unmet demand rest desk failure after failed =>
      cases failure with
      | template error =>
          exact ⟨[], error, rfl, .inl ⟨demand, List.mem_cons_self, Demand.raises_of_meet failed⟩⟩
      | fault reason => trivial
  | deeper _ _ _ _ ih => exact ih.mono (List.subset_append_right _ _)
  | deeperFails _ _ ih => exact ih.mono (List.subset_append_left _ _)
  | refused refused =>
      cases Guard.refuses_of_refused refused .none with
      | tooDeep _ => exact ⟨[], _, rfl, .inr ⟨_, rfl⟩⟩
      | outOfFrames _ => trivial
  | branch _ _ _ ih => exact ih.mono (List.subset_append_right _ _)
  | branchFails _ ih => exact (ih.within _).mono (List.subset_append_left _ _)

theorem Token.raises_of_ownDemands {part : Token} {locale : Option String} {demand : Demand}
    {error : TemplateError} (owned : demand ∈ part.ownDemands locale) (raises : demand.Raises error) :
    part.Raises error := by
  have lacking {choice arg : String} {cases : List Case} {last : Demand} (harmless : ¬ last.Raises error)
      (owned : demand ∈ ownDemands.missing choice arg cases ++ [last]) :
      error = Case.missing choice arg cases := by
    rcases List.mem_append.mp owned with missing | same
    · unfold ownDemands.missing at missing
      split at missing
      · cases missing
      · rwa [List.mem_singleton.mp missing] at raises
    · rw [List.mem_singleton.mp same] at raises
      exact absurd raises harmless
  cases part with
  | text _ | argument _ | octothorpe => cases owned
  | select arg cases =>
      rw [lacking id owned]
      exact .select arg cases
  | plural arg cases offset =>
      rw [lacking id owned]
      exact .plural arg cases offset
  | ordinal arg cases =>
      rw [lacking id owned]
      exact .ordinal arg cases
  | call key arg params =>
      rw [List.mem_singleton.mp owned] at raises
      rw [show error = _ from raises]
      exact .call key arg params locale

/-- An error of compiling is one that the template raises, seen through the keys of catalogs. -/
theorem Template.raises_of_compile {φ : Type} {names : List String} {locale : String}
    {template : Template} {desk after : Desk φ} {error : TemplateError}
    (failed : Compilation.compile (.tags names) (some locale) template.toValue desk =
      (.error (.template error), after)) :
    ∃ path own, error = own.under path ∧ template.Raises own := by
  obtain ⟨path, own, same, raised⟩ := (follows_of_error failed).explains
  refine ⟨path, own, same, raised.imp_left fun ⟨demand, member, raises⟩ => ?_⟩
  obtain ⟨leaf, leafMember, origin⟩ := (mem_route names locale template).mp member
  rcases origin with rfl | rfl | ⟨part, partMember, owned⟩ | ⟨rfl, _⟩
  · cases raises
  · cases raises
  · exact ⟨part, mem_parts.mpr ⟨leaf, leafMember, partMember⟩, Token.raises_of_ownDemands owned raises⟩
  · cases raises

end Phrasebook
