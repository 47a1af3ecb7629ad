import Phrasebook.Proofs.Compiler.Following
import Phrasebook.Template.Basic
import Phrasebook.Visitor

/-!
Walks over well-formed templates.  The outline of a template is all that a walk sees of it: its parts
in order, each with the outline of what is inside it.  A walk over an outline ends as if there were no
limit when the guard bears its load, and is refused otherwise.
-/

namespace Phrasebook

/-- Parts that stand side by side. -/
inductive Outline where
  | done
  | part (value : Value) (inside rest : Outline)

mutual

def Token.insideOutline : Token → Outline
  | .select _ cases | .plural _ cases _ | .ordinal _ cases => Case.outline cases
  | _ => .done

def Token.outline : List Token → Outline
  | [] => .done
  | token :: rest => .part token.toValue token.insideOutline (Token.outline rest)

def Case.outline : List Case → Outline
  | [] => .done
  | .mk key body :: rest => .part (Case.mk key body).toValue (Token.outline body) (Case.outline rest)

end

namespace Template

mutual

def insideOutline : Template → Outline
  | .message tokens => Token.outline tokens
  | .catalog entries => branchOutline entries

def branchOutline : List (String × Template) → Outline
  | [] => .done
  | (_, branch) :: rest => .part branch.toValue branch.insideOutline (branchOutline rest)

end

def outline (template : Template) : Outline :=
  .part template.toValue template.insideOutline .done

end Template

namespace Visitor

variable {σ : Type} (visitor : Visitor σ)

def tour : Outline → Attempt (Walk σ) Unit
  | .done => pure ()
  | .part value inside rest => do
      visitor.around value (tour inside)
      tour rest

/-- Whether a walk goes through the fields of a value. -/
def goesInto (value : Value) : Bool :=
  (visitor.handler? value.typeName).all Handler.descends

def framesOf (value : Value) : Nat :=
  Handler.frames (visitor.handler? value.typeName)

/-- What a walk takes of its guard. -/
def load : Outline → Load
  | .done => .none
  | .part value inside rest =>
      max (if visitor.goesInto value then (load inside).under (visitor.framesOf value) else .none)
        (load rest)

/-- How many levels a walk goes down. -/
def levels (outline : Outline) : Nat :=
  (visitor.load outline).levels

theorem framesOf_le (value : Value) : visitor.framesOf value ≤ 3 := by
  unfold framesOf Handler.frames
  split <;> decide

/-- A level takes three frames at most. -/
theorem load_frames_le (outline : Outline) :
    (visitor.load outline).frames ≤ 3 * visitor.levels outline := by
  unfold levels
  induction outline with
  | done => exact Nat.le_refl 0
  | part value inside rest inner outer =>
      have own := visitor.framesOf_le value
      rw [load, Load.max_frames, Load.max_levels]
      split
      · simp only [Load.under]
        omega
      · simp only [Load.none]
        omega

theorem visitMembers_texts (texts : List String) :
    visitor.visitMembers (texts.map .str) = pure () := by
  induction texts with
  | nil => rfl
  | cons text rest ih =>
      rw [List.map_cons, visitMembers, ih]
      rfl

mutual

theorem visitAt_token (position : Position) : (token : Token) →
    visitor.visitAt position token.toValue =
      visitor.around token.toValue (visitor.tour token.insideOutline)
  | .text _ => rfl
  | .argument _ => rfl
  | .octothorpe => rfl
  | .select arg cases => by
      rw [Token.toValue, visitAt, visitMembers_cases cases]
      rfl
  | .plural arg cases offset => by
      have last : visitor.visitAt .field offset.toValue = pure () := by cases offset <;> rfl
      rw [Token.toValue, visitAt, visitMembers_cases cases, last, Attempt.bind_pure_unit]
      rfl
  | .ordinal arg cases => by
      rw [Token.toValue, visitAt, visitMembers_cases cases]
      rfl
  | .call key arg params => by
      rw [Token.toValue, visitAt, visitMembers_texts visitor params]
      rfl

theorem visitMembers_tokens : (tokens : List Token) →
    visitor.visitMembers (Token.toValues tokens) = visitor.tour (Token.outline tokens)
  | [] => rfl
  | token :: rest => by
      rw [Token.toValues, visitMembers, visitAt_token .member token, visitMembers_tokens rest]
      rfl

theorem visitMembers_cases : (cases : List Case) →
    visitor.visitMembers (Case.toValues cases) = visitor.tour (Case.outline cases)
  | [] => rfl
  | .mk key body :: rest => by
      rw [Case.toValues, Case.toValue, visitMembers, visitAt, visitMembers_tokens body,
        visitMembers_cases rest]
      rfl

end

mutual

theorem visitAt_template (position : Position) : (template : Template) →
    visitor.visitAt position template.toValue =
      visitor.around template.toValue (visitor.tour template.insideOutline)
  | .message tokens => by
      rw [Template.toValue, visitAt, visitMembers_tokens visitor tokens]
      rfl
  | .catalog entries => by
      rw [Template.toValue, visitAt, visitBranches_templates entries]
      rfl

theorem visitBranches_templates : (entries : List (String × Template)) →
    visitor.visitBranches (Template.toBranches entries) =
      visitor.tour (Template.branchOutline entries)
  | [] => rfl
  | (key, branch) :: rest => by
      rw [Template.toBranches, visitBranches, visitAt_template .entry branch,
        visitBranches_templates rest]
      rfl

end

theorem visit_template (template : Template) :
    visitor.visit template.toValue =
      visitor.tour template.outline >>= fun _ => pure template.toValue := by
  rw [visit, visitAt_template, Template.outline, tour, tour, Attempt.bind_pure_unit]

/-- What the handlers note on a walk without limit. -/
inductive Notes : Int → Outline → σ → σ → Prop where
  | done {depth : Int} {notes : σ} : Notes depth .done notes notes
  | unhandled {depth : Int} {value : Value} {inside rest : Outline} {notes between after : σ}
      (none : visitor.handler? value.typeName = none) (within : Notes (depth + 1) inside notes between)
      (further : Notes depth rest between after) : Notes depth (.part value inside rest) notes after
  | leaf {depth : Int} {value : Value} {inside rest : Outline} {handler : Handler σ}
      {notes between after : σ} (found : visitor.handler? value.typeName = some handler)
      (entered : handler.enter value depth notes = .ok between) (stays : handler.descends = false)
      (further : Notes depth rest between after) : Notes depth (.part value inside rest) notes after
  | through {depth : Int} {value : Value} {inside rest : Outline} {handler : Handler σ}
      {notes entry between after : σ} (found : visitor.handler? value.typeName = some handler)
      (entered : handler.enter value depth notes = .ok entry) (descends : handler.descends = true)
      (within : Notes (depth + 1) inside entry between)
      (further : Notes depth rest (handler.leave between) after) :
      Notes depth (.part value inside rest) notes after

def deeper (frames : Nat) (inside : Attempt (Walk σ) Unit) : Attempt (Walk σ) Unit :=
  Attempt.guarded Walk.guard (fun guard walk => { walk with guard := guard }) frames inside

theorem deeper_of_entered {frames : Nat} {walk : Walk σ} {inner : Guard}
    (attempt : Attempt (Walk σ) Unit) (entered : walk.guard.enter frames = .ok inner) :
    deeper frames attempt walk =
      let inside := attempt { walk with guard := inner }
      (inside.1, { inside.2 with guard := inside.2.guard.leave frames }) :=
  Attempt.guarded_of_entered attempt entered

theorem deeper_of_refused {frames : Nat} {walk : Walk σ} {failure : Failure}
    (attempt : Attempt (Walk σ) Unit) (refused : walk.guard.enter frames = .error failure) :
    deeper frames attempt walk = (.error failure, walk) :=
  Attempt.guarded_of_refused attempt refused

/-- An attempt that takes these notes when the guard bears its load, and is refused otherwise; not for
want of frames, when there are three for each level. -/
structure Ends (attempt : Attempt (Walk σ) Unit) (load : Load) (walk : Walk σ) (notes : σ) : Prop where
  returns : walk.guard.Bears load → attempt walk = (.ok (), { walk with notes := notes })
  refuses : ¬ walk.guard.Bears load → ∃ (failure : Failure) (after : Walk σ),
    walk.guard.Refuses load failure ∧ after.guard = walk.guard ∧ attempt walk = (.error failure, after)
  ample : walk.guard.Ample → (attempt walk).1 ≠ .error (.fault .outOfFrames)

namespace Ends

variable {attempt next : Attempt (Walk σ) Unit} {first second : Load} {walk : Walk σ} {notes later : σ}

theorem bind (ends : Ends attempt first walk notes)
    (rest : Ends next second { walk with notes := notes } later) :
    Ends (attempt >>= fun _ => next) (max first second) walk later where
  returns bears := by
    obtain ⟨here, there⟩ := (Guard.bears_max _ _ _).mp bears
    rw [Attempt.bind_of_ok (ends.returns here)]
    exact rest.returns there
  refuses overloaded := by
    by_cases here : walk.guard.Bears first
    · have there : ¬ walk.guard.Bears second := fun there =>
        overloaded ((Guard.bears_max _ _ _).mpr ⟨here, there⟩)
      obtain ⟨failure, after, refuses, guard, refused⟩ := rest.refuses there
      exact ⟨failure, after, refuses.max_right, guard, by
        rw [Attempt.bind_of_ok (ends.returns here), refused]⟩
    · obtain ⟨failure, after, refuses, guard, refused⟩ := ends.refuses here
      exact ⟨failure, after, refuses.max_left, guard, Attempt.bind_of_error refused⟩
  ample enough := by
    by_cases here : walk.guard.Bears first
    · rw [Attempt.bind_of_ok (ends.returns here)]
      exact rest.ample enough
    · obtain ⟨failure, after, _, _, refused⟩ := ends.refuses here
      have own := ends.ample enough
      rw [refused] at own
      rwa [Attempt.bind_of_error refused]

theorem deeper {frames : Nat} (light : frames ≤ 3) (ends : ∀ inner, walk.guard.enter frames = .ok inner →
      Ends attempt first { walk with guard := inner } notes) :
    Ends (Visitor.deeper frames attempt) (first.under frames) walk notes := by
  cases entered : walk.guard.enter frames with
  | ok inner =>
      have ran := deeper_of_entered attempt entered
      have bears := Guard.bears_of_enter entered first
      have below := ends inner entered
      constructor
      · intro enough
        rw [ran, below.returns (bears.mpr enough)]
        simp only [Guard.leave_of_enter entered]
      · intro overloaded
        obtain ⟨failure, after, refuses, guard, refused⟩ := below.refuses (mt bears.mp overloaded)
        refine ⟨failure, { after with guard := after.guard.leave frames },
          Guard.refuses_of_enter entered refuses, ?_, ?_⟩
        · rw [guard]
          exact Guard.leave_of_enter entered
        · rw [ran, refused]
      · intro enough
        rw [ran]
        exact below.ample (Guard.ample_of_enter entered light enough)
  | error failure =>
      have refuses := Guard.refuses_of_refused entered first
      have ran := deeper_of_refused attempt entered
      refine ⟨fun enough => absurd enough refuses.not_bears, fun _ =>
        ⟨failure, walk, refuses, rfl, ran⟩, fun enough same => ?_⟩
      rw [ran] at same
      cases same
      exact enough.enter_ne light entered

theorem afterwards (change : σ → σ) (ends : Ends attempt first walk notes) :
    Ends (Attempt.afterwards (fun after => { after with notes := change after.notes }) attempt) first
      walk (change notes) where
  returns bears := by simp only [Attempt.afterwards, ends.returns bears]
  refuses overloaded := by
    obtain ⟨failure, after, refuses, guard, refused⟩ := ends.refuses overloaded
    exact ⟨failure, { after with notes := change after.notes }, refuses, guard, by
      simp only [Attempt.afterwards, refused]⟩
  ample := ends.ample

theorem pure (walk : Walk σ) : Ends (Pure.pure ()) .none walk walk.notes :=
  ⟨fun _ => rfl, fun overloaded => absurd (Guard.bears_none _) overloaded, fun _ => nofun⟩

/-- What is noted on entering stands in the notes that an attempt starts with. -/
theorem entering {noted : σ} (same : attempt walk = next { walk with notes := noted })
    (ends : Ends next first { walk with notes := noted } notes) : Ends attempt first walk notes where
  returns bears := by rw [same, ends.returns bears]
  refuses overloaded := by
    obtain ⟨failure, after, refuses, guard, refused⟩ := ends.refuses overloaded
    exact ⟨failure, after, refuses, guard, by rw [same, refused]⟩
  ample enough := by
    rw [same]
    exact ends.ample enough

end Ends

variable {visitor}

theorem around_of_none {value : Value} (none : visitor.handler? value.typeName = none)
    (inside : Attempt (Walk σ) Unit) :
    visitor.around value inside = deeper (visitor.framesOf value) inside := by
  funext walk
  simp only [around, none, deeper, framesOf]

theorem around_of_some {value : Value} {handler : Handler σ} {walk : Walk σ} {noted : σ}
    (found : visitor.handler? value.typeName = some handler)
    (entered : handler.enter value walk.guard.depth walk.notes = .ok noted)
    (inside : Attempt (Walk σ) Unit) :
    visitor.around value inside walk =
      (if handler.descends then
        Attempt.afterwards (fun after => { after with notes := handler.leave after.notes })
          (deeper (visitor.framesOf value) inside)
      else pure ()) { walk with notes := noted } := by
  simp only [around, found, entered, deeper, framesOf]
  split <;> rfl

theorem goesInto_of_none {value : Value} (none : visitor.handler? value.typeName = none) :
    visitor.goesInto value = true := by
  rw [goesInto, none, Option.all_none]

theorem goesInto_of_some {value : Value} {handler : Handler σ}
    (found : visitor.handler? value.typeName = some handler) :
    visitor.goesInto value = handler.descends := by
  rw [goesInto, found, Option.all_some]

/-- A walk takes the notes of a walk without limit, or is refused. -/
theorem Notes.ends {depth : Int} {outline : Outline} {notes after : σ}
    (noted : visitor.Notes depth outline notes after) :
    ∀ walk : Walk σ, walk.guard.depth = depth → walk.notes = notes →
      Ends (visitor.tour outline) (visitor.load outline) walk after := by
  induction noted with
  | done =>
      intro walk _ same
      subst same
      exact .pure walk
  | unhandled none _ _ inner outer =>
      intro walk atDepth same
      subst atDepth same
      rw [tour, load, around_of_none none, goesInto_of_none none, if_pos rfl]
      exact .bind (.deeper (visitor.framesOf_le _)
        fun below entered => inner _ (Guard.depth_of_enter entered) rfl) (outer _ rfl rfl)
  | @leaf _ value inside _ handler _ between _ found entered stays _ outer =>
      intro walk atDepth same
      subst atDepth same
      have here : Ends (visitor.around value (visitor.tour inside)) .none walk between := by
        apply Ends.entering (around_of_some found entered _)
        rw [stays, if_neg Bool.false_ne_true]
        exact .pure _
      rw [tour, load, goesInto_of_some found, stays, if_neg Bool.false_ne_true]
      exact here.bind (outer _ rfl rfl)
  | @through _ value inside _ handler _ entry between _ found entered descends _ _ inner outer =>
      intro walk atDepth same
      subst atDepth same
      have here : Ends (visitor.around value (visitor.tour inside))
          ((visitor.load inside).under (visitor.framesOf value)) walk (handler.leave between) := by
        apply Ends.entering (around_of_some found entered _)
        rw [descends, if_pos rfl]
        exact .afterwards _ (.deeper (visitor.framesOf_le _)
          fun below entered => inner _ (Guard.depth_of_enter entered) rfl)
      rw [tour, load, goesInto_of_some found, descends, if_pos rfl]
      exact here.bind (outer _ rfl rfl)

end Visitor

end Phrasebook
