import Phrasebook.Proofs.Template.Contents
import Phrasebook.Proofs.Visitor.Tour

/-!
The handlers that a walk calls.  Every part of a template or token has its place, with the parts around
it; which handlers are called, in which order and how deep, and whether the limit and the stack let the
walk end, is said by the places alone.  A part is hidden when a handler around it does not walk on.
-/

namespace Phrasebook

/-- A part, and the parts around it from the nearest on. -/
structure Place where
  value : Value
  ancestors : List Value

/-- The parts in the order of the document, each before what is inside it. -/
def Outline.places (ancestors : List Value) : Outline → List Place
  | .done => []
  | .part value inside rest =>
      ⟨value, ancestors⟩ :: (inside.places (value :: ancestors) ++ rest.places ancestors)

inductive Root where
  | template (template : Template)
  | token (token : Token)

namespace Root

def toValue : Root → Value
  | .template whole => whole.toValue
  | .token part => part.toValue

def outline : Root → Outline
  | .template whole => whole.outline
  | .token part => Token.outline [part]

def places (root : Root) : List Place :=
  root.outline.places []

end Root

/-- The kinds of parts with handlers, and whether the handler of each walks through its part. -/
abbrev Handling := String → Option Bool

namespace Handling

/-- The later of two entries for one kind counts. -/
def ofList (handlers : List (String × Bool)) : Handling :=
  fun name => (Entries.ofList handlers).lookup name

variable (handling : Handling)

/-- A walk does not go into the part, because of its handler. -/
def endsAt (value : Value) : Bool :=
  handling value.typeName == some false

def hides (place : Place) : Bool :=
  place.ancestors.any handling.endsAt

def calls (place : Place) : Bool :=
  (handling place.value.typeName).isSome && !handling.hides place

/-- The part is walked through, by its handler or for want of one. -/
def walksThrough (place : Place) : Bool :=
  !handling.endsAt place.value && !handling.hides place

/-- The calls at some places: the parts they are for, and how many parts are around each. -/
def callsAt (places : List Place) : List (Value × Nat) :=
  (places.filter handling.calls).map fun place => (place.value, place.ancestors.length)

/-- This holds wherever a walk goes deeper. -/
def Throughout (holds : Place → Prop) (places : List Place) : Prop :=
  ∀ place ∈ places, handling.walksThrough place = true → holds place

/-- No place where a walk goes deeper has as many parts around it as the limit says. -/
def Fits (limit : Int) (places : List Place) : Prop :=
  handling.Throughout (fun place => place.ancestors.length < limit) places

instance (limit : Int) (places : List Place) : Decidable (handling.Fits limit places) :=
  List.decidableBAll _ places

/-- The frames of walking through a part. -/
def frames (value : Value) : Nat :=
  if (handling value.typeName).isSome then 3 else 2

def framesOf (values : List Value) : Nat :=
  values.foldr (fun value rest => handling.frames value + rest) 0

/-- At no place where a walk goes deeper do the part and the parts around it take more than the free
frames. -/
def FitsStack (free : Nat) (places : List Place) : Prop :=
  handling.Throughout (fun place => handling.framesOf (place.value :: place.ancestors) ≤ free) places

instance (free : Nat) (places : List Place) : Decidable (handling.FitsStack free places) :=
  List.decidableBAll _ places

end Handling

namespace Visitor

variable {σ : Type}

def noting (handling : Handling) (note : Value → Int → σ → σ) : Visitor σ where
  handler? name := (handling name).map fun descends =>
    { enter := fun value depth notes => pure (note value depth notes)
      descends := descends }

theorem tracing_eq_noting (handlers : List (String × Bool)) :
    tracing handlers = noting (.ofList handlers)
      fun value depth trace => trace ++ [(value.typeName, depth)] := rfl

def noted (note : Value → Int → σ → σ) (calls : List (Value × Nat)) (notes : σ) : σ :=
  calls.foldl (fun notes call => note call.1 call.2 notes) notes

end Visitor

section Places

variable {handling : Handling} {ancestors : List Value}

theorem Outline.ancestors_suffix {outline : Outline} {place : Place}
    (member : place ∈ outline.places ancestors) : ancestors <:+ place.ancestors := by
  induction outline generalizing ancestors with
  | done => cases member
  | part value inside rest inner outer =>
      rcases List.mem_cons.mp member with rfl | member
      · exact List.suffix_refl _
      · rcases List.mem_append.mp member with member | member
        · exact (List.suffix_cons value ancestors).trans (inner member)
        · exact outer member

theorem Handling.hides_of_mem {outline : Outline} {place : Place}
    (hidden : ancestors.any handling.endsAt = true) (member : place ∈ outline.places ancestors) :
    handling.hides place = true := by
  obtain ⟨value, around, ends⟩ := List.any_eq_true.mp hidden
  exact List.any_eq_true.mpr ⟨value, (Outline.ancestors_suffix member).mem around, ends⟩

theorem Handling.callsAt_hidden (hidden : ancestors.any handling.endsAt = true) (outline : Outline) :
    handling.callsAt (outline.places ancestors) = [] := by
  have none : (outline.places ancestors).filter handling.calls = [] := by
    rw [List.filter_eq_nil_iff]
    intro place member
    simp [calls, hides_of_mem hidden member]
  rw [callsAt, none, List.map_nil]

def Handling.ownCall (handling : Handling) (ancestors : List Value) (value : Value) :
    List (Value × Nat) :=
  if (handling value.typeName).isSome then [(value, ancestors.length)] else []

theorem Handling.callsAt_part (visible : ancestors.any handling.endsAt = false) (value : Value)
    (inside rest : Outline) :
    handling.callsAt (Outline.places ancestors (.part value inside rest)) =
      handling.ownCall ancestors value ++
        (if handling.endsAt value then [] else handling.callsAt (inside.places (value :: ancestors))) ++
        handling.callsAt (rest.places ancestors) := by
  have within : handling.callsAt (inside.places (value :: ancestors)) =
      if handling.endsAt value then [] else handling.callsAt (inside.places (value :: ancestors)) := by
    split
    · rename_i ends
      exact callsAt_hidden (by simp [ends]) inside
    · rfl
  have own : handling.callsAt [⟨value, ancestors⟩] = handling.ownCall ancestors value := by
    cases handled : handling value.typeName <;>
      simp [callsAt, ownCall, calls, hides, visible, handled]
  rw [← within, ← own]
  simp only [Outline.places, callsAt, List.filter_cons, List.filter_append]
  split <;> simp

variable {σ : Type} {note : Value → Int → σ → σ}

theorem Visitor.goesInto_noting (value : Value) :
    (noting handling note).goesInto value = !handling.endsAt value := by
  unfold goesInto noting Handling.endsAt
  dsimp only
  cases handling value.typeName with
  | none => rfl
  | some descends => cases descends <;> rfl

theorem Handling.frames_pos (handling : Handling) (value : Value) : 0 < handling.frames value := by
  unfold frames
  split <;> decide

theorem Handling.frames_le (handling : Handling) (value : Value) : handling.frames value ≤ 3 := by
  unfold frames
  split <;> decide

theorem Visitor.framesOf_noting (value : Value) :
    (noting handling note).framesOf value = handling.frames value := by
  unfold framesOf noting Handler.frames Handling.frames
  rw [Option.isSome_map]

/-- A part that a walk does not go into hides what is inside it. -/
theorem Handling.throughout_part (visible : ancestors.any handling.endsAt = false)
    (holds : Place → Prop) (value : Value) (inside rest : Outline) :
    handling.Throughout holds (Outline.places ancestors (.part value inside rest)) ↔
      (handling.endsAt value = false → holds ⟨value, ancestors⟩ ∧
        handling.Throughout holds (inside.places (value :: ancestors))) ∧
      handling.Throughout holds (rest.places ancestors) := by
  have own : handling.walksThrough ⟨value, ancestors⟩ = true ↔ handling.endsAt value = false := by
    rw [walksThrough, hides, visible, Bool.not_false, Bool.and_true, Bool.not_eq_true']
  unfold Throughout
  rw [Outline.places, List.forall_mem_cons, List.forall_mem_append, own, ← and_assoc]
  apply and_congr_left
  intro _
  cases ends : handling.endsAt value with
  | false => simp
  | true =>
      have hidden : (value :: ancestors).any handling.endsAt = true := by simp [ends]
      refine iff_of_true ⟨nofun, fun place member through => ?_⟩ nofun
      simp [walksThrough, hides_of_mem hidden member] at through

/-- The limit lets a walk end exactly when there is room for the levels it goes down. -/
theorem Handling.fits_iff_hasRoom (note : Value → Int → σ → σ)
    (visible : ancestors.any handling.endsAt = false) (limit : Int) (free : Nat) (outline : Outline) :
    handling.Fits limit (outline.places ancestors) ↔
      (Guard.mk limit ancestors.length free).HasRoom
        ((Visitor.noting handling note).load outline).levels := by
  induction outline generalizing ancestors with
  | done => simp [Fits, Throughout, Outline.places, Visitor.load, Load.none, Guard.HasRoom]
  | part value inside rest inner outer =>
      unfold Fits at inner outer ⊢
      rw [throughout_part visible, outer visible, Visitor.load, Load.max_levels, Guard.hasRoom_max,
        Visitor.goesInto_noting]
      apply and_congr_left
      intro _
      cases ends : handling.endsAt value with
      | true => exact iff_of_true (fun never => Bool.noConfusion never) (.inl rfl)
      | false =>
          have below := @inner (value :: ancestors) (by simp [ends, visible])
          simp only [forall_const, below, Bool.not_false, if_true, Load.under, Guard.HasRoom,
            List.length_cons]
          omega

/-- The stack lets a walk end exactly when it has the frames of the walk, besides those in use around
it. -/
theorem Handling.fitsStack_iff_hasFrames (note : Value → Int → σ → σ)
    (visible : ancestors.any handling.endsAt = false) (free : Nat) (outline : Outline) :
    handling.FitsStack free (outline.places ancestors) ↔
      ((Visitor.noting handling note).load outline).frames ≤ free - handling.framesOf ancestors := by
  induction outline generalizing ancestors with
  | done => simp [FitsStack, Throughout, Outline.places, Visitor.load, Load.none]
  | part value inside rest inner outer =>
      unfold FitsStack at inner outer ⊢
      rw [throughout_part visible, outer visible, Visitor.load, Load.max_frames, Nat.max_le,
        Visitor.goesInto_noting]
      apply and_congr_left
      intro _
      cases ends : handling.endsAt value with
      | true => exact iff_of_true (fun never => Bool.noConfusion never) (Nat.zero_le _)
      | false =>
          have below := @inner (value :: ancestors) (by simp [ends, visible])
          have around : handling.framesOf (value :: ancestors) =
              handling.frames value + handling.framesOf ancestors := rfl
          have some := handling.frames_pos value
          simp only [forall_const, below, Bool.not_false, if_true, Load.under, Visitor.framesOf_noting,
            around]
          omega

/-- Three frames for every level that the limit allows are enough. -/
theorem Handling.fitsStack_of_fits {limit : Int} {free : Nat} {places : List Place}
    (fits : handling.Fits limit places) (ample : 3 * limit ≤ free) : handling.FitsStack free places := by
  have most (values : List Value) : handling.framesOf values ≤ 3 * values.length := by
    induction values with
    | nil => exact Nat.le_refl 0
    | cons value rest ih =>
        have one := handling.frames_le value
        simp only [framesOf, List.foldr_cons, List.length_cons] at ih ⊢
        omega
  intro place member through
  have shallow := fits place member through
  have bound := most (place.value :: place.ancestors)
  rw [List.length_cons] at bound
  omega

end Places

namespace Visitor

variable {σ : Type} {handling : Handling} {note : Value → Int → σ → σ}

theorem noted_append (note : Value → Int → σ → σ) (first last : List (Value × Nat)) (notes : σ) :
    noted note (first ++ last) notes = noted note last (noted note first notes) :=
  List.foldl_append

/-- An attempt that makes these calls and returns when the guard bears its load, and otherwise is
refused after the first of the calls. -/
structure Makes (note : Value → Int → σ → σ) (calls : List (Value × Nat))
    (attempt : Attempt (Walk σ) Unit) (load : Load) (walk : Walk σ) : Prop where
  ends : Ends attempt load walk (noted note calls walk.notes)
  stops : ¬ walk.guard.Bears load →
    ∃ made, made <+: calls ∧ (attempt walk).2.notes = noted note made walk.notes

namespace Makes

variable {attempt next : Attempt (Walk σ) Unit} {first second : Load} {walk : Walk σ}
  {calls others : List (Value × Nat)}

theorem pure (walk : Walk σ) : Makes note [] (Pure.pure ()) .none walk :=
  ⟨.pure walk, fun overloaded => absurd (Guard.bears_none _) overloaded⟩

theorem bind (makes : Makes note calls attempt first walk)
    (rest : Makes note others next second { walk with notes := noted note calls walk.notes }) :
    Makes note (calls ++ others) (attempt >>= fun _ => next) (max first second) walk where
  ends := by
    rw [noted_append]
    exact makes.ends.bind rest.ends
  stops overloaded := by
    by_cases here : walk.guard.Bears first
    · obtain ⟨made, within, notes⟩ := rest.stops fun there =>
        overloaded ((Guard.bears_max _ _ _).mpr ⟨here, there⟩)
      refine ⟨calls ++ made, (List.prefix_append_right_inj calls).mpr within, ?_⟩
      rw [Attempt.bind_of_ok (makes.ends.returns here), notes, noted_append]
    · obtain ⟨made, within, notes⟩ := makes.stops here
      obtain ⟨_, after, _, _, refused⟩ := makes.ends.refuses here
      refine ⟨made, within.trans (List.prefix_append calls others), ?_⟩
      rw [Attempt.bind_of_error refused, ← notes, refused]

theorem deeper {frames : Nat} (light : frames ≤ 3) (makes : ∀ inner, walk.guard.enter frames = .ok inner →
      Makes note calls attempt first { walk with guard := inner }) :
    Makes note calls (Visitor.deeper frames attempt) (first.under frames) walk where
  ends := .deeper light fun inner entered => (makes inner entered).ends
  stops overloaded := by
    cases entered : walk.guard.enter frames with
    | ok inner =>
        obtain ⟨made, within, notes⟩ := (makes inner entered).stops
          (mt (Guard.bears_of_enter entered first).mp overloaded)
        refine ⟨made, within, ?_⟩
        rw [deeper_of_entered attempt entered]
        exact notes
    | error failure =>
        refine ⟨[], List.nil_prefix, ?_⟩
        rw [deeper_of_refused attempt entered]
        rfl

/-- A call that is made on entering comes before all others. -/
theorem entering (same : attempt walk = next { walk with notes := noted note calls walk.notes })
    (makes : Makes note others next first { walk with notes := noted note calls walk.notes }) :
    Makes note (calls ++ others) attempt first walk where
  ends := by
    rw [noted_append]
    exact .entering same makes.ends
  stops overloaded := by
    obtain ⟨made, within, notes⟩ := makes.stops overloaded
    refine ⟨calls ++ made, (List.prefix_append_right_inj calls).mpr within, ?_⟩
    rw [same, notes, noted_append]

end Makes

/-- A part is visited by calling its handler if it has one, and then walking on unless that handler does
not. -/
theorem around_noting {ancestors : List Value} {walk : Walk σ}
    (atDepth : walk.guard.depth = ancestors.length) (value : Value)
    (inside : Attempt (Walk σ) Unit) :
    (noting handling note).around value inside walk =
      (if handling.endsAt value then pure () else deeper (handling.frames value) inside)
        { walk with notes := noted note (handling.ownCall ancestors value) walk.notes } := by
  cases handled : handling value.typeName with
  | none =>
      rw [around_of_none (by simp [noting, handled]), framesOf_noting]
      simp [Handling.endsAt, Handling.ownCall, handled, noted]
  | some descends =>
      rw [around_of_some (by simp only [noting, handled]; rfl) rfl, framesOf_noting]
      cases descends with
      | false => simp [Handling.endsAt, Handling.ownCall, handled, noted, atDepth]
      | true =>
          simp [Handling.endsAt, Handling.ownCall, handled, noted, atDepth]
          rfl

theorem makes_tour (note : Value → Int → σ → σ) {ancestors : List Value}
    (visible : ancestors.any handling.endsAt = false) (outline : Outline) (walk : Walk σ)
    (atDepth : walk.guard.depth = ancestors.length) :
    Makes note (handling.callsAt (outline.places ancestors)) ((noting handling note).tour outline)
      ((noting handling note).load outline) walk := by
  induction outline generalizing ancestors walk with
  | done => exact .pure walk
  | part value inside rest inner outer =>
      -- The part's own call comes first, then those inside it one level down, then the rest.
      rw [tour, load, goesInto_noting, framesOf_noting, Handling.callsAt_part visible]
      refine Makes.bind (.entering (around_noting atDepth value _) ?_) (outer visible _ atDepth)
      cases ends : handling.endsAt value with
      | true => exact .pure _
      | false =>
          refine .deeper (handling.frames_le value) fun below entered => ?_
          refine @inner (value :: ancestors) (by simp [ends, visible]) _ ?_
          simp [Guard.depth_of_enter entered, atDepth]

theorem visit_root (visitor : Visitor σ) (root : Root) :
    visitor.visit root.toValue = visitor.tour root.outline >>= fun _ => pure root.toValue := by
  cases root with
  | template template => exact visitor.visit_template template
  | token token =>
      rw [Root.toValue, visit, visitAt_token, Root.outline, Token.outline, Token.outline, tour, tour,
        Attempt.bind_pure_unit]

/-- A walk from depth zero that fits returns after all calls; one that does not is refused after some of
them, the first ones.  The guard is left as it was in both cases. -/
theorem visit_noting (handling : Handling) (note : Value → Int → σ → σ) (root : Root) (start : σ)
    (limit : Int) (free : Nat) :
    (handling.Fits limit root.places → handling.FitsStack free root.places →
      (noting handling note).visit root.toValue ⟨start, ⟨limit, 0, free⟩⟩ =
        (.ok root.toValue, ⟨noted note (handling.callsAt root.places) start, ⟨limit, 0, free⟩⟩)) ∧
    (¬ (handling.Fits limit root.places ∧ handling.FitsStack free root.places) →
      ∃ made failure, made <+: handling.callsAt root.places ∧
        (noting handling note).visit root.toValue ⟨start, ⟨limit, 0, free⟩⟩ =
          (.error failure, ⟨noted note made start, ⟨limit, 0, free⟩⟩) ∧
        ((failure = .template (.depthLimitExceeded limit) ∧ ¬ handling.Fits limit root.places) ∨
          (failure = .fault .outOfFrames ∧ ¬ handling.FitsStack free root.places))) := by
  have visible : ([] : List Value).any handling.endsAt = false := rfl
  have makes := makes_tour note visible root.outline ⟨start, ⟨limit, 0, free⟩⟩ rfl
  have room := Handling.fits_iff_hasRoom note visible limit free root.outline
  have stack := Handling.fitsStack_iff_hasFrames note visible free root.outline
  rw [visit_root]
  constructor
  · intro fits enough
    rw [Attempt.bind_of_ok (makes.ends.returns ⟨room.mp fits, stack.mp enough⟩)]
    rfl
  · intro overloaded
    have overloads := fun bears : Guard.Bears ⟨limit, 0, free⟩ _ =>
      overloaded ⟨room.mpr bears.1, stack.mpr bears.2⟩
    obtain ⟨made, within, notes⟩ := makes.stops overloads
    obtain ⟨failure, ⟨taken, left⟩, refuses, guard, refused⟩ := makes.ends.refuses overloads
    rw [refused] at notes
    obtain rfl : left = ⟨limit, 0, free⟩ := guard
    obtain rfl : taken = noted note made start := notes
    refine ⟨made, failure, within, Attempt.bind_of_error refused, ?_⟩
    cases refuses with
    | tooDeep deep => exact .inl ⟨rfl, mt room.mp deep⟩
    | outOfFrames short => exact .inr ⟨rfl, mt stack.mp short⟩

end Visitor

/-- Without a limit, and with frames enough, a walk calls the handlers of all parts that no handler
around them hides: in the order of the document, each once, and as deep as there are parts around it.
Under a limit it does the same and returns what it was started from, provided that the parts it walks
through have fewer parts around them than the limit says, and that the stack has the frames for them.
Otherwise it is refused for the one or the other, and what it has called until then comes first among
those calls.  The guard is left at its depth in every case.  Three frames for each level that the limit
allows are always enough. -/
theorem visit_calls_handlers_in_order {σ : Type} (handling : Handling) (note : Value → Int → σ → σ)
    (root : Root) (start : σ) :
    (∃ enough : Nat, ∀ (limit : Int) (free : Nat), enough ≤ limit → enough ≤ free →
      ((Visitor.noting handling note).visit root.toValue).run ⟨start, ⟨limit, 0, free⟩⟩ =
        (.ok root.toValue,
          ⟨Visitor.noted note (handling.callsAt root.places) start, ⟨limit, 0, free⟩⟩)) ∧
    (∀ (maxDepth : Int) (free : Nat),
      let guard := { Guard.ofLimit maxDepth with free := free }
      (handling.Fits guard.limit root.places → handling.FitsStack free root.places →
        ((Visitor.noting handling note).visit root.toValue).run ⟨start, guard⟩ =
          (.ok root.toValue, ⟨Visitor.noted note (handling.callsAt root.places) start, guard⟩)) ∧
      (¬ (handling.Fits guard.limit root.places ∧ handling.FitsStack free root.places) →
        ∃ made failure, made <+: handling.callsAt root.places ∧
          ((Visitor.noting handling note).visit root.toValue).run ⟨start, guard⟩ =
            (.error failure, ⟨Visitor.noted note made start, guard⟩) ∧
          ((failure = .template (.depthLimitExceeded guard.limit) ∧
              ¬ handling.Fits guard.limit root.places) ∨
            (failure = .fault .outOfFrames ∧ ¬ handling.FitsStack free root.places)))) ∧
    ∀ (limit : Int) (free : Nat), 3 * limit ≤ free → handling.Fits limit root.places →
      handling.FitsStack free root.places := by
  refine ⟨?_, ?_, fun limit free ample fits => Handling.fitsStack_of_fits fits ample⟩
  · -- More frames than levels are needed, so that a number of frames serves for both.
    refine ⟨((Visitor.noting handling note).load root.outline).frames +
      ((Visitor.noting handling note).load root.outline).levels, fun limit free large many => ?_⟩
    apply (Visitor.visit_noting handling note root start limit free).1
    · refine (Handling.fits_iff_hasRoom note rfl limit free root.outline).mpr (.inr ?_)
      simp only [List.length_nil]
      omega
    · refine (Handling.fitsStack_iff_hasFrames note rfl free root.outline).mpr ?_
      simp only [Handling.framesOf, List.foldr_nil]
      omega
  · intro maxDepth free
    exact Visitor.visit_noting handling note root start (Guard.ofLimit maxDepth).limit free

/-- The number sign is hidden by the case around it.  A limit of four lets the walk end; one of three
refuses it on the way into the plural choice, whose handler has been called by then. -/
theorem guests_handlers_called :
    let handlers := [("Case", false), ("Plural", true), ("Octothorpe", true)]
    let visit := (Visitor.tracing handlers).visit Template.guests.toValue
    visit.run ⟨[], .ofLimit 4⟩ =
      (.ok Template.guests.toValue, ⟨[("Plural", 3), ("Case", 4), ("Case", 4)], .ofLimit 4⟩) ∧
    ∃ trace, visit.run ⟨[], .ofLimit 3⟩ =
      (.error (.template (.depthLimitExceeded 3)), ⟨trace, .ofLimit 3⟩) := by
  intro handlers visit
  have called := (visit_calls_handlers_in_order (.ofList handlers)
    (fun value depth trace => trace ++ [(value.typeName, depth)]) (.template .guests) []).2.1
  rw [← Visitor.tracing_eq_noting] at called
  refine ⟨(called 4 1000).1 (by decide) (by decide), ?_⟩
  obtain ⟨made, failure, _, refused, ⟨rfl, _⟩ | ⟨_, short⟩⟩ := (called 3 1000).2 (by decide)
  · exact ⟨_, refused⟩
  · exact absurd (by decide) short

namespace Visitor

variable {σ : Type} {note : Value → Int → σ → σ}

/-- Without handlers a walk over nested selections goes through every selection and every case, and
through the text in the middle. -/
theorem load_nestedSelect (n : Nat) :
    (noting (.ofList []) note).load (Token.outline [.nestedSelect n]) = ⟨2 * n + 1, 2 * (2 * n + 1)⟩ := by
  induction n with
  | zero => rfl
  | succ n ih =>
      have through (value : Value) : (noting (.ofList []) note).goesInto value = true := rfl
      have two (value : Value) : (noting (.ofList []) note).framesOf value = 2 := rfl
      have around : (noting (.ofList []) note).load (Token.outline [.nestedSelect (n + 1)]) =
          (((noting (.ofList []) note).load (Token.outline [.nestedSelect n])).under 2).under 2 := by
        simp only [Token.nestedSelect, Token.outline, Token.insideOutline, Case.outline, load, through,
          two, if_true, Load.max_none]
      rw [around, ih]
      simp only [Load.under, Load.mk.injEq]
      omega

/-- Selections that the limit allows run out of frames when a walk needs more than the stack has. -/
theorem nestedSelect_exhausts {n : Nat} (within : 2 * n + 1 ≤ 950) (short : 1000 < 2 * (2 * n + 1)) :
    Handling.Fits (.ofList []) (Guard.ofLimit 950).limit (Root.token (.nestedSelect n)).places ∧
    (tracing []).visit (Root.token (.nestedSelect n)).toValue ⟨[], .ofLimit 950⟩ =
      (.error (.fault .outOfFrames), ⟨[], .ofLimit 950⟩) := by
  let note (value : Value) (depth : Int) (trace : List (String × Int)) := trace ++ [(value.typeName, depth)]
  have load : ((noting (.ofList []) note).load (Root.token (.nestedSelect n)).outline) = _ :=
    load_nestedSelect n
  have fits : Handling.Fits (.ofList []) 950 (Root.token (.nestedSelect n)).places := by
    rw [Root.places, Handling.fits_iff_hasRoom note rfl 950 1000, load]
    right
    simp only [List.length_nil]
    omega
  have overloads : ¬ Handling.FitsStack (.ofList []) 1000 (Root.token (.nestedSelect n)).places := by
    rw [Root.places, Handling.fitsStack_iff_hasFrames note rfl, load]
    exact Nat.not_le.mpr short
  have silent : Handling.callsAt (.ofList []) (Root.token (.nestedSelect n)).places = [] := by
    have none (place : Place) : Handling.calls (.ofList []) place = false := rfl
    simp [Handling.callsAt, none]
  obtain ⟨made, failure, first, refused, ⟨_, deep⟩ | ⟨rfl, _⟩⟩ :=
    (visit_noting (.ofList []) note (.token (.nestedSelect n)) [] 950 1000).2 fun both => overloads both.2
  · exact absurd fits deep
  · rw [silent, List.prefix_nil] at first
    subst first
    exact ⟨fits, refused⟩

end Visitor

/-- Three hundred selections in each other fit the largest limit, but not the stack. -/
theorem three_hundred_selections_exhaust_walk :
    Handling.Fits (.ofList []) (Guard.ofLimit 950).limit (Root.token (.nestedSelect 300)).places ∧
    ((Visitor.tracing []).visit (Root.token (.nestedSelect 300)).toValue).run ⟨[], .ofLimit 950⟩ =
      (.error (.fault .outOfFrames), ⟨[], .ofLimit 950⟩) :=
  Visitor.nestedSelect_exhausts (by decide) (by decide)

end Phrasebook
