import Phrasebook.Guard

/-!
What a walk takes of its guard.  A level down takes one of the levels that are left and some of the free
frames, and both are given back on the way out.  Whether a guard lets a whole walk through is therefore
said by the load of the walk alone, the levels and the frames that it has in use where it is deepest.
-/

namespace Phrasebook

structure Load where
  levels : Nat
  frames : Nat

namespace Load

def none : Load := ⟨0, 0⟩

instance : Max Load := ⟨fun one other => ⟨max one.levels other.levels, max one.frames other.frames⟩⟩

/-- The load of something one level further down, seen from above that level. -/
def under (frames : Nat) (load : Load) : Load :=
  ⟨1 + load.levels, frames + load.frames⟩

theorem max_levels (one other : Load) : (max one other).levels = max one.levels other.levels := rfl

theorem max_frames (one other : Load) : (max one other).frames = max one.frames other.frames := rfl

@[simp] theorem none_max (load : Load) : max none load = load := by
  change Load.mk _ _ = _
  simp [none]

@[simp] theorem max_none (load : Load) : max load none = load := by
  change Load.mk _ _ = _
  simp [none]

theorem max_assoc (first second third : Load) :
    max (max first second) third = max first (max second third) := by
  change Load.mk _ _ = Load.mk _ _
  simp only [max_levels, max_frames, Nat.max_assoc]

end Load

/-- The failure is an error of the template of this kind. -/
def Failure.HasKind (kind : ErrorKind) : Failure → Prop
  | .template error => error.kind = kind
  | .fault _ => False

@[simp] theorem Failure.hasKind_within (kind : ErrorKind) (key : String) (failure : Failure) :
    (failure.within key).HasKind kind ↔ failure.HasKind kind := by
  cases failure with
  | fault reason => rfl
  | template error =>
      obtain ⟨errorKind, report⟩ := error
      cases report <;> rfl

namespace Guard

variable {guard inner : Guard} {frames : Nat} {failure : Failure}

/-- The guard lets a walk go so many levels deeper. -/
def HasRoom (guard : Guard) (levels : Nat) : Prop :=
  levels = 0 ∨ guard.depth + levels ≤ guard.limit

def HasFrames (guard : Guard) (frames : Nat) : Prop :=
  frames ≤ guard.free

def Bears (guard : Guard) (load : Load) : Prop :=
  guard.HasRoom load.levels ∧ guard.HasFrames load.frames

/-- The guard ends a walk of this load with this failure. -/
inductive Refuses (guard : Guard) (load : Load) : Failure → Prop where
  | tooDeep (deep : ¬ guard.HasRoom load.levels) :
      Refuses guard load (.template (.depthLimitExceeded guard.limit))
  | outOfFrames (short : ¬ guard.HasFrames load.frames) : Refuses guard load (.fault .outOfFrames)

/-- There are three frames for each level that is left, which is the most that a level takes. -/
def Ample (guard : Guard) : Prop :=
  3 * (guard.limit - guard.depth) ≤ guard.free

theorem hasRoom_max (guard : Guard) (first second : Nat) :
    guard.HasRoom (max first second) ↔ guard.HasRoom first ∧ guard.HasRoom second := by
  unfold HasRoom
  omega

theorem hasFrames_max (guard : Guard) (first second : Nat) :
    guard.HasFrames (max first second) ↔ guard.HasFrames first ∧ guard.HasFrames second :=
  Nat.max_le

theorem bears_none (guard : Guard) : guard.Bears .none :=
  ⟨.inl rfl, Nat.zero_le _⟩

theorem bears_max (guard : Guard) (first second : Load) :
    guard.Bears (max first second) ↔ guard.Bears first ∧ guard.Bears second := by
  unfold Bears
  rw [Load.max_levels, Load.max_frames, hasRoom_max, hasFrames_max]
  exact and_and_and_comm

/-- What is refused under one load is refused under every load that asks for more. -/
theorem Refuses.mono {load larger : Load} (refuses : guard.Refuses load failure)
    (room : guard.HasRoom larger.levels → guard.HasRoom load.levels)
    (enough : guard.HasFrames larger.frames → guard.HasFrames load.frames) :
    guard.Refuses larger failure := by
  cases refuses with
  | tooDeep deep => exact .tooDeep (mt room deep)
  | outOfFrames short => exact .outOfFrames (mt enough short)

theorem Refuses.max_left {load other : Load} (refuses : guard.Refuses load failure) :
    guard.Refuses (max load other) failure :=
  refuses.mono (fun room => ((hasRoom_max _ _ _).mp room).1)
    fun enough => ((hasFrames_max _ _ _).mp enough).1

theorem Refuses.max_right {load other : Load} (refuses : guard.Refuses load failure) :
    guard.Refuses (max other load) failure :=
  refuses.mono (fun room => ((hasRoom_max _ _ _).mp room).2)
    fun enough => ((hasFrames_max _ _ _).mp enough).2

theorem Refuses.not_bears {load : Load} (refuses : guard.Refuses load failure) : ¬ guard.Bears load := by
  intro bears
  cases refuses with
  | tooDeep deep => exact deep bears.1
  | outOfFrames short => exact short bears.2

section Enter

variable (entered : guard.enter frames = .ok inner)

include entered

theorem of_enter : (guard.depth < guard.limit ∧ frames ≤ guard.free) ∧
    inner = { guard with depth := guard.depth + 1, free := guard.free - frames } := by
  unfold enter at entered
  split at entered
  · cases entered
  · rename_i room
    split at entered
    · cases entered
    · rename_i enough
      cases entered
      exact ⟨⟨Int.not_le.mp room, Nat.not_lt.mp enough⟩, rfl⟩

theorem leave_of_enter : inner.leave frames = guard := by
  obtain ⟨⟨_, enough⟩, rfl⟩ := of_enter entered
  cases guard
  simp only [leave, Nat.sub_add_cancel enough, Int.add_sub_cancel]

theorem depth_of_enter : inner.depth = guard.depth + 1 := by
  rw [(of_enter entered).2]

theorem limit_of_enter : inner.limit = guard.limit := by
  rw [(of_enter entered).2]

theorem hasRoom_of_enter (levels : Nat) : inner.HasRoom levels ↔ guard.HasRoom (1 + levels) := by
  obtain ⟨⟨room, _⟩, rfl⟩ := of_enter entered
  simp only [HasRoom]
  omega

theorem hasFrames_of_enter (more : Nat) : inner.HasFrames more ↔ guard.HasFrames (frames + more) := by
  obtain ⟨⟨_, enough⟩, rfl⟩ := of_enter entered
  simp only [HasFrames]
  omega

theorem bears_of_enter (load : Load) : inner.Bears load ↔ guard.Bears (load.under frames) :=
  and_congr (hasRoom_of_enter entered _) (hasFrames_of_enter entered _)

theorem ample_of_enter (light : frames ≤ 3) (ample : guard.Ample) : inner.Ample := by
  obtain ⟨⟨_, enough⟩, rfl⟩ := of_enter entered
  simp only [Ample] at ample ⊢
  omega

theorem refuses_of_enter {load : Load} (refuses : inner.Refuses load failure) :
    guard.Refuses (load.under frames) failure := by
  cases refuses with
  | tooDeep deep =>
      rw [limit_of_enter entered]
      exact .tooDeep (mt (hasRoom_of_enter entered _).mpr deep)
  | outOfFrames short => exact .outOfFrames (mt (hasFrames_of_enter entered _).mpr short)

end Enter

section Refused

variable (refused : guard.enter frames = .error failure)

include refused

theorem of_refused :
    (guard.limit ≤ guard.depth ∧ failure = .template (.depthLimitExceeded guard.limit)) ∨
      ((guard.depth < guard.limit ∧ guard.free < frames) ∧ failure = .fault .outOfFrames) := by
  unfold enter at refused
  split at refused
  · rename_i full
    cases refused
    exact .inl ⟨full, rfl⟩
  · rename_i room
    split at refused
    · rename_i short
      cases refused
      exact .inr ⟨⟨Int.not_le.mp room, short⟩, rfl⟩
    · cases refused

/-- An entry that fails is one that every walk through it fails at. -/
theorem refuses_of_refused (load : Load) : guard.Refuses (load.under frames) failure := by
  rcases of_refused refused with ⟨full, rfl⟩ | ⟨⟨_, short⟩, rfl⟩
  · refine .tooDeep fun room => ?_
    simp only [HasRoom, Load.under] at room
    omega
  · refine .outOfFrames fun enough => ?_
    simp only [HasFrames, Load.under] at enough
    omega

end Refused

theorem Ample.enter_ne (ample : guard.Ample) (light : frames ≤ 3) :
    guard.enter frames ≠ .error (.fault .outOfFrames) := by
  intro refused
  rcases of_refused refused with ⟨_, other⟩ | ⟨⟨room, short⟩, _⟩
  · cases other
  · unfold Ample at ample
    omega

end Guard

end Phrasebook
