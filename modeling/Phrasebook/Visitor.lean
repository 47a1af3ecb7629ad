import Phrasebook.Attempt

/-!
Walks over templates.  A visitor has handlers for some kinds of values.  A value without a handler is
walked through: its fields in order, one level deeper.  A handler records the value in the visitor's
notes, and says whether to walk through the value as well.
-/

namespace Phrasebook

structure Handler (σ : Type) where
  /-- Records the value, given the depth of the walk. -/
  enter : Value → Int → σ → Except Fault σ
  /-- Whether the value is walked through. -/
  descends : Bool
  /-- Changes the notes when the value has been walked through. -/
  leave : σ → σ := id

structure Visitor (σ : Type) where
  handler? : String → Option (Handler σ)

structure Walk (σ : Type) where
  notes : σ
  guard : Guard

inductive Position where
  /-- As the value of an entry: every value is visited, and plain data is a fault. -/
  | entry
  /-- As a field of a part: parts are visited, and so are the values of entries. -/
  | field
  /-- In a sequence: parts are visited. -/
  | member
deriving DecidableEq, Repr

/-- The frames of walking through a value: a call to visit it and one for its fields, and between them
the call of its handler, if it has one. -/
def Handler.frames {σ : Type} (handler? : Option (Handler σ)) : Nat :=
  if handler?.isSome then 3 else 2

namespace Visitor

variable {σ : Type}

/-- Visits a value whose fields are walked through by the last argument. -/
def around (visitor : Visitor σ) (value : Value) (inside : Attempt (Walk σ) Unit) :
    Attempt (Walk σ) Unit := fun walk =>
  let deeper := Attempt.guarded Walk.guard (fun guard walk => { walk with guard := guard })
    (Handler.frames (visitor.handler? value.typeName)) inside
  match visitor.handler? value.typeName with
  | none => deeper walk
  | some handler =>
      match handler.enter value walk.guard.depth walk.notes with
      | .error fault => (.error (.fault fault), walk)
      | .ok notes =>
          let entered := { walk with notes := notes }
          if handler.descends then
            Attempt.afterwards (fun after => { after with notes := handler.leave after.notes }) deeper
              entered
          else (.ok (), entered)

mutual

/-- Visits a value, or passes it by when a walk does not visit such values there. -/
def visitAt (visitor : Visitor σ) (position : Position) : Value → Attempt (Walk σ) Unit
  | .text value => around visitor (.text value) (visitAt visitor .field value)
  | .argument arg => around visitor (.argument arg) (visitAt visitor .field arg)
  | .octothorpe => around visitor .octothorpe (pure ())
  | .case key body =>
      around visitor (.case key body) do
        visitAt visitor .field key
        visitMembers visitor body
  | .select arg cases =>
      around visitor (.select arg cases) do
        visitAt visitor .field arg
        visitMembers visitor cases
  | .plural arg cases offset =>
      around visitor (.plural arg cases offset) do
        visitAt visitor .field arg
        visitMembers visitor cases
        visitAt visitor .field offset
  | .ordinal arg cases =>
      around visitor (.ordinal arg cases) do
        visitAt visitor .field arg
        visitMembers visitor cases
  | .call key arg params =>
      around visitor (.call key arg params) do
        visitAt visitor .field key
        visitAt visitor .field arg
        visitMembers visitor params
  | .message tokens => around visitor (.message tokens) (visitMembers visitor tokens)
  | .catalog entries => around visitor (.catalog entries) (visitBranches visitor entries)
  | .map entries =>
      match position with
      | .entry => around visitor (.map entries) (Attempt.refuse .notACollection)
      | .field => visitEntries visitor entries
      | .member => pure ()
  | value =>
      match position with
      | .entry => around visitor value (Attempt.refuse .notACollection)
      | .field | .member => pure ()

def visitMembers (visitor : Visitor σ) : List Value → Attempt (Walk σ) Unit
  | [] => pure ()
  | value :: rest => do
      visitAt visitor .member value
      visitMembers visitor rest

def visitEntries (visitor : Visitor σ) : List (Key × Value) → Attempt (Walk σ) Unit
  | [] => pure ()
  | (_, value) :: rest => do
      visitAt visitor .entry value
      visitEntries visitor rest

def visitBranches (visitor : Visitor σ) : List (String × Value) → Attempt (Walk σ) Unit
  | [] => pure ()
  | (_, value) :: rest => do
      visitAt visitor .entry value
      visitBranches visitor rest

end

/-- Visits a value and returns it. -/
def visit (visitor : Visitor σ) (value : Value) : Attempt (Walk σ) Value := do
  visitor.visitAt .entry value
  pure value

/-- Handlers that record the type name of each value and the depth at which it was met.  The later
of two handlers for one name counts. -/
def tracing (handlers : List (String × Bool)) : Visitor (List (String × Int)) where
  handler? name := ((Entries.ofList handlers).lookup name).map fun descends =>
    { enter := fun value depth trace => pure (trace ++ [(value.typeName, depth)])
      descends := descends }

end Visitor

end Phrasebook
