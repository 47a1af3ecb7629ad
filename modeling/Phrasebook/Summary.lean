import Phrasebook.Value.Same
import Phrasebook.Visitor

/-!
Summaries of templates: which arguments the compiled messages read, which formatters they call, and
which kinds of choices they make.  A number sign counts only inside a plural or ordinal choice.
-/

namespace Phrasebook

structure Summary where
  arguments : List Value := []
  formatters : List Value := []
  usesSelect : Bool := false
  usesPlural : Bool := false
  usesOctothorpe : Bool := false
  /-- The number of plural and ordinal choices around the place the walk has come to. -/
  pluralDepth : Nat := 0

namespace Summary

def addArgument (part : Value) (summary : Summary) : Except Fault Summary :=
  match part.arg? with
  | some arg => do pure { summary with arguments := ← Value.insert summary.arguments arg }
  | none => pure summary

def addFormatter (part : Value) (summary : Summary) : Except Fault Summary :=
  match part.key? with
  | some key => do pure { summary with formatters := ← Value.insert summary.formatters key }
  | none => pure summary

def argumentHandler : Handler Summary where
  enter part _ summary := summary.addArgument part
  descends := false

def callHandler : Handler Summary where
  enter part _ summary := do (← summary.addArgument part).addFormatter part
  descends := false

def selectHandler : Handler Summary where
  enter part _ summary := do pure { ← summary.addArgument part with usesSelect := true }
  descends := true

def pluralHandler : Handler Summary where
  enter part _ summary := do
    let summary ← summary.addArgument part
    pure { summary with usesPlural := true, pluralDepth := summary.pluralDepth + 1 }
  descends := true
  leave summary := { summary with pluralDepth := summary.pluralDepth - 1 }

def octothorpeHandler : Handler Summary where
  enter _ _ summary :=
    pure { summary with usesOctothorpe := summary.usesOctothorpe || summary.pluralDepth != 0 }
  descends := false

def visitor : Visitor Summary where
  handler?
    | "Argument" => some argumentHandler
    | "FunctionCall" => some callHandler
    | "Select" => some selectHandler
    | "Plural" | "SelectOrdinal" => some pluralHandler
    | "Octothorpe" => some octothorpeHandler
    | _ => none

def ofTemplate (template : Value) : Except Failure Summary :=
  let walk : Walk Summary := { notes := {}, guard := .ofLimit Guard.defaultLimit }
  match (visitor.visit template).run walk with
  | (.ok _, after) => .ok after.notes
  | (.error failure, _) => .error failure

end Summary

end Phrasebook
