/-!
Events: what the library reports to a log while it works.
-/

namespace Phrasebook

inductive Event where
  | compiledMessage (locale : Option String) (tokens : Nat)
  | addedFormatter (name : String)
  | instantiatedDefault (key : String)
  /-- A default entry that was run made no formatter. -/
  | notAFactory
  | clampedDepth (requested : Int) (frames : Int) (limit : Int)
deriving DecidableEq, Repr

/-- The line of a log that reports an event: level, source and text. -/
def Event.line : Event → String
  | .compiledMessage locale tokens =>
      "DEBUG mfcompiler.compiler: Compiled message for locale " ++ locale.getD "None" ++ " ("
        ++ toString tokens ++ " tokens)"
  | .addedFormatter name => "DEBUG mfcompiler.config: Added custom formatter: " ++ name
  | .instantiatedDefault key =>
      "DEBUG mfcompiler.config: Instantiated default formatter: " ++ key
  | .notAFactory =>
      "DEBUG mfcompiler.formatters: Default entry %r is not a factory; using it as the formatter"
  | .clampedDepth requested frames limit =>
      "WARNING mfcompiler.core.depth_guard: Requested depth " ++ toString requested
        ++ " exceeds Python recursion limit (" ++ toString frames ++ "). Clamping to "
        ++ toString limit ++ " to prevent RecursionError."

end Phrasebook
