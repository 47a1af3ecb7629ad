import Phrasebook.Number.Decimal
import Phrasebook.Text.Quoted

/-!
Faults: what goes wrong when an operation meets a value it cannot work on.  A fault is a misuse of
the library, unlike the errors of a template, which carry a diagnostic.
-/

namespace Phrasebook

open Number

inductive FaultKind where
  | wrongType
  | missingField
  | invalidValue
  | outOfBounds
  | invalidOperation
  | decimalOverflow
  | clockFailure
  | missingData
  | unknownLocale
  | noLocale
  | stackExhausted
deriving DecidableEq, Repr

inductive Fault where
  /-- The value has no items to go through. -/
  | notIterable
  /-- The value has no entries to look up. -/
  | notIndexable
  /-- The value has no members to ask for. -/
  | notACollection
  /-- A text was needed. -/
  | notText
  /-- The value cannot be a member of a set or a key. -/
  | unhashable
  /-- The keys have no order. -/
  | notComparable
  /-- The value has no JSON text. -/
  | notSerializable
  /-- What was called is no function, or not one of these arguments. -/
  | notCallable
  /-- The value has no such field. -/
  | noSuchField
  /-- The text is no locale tag. -/
  | invalidLocale
  /-- The tag names no locale. -/
  | unknownLocale
  /-- The locale is known, but no data has its name in this spelling. -/
  | missingLocaleData
  /-- A message needs a locale and none is in effect. -/
  | noLocale
  /-- The stack has too few frames left. -/
  | outOfFrames
  /-- A value of this type is no date or time. -/
  | unformattable (typeName purpose : String)
  /-- The text is no number. -/
  | malformedNumber
  /-- The text is no date and time. -/
  | malformedMoment (text : String)
  /-- The date or time lies outside the calendar. -/
  | outsideCalendar
  /-- The number is too large to be a time. -/
  | tooLarge
  /-- The clock of the system cannot express the time. -/
  | clockFailure
  | decimal (reason : Decimal.Refusal)
  /-- A formatter of the caller failed. -/
  | raised (kind : FaultKind) (message : String)
deriving DecidableEq, Repr

namespace Fault

def kind : Fault → FaultKind
  | notIterable | notIndexable | notACollection | notText | unhashable | notComparable
  | notSerializable | notCallable | unformattable _ _ => .wrongType
  | noSuchField => .missingField
  | invalidLocale | malformedNumber | malformedMoment _ | outsideCalendar => .invalidValue
  | unknownLocale => .unknownLocale
  | missingLocaleData => .missingData
  | noLocale => .noLocale
  | outOfFrames => .stackExhausted
  | tooLarge => .outOfBounds
  | clockFailure => .clockFailure
  | decimal .invalid => .invalidOperation
  | decimal .overflow => .decimalOverflow
  | raised kind _ => kind

def message? : Fault → Option String
  | noLocale => some "No locale in effect; call compile() or set current_locale first"
  | unformattable typeName purpose => some ("Cannot format " ++ typeName ++ " as a " ++ purpose)
  | malformedMoment text => some ("Invalid isoformat string: " ++ Text.quoted text)
  | raised _ message => some message
  | _ => none

end Fault

end Phrasebook
