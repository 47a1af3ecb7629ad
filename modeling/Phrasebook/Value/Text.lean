import Phrasebook.Number.Shortest
import Phrasebook.Text.Quoted
import Phrasebook.Value.Basic

/-!
How diagnostics show a value.  `Value.shown` writes every value so that its type can be seen: texts
are quoted, parts name their fields.  `Value.plain` is the same except that a text stands for itself.
-/

namespace Phrasebook

open Number Calendar

/-- Items separated by a comma and a blank. -/
def commaSeparated (items : List String) : String :=
  String.intercalate ", " items

/-- A fixed sequence in parentheses; a single item keeps a comma. -/
def parenthesized : List String → String
  | [item] => "(" ++ item ++ ",)"
  | items => "(" ++ commaSeparated items ++ ")"

def braced (entries : List (String × String)) : String :=
  "\x7b" ++ commaSeparated (entries.map fun entry => entry.1 ++ ": " ++ entry.2) ++ "\x7d"

def boolText (value : Bool) : String :=
  if value then "True" else "False"

/-- A length of time in days, seconds and microseconds, without those that are zero. -/
def spanText (micros : Int) : String :=
  let days := micros.fdiv (86400 * 1000000)
  let seconds := micros.fdiv 1000000 % 86400
  let parts := [("days", days), ("seconds", seconds), ("microseconds", micros % 1000000)]
  let shown := (parts.filter (·.2 != 0)).map fun part => part.1 ++ "=" ++ toString part.2
  "datetime.timedelta(" ++ (if shown.isEmpty then "0" else commaSeparated shown) ++ ")"

def offsetField : Option Int → List String
  | none => []
  | some 0 => ["tzinfo=datetime.timezone.utc"]
  | some span => ["tzinfo=datetime.timezone(" ++ spanText span ++ ")"]

/-- The parts of a time: seconds and microseconds at its end are left out when they are zero. -/
def clockFields (clock : Clock) : List String :=
  let fine :=
    if clock.microsecond ≠ 0 then [clock.second, clock.microsecond]
    else if clock.second ≠ 0 then [clock.second]
    else []
  ([clock.hour, clock.minute] ++ fine).map toString

def dateFields (date : Date) : List String :=
  [date.year, date.month, date.day].map toString

def shownDecimal (value : Decimal) : String :=
  "Decimal('" ++ value.text ++ "')"

def shownDate (value : Date) : String :=
  "datetime.date(" ++ commaSeparated (dateFields value) ++ ")"

def shownMoment (value : Moment) : String :=
  "datetime.datetime(" ++ commaSeparated
    (dateFields value.date ++ clockFields value.clock ++ offsetField value.clock.offset) ++ ")"

def shownClock (value : Clock) : String :=
  "datetime.time(" ++ commaSeparated (clockFields value ++ offsetField value.offset) ++ ")"

def Key.shown : Key → String
  | .null => "None"
  | .bool value => boolText value
  | .int value => toString value
  | .float value => value.text
  | .str text => Text.quoted text
  | .decimal value => shownDecimal value
  | .date value => shownDate value
  | .moment value => shownMoment value
  | .clock value => shownClock value

namespace Value

mutual

def shown : Value → String
  | .null => "None"
  | .bool value => boolText value
  | .int value => toString value
  | .float value => value.text
  | .str s => Text.quoted s
  | .list items => "[" ++ commaSeparated (shownAll items) ++ "]"
  | .map entries => braced (shownEntries entries)
  | .decimal value => shownDecimal value
  | .date value => shownDate value
  | .moment value => shownMoment value
  | .clock value => shownClock value
  | .text value => "Text(value=" ++ shown value ++ ")"
  | .argument arg => "Argument(arg=" ++ shown arg ++ ")"
  | .octothorpe => "Octothorpe()"
  | .case key body =>
      "Case(key=" ++ shown key ++ ", tokens=" ++ parenthesized (shownAll body) ++ ")"
  | .select arg cases =>
      "Select(arg=" ++ shown arg ++ ", cases=" ++ parenthesized (shownAll cases) ++ ")"
  | .plural arg cases offset =>
      "Plural(arg=" ++ shown arg ++ ", cases=" ++ parenthesized (shownAll cases) ++ ", offset="
        ++ shown offset ++ ")"
  | .ordinal arg cases =>
      "SelectOrdinal(arg=" ++ shown arg ++ ", cases=" ++ parenthesized (shownAll cases) ++ ")"
  | .call key arg params =>
      "FunctionCall(key=" ++ shown key ++ ", arg=" ++ shown arg ++ ", params="
        ++ parenthesized (shownAll params) ++ ")"
  | .message tokens => "Message(tokens=" ++ parenthesized (shownAll tokens) ++ ")"
  | .catalog entries => "Catalog(entries=mappingproxy(" ++ braced (shownTemplates entries) ++ "))"

def shownAll : List Value → List String
  | [] => []
  | value :: rest => shown value :: shownAll rest

def shownEntries : List (Key × Value) → List (String × String)
  | [] => []
  | (key, value) :: rest => (key.shown, shown value) :: shownEntries rest

def shownTemplates : List (String × Value) → List (String × String)
  | [] => []
  | (key, value) :: rest => (Text.quoted key, shown value) :: shownTemplates rest

end

def plain : Value → String
  | .str s => s
  | .decimal value => value.text
  | .date value => value.text
  | .moment value => value.text
  | .clock value => value.text
  | value => value.shown

end Value

def Key.plain (key : Key) : String :=
  key.toValue.plain

end Phrasebook
