import Phrasebook.Fault
import Phrasebook.Locale.Identifier
import Phrasebook.Locale.Known
import Phrasebook.Locale.Tag
import Phrasebook.Text.Blank
import Phrasebook.Value.Same

/-!
Finding the locale that a tag names.  A tag whose identifier has data names that locale.  Otherwise
outdated subtags are replaced, and the likely subtags of the identifier, or of its language alone,
are tried, first with their script and then without.

The rules are those of a locale library, of whose tables only a few lines are here.  Both are outside
what is proved.
-/

namespace Phrasebook.Locale

/-- The full identifiers that short ones most likely mean. -/
def likelySubtags : List (String × String) := [
  ("mid", "mid_Mand_IQ"), ("id", "id_Latn_ID"), ("zh_TW", "zh_Hant_TW"), ("zh", "zh_Hans_CN"),
  ("sr", "sr_Cyrl_RS"), ("he", "he_Hebr_IL"), ("fil", "fil_Latn_PH"), ("ro", "ro_Latn_RO"),
  ("und", "en_Latn_US"), ("und_AT", "de_Latn_AT"), ("en", "en_Latn_US"), ("pa_PK", "pa_Arab_PK"),
  ("de", "de_Latn_DE"), ("ru", "ru_Cyrl_RU"), ("az", "az_Latn_AZ"), ("zh_HK", "zh_Hant_HK"),
  ("zh_MO", "zh_Hant_MO"), ("yue_CN", "yue_Hans_CN"), ("kr", "kr_Latn_NG")]

def languageAliases : List (String × String) := [
  ("in", "id"), ("iw", "he"), ("sh", "sr_Latn"), ("tl", "fil"), ("mo", "ro")]

def territoryAliases : List (String × String) := [("UK", "GB")]

def lowerText (text : String) : String :=
  String.ofList (lower text.toList)

def lastSegment (name : String) : String :=
  String.ofList (name.toList.reverse.takeWhile (· != '/')).reverse

/-- Whether there is data under exactly this name. -/
def isDataName (name : String) : Bool :=
  name == root || known.contains name

/-- Whether an identifier counts as one with data: its last part is the name of data, or the whole is
one up to case and the blanks around it. -/
def hasData (identifier : String) : Bool :=
  isDataName (lastSegment identifier)
    || known.any fun id => lowerText id == lowerText (Text.trim identifier)

namespace Identifier

/-- The name under which the data of an identifier is looked for, with its modifier or without. -/
def soughtName? (id : Identifier) : Option String :=
  if hasData id.text then some id.text
  else if hasData id.baseText then some id.baseText
  else none

/-- Whether the identifier names a locale. -/
def exists? (id : Identifier) : Bool :=
  id.soughtName?.isSome

/-- The name of the data of an identifier, if there is data under exactly that name. -/
def dataName? (id : Identifier) : Option String :=
  (id.soughtName?.map lastSegment).filter isDataName

/-- The identifier if it names a locale, or else its language and territory alone if they do. -/
def reduced? (id : Identifier) : Option Identifier :=
  let short : Identifier := { language := id.language, territory := id.territory }
  if id.exists? then some id else if short.exists? then some short else none

/-- The identifier with outdated and unknown subtags replaced. -/
def modernized (id : Identifier) : Identifier :=
  let territory := id.territory.map fun code => (territoryAliases.lookup code).getD code
  { id with
    language := (languageAliases.lookup id.language).getD id.language
    territory := territory.filter (· != "ZZ")
    script := id.script.filter (· != "Zzzz") }

/-- The locale that the likely subtags of the whole identifier name. -/
def likely? (id : Identifier) : Option Identifier :=
  (likelySubtags.lookup id.text).bind fun full => (ofText? full).bind reduced?

/-- The locale that the likely subtags of the language name in the identifier's territory. -/
def likelyByLanguage? (id : Identifier) : Option Identifier :=
  (likelySubtags.lookup id.language).bind fun full => (ofText? full).bind fun likely =>
    reduced? { language := likely.language, territory := id.territory, script := likely.script }

end Identifier

def resolve (tag : String) : Except Fault Identifier :=
  match Identifier.ofText? (withUnderscores tag) with
  | none => throw .invalidLocale
  | some id =>
      if id.exists? then pure id
      else
        match id.modernized.likely?, id.modernized.likelyByLanguage? with
        | some found, _ => pure found
        | none, some found => pure found
        | none, none => throw .unknownLocale

/-- The tag that a value is; only a text can be one. -/
def tagOf : Value → Except Fault String
  | .str tag => pure tag
  | .date _ | .moment _ | .clock _ => throw .notText
  | _ => throw .noSuchField

def resolveValue (value : Value) : Except Fault Identifier := do
  if value.isHashable then resolve (← tagOf value) else throw .unhashable

/-- Those of the candidates that name a locale, each once. -/
def available : List Value → Except Fault (List String)
  | [] => pure []
  | candidate :: rest => do
      let found ←
        match candidate, resolveValue candidate with
        | .str tag, .ok _ => pure [tag]
        | _, .error reason =>
            if reason = .invalidLocale || reason = .unknownLocale then pure [] else throw reason
        | _, .ok _ => pure []
      pure (found ++ (← available rest).filter (!found.contains ·))

def allTags : List String :=
  known.map withHyphens

end Phrasebook.Locale
