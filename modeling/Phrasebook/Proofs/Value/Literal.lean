import Phrasebook.Entries
import Phrasebook.Proofs.Json.RoundTrip
import Phrasebook.Value.Literal

/-!
Literals of data.  What is written for texts, integers, truth values, the empty value and lists of these
stands for just this data when it is read as JSON.  A text ends where its own closing quotation mark is,
whatever it holds and whatever comes after, so it cannot run into the source around it.
-/

namespace Phrasebook

namespace Json

mutual

/-- The data that a value of JSON stands for.  Of a name that is repeated the last value counts. -/
def toValue : Json → Value
  | .null => .null
  | .bool value => .bool value
  | .int value => .int value
  | .float value => .float value
  | .str text => .str text
  | .arr items => .list (toValues items)
  | .obj members => .map (Entries.ofList (toEntries members))

def toValues : List Json → List Value
  | [] => []
  | item :: rest => item.toValue :: toValues rest

def toEntries : List (String × Json) → List (Key × Value)
  | [] => []
  | (name, value) :: rest => (.str name, value.toValue) :: toEntries rest

end

/-- Reads a string with both its quotation marks. -/
def readText : List Char → Option (String × List Char)
  | '"' :: chars => (readString chars).map fun (text, rest) => (String.ofList text, rest)
  | _ => none

theorem readText_eq_some_iff {chars rest : List Char} {text : String} :
    readText chars = some (text, rest) ↔
      ∃ body, Quotes text.toList body ∧ chars = '"' :: (body ++ '"' :: rest) := by
  constructor
  · intro read
    unfold readText at read
    split at read
    · obtain ⟨⟨content, after⟩, inner, same⟩ := Option.map_eq_some_iff.mp read
      cases same
      obtain ⟨body, quotes, rfl⟩ := exists_quotes_of_readString inner
      rw [String.toList_ofList]
      exact ⟨body, quotes, rfl⟩
    · contradiction
  · rintro ⟨body, quotes, rfl⟩
    simp [readText, readString_of_quotes quotes]

theorem readText_write (layout : Layout) (text : String) (rest : List Char) :
    readText (((Json.str text).write layout).toList ++ rest) = some (text, rest) := by
  rw [readText_eq_some_iff]
  refine ⟨text.toList.flatMap escapeChar, quotes_flatMap_escapeChar text.toList, ?_⟩
  rw [write, String.toList_ofList, chars, stringChars, List.cons_append, List.append_assoc,
    List.singleton_append]

end Json

namespace Value

/-- Made of texts, integers, truth values and the empty value, and of lists of such data. -/
inductive IsLiteral : Value → Prop where
  | null : IsLiteral .null
  | bool (value : Bool) : IsLiteral (.bool value)
  | int (value : Int) : IsLiteral (.int value)
  | str (text : String) : IsLiteral (.str text)
  | list {items : List Value} (each : ∀ item ∈ items, item.IsLiteral) : IsLiteral (.list items)

/-- The JSON form of the data, which says all of it. -/
def IsDenotedBy (value : Value) (json : Json) : Prop :=
  value.toJson = .ok json ∧ json.IsExact ∧ json.toValue = value

theorem exists_toJsonAll {items : List Value} (each : ∀ item ∈ items, ∃ json, item.IsDenotedBy json) :
    ∃ jsons, toJsonAll items = .ok jsons ∧ Json.AreExact jsons ∧ Json.toValues jsons = items := by
  induction items with
  | nil => exact ⟨[], rfl, trivial, rfl⟩
  | cons item items ih =>
      obtain ⟨⟨json, encoded, exact, decoded⟩, others⟩ := List.forall_mem_cons.mp each
      obtain ⟨jsons, encodedAll, exactAll, decodedAll⟩ := ih others
      refine ⟨json :: jsons, ?_, ⟨exact, exactAll⟩, ?_⟩
      · rw [toJsonAll, encoded, encodedAll]
        rfl
      · rw [Json.toValues, decoded, decodedAll]

theorem IsLiteral.exists_denotedBy {value : Value} (literal : value.IsLiteral) :
    ∃ json, value.IsDenotedBy json := by
  induction literal with
  | null => exact ⟨.null, rfl, trivial, rfl⟩
  | bool value => exact ⟨.bool value, rfl, trivial, rfl⟩
  | int value => exact ⟨.int value, rfl, trivial, rfl⟩
  | str text => exact ⟨.str text, rfl, trivial, rfl⟩
  | list _ ih =>
      obtain ⟨jsons, encoded, exact, decoded⟩ := exists_toJsonAll ih
      refine ⟨.arr jsons, ?_, exact, ?_⟩
      · rw [toJson, encoded]
        rfl
      · rw [Json.toValue, decoded]

end Value

/-- A literal is read as the data it was written for.  The literal of a text is taken off the front of any
source, all of it and nothing more, by the reader that follows the grammar of strings. -/
theorem literals_are_read_back :
    (∀ value : Value, value.IsLiteral → ∃ json, value.toJson = .ok json ∧
      (Json.read? (json.write .compact)).map Json.toValue = some value) ∧
    (∀ (text : String) (rest : List Char), ∃ json, (Value.str text).toJson = .ok json ∧
      Json.readText ((json.write .compact).toList ++ rest) = some (text, rest)) ∧
    ∀ (chars : List Char) (text : String) (rest : List Char),
      Json.readText chars = some (text, rest) ↔
        ∃ body, Json.Quotes text.toList body ∧ chars = '"' :: (body ++ '"' :: rest) := by
  refine ⟨fun value literal => ?_, fun text rest => ?_, fun _ _ _ => Json.readText_eq_some_iff⟩
  · obtain ⟨json, encoded, exact, decoded⟩ := literal.exists_denotedBy
    refine ⟨json, encoded, ?_⟩
    rw [Json.read?_write Json.Layout.compact_isReadable exact, Option.map_some, decoded]
  · exact ⟨.str text, rfl, Json.readText_write .compact text rest⟩

/-- Nested lists, a large negative integer, and a text of characters that are escaped or look as if its
literal ended. -/
def Value.nested : Value :=
  .list [.null, .bool false, .int (-100000000000000000000), .list [.list [], .str "\"]\\\n\x01 "]]

theorem nested_is_read_back :
    Value.nested.IsLiteral ∧ ∃ json, Value.nested.toJson = .ok json ∧
      (Json.read? (json.write .compact)).map Json.toValue = some Value.nested := by
  have inner : (Value.list [.list [], .str "\"]\\\n\x01 "]).IsLiteral :=
    .list (List.forall_mem_cons.mpr ⟨.list nofun, List.forall_mem_singleton.mpr (.str _)⟩)
  have literal : Value.nested.IsLiteral :=
    .list (List.forall_mem_cons.mpr ⟨.null, List.forall_mem_cons.mpr ⟨.bool _,
      List.forall_mem_cons.mpr ⟨.int _, List.forall_mem_singleton.mpr inner⟩⟩⟩)
  exact ⟨literal, literals_are_read_back.1 Value.nested literal⟩

end Phrasebook
