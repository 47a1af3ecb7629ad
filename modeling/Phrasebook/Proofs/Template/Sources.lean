import Phrasebook.Proofs.Template.Grammar

/-!
Sources of messages in the data of a template.  A text is the source of a message where a template is
expected: at the top, and as the value of an entry of such data.  Anywhere else it stands for itself.
Loading with a parser is therefore the same as parsing the sources first and loading without one.
-/

namespace Phrasebook

namespace Value

mutual

/-- The texts where a template is expected, in order. -/
def sources : Value → List String
  | .str source => [source]
  | .map entries => entrySources entries
  | _ => []

def entrySources : List (Key × Value) → List String
  | [] => []
  | (_, value) :: rest => sources value ++ entrySources rest

end

mutual

/-- The data with the tokens of each source in place of the source. -/
def parsed (parse : String → List Value) : Value → Value
  | .str source => .list (parse source)
  | .map entries => .map (parsedEntries parse entries)
  | value => value

def parsedEntries (parse : String → List Value) : List (Key × Value) → List (Key × Value)
  | [] => []
  | (key, value) :: rest => (key, parsed parse value) :: parsedEntries parse rest

end

end Value

namespace Template

variable (parse : String → List Value) {parser : Parser}

mutual

/-- What the parser makes of other texts plays no part. -/
theorem load_eq_load_parsed : (value : Value) →
    (∀ source ∈ value.sources, parser source = .list (parse source)) →
    load (some parser) value = load none (value.parsed parse)
  | .str source, parses => by
      have tokens : parser source = .list (parse source) := parses source List.mem_cons_self
      rw [load, tokens, Value.parsed, load, loadTokens]
  | .map entries, parses => by
      rw [load, Value.parsed, load, loadEntries_eq_loadEntries_parsed entries parses]
  | .list _, _ | .null, _ | .bool _, _ | .int _, _ | .float _, _ | .decimal _, _ | .date _, _
  | .moment _, _ | .clock _, _ | .text _, _ | .argument _, _ | .octothorpe, _ | .case _ _, _
  | .select _ _, _ | .plural _ _ _, _ | .ordinal _ _, _ | .call _ _ _, _ | .message _, _
  | .catalog _, _ => rfl

theorem loadEntries_eq_loadEntries_parsed : (entries : List (Key × Value)) →
    (∀ source ∈ Value.entrySources entries, parser source = .list (parse source)) →
    loadEntries (some parser) entries = loadEntries none (Value.parsedEntries parse entries)
  | [], _ => rfl
  | (key, value) :: rest, parses => by
      have here := load_eq_load_parsed value fun source member =>
        parses source (List.mem_append_left _ member)
      have others := loadEntries_eq_loadEntries_parsed rest fun source member =>
        parses source (List.mem_append_right _ member)
      rw [loadEntries, Value.parsedEntries, loadEntries, here, others]

end

end Template

/-- Loading data with a parser has the outcome, be it a template or a failure, of loading without one
what parsing its sources gives.  No text but the sources is parsed: a parser that makes something else of
all other texts leads to the same outcome. -/
theorem load_parses_sources_first (parse : String → List Value) (value : Value) :
    Template.load (some fun source => .list (parse source)) value =
      Template.load none (value.parsed parse) ∧
    ∀ parser : Template.Parser,
      (∀ source ∈ value.sources, parser source = .list (parse source)) →
      Template.load (some parser) value =
        Template.load (some fun source => .list (parse source)) value := by
  have parsed := Template.load_eq_load_parsed parse value fun _ _ => rfl
  refine ⟨parsed, fun parser agrees => ?_⟩
  rw [parsed, Template.load_eq_load_parsed parse value agrees]

/-- A catalog with a source at the top and one further down.  The text beside a selection, the key of its
case and the text in the case are no sources. -/
def Value.greetings : Value :=
  .map [(.str "hello", .str "Hi #"), (.str "menu", .map [(.str "cut", .str "Cut"),
    (.str "copy", .list [.str "Copy ", .map [(.str "type", .str "select"), (.str "arg", .str "what"),
      (.str "cases", .list [.map [(.str "key", .str "other"), (.str "tokens", .list [.str "all"])]])]])])]

theorem greetings_load_after_parsing :
    let parse : String → List Value := fun source => [.str source, .str "."]
    let parser : Template.Parser := fun source =>
      if source = "Hi #" ∨ source = "Cut" then .list (parse source) else .null
    Template.load (some parser) Value.greetings = Template.load none (Value.greetings.parsed parse) ∧
    Template.load (some parser) Value.greetings = .ok (.catalog
      [("hello", .message [.text (.str "Hi #"), .text (.str ".")]),
        ("menu", .catalog [("cut", .message [.text (.str "Cut"), .text (.str ".")]),
          ("copy", .message [.text (.str "Copy "),
            .select (.str "what") [.case (.str "other") [.text (.str "all")]]])])]) := by
  intro parse parser
  obtain ⟨first, only⟩ := load_parses_sources_first parse Value.greetings
  have agrees : ∀ source ∈ Value.greetings.sources, parser source = .list (parse source) := by
    intro source member
    simp only [Value.greetings, Value.sources, Value.entrySources, List.append_nil, List.cons_append,
      List.nil_append, List.mem_cons, List.not_mem_nil, or_false] at member
    exact if_pos member
  exact ⟨(only parser agrees).trans first, rfl⟩

end Phrasebook
