import Phrasebook.Diagnostic.Renderer
import Phrasebook.Proofs.Json.RoundTrip

/-!
Diagnostics as JSON objects.  The object that tools receive has a member for every field that is known,
and none for a field that is absent or empty; so nothing is lost but the difference between these two.
-/

namespace Phrasebook

namespace Json

/-- The slots that hold a value, as members. -/
def filled (slots : List (String × Option Json)) : List (String × Json) :=
  slots.filterMap fun slot => slot.2.map fun value => (slot.1, value)

section Filled

variable {slots : List (String × Option Json)}

@[simp] theorem filled_cons (name : String) (value : Option Json) :
    filled ((name, value) :: slots) = (value.map fun value => (name, value)).toList ++ filled slots := by
  cases value <;> rfl

@[simp] theorem filled_nil : filled [] = [] := rfl

theorem names_filled_sublist : ((filled slots).map Prod.fst).Sublist (slots.map Prod.fst) := by
  induction slots with
  | nil => exact .slnil
  | cons slot rest ih =>
      obtain ⟨name, value⟩ := slot
      rw [filled_cons]
      cases value with
      | none => exact ih.cons name
      | some value => exact ih.cons_cons name

theorem lookup_filled (distinct : (slots.map Prod.fst).Nodup) (name : String) :
    (filled slots).lookup name = (slots.lookup name).join := by
  induction slots with
  | nil => rfl
  | cons slot rest ih =>
      obtain ⟨here, value⟩ := slot
      obtain ⟨fresh, others⟩ := List.nodup_cons.mp distinct
      rw [filled_cons, List.lookup_cons]
      cases same : name == here with
      | false => cases value <;> simp [List.lookup_cons, same, ih others]
      | true =>
          cases value with
          | some value => simp [List.lookup_cons, same]
          | none =>
              -- An empty slot is no member, and no later slot has its name.
              have absent : rest.lookup name = none := by
                rw [List.lookup_eq_none_iff]
                intro slot member
                rw [eq_of_beq same, bne_iff_ne]
                rintro rfl
                exact fresh (List.mem_map.mpr ⟨slot, member, rfl⟩)
              simp [ih others, absent]

theorem holdExact_filled (exact : ∀ slot ∈ slots, ∀ value ∈ slot.2, value.IsExact) :
    HoldExact (filled slots) := by
  induction slots with
  | nil => trivial
  | cons slot rest ih =>
      obtain ⟨name, value⟩ := slot
      obtain ⟨here, others⟩ := List.forall_mem_cons.mp exact
      rw [filled_cons]
      cases value with
      | none => exact ih others
      | some value => exact ⟨here value rfl, ih others⟩

end Filled

/-- The member of this name is what a field holds; a field that is absent or empty has no member. -/
def States {α : Type} (json : Json) (name : String) (encode : α → Json) (empty : α) (field : Option α) :
    Prop :=
  ∀ value, json.get? name = some value ↔
    ∃ content, field = some content ∧ content ≠ empty ∧ value = encode content

section States

variable {α : Type} {json : Json} {name : String} {encode : α → Json} {empty : α}

theorem states_of_get? (keep : α → Bool) (keeps : ∀ content, keep content = true ↔ content ≠ empty)
    {field : Option α} (found : json.get? name = (field.filter keep).map encode) :
    json.States name encode empty field := by
  intro value
  rw [found]
  constructor
  · intro held
    obtain ⟨content, kept, rfl⟩ := Option.map_eq_some_iff.mp held
    obtain ⟨same, nonempty⟩ := Option.filter_eq_some_iff.mp kept
    exact ⟨content, same, (keeps content).mp nonempty, rfl⟩
  · rintro ⟨content, rfl, nonempty, rfl⟩
    rw [Option.filter_some_pos ((keeps content).mpr nonempty), Option.map_some]

/-- A member tells its field up to the difference between absent and empty. -/
theorem States.getD_eq (injective : ∀ one other, encode one = encode other → one = other)
    {one other : Option α} (first : json.States name encode empty one)
    (second : json.States name encode empty other) : one.getD empty = other.getD empty := by
  cases held : json.get? name with
  | some value =>
      obtain ⟨content, rfl, _, same⟩ := (first value).mp held
      obtain ⟨counterpart, rfl, _, also⟩ := (second value).mp held
      exact injective content counterpart (same.symm.trans also)
  | none =>
      have absent {field : Option α} (states : json.States name encode empty field) :
          field.getD empty = empty := by
        cases field with
        | none => rfl
        | some content =>
            apply Classical.byContradiction
            intro nonempty
            have present := (states (encode content)).mpr ⟨content, rfl, nonempty, rfl⟩
            rw [held] at present
            cases present
      rw [absent first, absent second]

end States

/-- An array of texts. -/
def texts (keys : List String) : Json :=
  .arr (keys.map .str)

theorem texts_isExact (keys : List String) : (texts keys).IsExact := by
  induction keys with
  | nil => trivial
  | cons key rest ih => exact ⟨trivial, ih⟩

theorem texts_injective (one other : List String) (same : texts one = texts other) : one = other := by
  rw [texts, texts, arr.injEq] at same
  exact (List.map_inj_right fun _ _ => str.inj).mp same

end Json

/-- The text that a value is. -/
def Value.text? : Value → Option String
  | .str s => some s
  | _ => none

/-- What an object says of a diagnostic. -/
structure Json.Describes (json : Json) (diagnostic : Diagnostic) : Prop where
  code : json.get? "code" = some (.str diagnostic.code.name)
  number : json.get? "code_value" = some (.int diagnostic.code.number)
  message : json.get? "message" = some (.str diagnostic.message)
  severity : json.get? "severity" = some (.str diagnostic.severity)
  path : json.States "template_path" .texts [] diagnostic.path
  tokenType : json.States "token_type" .str "" diagnostic.tokenType
  argumentName : json.States "argument_name" .str "" diagnostic.argumentName.text?
  formatterKey : json.States "formatter_key" .str "" diagnostic.formatterKey.text?
  locale : json.States "locale" .str "" diagnostic.locale
  hint : json.States "hint" .str "" diagnostic.hint
  helpUrl : json.States "help_url" .str "" diagnostic.helpUrl

namespace Diagnostic

/-- The two fields that may hold any value hold a text or nothing. -/
structure IsWellTyped (diagnostic : Diagnostic) : Prop where
  argumentName : diagnostic.argumentName = .null ∨ ∃ text, diagnostic.argumentName = .str text
  formatterKey : diagnostic.formatterKey = .null ∨ ∃ text, diagnostic.formatterKey = .str text

/-- The diagnostics differ at most in whether an optional field is absent or empty. -/
structure SameUpToEmpty (one other : Diagnostic) : Prop where
  code : one.code = other.code
  message : one.message = other.message
  severity : one.severity = other.severity
  path : one.path.getD [] = other.path.getD []
  tokenType : one.tokenType.getD "" = other.tokenType.getD ""
  argumentName : one.argumentName.text?.getD "" = other.argumentName.text?.getD ""
  formatterKey : one.formatterKey.text?.getD "" = other.formatterKey.text?.getD ""
  locale : one.locale.getD "" = other.locale.getD ""
  hint : one.hint.getD "" = other.hint.getD ""
  helpUrl : one.helpUrl.getD "" = other.helpUrl.getD ""

/-- The members of the object, with the ones that may be left out. -/
def slots (diagnostic : Diagnostic) : List (String × Option Json) :=
  let text (field : Option String) : Option Json := (Renderer.present field).map .str
  [("code", some (.str diagnostic.code.name)), ("code_value", some (.int diagnostic.code.number)),
    ("message", some (.str diagnostic.message)), ("severity", some (.str diagnostic.severity)),
    ("template_path", (diagnostic.path.filter (!·.isEmpty)).map .texts),
    ("token_type", text diagnostic.tokenType),
    ("argument_name", text diagnostic.argumentName.text?),
    ("formatter_key", text diagnostic.formatterKey.text?),
    ("locale", text diagnostic.locale), ("hint", text diagnostic.hint),
    ("help_url", text diagnostic.helpUrl)]

theorem slots_distinct (diagnostic : Diagnostic) : (diagnostic.slots.map Prod.fst).Nodup := by
  simp [slots]

theorem slots_exact (diagnostic : Diagnostic) :
    ∀ slot ∈ diagnostic.slots, ∀ value ∈ slot.2, value.IsExact := by
  have mapped {α : Type} (encode : α → Json) (exact : ∀ content, (encode content).IsExact)
      (field : Option α) : ∀ value ∈ field.map encode, value.IsExact := by
    intro value held
    obtain ⟨content, _, rfl⟩ := Option.map_eq_some_iff.mp held
    exact exact content
  have text (field : Option String) : ∀ value ∈ field.map Json.str, value.IsExact :=
    mapped Json.str (fun _ => trivial) field
  simp only [slots, List.forall_mem_cons, List.not_mem_nil, false_implies, implies_true, and_true]
  exact ⟨text (some _), by simp [Json.IsExact], text (some _), text (some _),
    mapped Json.texts Json.texts_isExact _, text _, text _, text _, text _, text _, text _⟩

/-- The object describes the diagnostic it is made from. -/
theorem filled_slots_describes (diagnostic : Diagnostic) :
    (Json.obj (Json.filled diagnostic.slots)).Describes diagnostic := by
  have held {name : String} {value : Option Json} (slot : diagnostic.slots.lookup name = some value) :
      (Json.obj (Json.filled diagnostic.slots)).get? name = value := by
    rw [Json.get?, Json.lookup_filled diagnostic.slots_distinct, slot, Option.join_some]
  have states {name : String} {field : Option String}
      (slot : diagnostic.slots.lookup name = some ((Renderer.present field).map .str)) :
      (Json.obj (Json.filled diagnostic.slots)).States name .str "" field :=
    Json.states_of_get? (fun text : String => !text.isEmpty) (by simp) (held slot)
  exact {
    code := held (by simp [slots])
    number := held (by simp [slots, List.lookup_cons])
    message := held (by simp [slots, List.lookup_cons])
    severity := held (by simp [slots, List.lookup_cons])
    path := Json.states_of_get? (!·.isEmpty) (by simp) (held (by simp [slots, List.lookup_cons]))
    tokenType := states (by simp [slots, List.lookup_cons])
    argumentName := states (by simp [slots, List.lookup_cons])
    formatterKey := states (by simp [slots, List.lookup_cons])
    locale := states (by simp [slots, List.lookup_cons])
    hint := states (by simp [slots, List.lookup_cons])
    helpUrl := states (by simp [slots, List.lookup_cons]) }

end Diagnostic

namespace Renderer

variable {renderer : Renderer}

theorem members_eq (whole : renderer.sanitize = false) {diagnostic : Diagnostic}
    (typed : diagnostic.IsWellTyped) :
    renderer.members diagnostic = .ok (Json.filled diagnostic.slots) := by
  have uncut : renderer.cut = id := by
    funext text
    simp [cut, whole]
  have data (name : String) {value : Value} (typed : value = .null ∨ ∃ text, value = .str text) :
      (if value.isGiven then (do pure [(name, ← value.toJson)]) else pure [] :
        Except Fault (List (String × Json))) =
        .ok ((present value.text?).map fun text => (name, Json.str text)).toList := by
    rcases typed with rfl | ⟨text, rfl⟩
    · rfl
    · by_cases empty : text.isEmpty
      · simp [Value.isGiven, Value.text?, present, Option.filter, empty]
        rfl
      · simp [Value.isGiven, Value.text?, present, Option.filter, empty]
        rfl
  have twice (text : Option String) : present (present text) = present text := by
    simp [present, Option.filter_filter]
  simp only [members, data _ typed.argumentName, data _ typed.formatterKey, uncut, id_eq, Option.map_id, twice]
  change Except.ok _ = _
  simp [Diagnostic.slots, Function.comp_def, Json.texts]

/-- The rendering of a diagnostic for tools is read as the object that describes it. -/
theorem read?_json (style : renderer.style = some .json) (whole : renderer.sanitize = false)
    {diagnostic : Diagnostic} (typed : diagnostic.IsWellTyped) :
    ∃ text, renderer.render diagnostic = .ok (some text) ∧
      Json.read? text = some (.obj (Json.filled diagnostic.slots)) := by
  refine ⟨(Json.obj (Json.filled diagnostic.slots)).write .spaced, ?_, ?_⟩
  · rw [render, style]
    simp only [json, members_eq whole typed]
    rfl
  · exact Json.read?_write Json.Layout.spaced_isReadable (Json.holdExact_filled diagnostic.slots_exact)

end Renderer

theorem DiagnosticCode.number_injective {one other : DiagnosticCode} (same : one.number = other.number) :
    one = other := by
  revert same
  cases one <;> cases other <;> decide

/-- One object describes diagnostics only if they are the same. -/
theorem Json.Describes.same {json : Json} {one other : Diagnostic} (first : json.Describes one)
    (second : json.Describes other) : one.SameUpToEmpty other := by
  have texts (here there : String) : Json.str here = .str there → here = there := Json.str.inj
  have equal {name : String} {here there : Json} (one : json.get? name = some here)
      (other : json.get? name = some there) : here = there :=
    Option.some.inj (one.symm.trans other)
  exact {
    code := DiagnosticCode.number_injective (Int.ofNat.inj (Json.int.inj (equal first.number second.number)))
    message := texts _ _ (equal first.message second.message)
    severity := texts _ _ (equal first.severity second.severity)
    path := first.path.getD_eq Json.texts_injective second.path
    tokenType := first.tokenType.getD_eq texts second.tokenType
    argumentName := first.argumentName.getD_eq texts second.argumentName
    formatterKey := first.formatterKey.getD_eq texts second.formatterKey
    locale := first.locale.getD_eq texts second.locale
    hint := first.hint.getD_eq texts second.hint
    helpUrl := first.helpUrl.getD_eq texts second.helpUrl }

/-- The rendering of a diagnostic for tools, read again, is an object that tells every field; an optional
field has a member exactly when it is neither absent nor empty.  So another diagnostic with the same
rendering differs in nothing else. -/
theorem json_rendering_is_lossless (renderer : Renderer) (style : renderer.style = some .json)
    (whole : renderer.sanitize = false) (diagnostic : Diagnostic) (typed : diagnostic.IsWellTyped) :
    ∃ text members, renderer.render diagnostic = .ok (some text) ∧
      Json.read? text = some (.obj members) ∧ (members.map Prod.fst).Nodup ∧
      (Json.obj members).Describes diagnostic ∧
      ∀ other : Diagnostic, other.IsWellTyped → renderer.render other = .ok (some text) →
        diagnostic.SameUpToEmpty other := by
  obtain ⟨text, rendered, read⟩ := Renderer.read?_json style whole typed
  have described := diagnostic.filled_slots_describes
  have distinct := Json.names_filled_sublist.nodup diagnostic.slots_distinct
  refine ⟨text, _, rendered, read, distinct, described, fun other otherTyped same => ?_⟩
  obtain ⟨otherText, otherRendered, otherRead⟩ := Renderer.read?_json style whole otherTyped
  rw [same] at otherRendered
  cases otherRendered
  rw [read] at otherRead
  have counterpart := other.filled_slots_describes
  rw [← Option.some.inj otherRead] at counterpart
  exact described.same counterpart

/-- A formatter whose key has to be escaped, an empty locale, and a path with an empty key. -/
def Diagnostic.escaped : Diagnostic :=
  (Diagnostic.unresolvedFormatter (.str "\"\x01\\\n") (some "")).within ""

theorem escaped_rendering_is_lossless :
    Diagnostic.escaped.IsWellTyped ∧ ∃ text json,
      Renderer.render { style := some .json } Diagnostic.escaped = .ok (some text) ∧
      Json.read? text = some json ∧ json.get? "template_path" = some (.arr [.str ""]) ∧
      json.get? "formatter_key" = some (.str "\"\x01\\\n") ∧ json.get? "locale" = none := by
  have typed : Diagnostic.escaped.IsWellTyped := ⟨.inl rfl, .inr ⟨_, rfl⟩⟩
  obtain ⟨text, members, rendered, read, _, described, _⟩ :=
    json_rendering_is_lossless { style := some .json } rfl rfl Diagnostic.escaped typed
  refine ⟨typed, text, _, rendered, read, ?_, ?_, ?_⟩
  · exact (described.path _).mpr ⟨[""], rfl, by decide, rfl⟩
  · exact (described.formatterKey _).mpr ⟨_, rfl, by decide, rfl⟩
  · cases found : (Json.obj members).get? "locale" with
    | none => rfl
    | some value =>
        obtain ⟨locale, same, nonempty, _⟩ := (described.locale value).mp found
        cases same
        exact absurd rfl nonempty

end Phrasebook
