import Phrasebook.Proofs.Compiler.Route
import Phrasebook.Proofs.Template.Fields

/-!
The grammar of tokens.  Which data is a token is said without loading it; loading accepts exactly that
data, and refuses any other with an error of the template or because a value is of the wrong type.
-/

namespace Phrasebook

/-- Data that JSON writes, but for fractions: texts are the only keys, and no key is repeated. -/
inductive Value.IsJson : Value → Prop where
  | null : IsJson .null
  | bool (value : Bool) : IsJson (.bool value)
  | int (value : Int) : IsJson (.int value)
  | str (text : String) : IsJson (.str text)
  | list {items : List Value} (each : ∀ item ∈ items, IsJson item) : IsJson (.list items)
  | map {entries : List (Key × Value)} (texts : ∀ entry ∈ entries, ∃ name, entry.1 = .str name)
      (distinct : (entries.map Prod.fst).Nodup) (each : ∀ entry ∈ entries, IsJson entry.2) :
      IsJson (.map entries)

namespace Value

attribute [simp] IsJson.null IsJson.bool IsJson.int IsJson.str

@[simp] theorem isJson_list_iff {items : List Value} :
    (Value.list items).IsJson ↔ ∀ item ∈ items, item.IsJson :=
  ⟨fun | .list each => each, .list⟩

@[simp] theorem isJson_map_iff {entries : List (Key × Value)} :
    (Value.map entries).IsJson ↔ (∀ entry ∈ entries, ∃ name, entry.1 = .str name) ∧
      (entries.map Prod.fst).Nodup ∧ ∀ entry ∈ entries, entry.2.IsJson :=
  ⟨fun | .map texts distinct each => ⟨texts, distinct, each⟩,
    fun ⟨texts, distinct, each⟩ => .map texts distinct each⟩

end Value

namespace Template

def HasField (name : String) (entries : List (Key × Value)) : Prop :=
  ∃ value, (Key.str name, value) ∈ entries

/-- Nothing, or something that can be gone through. -/
def MayBeParams : Value → Prop
  | .null | .str _ | .list _ | .map _ => True
  | .bool value => value = false
  | .int value => value = 0
  | _ => False

mutual

inductive IsToken : Value → Prop where
  | text (text : String) : IsToken (.str text)
  | octothorpe {entries : List (Key × Value)} (type : (.str "type", .str "octothorpe") ∈ entries) :
      IsToken (.map entries)
  | argument {entries : List (Key × Value)} (type : (.str "type", .str "argument") ∈ entries)
      (arg : HasField "arg" entries) : IsToken (.map entries)
  | call {entries : List (Key × Value)} (type : (.str "type", .str "function") ∈ entries)
      (key : HasField "key" entries) (arg : HasField "arg" entries)
      (params : ∀ value, (.str "params", value) ∈ entries → MayBeParams value) :
      IsToken (.map entries)
  | choice {entries : List (Key × Value)} {kind : String} {cases : Value}
      (choice : kind ∈ ["select", "plural", "selectordinal"])
      (type : (.str "type", .str kind) ∈ entries) (arg : HasField "arg" entries)
      (hasCases : (.str "cases", cases) ∈ entries) (areCases : IsCases cases) :
      IsToken (.map entries)

inductive IsCases : Value → Prop where
  | noText : IsCases (.str "")
  | noEntries : IsCases (.map [])
  | list {items : List Value} (each : ∀ item ∈ items, IsCase item) : IsCases (.list items)

inductive IsCase : Value → Prop where
  | mk {entries : List (Key × Value)} (key : HasField "key" entries)
      (body : ∀ tokens, (.str "tokens", tokens) ∈ entries → IsBody tokens) : IsCase (.map entries)

inductive IsBody : Value → Prop where
  | text (text : String) : IsBody (.str text)
  | map (entries : List (Key × Value)) : IsBody (.map entries)
  | list {items : List Value} (each : ∀ item ∈ items, IsToken item) : IsBody (.list items)

end

theorem isCases_list_iff {items : List Value} :
    IsCases (.list items) ↔ ∀ item ∈ items, IsCase item := by
  refine ⟨fun accepted => ?_, .list⟩
  cases accepted with
  | list each => exact each

theorem isBody_list_iff {items : List Value} :
    IsBody (.list items) ↔ ∀ item ∈ items, IsToken item := by
  refine ⟨fun accepted => ?_, .list⟩
  cases accepted with
  | list each => exact each

theorem isCase_map_iff {entries : List (Key × Value)} :
    IsCase (.map entries) ↔ HasField "key" entries ∧
      ∀ tokens, (.str "tokens", tokens) ∈ entries → IsBody tokens := by
  refine ⟨fun accepted => ?_, fun ⟨key, body⟩ => .mk key body⟩
  cases accepted with
  | mk key body => exact ⟨key, body⟩

/-- How loading a token may fail. -/
def Refusal (failure : Failure) : Prop :=
  failure.HasKind .unrecognizedToken ∨ failure.HasKind .malformedToken ∨
    ∃ fault, failure = .fault fault ∧ fault.kind = .wrongType

def FieldRefusal : FieldError → Prop
  | .missing _ => True
  | .failed failure => Refusal failure

theorem refusal_of_wrongType {fault : Fault} (kind : fault.kind = .wrongType) :
    Refusal (.fault fault) :=
  .inr (.inr ⟨fault, rfl, kind⟩)

/-- There is a result exactly when the data is accepted, and otherwise a refusal. -/
structure Decides {ε α : Type} (refusal : ε → Prop) (result : Except ε α) (accepted : Prop) : Prop where
  returns : (∃ value, result = .ok value) ↔ accepted
  refuses : ∀ failure, result = .error failure → refusal failure

namespace Decides

variable {ε α β : Type} {refusal : ε → Prop} {result : Except ε α} {accepted other : Prop}

theorem ok (value : α) (accepts : accepted) : Decides refusal (.ok value) accepted :=
  ⟨iff_of_true ⟨value, rfl⟩ accepts, fun _ failed => nomatch failed⟩

theorem error {failure : ε} (refused : refusal failure) (rejects : ¬ accepted) :
    Decides refusal (.error failure : Except ε α) accepted := by
  refine ⟨iff_of_false (fun ⟨_, returned⟩ => nomatch returned) rejects, fun other failed => ?_⟩
  cases failed
  exact refused

theorem congr (decides : Decides refusal result accepted) (same : other ↔ accepted) :
    Decides refusal result other :=
  ⟨decides.returns.trans same.symm, decides.refuses⟩

theorem rejects {failure : ε} (decides : Decides refusal (.error failure : Except ε α) accepted) :
    ¬ accepted :=
  fun accepts => nomatch decides.returns.mpr accepts

theorem bind {next : α → Except ε β} (first : Decides refusal result accepted)
    (second : ∀ value, Decides refusal (next value) other) :
    Decides refusal (result >>= next) (accepted ∧ other) := by
  cases result with
  | error failure => exact .error (first.refuses failure rfl) fun both => first.rejects both.1
  | ok value =>
      have accepts := first.returns.mp ⟨value, rfl⟩
      exact (second value).congr (and_iff_right accepts)

theorem map (decides : Decides refusal result accepted) (change : α → β) :
    Decides refusal (result >>= fun value => pure (change value)) accepted :=
  (decides.bind fun value => .ok (change value) trivial).congr (iff_of_eq (and_true accepted)).symm

theorem mapM {load : Value → Except ε α} {accepts : Value → Prop} {items : List Value}
    (each : ∀ item ∈ items, Decides refusal (load item) (accepts item)) :
    Decides refusal (items.mapM load) (∀ item ∈ items, accepts item) := by
  induction items with
  | nil => exact .ok [] (List.forall_mem_nil _)
  | cons item rest ih =>
      obtain ⟨first, others⟩ := List.forall_mem_cons.mp each
      rw [List.mapM_cons, List.forall_mem_cons]
      exact first.bind fun head => (ih others).map (head :: ·)

end Decides

variable {entries : List (Key × Value)}

theorem Decides.asField {α : Type} {result : Except Failure α} {accepted : Prop}
    (decides : Decides Refusal result accepted) :
    Decides FieldRefusal (Template.asField result) accepted := by
  cases result with
  | ok value => exact .ok value (decides.returns.mp ⟨value, rfl⟩)
  | error failure => exact .error (decides.refuses failure rfl) decides.rejects

theorem Decides.reportMissing (token : Value) {result : Except FieldError Value} {accepted : Prop}
    (decides : Decides FieldRefusal result accepted) :
    Decides Refusal (Template.reportMissing token result) accepted := by
  cases result with
  | ok value => exact .ok value (decides.returns.mp ⟨value, rfl⟩)
  | error reason =>
      cases reason with
      | missing name => exact .error (.inr (.inl rfl)) decides.rejects
      | failed failure => exact .error (decides.refuses _ rfl) decides.rejects

theorem field_decides (name : String) (entries : List (Key × Value)) :
    Decides FieldRefusal (field name entries) (HasField name entries) := by
  unfold field
  cases found : field? name entries with
  | some value => exact .ok value ⟨value, mem_of_field? found⟩
  | none =>
      have absent := field?_eq_none_iff.mp found
      exact .error trivial fun ⟨value, member⟩ => absent value member

/-- What is said of a field that may be missing is said of the value that it has. -/
theorem forall_field_iff (distinct : (entries.map Prod.fst).Nodup) {name : String} {value : Value}
    (found : field? name entries = some value) (property : Value → Prop) :
    (∀ other, (.str name, other) ∈ entries → property other) ↔ property value := by
  constructor
  · intro all
    exact all value (mem_of_field? found)
  · intro holds other member
    rw [field?_of_mem distinct member] at found
    cases found
    exact holds

theorem loadParams_decides (distinct : (entries.map Prod.fst).Nodup)
    (json : ∀ entry ∈ entries, entry.2.IsJson) :
    Decides FieldRefusal (loadParams entries)
      (∀ params, (.str "params", params) ∈ entries → MayBeParams params) := by
  unfold loadParams
  cases found : field? "params" entries with
  | none => exact .ok [] fun params member => absurd member (field?_eq_none_iff.mp found params)
  | some params =>
      refine Decides.congr ?_ (forall_field_iff distinct found MayBeParams)
      have wrongType : FieldRefusal (.failed (.fault .notIterable)) := refusal_of_wrongType rfl
      cases json _ (mem_of_field? found) with
      | null => exact .ok [] trivial
      | bool value =>
          cases value with
          | false => exact .ok [] rfl
          | true => exact .error wrongType nofun
      | int value =>
          by_cases zero : value = 0
          · subst zero
            exact .ok [] rfl
          · simp only [Value.isGiven, Value.items?, bne_iff_ne, ne_eq, zero, not_false_eq_true, if_true]
            exact .error wrongType zero
      | _ =>
          dsimp only
          split <;> exact .ok _ trivial

theorem loadCaseList_eq (items : List Value) : loadCaseList items = items.mapM loadCase := by
  induction items with
  | nil => rfl
  | cons item rest ih => rw [loadCaseList, List.mapM_cons, ih]

theorem loadTokenList_eq (items : List Value) : loadTokenList items = items.mapM loadToken := by
  induction items with
  | nil => rfl
  | cons item rest ih => rw [loadTokenList, List.mapM_cons, ih]

theorem exists_loadKeys (texts : ∀ entry ∈ entries, ∃ name, entry.1 = Key.str name) :
    ∃ tokens, loadKeys entries = .ok tokens := by
  induction entries with
  | nil => exact ⟨[], rfl⟩
  | cons entry rest ih =>
      obtain ⟨key, value⟩ := entry
      obtain ⟨⟨name, same⟩, others⟩ := List.forall_mem_cons.mp texts
      obtain ⟨tokens, loaded⟩ := ih others
      subst same
      exact ⟨.text (.str name) :: tokens, by simp only [loadKeys, loaded]; rfl⟩

/-- What loading makes of a value in each place where one can stand. -/
structure Judged (value : Value) : Prop where
  token : Decides Refusal (loadToken value) (IsToken value)
  cases : Decides FieldRefusal (loadCases value) (IsCases value)
  case : Decides FieldRefusal (loadCase value) (IsCase value)
  body : Decides Refusal (loadTokens value) (IsBody value)

/-- Data without parts is nowhere accepted. -/
theorem Judged.plain {value : Value} (token : loadToken value = unrecognized value)
    (cases : loadCases value = .error (.failed (.fault .notIterable)))
    (case : loadCase value = .error (.failed (.fault .notIndexable)))
    (body : loadTokens value = .error (.fault .notIterable)) (noToken : ¬ IsToken value)
    (noCases : ¬ IsCases value) (noCase : ¬ IsCase value) (noBody : ¬ IsBody value) : Judged value where
  token := token ▸ .error (.inl rfl) noToken
  cases := cases ▸ .error (refusal_of_wrongType rfl) noCases
  case := case ▸ .error (refusal_of_wrongType rfl) noCase
  body := body ▸ .error (refusal_of_wrongType rfl) noBody

theorem judged_str (text : String) : Judged (.str text) where
  token := .ok _ (.text text)
  cases := by
    rw [loadCases]
    split
    · rename_i empty
      rw [String.isEmpty_iff.mp empty]
      exact .ok [] .noText
    · rename_i visible
      refine .error (refusal_of_wrongType rfl) fun accepted => ?_
      cases accepted with
      | noText => exact visible rfl
  case := .error (refusal_of_wrongType rfl) nofun
  body := .ok _ (.text text)

theorem judged_list {items : List Value} (each : ∀ item ∈ items, Judged item) :
    Judged (.list items) where
  token := .error (.inl rfl) nofun
  cases := by
    rw [loadCases, loadCaseList_eq]
    exact (Decides.mapM fun item member => (each item member).case).congr isCases_list_iff
  case := .error (refusal_of_wrongType rfl) nofun
  body := by
    rw [loadTokens, loadTokenList_eq]
    exact (Decides.mapM fun item member => (each item member).token).congr isBody_list_iff

theorem loadCasesField_decides (distinct : (entries.map Prod.fst).Nodup)
    (each : ∀ entry ∈ entries, Judged entry.2) :
    Decides FieldRefusal (loadCasesField entries)
      (∃ cases, (.str "cases", cases) ∈ entries ∧ IsCases cases) := by
  rw [loadCasesField_eq]
  cases found : field? "cases" entries with
  | none =>
      have absent := field?_eq_none_iff.mp found
      exact .error trivial fun ⟨cases, member, _⟩ => absent cases member
  | some cases =>
      have member := mem_of_field? found
      refine (each _ member).cases.congr ⟨fun ⟨other, otherMember, accepted⟩ => ?_,
        fun accepted => ⟨cases, member, accepted⟩⟩
      rw [field?_of_mem distinct otherMember] at found
      cases found
      exact accepted

theorem loadBodyField_decides (distinct : (entries.map Prod.fst).Nodup)
    (each : ∀ entry ∈ entries, Judged entry.2) :
    Decides FieldRefusal (loadBodyField entries)
      (∀ tokens, (.str "tokens", tokens) ∈ entries → IsBody tokens) := by
  rw [loadBodyField_eq]
  cases found : field? "tokens" entries with
  | none => exact .ok [] fun tokens member => absurd member (field?_eq_none_iff.mp found tokens)
  | some tokens =>
      exact (each _ (mem_of_field? found)).body.asField.congr (forall_field_iff distinct found IsBody)

/-- What makes entries a token, by their kind. -/
def IsTokenOf (entries : List (Key × Value)) (kind : String) : Prop :=
  kind = "octothorpe" ∨ (kind = "argument" ∧ HasField "arg" entries) ∨
    (kind = "function" ∧ HasField "key" entries ∧ HasField "arg" entries ∧
      ∀ params, (.str "params", params) ∈ entries → MayBeParams params) ∨
    (kind ∈ ["select", "plural", "selectordinal"] ∧ HasField "arg" entries ∧
      ∃ cases, (.str "cases", cases) ∈ entries ∧ IsCases cases)

theorem isToken_map_iff : IsToken (.map entries) ↔
    ∃ kind, (.str "type", .str kind) ∈ entries ∧ IsTokenOf entries kind := by
  constructor
  · intro token
    cases token with
    | octothorpe type => exact ⟨_, type, .inl rfl⟩
    | argument type arg => exact ⟨_, type, .inr (.inl ⟨rfl, arg⟩)⟩
    | call type key arg params => exact ⟨_, type, .inr (.inr (.inl ⟨rfl, key, arg, params⟩))⟩
    | choice choice type arg hasCases areCases =>
        exact ⟨_, type, .inr (.inr (.inr ⟨choice, arg, _, hasCases, areCases⟩))⟩
  · intro ⟨kind, type, token⟩
    rcases token with rfl | ⟨rfl, arg⟩ | ⟨rfl, key, arg, params⟩ | ⟨choice, arg, cases, member, each⟩
    · exact .octothorpe type
    · exact .argument type arg
    · exact .call type key arg params
    · exact .choice choice type arg member each

theorem isToken_map_of_type (distinct : (entries.map Prod.fst).Nodup) {kind : String}
    (type : field? "type" entries = some (.str kind)) :
    IsToken (.map entries) ↔ IsTokenOf entries kind := by
  rw [isToken_map_iff]
  constructor
  · intro ⟨other, member, token⟩
    rw [field?_of_mem distinct member] at type
    cases type
    exact token
  · intro token
    exact ⟨kind, mem_of_field? type, token⟩

theorem loadToken_map_decides (distinct : (entries.map Prod.fst).Nodup)
    (json : ∀ entry ∈ entries, entry.2.IsJson) (each : ∀ entry ∈ entries, Judged entry.2) :
    Decides Refusal (loadToken (.map entries)) (IsToken (.map entries)) := by
  have arg := field_decides "arg" entries
  have cases := loadCasesField_decides distinct each
  have params := loadParams_decides distinct json
  rw [loadToken]
  apply Decides.reportMissing
  split
  · rename_i type
    exact (arg.map Value.argument).congr ((isToken_map_of_type distinct type).trans (by simp [IsTokenOf]))
  · rename_i type
    exact (arg.bind fun arg => cases.map (Value.select arg)).congr
      ((isToken_map_of_type distinct type).trans (by simp [IsTokenOf]))
  · rename_i type
    exact (arg.bind fun arg => cases.map (Value.plural arg · (loadOffset entries))).congr
      ((isToken_map_of_type distinct type).trans (by simp [IsTokenOf]))
  · rename_i type
    exact (arg.bind fun arg => cases.map (Value.ordinal arg)).congr
      ((isToken_map_of_type distinct type).trans (by simp [IsTokenOf]))
  · rename_i type
    exact ((field_decides "key" entries).bind fun key => arg.bind fun arg =>
      params.map (Value.call key arg)).congr
        ((isToken_map_of_type distinct type).trans (by simp [IsTokenOf]))
  · rename_i type
    exact .ok _ ((isToken_map_of_type distinct type).mpr (.inl rfl))
  · rename_i noArgument noSelect noPlural noOrdinal noCall noOctothorpe
    refine Decides.asField (.error (.inl rfl) fun token => ?_)
    obtain ⟨kind, member, token⟩ := isToken_map_iff.mp token
    have type := field?_of_mem distinct member
    rcases token with rfl | ⟨rfl, _⟩ | ⟨rfl, _⟩ | ⟨choice, _⟩
    · exact noOctothorpe type
    · exact noArgument type
    · exact noCall type
    · simp only [List.mem_cons, List.not_mem_nil, or_false] at choice
      rcases choice with rfl | rfl | rfl
      · exact noSelect type
      · exact noPlural type
      · exact noOrdinal type

theorem judged_map (texts : ∀ entry ∈ entries, ∃ name, entry.1 = Key.str name)
    (distinct : (entries.map Prod.fst).Nodup) (json : ∀ entry ∈ entries, entry.2.IsJson)
    (each : ∀ entry ∈ entries, Judged entry.2) : Judged (.map entries) where
  token := loadToken_map_decides distinct json each
  cases := by
    cases entries with
    | nil => exact .ok [] .noEntries
    | cons => exact .error (refusal_of_wrongType rfl) nofun
  case := by
    rw [loadCase]
    exact ((field_decides "key" entries).bind fun key =>
      (loadBodyField_decides distinct each).map (Value.case (.str key.plain))).congr isCase_map_iff
  body := by
    obtain ⟨tokens, loaded⟩ := exists_loadKeys texts
    rw [loadTokens, loaded]
    exact .ok tokens (.map entries)

theorem judged_of_isJson {value : Value} (json : value.IsJson) : Judged value := by
  induction json with
  | null => exact .plain rfl rfl rfl rfl nofun nofun nofun nofun
  | bool => exact .plain rfl rfl rfl rfl nofun nofun nofun nofun
  | int => exact .plain rfl rfl rfl rfl nofun nofun nofun nofun
  | str text => exact judged_str text
  | list _ judged => exact judged_list judged
  | map texts distinct json judged => exact judged_map texts distinct json judged

end Template

/-- Loading accepts exactly the tokens of the grammar, and has three ways to refuse other data. -/
theorem loadToken_accepts_grammar (value : Value) (json : value.IsJson) :
    ((∃ token, Template.loadToken value = .ok token) ↔ Template.IsToken value) ∧
    ∀ failure, Template.loadToken value = .error failure →
      failure.HasKind .unrecognizedToken ∨ failure.HasKind .malformedToken ∨
        ∃ fault, failure = .fault fault ∧ fault.kind = .wrongType := by
  have judged := (Template.judged_of_isJson json).token
  exact ⟨judged.returns, judged.refuses⟩

/-- A selection one of whose cases says a text, and the other the keys of entries. -/
def Value.oddSelection : Value :=
  .map [
    (.str "cases", .list [
      .map [(.str "tokens", .str "ab"), (.str "key", .int 1)],
      .map [(.str "key", .null), (.str "tokens", .map [(.str "x", .null)])]]),
    (.str "type", .str "select"),
    (.str "arg", .bool false)]

/-- A selection in the only case of another, with a case that has no key. -/
def Value.keylessSelection : Value :=
  .map [(.str "type", .str "select"), (.str "arg", .str "a"), (.str "cases", .list [
    .map [(.str "key", .str "other"), (.str "tokens", .list [
      .map [(.str "type", .str "select"), (.str "arg", .str "b"), (.str "cases", .list [.map []])]])]])]

theorem selections_by_grammar :
    Value.oddSelection.IsJson ∧ Template.IsToken Value.oddSelection ∧
      Value.keylessSelection.IsJson ∧ ¬ Template.IsToken Value.keylessSelection := by
  have odd : Value.oddSelection.IsJson := by simp [Value.oddSelection]
  have keyless : Value.keylessSelection.IsJson := by simp [Value.keylessSelection]
  refine ⟨odd, (loadToken_accepts_grammar _ odd).1.mp ⟨_, rfl⟩, keyless, fun token => ?_⟩
  exact nomatch (loadToken_accepts_grammar _ keyless).1.mpr token

end Phrasebook
