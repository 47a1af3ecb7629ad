import Phrasebook.Proofs.Template.Grammar

/-!
Where loading stops without a diagnostic.  A missing field and an unknown kind of part are errors of the
template; but a value that stands where cases, a case, tokens or parameters are expected, and cannot be
gone through or looked up in, is met as a bare fault.  Which data that happens for, and which fault it
is, is said here by the place of the first flaw.
-/

namespace Phrasebook

namespace Template

/-- One item has the flaw, and all items before it are fine. -/
def FirstFlaw {α : Type} (fine flawed : α → Prop) (items : List α) : Prop :=
  ∃ before item after, items = before ++ item :: after ∧ (∀ earlier ∈ before, fine earlier) ∧ flawed item

theorem not_firstFlaw_nil {α : Type} (fine flawed : α → Prop) : ¬ FirstFlaw fine flawed [] := by
  intro ⟨before, item, after, same, _⟩
  cases before <;> cases same

theorem firstFlaw_cons {α : Type} {fine flawed : α → Prop} {item : α} {rest : List α} :
    FirstFlaw fine flawed (item :: rest) ↔ flawed item ∨ (fine item ∧ FirstFlaw fine flawed rest) := by
  constructor
  · intro ⟨before, found, after, same, each, flaw⟩
    cases before with
    | nil =>
        cases same
        exact .inl flaw
    | cons first before =>
        cases same
        obtain ⟨head, others⟩ := List.forall_mem_cons.mp each
        exact .inr ⟨head, before, found, after, rfl, others, flaw⟩
  · intro either
    rcases either with flaw | ⟨head, before, found, after, same, each, flaw⟩
    · exact ⟨[], item, rest, rfl, List.forall_mem_nil _, flaw⟩
    · exact ⟨item :: before, found, after, by rw [same]; rfl, List.forall_mem_cons.mpr ⟨head, each⟩, flaw⟩

mutual

/-- Loaded as a token, the data has this fault before anything else is wrong with it. -/
inductive TokenFault : Fault → Value → Prop where
  | cases {fault : Fault} {entries : List (Key × Value)} {kind : String} {arg cases : Value}
      (choice : kind ∈ ["select", "plural", "selectordinal"])
      (hasType : field? "type" entries = some (.str kind)) (hasArg : field? "arg" entries = some arg)
      (hasCases : field? "cases" entries = some cases) (faulty : CasesFault fault cases) :
      TokenFault fault (.map entries)
  | params {entries : List (Key × Value)} {key arg params : Value}
      (hasType : field? "type" entries = some (.str "function"))
      (hasKey : field? "key" entries = some key) (hasArg : field? "arg" entries = some arg)
      (hasParams : field? "params" entries = some params) (given : params.isGiven = true)
      (flat : params.items? = none) : TokenFault .notIterable (.map entries)

inductive CasesFault : Fault → Value → Prop where
  | flat {value : Value} (flat : value.items? = none) : CasesFault .notIterable value
  | text {text : String} (visible : text ≠ "") : CasesFault .notIndexable (.str text)
  | keys {entries : List (Key × Value)} (some : entries ≠ []) : CasesFault .notIndexable (.map entries)
  | case {fault : Fault} {before after : List Value} {case : Value}
      (fine : ∀ earlier ∈ before, ∃ loaded, loadCase earlier = .ok loaded)
      (faulty : CaseFault fault case) : CasesFault fault (.list (before ++ case :: after))

inductive CaseFault : Fault → Value → Prop where
  | flat {value : Value} (noEntries : ∀ entries, value ≠ .map entries) : CaseFault .notIndexable value
  | body {fault : Fault} {entries : List (Key × Value)} {key tokens : Value}
      (hasKey : field? "key" entries = some key) (hasTokens : field? "tokens" entries = some tokens)
      (faulty : BodyFault fault tokens) : CaseFault fault (.map entries)

inductive BodyFault : Fault → Value → Prop where
  | flat {value : Value} (flat : value.items? = none) : BodyFault .notIterable value
  | token {fault : Fault} {before after : List Value} {token : Value}
      (fine : ∀ earlier ∈ before, ∃ loaded, loadToken earlier = .ok loaded)
      (faulty : TokenFault fault token) : BodyFault fault (.list (before ++ token :: after))

end

/-- Loaded as a template, the data has this fault before anything else is wrong with it. -/
inductive LoadFault : Fault → Value → Prop where
  | message {fault : Fault} {items : List Value} (faulty : BodyFault fault (.list items)) :
      LoadFault fault (.list items)
  | branch {fault : Fault} {before after : List (Key × Value)} {key : Key} {value : Value}
      (fine : ∀ earlier ∈ before, ∃ loaded, load none earlier.2 = .ok loaded)
      (faulty : LoadFault fault value) : LoadFault fault (.map (before ++ (key, value) :: after))

section Inversion

variable {fault : Fault} {items : List Value} {entries : List (Key × Value)}

theorem casesFault_list_iff : CasesFault fault (.list items) ↔
    FirstFlaw (fun item => ∃ loaded, loadCase item = .ok loaded) (CaseFault fault) items := by
  constructor
  · intro faulty
    cases faulty with
    | flat flat => cases flat
    | case fine faulty => exact ⟨_, _, _, rfl, fine, faulty⟩
  · intro ⟨before, case, after, same, fine, faulty⟩
    rw [same]
    exact .case fine faulty

theorem bodyFault_list_iff : BodyFault fault (.list items) ↔
    FirstFlaw (fun item => ∃ loaded, loadToken item = .ok loaded) (TokenFault fault) items := by
  constructor
  · intro faulty
    cases faulty with
    | flat flat => cases flat
    | token fine faulty => exact ⟨_, _, _, rfl, fine, faulty⟩
  · intro ⟨before, token, after, same, fine, faulty⟩
    rw [same]
    exact .token fine faulty

theorem caseFault_map_iff : CaseFault fault (.map entries) ↔
    (∃ key, field? "key" entries = some key) ∧
      ∃ tokens, field? "tokens" entries = some tokens ∧ BodyFault fault tokens := by
  constructor
  · intro faulty
    cases faulty with
    | flat noEntries => exact absurd rfl (noEntries entries)
    | body hasKey hasTokens faulty => exact ⟨⟨_, hasKey⟩, _, hasTokens, faulty⟩
  · intro ⟨⟨key, hasKey⟩, tokens, hasTokens, faulty⟩
    exact .body hasKey hasTokens faulty

theorem loadFault_map_iff : LoadFault fault (.map entries) ↔
    FirstFlaw (fun entry => ∃ loaded, load none entry.2 = .ok loaded)
      (fun entry => LoadFault fault entry.2) entries := by
  constructor
  · intro faulty
    cases faulty with
    | branch fine faulty => exact ⟨_, _, _, rfl, fine, faulty⟩
  · intro ⟨before, entry, after, same, fine, faulty⟩
    rw [same]
    exact .branch fine faulty

/-- The parameters of a call are given and cannot be gone through. -/
def FlatParams (entries : List (Key × Value)) : Prop :=
  ∃ params, field? "params" entries = some params ∧ params.isGiven = true ∧ params.items? = none

theorem tokenFault_map_iff {kind : String} (hasType : field? "type" entries = some (.str kind)) :
    TokenFault fault (.map entries) ↔
      (kind ∈ ["select", "plural", "selectordinal"] ∧ (∃ arg, field? "arg" entries = some arg) ∧
        ∃ cases, field? "cases" entries = some cases ∧ CasesFault fault cases) ∨
      (kind = "function" ∧ (∃ key, field? "key" entries = some key) ∧
        (∃ arg, field? "arg" entries = some arg) ∧ FlatParams entries ∧ fault = .notIterable) := by
  constructor
  · intro faulty
    cases faulty with
    | cases choice found hasArg hasCases faulty =>
        rw [hasType] at found
        cases found
        exact .inl ⟨choice, ⟨_, hasArg⟩, _, hasCases, faulty⟩
    | params found hasKey hasArg hasParams given flat =>
        rw [hasType] at found
        cases found
        exact .inr ⟨rfl, ⟨_, hasKey⟩, ⟨_, hasArg⟩, ⟨_, hasParams, given, flat⟩, rfl⟩
  · intro either
    rcases either with ⟨choice, ⟨arg, hasArg⟩, cases, hasCases, faulty⟩ |
      ⟨rfl, ⟨key, hasKey⟩, ⟨arg, hasArg⟩, ⟨params, hasParams, given, flat⟩, rfl⟩
    · exact .cases choice hasType hasArg hasCases faulty
    · exact .params hasType hasKey hasArg hasParams given flat

end Inversion

/-- Every failure is a refusal, and the bare faults among them are those foreseen. -/
structure Foresees {ε α : Type} (bare : Fault → ε) (refusal : ε → Prop) (result : Except ε α)
    (foreseen : Fault → Prop) : Prop where
  faults : ∀ fault, result = .error (bare fault) ↔ foreseen fault
  refuses : ∀ failure, result = .error failure → refusal failure

namespace Foresees

variable {ε α β : Type} {bare : Fault → ε} {refusal : ε → Prop} {result : Except ε α}
  {foreseen other : Fault → Prop}

theorem ok (value : α) (none : ∀ fault, ¬ foreseen fault) :
    Foresees bare refusal (.ok value) foreseen :=
  ⟨fun fault => iff_of_false nofun (none fault), fun _ failed => nomatch failed⟩

theorem error {failure : ε} (refused : refusal failure)
    (only : ∀ fault, failure = bare fault ↔ foreseen fault) :
    Foresees bare refusal (.error failure : Except ε α) foreseen := by
  refine ⟨fun fault => ?_, fun other failed => ?_⟩
  · rw [Except.error.injEq]
    exact only fault
  · cases failed
    exact refused

theorem congr (foresees : Foresees bare refusal result foreseen)
    (same : ∀ fault, other fault ↔ foreseen fault) : Foresees bare refusal result other :=
  ⟨fun fault => (foresees.faults fault).trans (same fault).symm, foresees.refuses⟩

theorem bind {next : α → Except ε β} (first : Foresees bare refusal result foreseen)
    (second : ∀ value, Foresees bare refusal (next value) other) :
    Foresees bare refusal (result >>= next)
      fun fault => foreseen fault ∨ ((∃ value, result = .ok value) ∧ other fault) := by
  cases result with
  | error failure =>
      refine .error (first.refuses failure rfl) fun fault => ?_
      rw [← first.faults, Except.error.injEq]
      exact (or_iff_left fun ⟨⟨_, returned⟩, _⟩ => nomatch returned).symm
  | ok value =>
      refine (second value).congr fun fault => ?_
      have none : ¬ foreseen fault := fun holds => nomatch (first.faults fault).mpr holds
      exact (or_iff_right none).trans (and_iff_right ⟨value, rfl⟩)

theorem map (foresees : Foresees bare refusal result foreseen) (change : α → β) :
    Foresees bare refusal (result >>= fun value => pure (change value)) foreseen :=
  (foresees.bind fun value => .ok (change value) fun _ => id).congr fun _ =>
    (or_iff_left And.right).symm

theorem mapM {γ : Type} {load : γ → Except ε α} {flawed : Fault → γ → Prop} {items : List γ}
    (each : ∀ item ∈ items, Foresees bare refusal (load item) fun fault => flawed fault item) :
    Foresees bare refusal (items.mapM load) fun fault =>
      FirstFlaw (fun item => ∃ loaded, load item = .ok loaded) (flawed fault) items := by
  induction items with
  | nil => exact .ok [] fun fault => not_firstFlaw_nil _ _
  | cons item rest ih =>
      obtain ⟨first, others⟩ := List.forall_mem_cons.mp each
      rw [List.mapM_cons]
      exact (first.bind fun head => (ih others).map (head :: ·)).congr fun fault => firstFlaw_cons

end Foresees

/-- Loading that fails as a whole. -/
abbrev Foretold {α : Type} (result : Except Failure α) (foreseen : Fault → Prop) : Prop :=
  Foresees Failure.fault Refusal result foreseen

/-- Loading of a field. -/
abbrev FieldForetold {α : Type} (result : Except FieldError α) (foreseen : Fault → Prop) : Prop :=
  Foresees (fun fault => .failed (.fault fault)) FieldRefusal result foreseen

theorem foretold_asField {α : Type} {result : Except Failure α} {foreseen : Fault → Prop}
    (foretold : Foretold result foreseen) : FieldForetold (asField result) foreseen := by
  cases result with
  | ok value => exact .ok value fun fault holds => nomatch (foretold.faults fault).mpr holds
  | error failure =>
      refine .error (foretold.refuses failure rfl) fun fault => ?_
      rw [← foretold.faults, FieldError.failed.injEq, Except.error.injEq]

theorem foretold_reportMissing (token : Value) {result : Except FieldError Value}
    {foreseen : Fault → Prop} (foretold : FieldForetold result foreseen) :
    Foretold (reportMissing token result) foreseen := by
  cases result with
  | ok value => exact .ok value fun fault holds => nomatch (foretold.faults fault).mpr holds
  | error reason =>
      cases reason with
      | missing name =>
          exact .error (.inr (.inl rfl)) fun fault =>
            iff_of_false nofun fun holds => nomatch (foretold.faults fault).mpr holds
      | failed failure =>
          refine .error (foretold.refuses _ rfl) fun fault => ?_
          rw [← foretold.faults, Except.error.injEq, FieldError.failed.injEq]

theorem foretold_unrecognized {α : Type} (token : Value) {foreseen : Fault → Prop}
    (none : ∀ fault, ¬ foreseen fault) : Foretold (unrecognized token : Except Failure α) foreseen :=
  .error (.inl rfl) fun fault => iff_of_false nofun (none fault)

theorem foretold_malformed {α : Type} (token : Value) (detail : String) {foreseen : Fault → Prop}
    (none : ∀ fault, ¬ foreseen fault) :
    Foretold (malformed token detail : Except Failure α) foreseen :=
  .error (.inr (.inl rfl)) fun fault => iff_of_false nofun (none fault)

theorem foretold_fault {α : Type} {fault : Fault} (kind : fault.kind = .wrongType)
    {foreseen : Fault → Prop} (only : ∀ other, foreseen other ↔ other = fault) :
    Foretold (.error (.fault fault) : Except Failure α) foreseen := by
  refine .error (refusal_of_wrongType kind) fun other => ?_
  rw [only, Failure.fault.injEq]
  exact eq_comm

theorem fieldForetold_fault {α : Type} {fault : Fault} (kind : fault.kind = .wrongType)
    {foreseen : Fault → Prop} (only : ∀ other, foreseen other ↔ other = fault) :
    FieldForetold (.error (.failed (.fault fault)) : Except FieldError α) foreseen :=
  foretold_asField (foretold_fault kind only)

variable {entries : List (Key × Value)}

theorem field_ok_iff {name : String} :
    (∃ value, field name entries = .ok value) ↔ ∃ value, field? name entries = some value := by
  unfold field
  cases field? name entries with
  | some value => exact iff_of_true ⟨value, rfl⟩ ⟨value, rfl⟩
  | none => exact iff_of_false nofun nofun

theorem fieldForetold_missing {α : Type} (name : String) {foreseen : Fault → Prop}
    (none : ∀ fault, ¬ foreseen fault) :
    FieldForetold (.error (.missing name) : Except FieldError α) foreseen :=
  .error trivial fun fault => iff_of_false nofun (none fault)

theorem field_foretold (name : String) (entries : List (Key × Value)) :
    FieldForetold (field name entries) fun _ => False := by
  unfold field
  cases field? name entries with
  | some value => exact .ok value fun _ => id
  | none => exact fieldForetold_missing name fun _ => id

/-- What follows on a field is reached exactly when the entries have it. -/
theorem field_bind_foretold {α : Type} (name : String) {next : Value → Except FieldError α}
    {foreseen : Fault → Prop} (later : ∀ value, FieldForetold (next value) foreseen) :
    FieldForetold (field name entries >>= next)
      fun fault => (∃ value, field? name entries = some value) ∧ foreseen fault :=
  ((field_foretold name entries).bind later).congr fun _ => by rw [false_or, field_ok_iff]

theorem loadParams_foretold (entries : List (Key × Value)) :
    FieldForetold (loadParams entries) fun fault => FlatParams entries ∧ fault = .notIterable := by
  unfold loadParams FlatParams
  cases found : field? "params" entries with
  | none => exact .ok [] fun fault ⟨⟨_, missing, _⟩, _⟩ => nomatch missing
  | some params =>
      simp only [Option.some.injEq, exists_eq_left']
      split
      · rename_i given
        split
        · rename_i items flat
          rw [flat]
          exact .ok items fun fault ⟨⟨_, missing⟩, _⟩ => nomatch missing
        · rename_i flat
          exact fieldForetold_fault rfl fun fault => and_iff_right ⟨given, flat⟩
      · rename_i absent
        exact .ok [] fun fault ⟨⟨given, _⟩, _⟩ => absent given

theorem loadKeys_foretold (entries : List (Key × Value)) :
    Foretold (loadKeys entries) fun _ => False := by
  induction entries with
  | nil => exact .ok [] fun _ => id
  | cons entry rest ih =>
      obtain ⟨key, value⟩ := entry
      cases key with
      | str text => exact ih.map (Value.text (.str text) :: ·)
      | _ => exact foretold_unrecognized _ fun _ => id

/-- What is foreseen for a value in each place where one can stand. -/
structure Forecast (value : Value) : Prop where
  token : Foretold (loadToken value) fun fault => TokenFault fault value
  cases : FieldForetold (loadCases value) fun fault => CasesFault fault value
  case : FieldForetold (loadCase value) fun fault => CaseFault fault value
  body : Foretold (loadTokens value) fun fault => BodyFault fault value

namespace Forecast

theorem caseFault_iff {value : Value} (noEntries : ∀ entries, value ≠ .map entries) (fault : Fault) :
    CaseFault fault value ↔ fault = .notIndexable := by
  constructor
  · intro faulty
    cases faulty with
    | flat => rfl
    | body => exact absurd rfl (noEntries _)
  · rintro rfl
    exact .flat noEntries

theorem plain {value : Value} (token : loadToken value = unrecognized value)
    (cases : loadCases value = .error (.failed (.fault .notIterable)))
    (case : loadCase value = .error (.failed (.fault .notIndexable)))
    (body : loadTokens value = .error (.fault .notIterable)) (flat : value.items? = none) :
    Forecast value where
  token := by
    rw [token]
    refine foretold_unrecognized value fun fault faulty => ?_
    cases faulty <;> cases flat
  cases := by
    rw [cases]
    refine fieldForetold_fault rfl fun fault => ⟨fun faulty => ?_, fun same => same ▸ .flat flat⟩
    cases faulty with
    | flat => rfl
    | _ => cases flat
  case := by
    rw [case]
    refine fieldForetold_fault rfl (caseFault_iff ?_)
    rintro entries rfl
    cases flat
  body := by
    rw [body]
    refine foretold_fault rfl fun fault => ⟨fun faulty => ?_, fun same => same ▸ .flat flat⟩
    cases faulty with
    | flat => rfl
    | token => cases flat

theorem str (text : String) : Forecast (.str text) where
  token := .ok _ fun _ faulty => nomatch faulty
  cases := by
    rw [loadCases]
    split
    · rename_i empty
      refine .ok [] fun fault faulty => ?_
      cases faulty with
      | flat flat => cases flat
      | text visible => exact visible (String.isEmpty_iff.mp empty)
    · rename_i visible
      refine fieldForetold_fault rfl fun fault => ⟨fun faulty => ?_, ?_⟩
      · cases faulty with
        | flat flat => cases flat
        | text => rfl
      · rintro rfl
        exact .text fun empty => visible (String.isEmpty_iff.mpr empty)
  case := fieldForetold_fault rfl (caseFault_iff nofun)
  body := by
    refine .ok _ fun fault faulty => ?_
    cases faulty with
    | flat flat => cases flat

theorem list {items : List Value} (each : ∀ item ∈ items, Forecast item) : Forecast (.list items) where
  token := foretold_unrecognized _ fun _ faulty => nomatch faulty
  cases := by
    rw [loadCases, loadCaseList_eq]
    exact (Foresees.mapM fun item member => (each item member).case).congr fun _ => casesFault_list_iff
  case := fieldForetold_fault rfl (caseFault_iff nofun)
  body := by
    rw [loadTokens, loadTokenList_eq]
    exact (Foresees.mapM fun item member => (each item member).token).congr fun _ => bodyFault_list_iff

theorem casesField (each : ∀ entry ∈ entries, Forecast entry.2) :
    FieldForetold (loadCasesField entries) fun fault =>
      ∃ cases, field? "cases" entries = some cases ∧ CasesFault fault cases := by
  rw [loadCasesField_eq]
  cases found : field? "cases" entries with
  | none => exact fieldForetold_missing _ fun fault ⟨_, missing, _⟩ => nomatch missing
  | some cases =>
      refine (each _ (mem_of_field? found)).cases.congr fun fault => ?_
      simp only [Option.some.injEq, exists_eq_left']

theorem bodyField (each : ∀ entry ∈ entries, Forecast entry.2) :
    FieldForetold (loadBodyField entries) fun fault =>
      ∃ tokens, field? "tokens" entries = some tokens ∧ BodyFault fault tokens := by
  rw [loadBodyField_eq]
  cases found : field? "tokens" entries with
  | none => exact .ok [] fun fault ⟨_, missing, _⟩ => nomatch missing
  | some tokens =>
      refine (foretold_asField (each _ (mem_of_field? found)).body).congr fun fault => ?_
      simp only [Option.some.injEq, exists_eq_left']

theorem loadToken_map (each : ∀ entry ∈ entries, Forecast entry.2) :
    Foretold (loadToken (.map entries)) fun fault => TokenFault fault (.map entries) := by
  have cases := casesField each
  rw [loadToken]
  apply foretold_reportMissing
  split
  · rename_i hasType
    refine ((field_foretold "arg" entries).map Value.argument).congr fun fault => ?_
    rw [tokenFault_map_iff hasType]
    simp
  · rename_i hasType
    refine (field_bind_foretold "arg" fun arg => cases.map (Value.select arg)).congr fun fault => ?_
    rw [tokenFault_map_iff hasType]
    simp
  · rename_i hasType
    refine (field_bind_foretold "arg" fun arg =>
      cases.map (Value.plural arg · (loadOffset entries))).congr fun fault => ?_
    rw [tokenFault_map_iff hasType]
    simp
  · rename_i hasType
    refine (field_bind_foretold "arg" fun arg => cases.map (Value.ordinal arg)).congr fun fault => ?_
    rw [tokenFault_map_iff hasType]
    simp
  · rename_i hasType
    refine (field_bind_foretold "key" fun key => field_bind_foretold "arg" fun arg =>
      (loadParams_foretold entries).map (Value.call key arg)).congr fun fault => ?_
    rw [tokenFault_map_iff hasType]
    simp
  · rename_i hasType
    refine .ok _ fun fault => ?_
    rw [tokenFault_map_iff hasType]
    simp
  · rename_i noArgument noSelect noPlural noOrdinal noCall noOctothorpe
    refine foretold_asField (foretold_unrecognized _ fun fault faulty => ?_)
    cases faulty with
    | cases choice hasType =>
        simp only [List.mem_cons, List.not_mem_nil, or_false] at choice
        rcases choice with rfl | rfl | rfl
        · exact noSelect hasType
        · exact noPlural hasType
        · exact noOrdinal hasType
    | params hasType => exact noCall hasType

theorem map (each : ∀ entry ∈ entries, Forecast entry.2) : Forecast (.map entries) where
  token := loadToken_map each
  cases := by
    cases entries with
    | nil =>
        refine .ok [] fun fault faulty => ?_
        cases faulty with
        | flat flat => cases flat
        | keys some => exact some rfl
    | cons entry rest =>
        refine fieldForetold_fault rfl fun fault => ⟨fun faulty => ?_, ?_⟩
        · cases faulty with
          | flat flat => cases flat
          | keys => rfl
        · rintro rfl
          exact .keys nofun
  case := by
    rw [loadCase]
    exact (field_bind_foretold "key" fun key =>
      (bodyField each).map (Value.case (.str key.plain))).congr fun _ => caseFault_map_iff
  body := by
    rw [loadTokens]
    refine (loadKeys_foretold entries).congr fun fault => iff_of_false (fun faulty => ?_) id
    cases faulty with
    | flat flat => cases flat

end Forecast

mutual

theorem forecast : (value : Value) → Forecast value
  | .str text => .str text
  | .list items => .list (forecastItems items)
  | .map entries => .map (forecastEntries entries)
  | .null | .bool _ | .int _ | .float _ | .decimal _ | .date _ | .moment _ | .clock _ | .text _
  | .argument _ | .octothorpe | .case _ _ | .select _ _ | .plural _ _ _ | .ordinal _ _ | .call _ _ _
  | .message _ | .catalog _ => .plain rfl rfl rfl rfl rfl

theorem forecastItems : (items : List Value) → ∀ item ∈ items, Forecast item
  | [] => List.forall_mem_nil _
  | item :: rest => List.forall_mem_cons.mpr ⟨forecast item, forecastItems rest⟩

theorem forecastEntries : (entries : List (Key × Value)) → ∀ entry ∈ entries, Forecast entry.2
  | [] => List.forall_mem_nil _
  | (_, value) :: rest => List.forall_mem_cons.mpr ⟨forecast value, forecastEntries rest⟩

end

mutual

theorem load_foretold : (value : Value) →
    Foretold (load none value) fun fault => LoadFault fault value
  | .list items => by
      -- A message is loaded as the same list of tokens is in a case.
      have body := (forecast (.list items)).body
      refine (body.map Value.message).congr fun fault => ⟨fun faulty => ?_, .message⟩
      cases faulty with
      | message faulty => exact faulty
  | .map entries =>
      ((loadEntries_foretold entries).map _).congr fun _ => loadFault_map_iff
  | .str _ | .null | .bool _ | .int _ | .float _ | .decimal _ | .date _ | .moment _ | .clock _ | .text _
  | .argument _ | .octothorpe | .case _ _ | .select _ _ | .plural _ _ _ | .ordinal _ _ | .call _ _ _
  | .message _ | .catalog _ => foretold_malformed _ _ fun _ faulty => nomatch faulty

theorem loadEntries_foretold : (entries : List (Key × Value)) →
    Foretold (loadEntries none entries) fun fault =>
      FirstFlaw (fun entry => ∃ loaded, load none entry.2 = .ok loaded)
        (fun entry => LoadFault fault entry.2) entries
  | [] => .ok [] fun _ => not_firstFlaw_nil _ _
  | (key, value) :: rest =>
      ((load_foretold value).bind fun head =>
        (loadEntries_foretold rest).map ((key.plain, head) :: ·)).congr fun _ => firstFlaw_cons

end

/-- What is loaded without a parser is a template. -/
theorem template_of_load {value loaded : Value} (returned : load none value = .ok loaded) :
    (∃ tokens, loaded = .message tokens) ∨ ∃ entries, loaded = .catalog entries := by
  cases value with
  | list items =>
      rw [load] at returned
      cases result : loadTokenList items with
      | error failure =>
          rw [result] at returned
          cases returned
      | ok tokens =>
          rw [result] at returned
          cases returned
          exact .inl ⟨tokens, rfl⟩
  | map entries =>
      rw [load] at returned
      cases result : loadEntries none entries with
      | error failure =>
          rw [result] at returned
          cases returned
      | ok branches =>
          rw [result] at returned
          cases returned
          exact .inr ⟨_, rfl⟩
  | _ => cases returned

end Template

/-- Data is loaded as a template, or refused with an error of the template, or ends in a bare fault.  The
last happens exactly when the first flaw of the data is a container of the wrong type, which also decides
about the fault. -/
theorem load_faults_on_mistyped_containers (value : Value) :
    ((∃ tokens, Template.load none value = .ok (.message tokens)) ∨
      (∃ entries, Template.load none value = .ok (.catalog entries)) ∨
      ∃ failure, Template.load none value = .error failure ∧
        (failure.HasKind .unrecognizedToken ∨ failure.HasKind .malformedToken ∨
          ∃ fault, failure = .fault fault ∧ fault.kind = .wrongType)) ∧
    ∀ fault, Template.load none value = .error (.fault fault) ↔ Template.LoadFault fault value := by
  have foretold := Template.load_foretold value
  refine ⟨?_, foretold.faults⟩
  cases result : Template.load none value with
  | ok loaded =>
      rcases Template.template_of_load result with ⟨tokens, rfl⟩ | ⟨entries, rfl⟩
      · exact .inl ⟨tokens, rfl⟩
      · exact .inr (.inl ⟨entries, rfl⟩)
  | error failure => exact .inr (.inr ⟨failure, rfl, foretold.refuses failure result⟩)

/-- A message whose selection has a number in place of its cases. -/
def Value.countedSelection : Value :=
  .list [.map [(.str "type", .str "select"), (.str "arg", .str "a"), (.str "cases", .int 5)]]

theorem countedSelection_has_no_diagnostic :
    Value.countedSelection.IsJson ∧
    Template.load none Value.countedSelection = .error (.fault .notIterable) ∧
    ¬ ((∃ template, Template.load none Value.countedSelection = .ok template) ∨
      ∃ failure, Template.load none Value.countedSelection = .error failure ∧
        (failure.HasKind .unrecognizedToken ∨ failure.HasKind .malformedToken)) := by
  have faults : Template.load none Value.countedSelection = .error (.fault .notIterable) := rfl
  refine ⟨by simp [Value.countedSelection], faults, fun either => ?_⟩
  rw [faults] at either
  rcases either with ⟨template, returned⟩ | ⟨failure, failed, kind⟩
  · cases returned
  · cases failed
    rcases kind with kind | kind <;> exact kind

end Phrasebook
