import Mathlib.Data.List.Forall2
import Phrasebook.Proofs.Entries
import Phrasebook.Proofs.Template.Fields
import Phrasebook.Template.Basic

/-!
The documents of templates.  A message is a list of tokens, a catalog has the documents of its
templates under its keys, a text stands for itself, and every other part is written as entries with its
kind and its fields, in any order and among any others.  A field that says nothing may be left out.
Loading a document gives back the template that it was written for.
-/

namespace Phrasebook

/-- A field with its value, or not written at all when it may be left out. -/
inductive Written (entries : List (Key × Value)) (name : String) (omissible : Prop) (value : Value) :
    Prop where
  | present (member : (.str name, value) ∈ entries)
  | omitted (may : omissible) (absent : ∀ other, (Key.str name, other) ∉ entries)

/-- Entries without repeated keys that say which kind of part they are. -/
structure OfKind (kind : String) (entries : List (Key × Value)) : Prop where
  distinct : (entries.map Prod.fst).Nodup
  type : (.str "type", .str kind) ∈ entries

mutual

inductive Token.EncodedAs : Token → Value → Prop where
  | text (text : String) : Token.EncodedAs (.text text) (.str text)
  | octothorpe {entries : List (Key × Value)} (object : OfKind "octothorpe" entries) :
      Token.EncodedAs .octothorpe (.map entries)
  | argument {arg : String} {entries : List (Key × Value)} (object : OfKind "argument" entries)
      (hasArg : (.str "arg", .str arg) ∈ entries) : Token.EncodedAs (.argument arg) (.map entries)
  | select {arg : String} {cases : List Case} {documents : List Value} {entries : List (Key × Value)}
      (object : OfKind "select" entries) (hasArg : (.str "arg", .str arg) ∈ entries)
      (hasCases : (.str "cases", .list documents) ∈ entries)
      (each : List.Forall₂ Case.EncodedAs cases documents) :
      Token.EncodedAs (.select arg cases) (.map entries)
  | plural {arg : String} {cases : List Case} {offset : Int} {documents : List Value}
      {entries : List (Key × Value)} (object : OfKind "plural" entries)
      (hasArg : (.str "arg", .str arg) ∈ entries)
      (hasCases : (.str "cases", .list documents) ∈ entries)
      (each : List.Forall₂ Case.EncodedAs cases documents)
      (hasOffset : Written entries "offset" (offset = 0) (.int offset)) :
      Token.EncodedAs (.plural arg cases (.int offset)) (.map entries)
  | ordinal {arg : String} {cases : List Case} {documents : List Value} {entries : List (Key × Value)}
      (object : OfKind "selectordinal" entries) (hasArg : (.str "arg", .str arg) ∈ entries)
      (hasCases : (.str "cases", .list documents) ∈ entries)
      (each : List.Forall₂ Case.EncodedAs cases documents) :
      Token.EncodedAs (.ordinal arg cases) (.map entries)
  | call {key arg : String} {params : List String} {entries : List (Key × Value)}
      (object : OfKind "function" entries) (hasKey : (.str "key", .str key) ∈ entries)
      (hasArg : (.str "arg", .str arg) ∈ entries)
      (hasParams : Written entries "params" (params = []) (.list (params.map .str))) :
      Token.EncodedAs (.call key arg params) (.map entries)

inductive Case.EncodedAs : Case → Value → Prop where
  | mk {key : String} {body : List Token} {documents : List Value} {entries : List (Key × Value)}
      (distinct : (entries.map Prod.fst).Nodup) (hasKey : (.str "key", .str key) ∈ entries)
      (hasTokens : Written entries "tokens" (body = []) (.list documents))
      (each : List.Forall₂ Token.EncodedAs body documents) :
      Case.EncodedAs (.mk key body) (.map entries)

end

mutual

inductive Template.EncodedAs : Template → Value → Prop where
  | message {tokens : List Token} {documents : List Value}
      (each : List.Forall₂ Token.EncodedAs tokens documents) :
      Template.EncodedAs (.message tokens) (.list documents)
  | catalog {branches : List (String × Template)} {documents : List (Key × Value)}
      (distinct : (branches.map Prod.fst).Nodup) (each : Template.BranchesEncodedAs branches documents) :
      Template.EncodedAs (.catalog branches) (.map documents)

/-- The documents of the branches, under their keys and in their order. -/
inductive Template.BranchesEncodedAs : List (String × Template) → List (Key × Value) → Prop where
  | nil : Template.BranchesEncodedAs [] []
  | cons {key : String} {branch : Template} {document : Value} {rest : List (String × Template)}
      {documents : List (Key × Value)} (first : branch.EncodedAs document)
      (others : Template.BranchesEncodedAs rest documents) :
      Template.BranchesEncodedAs ((key, branch) :: rest) ((.str key, document) :: documents)

end

namespace Template

variable {entries : List (Key × Value)} {name : String} {value : Value}

theorem field_of_mem (distinct : (entries.map Prod.fst).Nodup)
    (member : (.str name, value) ∈ entries) : field name entries = .ok value := by
  rw [field, field?_of_mem distinct member]
  rfl

theorem loadOffset_of_written {offset : Int} (distinct : (entries.map Prod.fst).Nodup)
    (written : Written entries "offset" (offset = 0) (.int offset)) :
    loadOffset entries = .int offset := by
  unfold loadOffset
  cases written with
  | present member =>
      rw [field?_of_mem distinct member]
      by_cases zero : offset = 0 <;> simp [Value.isGiven, zero]
  | omitted zero absent => rw [field?_eq_none_iff.mpr absent, zero]

theorem loadParams_of_written {params : List String} (distinct : (entries.map Prod.fst).Nodup)
    (written : Written entries "params" (params = []) (.list (params.map .str))) :
    loadParams entries = .ok (params.map .str) := by
  unfold loadParams
  cases written with
  | present member =>
      rw [field?_of_mem distinct member]
      cases params <;> rfl
  | omitted empty absent =>
      rw [field?_eq_none_iff.mpr absent, empty]
      rfl

theorem loadBodyField_of_written {body : List Token} {documents : List Value}
    (distinct : (entries.map Prod.fst).Nodup)
    (written : Written entries "tokens" (body = []) (.list documents))
    (loaded : loadTokenList documents = .ok (Token.toValues body)) :
    loadBodyField entries = .ok (Token.toValues body) := by
  rw [loadBodyField_eq]
  cases written with
  | present member =>
      rw [field?_of_mem distinct member]
      simp only [loadTokens, loaded]
      rfl
  | omitted empty absent =>
      rw [field?_eq_none_iff.mpr absent, empty]
      rfl

mutual

theorem loadToken_of_encodedAs : (token : Token) → {document : Value} →
    token.EncodedAs document → loadToken document = .ok token.toValue
  | .text _, _, .text _ => rfl
  | .octothorpe, _, .octothorpe object => by
      rw [loadToken, field?_of_mem object.distinct object.type]
      rfl
  | .argument arg, _, .argument object hasArg => by
      rw [loadToken, field?_of_mem object.distinct object.type, field_of_mem object.distinct hasArg]
      rfl
  | .select arg cases, _, .select object hasArg hasCases each => by
      rw [loadToken, field?_of_mem object.distinct object.type, field_of_mem object.distinct hasArg,
        loadCasesField_eq, field?_of_mem object.distinct hasCases]
      simp only [loadCases, loadCaseList_of_encodedAs cases each]
      rfl
  | .plural arg cases _, _, .plural object hasArg hasCases each hasOffset => by
      rw [loadToken, field?_of_mem object.distinct object.type, field_of_mem object.distinct hasArg,
        loadCasesField_eq, field?_of_mem object.distinct hasCases,
        loadOffset_of_written object.distinct hasOffset]
      simp only [loadCases, loadCaseList_of_encodedAs cases each]
      rfl
  | .ordinal arg cases, _, .ordinal object hasArg hasCases each => by
      rw [loadToken, field?_of_mem object.distinct object.type, field_of_mem object.distinct hasArg,
        loadCasesField_eq, field?_of_mem object.distinct hasCases]
      simp only [loadCases, loadCaseList_of_encodedAs cases each]
      rfl
  | .call key arg params, _, .call object hasKey hasArg hasParams => by
      rw [loadToken, field?_of_mem object.distinct object.type, field_of_mem object.distinct hasKey,
        field_of_mem object.distinct hasArg, loadParams_of_written object.distinct hasParams]
      rfl

theorem loadTokenList_of_encodedAs : (tokens : List Token) → {documents : List Value} →
    List.Forall₂ Token.EncodedAs tokens documents →
    loadTokenList documents = .ok (Token.toValues tokens)
  | [], _, .nil => rfl
  | token :: rest, _, .cons first others => by
      rw [loadTokenList, loadToken_of_encodedAs token first, loadTokenList_of_encodedAs rest others]
      rfl

theorem loadCaseList_of_encodedAs : (cases : List Case) → {documents : List Value} →
    List.Forall₂ Case.EncodedAs cases documents →
    loadCaseList documents = .ok (Case.toValues cases)
  | [], _, .nil => rfl
  | .mk key body :: rest, _, .cons (.mk distinct hasKey hasTokens each) others => by
      have tokens := loadTokenList_of_encodedAs body each
      rw [loadCaseList, loadCase, field_of_mem distinct hasKey,
        loadBodyField_of_written distinct hasTokens tokens, loadCaseList_of_encodedAs rest others]
      rfl

end

theorem toBranches_keys : (branches : List (String × Template)) →
    (toBranches branches).map Prod.fst = branches.map Prod.fst
  | [] => rfl
  | (key, branch) :: rest => by rw [toBranches, List.map_cons, List.map_cons, toBranches_keys rest]

end Template

/-- Loading a document gives back its template, whether or not there is a parser for sources. -/
theorem load_inverts_encoding (parser : Option Template.Parser) (template : Template) (document : Value)
    (encoded : template.EncodedAs document) : Template.load parser document = .ok template.toValue := by
  -- By induction on how the template is encoded, together with the branches of catalogs.
  refine @Template.EncodedAs.rec
    (fun template document _ => Template.load parser document = .ok template.toValue)
    (fun branches documents _ =>
      Template.loadEntries parser documents = .ok (Template.toBranches branches))
    ?message ?catalog ?nil ?cons template document encoded
  case message =>
    intro tokens documents each
    rw [Template.load, Template.loadTokenList_of_encodedAs tokens each]
    rfl
  case catalog =>
    intro branches documents distinct _ loaded
    rw [← Template.toBranches_keys branches] at distinct
    rw [Template.load, loaded]
    simp only [bind, Except.bind, pure, Except.pure, Entries.ofList_of_nodup distinct]
    rfl
  case nil => rfl
  case cons =>
    intro key branch document rest documents _ _ loaded others
    rw [Template.loadEntries, loaded, others]
    rfl

def Template.stay : Template :=
  .catalog [
    ("nights", .message [.plural "n" [.mk "other" []] (.int 0), .text "."]),
    ("guest", .message [.call "number" "n" [], .select "g" [.mk "other" [.octothorpe]]])]

def Template.stayDocument : Value :=
  .map [
    (.str "nights", .list [
      .map [
        (.str "cases", .list [.map [(.str "type", .null), (.str "key", .str "other")]]),
        (.str "arg", .str "n"),
        (.str "type", .str "plural")],
      .str "."]),
    (.str "guest", .list [
      .map [
        (.str "offset", .int 1),
        (.str "arg", .str "n"),
        (.str "type", .str "function"),
        (.str "key", .str "number")],
      .map [
        (.str "type", .str "select"),
        (.str "cases", .list [.map [
          (.str "tokens", .list [.map [(.str "type", .str "octothorpe")]]),
          (.str "key", .str "other")]]),
        (.str "arg", .str "g")]])]

theorem stayDocument_loads :
    Template.stay.EncodedAs Template.stayDocument ∧
      Template.load none Template.stayDocument = .ok Template.stay.toValue := by
  have encoded : Template.stay.EncodedAs Template.stayDocument := by
    refine .catalog (by decide) (.cons ?nights (.cons ?guest .nil))
    case nights =>
      exact .message (.cons (.plural ⟨by decide, by simp⟩ (by simp) (.head _)
        (.cons (.mk (by decide) (by simp) (.omitted rfl (by simp)) .nil) .nil)
        (.omitted rfl (by simp))) (.cons (.text ".") .nil))
    case guest =>
      exact .message (.cons (.call ⟨by decide, by simp⟩ (by simp) (by simp) (.omitted rfl (by simp)))
        (.cons (.select ⟨by decide, by simp⟩ (by simp) (.tail _ (.head _))
          (.cons (.mk (by decide) (by simp) (.present (.head _))
            (.cons (.octothorpe ⟨by decide, by simp⟩) .nil)) .nil)) .nil))
  exact ⟨encoded, load_inverts_encoding none .stay Template.stayDocument encoded⟩

end Phrasebook
