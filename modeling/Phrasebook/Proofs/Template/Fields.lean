import Phrasebook.Template.Loading

/-!
The fields that data is loaded from.  A field of entries without repeated keys is the one value that
stands under its name, wherever it stands.
-/

namespace Phrasebook

namespace Template

variable {entries : List (Key × Value)} {name : String} {value : Value}

theorem field?_cons (key : Key) :
    field? name ((key, value) :: entries) = if key = .str name then some value else field? name entries := by
  unfold field?
  rw [List.find?_cons]
  by_cases same : key = .str name <;> simp [same]

theorem mem_of_field? (found : field? name entries = some value) : (.str name, value) ∈ entries := by
  induction entries with
  | nil => cases found
  | cons entry rest ih =>
      obtain ⟨key, held⟩ := entry
      rw [field?_cons] at found
      split at found
      · rename_i same
        cases found
        rw [same]
        exact List.mem_cons_self
      · exact List.mem_cons_of_mem _ (ih found)

theorem field?_of_mem (distinct : (entries.map Prod.fst).Nodup)
    (member : (.str name, value) ∈ entries) : field? name entries = some value := by
  induction entries with
  | nil => cases member
  | cons entry rest ih =>
      obtain ⟨key, held⟩ := entry
      obtain ⟨fresh, others⟩ := List.nodup_cons.mp distinct
      rw [field?_cons]
      rcases List.mem_cons.mp member with same | later
      · cases same
        rw [if_pos rfl]
      · have different : key ≠ .str name := by
          intro same
          rw [same] at fresh
          exact fresh (List.mem_map.mpr ⟨_, later, rfl⟩)
        rw [if_neg different, ih others later]

theorem field?_eq_none_iff :
    field? name entries = none ↔ ∀ value, (Key.str name, value) ∉ entries := by
  rw [field?, Option.map_eq_none_iff, List.find?_eq_none]
  constructor
  · intro none value member
    exact none _ member (decide_eq_true rfl)
  · intro absent entry member same
    rw [← of_decide_eq_true same] at absent
    exact absent entry.2 member

theorem loadCasesField_eq (entries : List (Key × Value)) :
    loadCasesField entries = match field? "cases" entries with
      | some cases => loadCases cases
      | none => throw (.missing "cases") := by
  induction entries with
  | nil => rfl
  | cons entry rest ih =>
      obtain ⟨key, value⟩ := entry
      rw [loadCasesField, field?_cons, ih]
      split <;> rfl

theorem loadBodyField_eq (entries : List (Key × Value)) :
    loadBodyField entries = match field? "tokens" entries with
      | some tokens => asField (loadTokens tokens)
      | none => pure [] := by
  induction entries with
  | nil => rfl
  | cons entry rest ih =>
      obtain ⟨key, value⟩ := entry
      rw [loadBodyField, field?_cons, ih]
      split <;> rfl

end Template

end Phrasebook
