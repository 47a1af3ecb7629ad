import Phrasebook.Proofs.Target.Reader

/-!
Property names in emitted source.  Whatever the key, its name is read again as this key, alone or behind a
receiver, and reading stops where the name ends; only a bare name needs something after it that cannot go
on with it.  A name stands bare exactly when it is an identifier and no reserved word.
-/

namespace Phrasebook.Target

open Json

/-- Reads the receiver and a member of it. -/
def readMemberOf (receiver : String) (chars : List Char) : Option (String × List Char) :=
  if receiver.toList <+: chars then readMember (chars.drop receiver.toList.length) else none

theorem readMemberOf_append (receiver : String) (chars : List Char) :
    readMemberOf receiver (receiver.toList ++ chars) = readMember chars := by
  rw [readMemberOf, if_pos (List.prefix_append _ _), List.drop_left]

theorem toList_propertyName_none (key : String) : (propertyName key none).toList = propertyChars key :=
  String.toList_ofList

theorem toList_propertyName_some {receiver : String} (named : receiver ≠ "") (key : String) :
    (propertyName key (some receiver)).toList = memberChars receiver.toList key := by
  have kept : (some receiver).filter (!·.isEmpty) = some receiver := by simp [named]
  rw [propertyName, kept]
  exact String.toList_ofList

section

variable {rest : List Char} (stop : ∀ c ∈ rest.head?, isIdentifierChar c = false) (key : String)
include stop

theorem readPropertyName_propertyName :
    readPropertyName ((propertyName key none).toList ++ rest) = some (key, rest) := by
  rw [toList_propertyName_none]
  exact readPropertyName_append (spellsKey_propertyChars key) stop

theorem readMemberOf_propertyName {receiver : String} (named : receiver ≠ "") :
    readMemberOf receiver ((propertyName key (some receiver)).toList ++ rest) = some (key, rest) := by
  obtain ⟨chars, member, written⟩ := memberChars_eq_append receiver.toList key
  rw [toList_propertyName_some named, written, List.append_assoc, readMemberOf_append]
  exact readMember_append member stop

end

section

variable {first second : String} {chars : List Char}

-- Each spelling is read with nothing after it, and the reader gives one answer.
theorem SpellsKey.key_eq (one : SpellsKey first chars) (other : SpellsKey second chars) :
    first = second := by
  have readFirst := @readPropertyName_append first chars [] one nofun
  have readSecond := @readPropertyName_append second chars [] other nofun
  exact (Prod.mk.inj (Option.some.inj (readFirst.symm.trans readSecond))).1

theorem SpellsMember.key_eq (one : SpellsMember first chars) (other : SpellsMember second chars) :
    first = second := by
  have readFirst := @readMember_append first chars [] one nofun
  have readSecond := @readMember_append second chars [] other nofun
  exact (Prod.mk.inj (Option.some.inj (readFirst.symm.trans readSecond))).1

theorem propertyChars_injective (same : propertyChars first = propertyChars second) : first = second := by
  have one := spellsKey_propertyChars first
  rw [same] at one
  exact one.key_eq (spellsKey_propertyChars second)

theorem memberChars_injective (receiver : List Char)
    (same : memberChars receiver first = memberChars receiver second) : first = second := by
  obtain ⟨chars, one, written⟩ := memberChars_eq_append receiver first
  obtain ⟨others, other, otherWritten⟩ := memberChars_eq_append receiver second
  rw [written, otherWritten] at same
  rw [List.append_cancel_left same] at one
  exact one.key_eq other

theorem propertyName_injective (receiver : Option String)
    (same : propertyName first receiver = propertyName second receiver) : first = second := by
  unfold propertyName at same
  split at same
  · exact memberChars_injective _ (String.ofList_injective same)
  · exact propertyChars_injective (String.ofList_injective same)

end

theorem isBareProperty_iff (key : String) :
    isBareProperty key = true ↔ isIdentifier key.toList = true ∧ key ∉ reservedProperties := by
  simp [isBareProperty]

theorem propertyName_eq_self_iff (key : String) :
    propertyName key none = key ↔ isIdentifier key.toList = true ∧ key ∉ reservedProperties := by
  rw [← String.toList_inj, toList_propertyName_none, propertyChars, ← isBareProperty_iff]
  cases isBareProperty key with
  | true => simp
  | false => simp [stringChars_ne]

theorem propertyName_eq_point_iff {receiver : String} (named : receiver ≠ "") (key : String) :
    propertyName key (some receiver) = receiver ++ "." ++ key ↔
      isIdentifier key.toList = true ∧ key ∉ reservedProperties := by
  rw [← String.toList_inj, toList_propertyName_some named, memberChars, ← isBareProperty_iff]
  cases isBareProperty key <;> simp

/-- A property name is read again as its key, whatever comes after; it stands bare only if it is an
identifier that is not reserved; and two keys never have one name. -/
theorem property_names_are_recovered :
    (∀ (key : String) (rest : List Char), (∀ c ∈ rest.head?, isIdentifierChar c = false) →
      readPropertyName ((propertyName key none).toList ++ rest) = some (key, rest) ∧
      ∀ receiver, receiver ≠ "" →
        readMemberOf receiver ((propertyName key (some receiver)).toList ++ rest) = some (key, rest)) ∧
    (∀ key : String,
      (propertyName key none = key ↔ isIdentifier key.toList = true ∧ key ∉ reservedProperties) ∧
      ∀ receiver, receiver ≠ "" → (propertyName key (some receiver) = receiver ++ "." ++ key ↔
        isIdentifier key.toList = true ∧ key ∉ reservedProperties)) ∧
    ∀ (receiver : Option String) (first second : String),
      propertyName first receiver = propertyName second receiver → first = second := by
  refine ⟨fun key rest stop => ?_, fun key => ?_, fun receiver _ _ => propertyName_injective receiver⟩
  · exact ⟨readPropertyName_propertyName stop key, fun _ named => readMemberOf_propertyName stop key named⟩
  · exact ⟨propertyName_eq_self_iff key, fun _ named => propertyName_eq_point_iff named key⟩

theorem broken_name_is_recovered :
    (∀ c ∈ [':', ' '].head?, isIdentifierChar c = false) ∧
      readPropertyName ((propertyName "a\n" none).toList ++ [':', ' ']) = some ("a\n", [':', ' ']) ∧
      readMemberOf "fmt" ((propertyName "a\n" (some "fmt")).toList ++ [':', ' ']) =
        some ("a\n", [':', ' ']) := by
  have stop : ∀ c ∈ [':', ' '].head?, isIdentifierChar c = false := by
    rintro _ ⟨⟩
    decide
  obtain ⟨alone, member⟩ := property_names_are_recovered.1 "a\n" [':', ' '] stop
  exact ⟨stop, alone, member "fmt" (by decide)⟩

end Phrasebook.Target
