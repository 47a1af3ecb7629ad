import Mathlib.Data.List.Induction
import Phrasebook.Entries

/-!
Entries that are put one after another.  The value under a key is the one put last, the keys stand in
the order in which they were first put, and entries whose keys are all different stay as they are
listed.
-/

namespace Phrasebook.Entries

variable {κ ν : Type} [BEq κ]

theorem ofList_concat (pairs : List (κ × ν)) (key : κ) (value : ν) :
    ofList (pairs ++ [(key, value)]) = put (ofList pairs) key value := by
  rw [ofList, List.foldl_append]
  rfl

variable [LawfulBEq κ]

theorem lookup_put (entries : List (κ × ν)) (key sought : κ) (value : ν) :
    (put entries key value).lookup sought =
      if sought == key then some value else entries.lookup sought := by
  induction entries with
  | nil => cases same : sought == key <;> simp [put, List.lookup_cons, same]
  | cons entry rest ih =>
      obtain ⟨present, held⟩ := entry
      by_cases found : present = key
      · subst present
        cases same : sought == key <;> simp [put, List.lookup_cons, same]
      · have kept : (present == key) = false := by simp [found]
        simp only [put, kept, Bool.false_eq_true, if_false, List.lookup_cons, ih]
        cases first : sought == present with
        | false => rfl
        | true =>
            have other : (sought == key) = false := by rw [beq_iff_eq.mp first, kept]
            simp [other]

theorem put_of_fresh {entries : List (κ × ν)} {key : κ} (fresh : key ∉ entries.map Prod.fst)
    (value : ν) : put entries key value = entries ++ [(key, value)] := by
  induction entries with
  | nil => rfl
  | cons entry rest ih =>
      obtain ⟨present, held⟩ := entry
      rw [List.map_cons, List.mem_cons, not_or] at fresh
      have different : (present == key) = false := beq_false_of_ne (Ne.symm fresh.1)
      rw [put, different, ih fresh.2]
      rfl

theorem keys_put_of_mem {entries : List (κ × ν)} {key : κ} (present : key ∈ entries.map Prod.fst)
    (value : ν) : (put entries key value).map Prod.fst = entries.map Prod.fst := by
  induction entries with
  | nil => cases present
  | cons entry rest ih =>
      obtain ⟨first, held⟩ := entry
      by_cases same : first = key
      · simp [put, same]
      · have later : key ∈ rest.map Prod.fst := by
          rcases List.mem_cons.mp present with found | later
          · exact absurd found.symm same
          · exact later
        simp [put, same, ih later]

theorem foldl_put_of_nodup {pairs : List (κ × ν)} (before : List (κ × ν))
    (distinct : ((before ++ pairs).map Prod.fst).Nodup) :
    pairs.foldl (fun entries pair => put entries pair.1 pair.2) before = before ++ pairs := by
  induction pairs generalizing before with
  | nil => rw [List.foldl_nil, List.append_nil]
  | cons pair rest ih =>
      have fresh : pair.1 ∉ before.map Prod.fst := by
        rw [List.map_append, List.map_cons] at distinct
        intro member
        exact (List.nodup_append.mp distinct).2.2 _ member _ List.mem_cons_self rfl
      rw [List.append_cons] at distinct
      rw [List.foldl_cons, put_of_fresh fresh, ih _ distinct, ← List.append_cons]

theorem ofList_of_nodup {pairs : List (κ × ν)} (distinct : (pairs.map Prod.fst).Nodup) :
    ofList pairs = pairs :=
  foldl_put_of_nodup [] distinct

theorem lookup_ofList (pairs : List (κ × ν)) (key : κ) :
    (ofList pairs).lookup key = pairs.reverse.lookup key := by
  induction pairs using List.reverseRecOn with
  | nil => rfl
  | append_singleton pairs last ih =>
      rw [ofList_concat, lookup_put, ih, List.reverse_concat, List.lookup_cons]
      cases key == last.1 <;> rfl

theorem keys_ofList (pairs : List (κ × ν)) :
    (ofList pairs).map Prod.fst = (pairs.map Prod.fst).eraseDups := by
  induction pairs using List.reverseRecOn with
  | nil => rfl
  | append_singleton pairs last ih =>
      rw [ofList_concat, List.map_append, List.eraseDups_append, ← ih]
      have same : last.1 ∈ (ofList pairs).map Prod.fst ↔ last.1 ∈ pairs.map Prod.fst := by
        rw [ih, List.mem_eraseDups]
      by_cases present : last.1 ∈ pairs.map Prod.fst
      · rw [keys_put_of_mem (same.mpr present)]
        simp [List.removeAll, present]
      · rw [put_of_fresh (mt same.mp present), List.map_append]
        simp [List.removeAll, present, List.eraseDups_cons]

theorem keys_ofList_nodup (pairs : List (κ × ν)) : ((ofList pairs).map Prod.fst).Nodup := by
  induction pairs using List.reverseRecOn with
  | nil => exact List.nodup_nil
  | append_singleton pairs last ih =>
      rw [ofList_concat]
      by_cases present : last.1 ∈ (ofList pairs).map Prod.fst
      · rwa [keys_put_of_mem present]
      · rw [put_of_fresh present, List.map_append]
        refine List.nodup_append.mpr ⟨ih, List.pairwise_singleton _ _, fun key member other single => ?_⟩
        rw [List.mem_singleton.mp single]
        exact fun same => present (same ▸ member)

end Phrasebook.Entries
