import BlockVolumes.Dictionary
import Mathlib.Data.List.Basic
import Mathlib.Data.List.Nodup

/-
  The keys of maps from text to text, and their values. Where
  no key is given twice, the values do not depend on the order
  of the entries.

  Key theorems include:
    * `Dictionary.find?_eq_some_iff`
    * `Dictionary.find?_perm`
    * `Dictionary.find?_filter`
    * `Dictionary.find?_merge`
-/

namespace BlockVolumes

namespace Dictionary

variable {entries order : Dictionary}
variable {key value : String}

/- The keys that have a value are those of the entries. -/
theorem isSome_find?_iff :
    (entries.find? key).isSome = true ↔
      key ∈ entries.map Prod.fst := by
  induction entries with
  | nil => simp [find?]
  | cons entry entries ih =>
      rw [find?, List.map_cons, List.mem_cons, ← ih]
      split
      · next hKey => simp [hKey]
      · next hOther => simp [Ne.symm hOther]

theorem find?_eq_some_iff
    (hDistinct : (entries.map Prod.fst).Nodup) :
    entries.find? key = some value ↔ (key, value) ∈ entries := by
  induction entries with
  | nil => simp [find?]
  | cons entry entries ih =>
      rw [List.map_cons, List.nodup_cons] at hDistinct
      rw [find?, List.mem_cons]
      split
      · next hKey =>
          have hNew : (key, value) ∉ entries := by
            intro hMem
            apply hDistinct.1
            rw [hKey]
            exact List.mem_map_of_mem hMem
          rw [or_iff_left hNew, Option.some.injEq, Prod.ext_iff]
          simp [hKey, eq_comm]
      · next hOther =>
          have hNe : (key, value) ≠ entry := by
            rintro rfl
            exact hOther rfl
          rw [or_iff_right hNe]
          exact ih hDistinct.2

/- A key that is there keeps its place among the keys. -/
theorem keys_insert_of_mem
    (h : key ∈ entries.map Prod.fst) :
    (entries.insert key value).map Prod.fst =
      entries.map Prod.fst := by
  induction entries with
  | nil => exact nomatch h
  | cons entry entries ih =>
      rw [insert]
      split
      · rfl
      · next hOther =>
          rw [List.map_cons, List.mem_cons,
            or_iff_right (Ne.symm hOther)] at h
          rw [List.map_cons, List.map_cons, ih h]

/- A key that is new comes last. -/
theorem keys_insert_of_not_mem
    (h : key ∉ entries.map Prod.fst) :
    (entries.insert key value).map Prod.fst =
      entries.map Prod.fst ++ [key] := by
  induction entries with
  | nil => rfl
  | cons entry entries ih =>
      rw [List.map_cons, List.mem_cons, not_or] at h
      rw [insert, if_neg (Ne.symm h.1), List.map_cons, List.map_cons,
        ih h.2, List.cons_append]

/- The values of a map are the same in any order. -/
theorem find?_perm
    (hDistinct : (entries.map Prod.fst).Nodup)
    (hPerm : order.Perm entries)
    (key : String) :
    order.find? key = entries.find? key := by
  have hOrder : (order.map Prod.fst).Nodup :=
    (hPerm.map Prod.fst).nodup_iff.mpr hDistinct
  apply Option.ext
  intro value
  rw [find?_eq_some_iff hOrder, find?_eq_some_iff hDistinct]
  exact hPerm.mem_iff

/- Entries of other keys do not matter for a key. -/
theorem find?_filter
    {keeps : String × String → Bool}
    (hKeeps : ∀ value, keeps (key, value) = true)
    (entries : Dictionary) :
    find? (entries.filter keeps) key = entries.find? key := by
  induction entries with
  | nil => rfl
  | cons entry entries ih =>
      rcases entry with ⟨name, value⟩
      by_cases hKey : name = key
      · subst hKey
        rw [List.filter_cons, if_pos (hKeeps value)]
        simp [find?]
      · rw [List.filter_cons]
        split <;> simp [find?, hKey, ih]

/- A key that is given a value is not given twice. -/
theorem nodup_keys_insert
    (hDistinct : (entries.map Prod.fst).Nodup) :
    ((entries.insert key value).map Prod.fst).Nodup := by
  by_cases hMem : key ∈ entries.map Prod.fst
  · rw [keys_insert_of_mem hMem]
    exact hDistinct
  · rw [keys_insert_of_not_mem hMem, ← List.concat_eq_append]
    exact hDistinct.concat hMem

/- The values put over others count, the others are kept. -/
theorem find?_merge
    {changes : Dictionary}
    (hDistinct : (changes.map Prod.fst).Nodup)
    (entries : Dictionary)
    (key : String) :
    (entries.merge changes).find? key =
      (changes.find? key).or (entries.find? key) := by
  induction changes generalizing entries with
  | nil => rfl
  | cons change changes ih =>
      rcases change with ⟨name, value⟩
      rw [List.map_cons, List.nodup_cons] at hDistinct
      have hMerge :
          entries.merge ((name, value) :: changes) =
            (entries.insert name value).merge changes :=
        rfl
      rw [hMerge, ih hDistinct.2]
      by_cases hName : name = key
      · subst hName
        have hNone : find? changes name = none := by
          rw [← Option.not_isSome_iff_eq_none, isSome_find?_iff]
          exact hDistinct.1
        rw [hNone, find?_insert_self]
        simp [find?]
      · rw [find?_insert_of_ne (Ne.symm hName)]
        simp [find?, hName]

end Dictionary

end BlockVolumes
