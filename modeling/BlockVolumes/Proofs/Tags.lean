import BlockVolumes.Proofs.Dictionary
import BlockVolumes.Proofs.Text.Pieces
import BlockVolumes.Tags

/-
  Which tags a text describes. Of its entries, the first five
  keys are kept, each with its last value, so that the tags
  that are written as entries are read again.

  Key definitions include:
    * `Tags.IsEntry`
    * `Tags.Reads`
    * `Tags.Kept`
    * `Tags.Printable`
    * `Tags.render`

  Key theorems include:
    * `Tags.entry?_eq_some_iff`
    * `Tags.Kept.keep`
    * `Tags.parse_keeps_first_keys`
-/

namespace BlockVolumes

namespace Tags

------------------------------------------------------------
-- Entries
------------------------------------------------------------

/-
  Whether a text is an entry: a single sign stands between a
  key and a value, and neither of them is blank.
-/
inductive IsEntry : String → String × String → Prop where
  | intro
      {key value : String}
      (hKey : '~' ∉ key.toList)
      (hValue : '~' ∉ value.toList)
      (hKeySome : Text.trim key ≠ "")
      (hValueSome : Text.trim value ≠ "") :
      IsEntry (key ++ "~" ++ value) (Text.trim key, Text.trim value)

/- The entries among some texts, in their order. -/
inductive Reads :
    List String → List (String × String) → Prop where
  | nil : Reads [] []
  | entry
      {piece : String}
      {pieces : List String}
      {entry : String × String}
      {entries : List (String × String)}
      (hEntry : IsEntry piece entry)
      (hRest : Reads pieces entries) :
      Reads (piece :: pieces) (entry :: entries)
  | skip
      {piece : String}
      {pieces : List String}
      {entries : List (String × String)}
      (hNone : ∀ entry, ¬ IsEntry piece entry)
      (hRest : Reads pieces entries) :
      Reads (piece :: pieces) entries

variable {raw piece key value : String}
variable {pieces : List String}
variable {entry : String × String}
variable {entries : List (String × String)}
variable {tags order : Dictionary}

theorem splitAtEvery_eq_pair_iff :
    Text.splitAtEvery '~' raw = [key, value] ↔
      raw = key ++ "~" ++ value ∧ '~' ∉ key.toList ∧
        '~' ∉ value.toList := by
  have hJoin :
      Text.joinWith (String.singleton '~') [key, value] =
        key ++ "~" ++ value :=
    rfl
  constructor
  · intro h
    refine ⟨?_, ?_, ?_⟩
    · rw [← hJoin, ← h, Text.joinWith_splitAtEvery]
    · apply Text.not_mem_of_mem_splitAtEvery (s := raw)
      simp [h]
    · apply Text.not_mem_of_mem_splitAtEvery (s := raw)
      simp [h]
  · rintro ⟨rfl, hKey, hValue⟩
    rw [← hJoin]
    apply Text.splitAtEvery_joinWith
    · simp [hKey, hValue]
    · simp

theorem entry?_eq_some_iff :
    entry? raw = some entry ↔ IsEntry raw entry := by
  constructor
  · intro h
    unfold entry? at h
    split at h
    · next key value hSplit =>
        rcases splitAtEvery_eq_pair_iff.mp hSplit with
          ⟨rfl, hKey, hValue⟩
        dsimp only at h
        split at h
        · exact nomatch h
        · next hSome =>
            cases h
            simp only [Bool.or_eq_true, String.isEmpty_iff,
              not_or] at hSome
            exact .intro hKey hValue hSome.1 hSome.2
    · exact nomatch h
  · rintro ⟨hKey, hValue, hKeySome, hValueSome⟩
    unfold entry?
    rw [splitAtEvery_eq_pair_iff.mpr ⟨rfl, hKey, hValue⟩]
    simp [hKeySome, hValueSome]

theorem reads_filterMap
    (pieces : List String) :
    Reads pieces (pieces.filterMap entry?) := by
  induction pieces with
  | nil => exact .nil
  | cons piece pieces ih =>
      rw [List.filterMap_cons]
      split
      · next hNone =>
          refine .skip (fun entry hEntry => ?_) ih
          rw [entry?_eq_some_iff.mpr hEntry] at hNone
          exact nomatch hNone
      · next entry hEntry =>
          exact .entry (entry?_eq_some_iff.mp hEntry) ih

------------------------------------------------------------
-- The Tags That Are Kept
------------------------------------------------------------

/- Whether the last entry of a key has a value. -/
def IsLast
    (entries : List (String × String))
    (key value : String) : Prop :=
  ∃ before after,
    entries = before ++ (key, value) :: after ∧
      ∀ later ∈ after, later.1 ≠ key

/-
  Whether tags are what is kept of some entries: the first
  five keys in their order, and the last value of each.
-/
structure Kept
    (entries : List (String × String))
    (tags : Dictionary) : Prop where
  keys :
    tags.map Prod.fst = ((entries.map Prod.fst).eraseDups).take 5
  values :
    ∀ key value,
      tags.find? key = some value → IsLast entries key value

theorem isLast_append_self
    (entries : List (String × String))
    (entry : String × String) :
    IsLast (entries ++ [entry]) entry.1 entry.2 :=
  ⟨entries, [], rfl, nofun⟩

theorem IsLast.append
    (h : IsLast entries key value)
    (hOther : entry.1 ≠ key) :
    IsLast (entries ++ [entry]) key value := by
  rcases h with ⟨before, after, rfl, hAfter⟩
  refine ⟨before, after ++ [entry], by simp, fun later hLater => ?_⟩
  rcases List.mem_append.mp hLater with hOld | hNew
  · exact hAfter later hOld
  · rw [List.mem_singleton.mp hNew]
    exact hOther

theorem eraseDups_concat
    (keys : List String)
    (key : String) :
    (keys ++ [key]).eraseDups =
      if key ∈ keys then keys.eraseDups
      else keys.eraseDups ++ [key] := by
  rw [List.eraseDups_append]
  split <;> simp [List.removeAll, List.eraseDups_cons, *]

theorem eraseDups_of_nodup
    {keys : List String}
    (h : keys.Nodup) :
    keys.eraseDups = keys := by
  induction keys with
  | nil => rfl
  | cons key keys ih =>
      rw [List.nodup_cons] at h
      have hSame : (keys.filter fun other => !other == key) = keys := by
        rw [List.filter_eq_self]
        intro other hMem
        have hNe : other ≠ key := by
          rintro rfl
          exact h.1 hMem
        simpa using hNe
      rw [List.eraseDups_cons, hSame, ih h.2]

namespace Kept

theorem start : Kept [] [] :=
  { keys := rfl
    values := nofun }

theorem mem_keys
    (h : Kept entries tags)
    (hKey : key ∈ tags.map Prod.fst) :
    key ∈ entries.map Prod.fst := by
  rw [h.keys] at hKey
  exact List.mem_eraseDups.mp (List.mem_of_mem_take hKey)

/- The values after an entry was put into the tags. -/
theorem values_insert
    (h : Kept entries tags)
    (hFind :
      (tags.insert entry.1 entry.2).find? key = some value) :
    IsLast (entries ++ [entry]) key value := by
  by_cases hKey : key = entry.1
  · subst hKey
    rw [Dictionary.find?_insert_self] at hFind
    cases hFind
    exact isLast_append_self entries entry
  · rw [Dictionary.find?_insert_of_ne hKey] at hFind
    exact (h.values key value hFind).append (Ne.symm hKey)

/- A key that is there gets a new value. -/
theorem replace
    (h : Kept entries tags)
    (hKey : entry.1 ∈ tags.map Prod.fst) :
    Kept (entries ++ [entry]) (tags.insert entry.1 entry.2) := by
  refine ⟨?_, fun key value => h.values_insert⟩
  rw [Dictionary.keys_insert_of_mem hKey, List.map_append,
    List.map_singleton, eraseDups_concat,
    if_pos (h.mem_keys hKey)]
  exact h.keys

/- A new key is added while there is room. -/
theorem add
    (h : Kept entries tags)
    (hKey : entry.1 ∉ tags.map Prod.fst)
    (hRoom : tags.length < 5) :
    Kept (entries ++ [entry]) (tags.insert entry.1 entry.2) := by
  refine ⟨?_, fun key value => h.values_insert⟩
  have hLength := congrArg List.length h.keys
  rw [List.length_map, List.length_take] at hLength
  have hAll :
      tags.map Prod.fst = (entries.map Prod.fst).eraseDups := by
    rw [h.keys]
    apply List.take_of_length_le
    omega
  have hNew : entry.1 ∉ entries.map Prod.fst := by
    rw [hAll, List.mem_eraseDups] at hKey
    exact hKey
  rw [Dictionary.keys_insert_of_not_mem hKey, List.map_append,
    List.map_singleton, eraseDups_concat, if_neg hNew, ← hAll,
    List.take_of_length_le]
  rw [List.length_append, List.length_map, List.length_singleton]
  omega

/- A new key is dropped when there are enough keys. -/
theorem drop
    (h : Kept entries tags)
    (hKey : entry.1 ∉ tags.map Prod.fst)
    (hFull : 5 ≤ tags.length) :
    Kept (entries ++ [entry]) tags := by
  constructor
  · have hLength := congrArg List.length h.keys
    rw [List.length_map, List.length_take] at hLength
    rw [h.keys, List.map_append, List.map_singleton,
      eraseDups_concat]
    split
    · rfl
    · rw [List.take_append_of_le_length]
      omega
  · intro key value hFind
    refine (h.values key value hFind).append ?_
    rintro rfl
    apply hKey
    rw [← Dictionary.isSome_find?_iff, hFind]
    rfl

/- What is kept of some entries and one more. -/
theorem keep
    (h : Kept entries tags)
    (entry : String × String) :
    Kept (entries ++ [entry]) (Tags.keep tags entry) := by
  have hHas :
      tags.has entry.1 = true ↔ entry.1 ∈ tags.map Prod.fst :=
    Dictionary.isSome_find?_iff
  unfold Tags.keep limit
  by_cases hKey : entry.1 ∈ tags.map Prod.fst
  · rw [hHas.mpr hKey, if_neg (by simp)]
    exact h.replace hKey
  · rw [Bool.eq_false_iff.mpr (hHas.not.mpr hKey)]
    by_cases hFull : 5 ≤ tags.length
    · rw [if_pos (by simp [hFull])]
      exact h.drop hKey hFull
    · rw [if_neg (by simp [hFull])]
      exact h.add hKey (by omega)

/- What is kept of all entries, put in one after another. -/
theorem foldl
    (h : Kept entries tags)
    (later : List (String × String)) :
    Kept (entries ++ later) (later.foldl Tags.keep tags) := by
  induction later generalizing entries tags with
  | nil => simpa using h
  | cons entry later ih =>
      have hNext := ih (h.keep entry)
      rwa [List.append_assoc] at hNext

end Kept

theorem kept_parse
    (raw : String) :
    Kept ((Text.splitAtEvery ';' raw).filterMap entry?)
      (parse raw) :=
  Kept.start.foldl _

------------------------------------------------------------
-- Written Tags
------------------------------------------------------------

/- The text that describes some tags. -/
def render
    (tags : Dictionary) : String :=
  Text.joinWith ";" (tags.map fun entry => entry.1 ++ "~" ++ entry.2)

/- Whether a text can be a key or a value of a written entry. -/
structure IsPlain
    (s : String) : Prop where
  nonempty : s ≠ ""
  trimmed : Text.trim s = s
  oneEntry : ';' ∉ s.toList
  onePart : '~' ∉ s.toList

/- Whether tags can be written so that all of them are kept. -/
structure Printable
    (tags : Dictionary) : Prop where
  few : tags.length ≤ 5
  distinct : (tags.map Prod.fst).Nodup
  plain : ∀ entry ∈ tags, IsPlain entry.1 ∧ IsPlain entry.2

theorem Printable.perm
    (h : Printable tags)
    (hPerm : order.Perm tags) :
    Printable order := by
  constructor
  · rw [hPerm.length_eq]
    exact h.few
  · rw [(hPerm.map Prod.fst).nodup_iff]
    exact h.distinct
  · intro entry hMem
    exact h.plain entry (hPerm.mem_iff.mp hMem)

theorem entry?_render
    (hKey : IsPlain entry.1)
    (hValue : IsPlain entry.2) :
    entry? (entry.1 ++ "~" ++ entry.2) = some entry := by
  rw [entry?_eq_some_iff]
  have hEntry :
      IsEntry (entry.1 ++ "~" ++ entry.2)
        (Text.trim entry.1, Text.trim entry.2) := by
    apply IsEntry.intro hKey.onePart hValue.onePart
    · rw [hKey.trimmed]
      exact hKey.nonempty
    · rw [hValue.trimmed]
      exact hValue.nonempty
  rwa [hKey.trimmed, hValue.trimmed] at hEntry

/- The entries of written tags are the tags. -/
theorem entries_render
    (h : Printable tags) :
    (Text.splitAtEvery ';' (render tags)).filterMap entry? =
      tags := by
  by_cases hNone : tags = []
  · subst hNone
    rfl
  · have hSplit :
        Text.splitAtEvery ';' (render tags) =
          tags.map fun entry => entry.1 ++ "~" ++ entry.2 := by
      apply Text.splitAtEvery_joinWith
      · intro piece hPiece
        rcases List.mem_map.mp hPiece with ⟨entry, hMem, rfl⟩
        rcases h.plain entry hMem with ⟨hKey, hValue⟩
        simp [hKey.oneEntry, hValue.oneEntry]
      · simpa using hNone
    rw [hSplit, List.filterMap_map]
    refine Eq.trans (List.filterMap_congr ?_) List.filterMap_some
    intro entry hMem
    rcases h.plain entry hMem with ⟨hKey, hValue⟩
    exact entry?_render hKey hValue

/- Such tags are read again, key by key. -/
theorem find?_parse_render
    (h : Printable tags)
    (key : String) :
    (parse (render tags)).find? key = tags.find? key := by
  have hKept := kept_parse (render tags)
  rw [entries_render h] at hKept
  have hKeys : (parse (render tags)).map Prod.fst = tags.map Prod.fst := by
    rw [hKept.keys, eraseDups_of_nodup h.distinct,
      List.take_of_length_le]
    rw [List.length_map]
    exact h.few
  cases hFind : (parse (render tags)).find? key with
  | none =>
      have hNew : key ∉ tags.map Prod.fst := by
        rw [← hKeys, ← Dictionary.isSome_find?_iff, hFind]
        exact nofun
      rw [← Dictionary.isSome_find?_iff, Bool.not_eq_true,
        Option.isSome_eq_false_iff, Option.isNone_iff_eq_none] at hNew
      exact hNew.symm
  | some value =>
      rcases hKept.values key value hFind with
        ⟨before, after, hTags, _⟩
      symm
      rw [Dictionary.find?_eq_some_iff h.distinct, hTags]
      simp

/-
  Of the entries of a text, the first five different keys are
  kept in their order, each with the value of its last entry.
  So at most five tags that are written as entries, in any
  order, are read again.
-/
theorem parse_keeps_first_keys :
    (∀ raw, ∃ entries,
      Reads (Text.splitAtEvery ';' raw) entries ∧
        Kept entries (parse raw)) ∧
    ∀ tags order : Dictionary,
      Printable tags → order.Perm tags →
        ∀ key,
          (parse (render order)).find? key = tags.find? key := by
  constructor
  · intro raw
    exact ⟨_, reads_filterMap _, kept_parse raw⟩
  · intro tags order hTags hPerm key
    have hOrder := hTags.perm hPerm
    have hSame : order.find? key = tags.find? key := by
      apply Option.ext
      intro value
      rw [Dictionary.find?_eq_some_iff hOrder.distinct,
        Dictionary.find?_eq_some_iff hTags.distinct]
      exact hPerm.mem_iff
    rw [find?_parse_render hOrder, hSame]

/- Two tags that are written in the other order. -/
theorem parse_keeps_first_keys_reordered :
    let tags : Dictionary :=
      [("team", "block storage"), ("env", "prod")]
    let order : Dictionary :=
      [("env", "prod"), ("team", "block storage")]
    Printable tags ∧ order.Perm tags ∧
      render order = "env~prod;team~block storage" ∧
      (parse (render order)).find? "team" =
        some "block storage" := by
  intro tags order
  have hTags : Printable tags := by
    refine ⟨by decide, by decide, ?_⟩
    simp only [tags, List.forall_mem_cons, List.not_mem_nil,
      IsEmpty.forall_iff, implies_true, and_true]
    refine ⟨⟨?_, ?_⟩, ?_, ?_⟩
    all_goals exact ⟨by decide, by decide, by decide, by decide⟩
  have hPerm : order.Perm tags := .swap _ _ []
  have hFind := parse_keeps_first_keys.2 tags order hTags hPerm "team"
  exact ⟨hTags, hPerm, by decide, hFind⟩

/- The sixth key is dropped, but not a new value of the first. -/
example :
    parse " a ~1;b~2;;c~3;d~;e~5;x~y~z;f~6;g~7;h~8;a~ 9" =
      [("a", "9"), ("b", "2"), ("c", "3"), ("e", "5"),
        ("f", "6")] := by
  decide

end Tags

end BlockVolumes
