import BlockVolumes.Proofs.Parameters.Acceptance

/-
  Lists of disk types. What is read of a list are types in
  lower case, without commas and without blanks around them.
  Such types are read again from the name of their storage
  class, so that the name tells the list.

  Key definitions include:
    * `Parameters.IsType`

  Key theorems include:
    * `Parameters.isType_of_mem_splitTypes`
    * `Parameters.splitTypes_joined`
    * `Parameters.splitTypes_classKey`
    * `Parameters.classKey_eq_iff`
    * `Parameters.parse_classKey_eq_ok_iff`
    * `Parameters.diskTypes_of_parse_classKey`
-/

namespace BlockVolumes

namespace Parameters

variable {parameters other : Parameters}
variable {name raw value standardType : String}
variable {types : List String}
variable {entries : Dictionary}

------------------------------------------------------------
-- Types
------------------------------------------------------------

/- Whether a text is a disk type as it is read of a list. -/
structure IsType
    (name : String) : Prop where
  nonempty : name ≠ ""
  whole : ',' ∉ name.toList
  trimmed : Text.trim name = name
  small : Text.lowerAscii name = name

theorem comma_not_mem_lowerAscii
    (h : ',' ∉ raw.toList) :
    ',' ∉ (Text.lowerAscii raw).toList := by
  rw [Text.lowerAscii, String.toList_ofList, List.mem_map]
  rintro ⟨c, hMem, hComma⟩
  rw [Text.eq_of_toLower_eq (by decide) hComma] at hMem
  exact h hMem

/- What is read of a list are types. -/
theorem isType_of_mem_splitTypes
    (h : name ∈ splitTypes raw) :
    IsType name := by
  rw [splitTypes, List.mem_filter, List.mem_map] at h
  rcases h with ⟨⟨piece, hPiece, rfl⟩, hSome⟩
  have hWhole : ',' ∉ (Text.trim piece).toList := fun hComma =>
    Text.not_mem_of_mem_splitAtEvery hPiece
      (Text.mem_of_mem_trim hComma)
  exact
    { nonempty := by simpa using hSome
      whole := comma_not_mem_lowerAscii hWhole
      trimmed := by rw [Text.trim_lowerAscii, Text.trim_trim]
      small := Text.lowerAscii_lowerAscii _ }

/- Types with commas in between are read as they were. -/
theorem splitTypes_joined
    (hTypes : ∀ name ∈ types, IsType name)
    (hSome : types ≠ []) :
    splitTypes (",".intercalate types) = types := by
  have hPieces :
      Text.splitAtEvery ',' (",".intercalate types) = types :=
    Text.splitAtEvery_joinWith
      (fun name hMem => (hTypes name hMem).whole) hSome
  have hSame :
      types.map (fun name => Text.lowerAscii (Text.trim name)) =
        types := by
    refine (List.map_congr_left fun name hMem => ?_).trans
      (List.map_id types)
    rw [(hTypes name hMem).trimmed, (hTypes name hMem).small, id]
  rw [splitTypes, hPieces, hSame, List.filter_eq_self]
  intro name hMem
  simpa using (hTypes name hMem).nonempty

------------------------------------------------------------
-- Names of Storage Classes
------------------------------------------------------------

/- The types that the value of the key for types says. -/
theorem diskTypes_of_parse
    (hDistinct : (entries.map Prod.fst).Nodup)
    (hType : (Key.diskType.name, value) ∈ entries)
    (hParse : parse standardType entries = .ok parameters) :
    parameters.diskTypes = splitTypes value := by
  have hPart := part_of_parse hDistinct hParse .diskType
  rw [(Dictionary.find?_eq_some_iff hDistinct).mpr hType] at hPart
  exact hPart

/- The types of a list are read again from the class name. -/
theorem splitTypes_classKey
    (hDistinct : (entries.map Prod.fst).Nodup)
    (hType : (Key.diskType.name, value) ∈ entries)
    (hParse : parse standardType entries = .ok parameters) :
    splitTypes parameters.classKey = parameters.diskTypes := by
  apply splitTypes_joined
  · intro name hMem
    rw [diskTypes_of_parse hDistinct hType hParse] at hMem
    exact isType_of_mem_splitTypes hMem
  · exact diskTypes_ne_nil_of_parse hParse

theorem classKey_eq_iff
    (hTypes : splitTypes parameters.classKey = parameters.diskTypes)
    (hOther : splitTypes other.classKey = other.diskTypes) :
    parameters.classKey = other.classKey ↔
      parameters.diskTypes = other.diskTypes := by
  constructor
  · intro hKey
    rw [← hTypes, hKey, hOther]
  · intro hSame
    rw [classKey, hSame, classKey]

/-
  The name of a class is accepted for the types wherever the
  other entries are accepted.
-/
theorem parse_classKey_eq_ok_iff
    (hTypes : splitTypes parameters.classKey = parameters.diskTypes)
    (hSome : parameters.diskTypes ≠ [])
    (hDistinct : (entries.map Prod.fst).Nodup)
    (hKey : (Key.diskType.name, parameters.classKey) ∈ entries) :
    (∃ result, parse standardType entries = .ok result) ↔
      ∀ entry ∈ entries, entry.1 ≠ Key.diskType.name →
        Accepted entry := by
  have hAccepts : Key.diskType.Accepts parameters.classKey := by
    rw [Key.Accepts, ← not_not (a := ∃ c ∈ _, _),
      ← splitTypes_eq_nil_iff, hTypes]
    exact hSome
  rw [exists_parse_eq_ok_iff]
  constructor
  · exact fun hAll entry hMem _ => hAll entry hMem
  · rintro hOthers ⟨name, value⟩ hMem
    by_cases hName : name = Key.diskType.name
    · -- No other entry has this key.
      subst hName
      rw [← Dictionary.find?_eq_some_iff hDistinct] at hMem hKey
      rw [hKey, Option.some.injEq] at hMem
      rw [← hMem]
      exact .known hAccepts
    · exact hOthers _ hMem hName

/- The name of a class says the types that it is made of. -/
theorem diskTypes_of_parse_classKey
    {result : Parameters}
    (hTypes : splitTypes parameters.classKey = parameters.diskTypes)
    (hDistinct : (entries.map Prod.fst).Nodup)
    (hKey : (Key.diskType.name, parameters.classKey) ∈ entries)
    (hParse : parse standardType entries = .ok result) :
    result.diskTypes = parameters.diskTypes := by
  rw [diskTypes_of_parse hDistinct hKey hParse, hTypes]

end Parameters

end BlockVolumes
