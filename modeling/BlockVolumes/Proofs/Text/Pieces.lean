import BlockVolumes.Text.Blank
import Mathlib.Data.List.Basic
import Mathlib.Data.List.DropRight
import Mathlib.Data.List.TakeWhile

/-
  Texts that are cut at separators. The pieces make the text up
  again, and hold all of its characters but the separators.
  What is trimmed off a text are blanks, and nothing is left to
  trim then, nor are there capitals left in lower case.

  Key theorems include:
    * `Text.pieces_eq_splitOnP`
    * `Text.flatten_pieces`
    * `Text.splitAtEvery_joinWith`
    * `Text.trim_eq_empty_iff`
    * `Text.trim_trim`
    * `Text.trim_lowerAscii`
-/

namespace BlockVolumes

namespace Text

variable {separator : Char}
variable {isSeparator : Char → Bool}
variable {parts : List String}
variable {cs piece : List Char}

------------------------------------------------------------
-- Pieces
------------------------------------------------------------

/- Pieces are what the standard library splits off. -/
theorem pieces_eq_splitOnP
    (isSeparator : Char → Bool)
    (cs : List Char) :
    pieces isSeparator cs = cs.splitOnP isSeparator := by
  induction cs with
  | nil => simp [pieces]
  | cons c cs ih =>
      rw [List.splitOnP_cons_eq_if_modifyHead, ← ih, pieces]
      split
      · rfl
      · cases hPieces : pieces isSeparator cs with
        | nil => exact absurd hPieces (pieces_ne_nil isSeparator cs)
        | cons p ps => rfl

/- All characters but the separators are in the pieces. -/
theorem flatten_pieces
    (isSeparator : Char → Bool)
    (cs : List Char) :
    (pieces isSeparator cs).flatten =
      cs.filter (! isSeparator ·) := by
  induction cs with
  | nil => rfl
  | cons c cs ih =>
      rw [pieces, List.filter_cons, ← ih]
      split
      · next hSeparator => simp [hSeparator]
      · next hOther =>
          rw [if_pos (by simpa using hOther)]
          cases hPieces : pieces isSeparator cs with
          | nil => exact absurd hPieces (pieces_ne_nil isSeparator cs)
          | cons p ps => rfl

theorem exists_mem_pieces_iff
    {c : Char} :
    (∃ piece ∈ pieces isSeparator cs, c ∈ piece) ↔
      c ∈ cs ∧ isSeparator c = false := by
  rw [← List.mem_flatten, flatten_pieces, List.mem_filter]
  simp

/- No piece holds a separator. -/
theorem not_separator_of_mem_pieces
    (h : piece ∈ pieces isSeparator cs) :
    ∀ c ∈ piece, isSeparator c = false :=
  fun _ hMem => (exists_mem_pieces_iff.mp ⟨piece, h, hMem⟩).2

------------------------------------------------------------
-- Joining and Splitting
------------------------------------------------------------

theorem splitAtEvery_eq_splitOn
    (separator : Char)
    (s : String) :
    splitAtEvery separator s =
      (s.toList.splitOn separator).map String.ofList := by
  rw [splitAtEvery, pieces_eq_splitOnP, List.splitOn_eq_splitOnP]

/- The pieces of a text make it up again. -/
theorem joinWith_splitAtEvery
    (separator : Char)
    (s : String) :
    joinWith (String.singleton separator)
      (splitAtEvery separator s) = s := by
  rw [← String.toList_inj, joinWith, String.toList_intercalate,
    splitAtEvery_eq_splitOn]
  simp

/- Parts without the separator are split off as they were. -/
theorem splitAtEvery_joinWith
    (hWhole : ∀ part ∈ parts, separator ∉ part.toList)
    (hSome : parts ≠ []) :
    splitAtEvery separator
      (joinWith (String.singleton separator) parts) = parts := by
  have hLists : ∀ cs ∈ parts.map String.toList, separator ∉ cs := by
    intro cs hMem
    rcases List.mem_map.mp hMem with ⟨part, hPart, rfl⟩
    exact hWhole part hPart
  rw [splitAtEvery_eq_splitOn, joinWith, String.toList_intercalate,
    String.toList_singleton,
    List.splitOn_intercalate separator hLists (by simpa using hSome)]
  simp

/- No piece holds the separator. -/
theorem not_mem_of_mem_splitAtEvery
    {s piece : String}
    (h : piece ∈ splitAtEvery separator s) :
    separator ∉ piece.toList := by
  rcases List.mem_map.mp h with ⟨cs, hMem, rfl⟩
  intro hSeparator
  rw [String.toList_ofList] at hSeparator
  have hOther := not_separator_of_mem_pieces hMem _ hSeparator
  simp at hOther

------------------------------------------------------------
-- Trimming
------------------------------------------------------------

/- Nothing is left of a text if it holds nothing but blanks. -/
theorem trim_eq_empty_iff
    {s : String} :
    trim s = "" ↔ ∀ c ∈ s.toList, isBlank c = true := by
  have hEmpty : trim s = "" ↔ trimChars s.toList = [] := by
    rw [trim, ← String.toList_inj, String.toList_ofList,
      String.toList_empty]
  rw [hEmpty, trimChars, List.reverse_eq_nil_iff,
    List.dropWhile_eq_nil_iff]
  simp only [List.mem_reverse]
  constructor
  · intro hRest c hMem
    rw [← List.takeWhile_append_dropWhile (p := isBlank)
      (l := s.toList), List.mem_append] at hMem
    rcases hMem with hStart | hOther
    · exact List.mem_takeWhile_imp hStart
    · exact hRest c hOther
  · intro hAll c hMem
    exact hAll c ((List.dropWhile_sublist isBlank).mem hMem)

theorem trim_ne_empty_iff
    {s : String} :
    trim s ≠ "" ↔ ∃ c ∈ s.toList, isBlank c = false := by
  rw [ne_eq, trim_eq_empty_iff]
  simp

theorem trimChars_eq_rdropWhile
    (cs : List Char) :
    trimChars cs = (cs.dropWhile isBlank).rdropWhile isBlank :=
  rfl

theorem mem_of_mem_trim
    {s : String}
    {c : Char}
    (h : c ∈ (trim s).toList) :
    c ∈ s.toList := by
  rw [trim, String.toList_ofList, trimChars_eq_rdropWhile] at h
  exact (List.dropWhile_sublist isBlank).mem
    ((List.rdropWhile_prefix isBlank _).mem h)

/- What is left after trimming begins with no blank. -/
theorem dropWhile_trimChars
    (cs : List Char) :
    (trimChars cs).dropWhile isBlank = trimChars cs := by
  have hStart :
      (cs.dropWhile isBlank).dropWhile isBlank =
        cs.dropWhile isBlank :=
    List.dropWhile_idempotent isBlank cs
  rw [List.dropWhile_eq_self_iff] at hStart ⊢
  intro hSome
  -- Trimming at the end takes nothing off the beginning.
  have hPrefix :=
    List.rdropWhile_prefix isBlank (cs.dropWhile isBlank)
  rw [← trimChars_eq_rdropWhile] at hPrefix
  rw [hPrefix.getElem hSome]
  exact hStart _

/- A text that was trimmed has no blanks to trim. -/
theorem trim_trim
    (s : String) :
    trim (trim s) = trim s := by
  rw [trim, trim, String.toList_ofList,
    trimChars_eq_rdropWhile (trimChars _), dropWhile_trimChars,
    trimChars_eq_rdropWhile, List.rdropWhile_idempotent]

------------------------------------------------------------
-- Letters
------------------------------------------------------------

/- Lower case changes capitals only, each into a small letter. -/
theorem toLower_cases
    (c : Char) :
    c.toLower = c ∨
      (isBlank c = false ∧ isBlank c.toLower = false ∧
        c.toLower.isLower = true ∧
        c.toLower.toLower = c.toLower) := by
  have hCapitals :
      ∀ n ≤ 90, 65 ≤ n →
        isBlank (Char.ofNat n) = false ∧
          isBlank (Char.ofNat n).toLower = false ∧
          (Char.ofNat n).toLower.isLower = true ∧
          (Char.ofNat n).toLower.toLower =
            (Char.ofNat n).toLower := by
    decide
  by_cases hCapital : 'A'.val ≤ c.val ∧ c.val ≤ 'Z'.val
  · have hThis :=
      hCapitals c.toNat
        (UInt32.le_iff_toNat_le.mp hCapital.2)
        (UInt32.le_iff_toNat_le.mp hCapital.1)
    rw [Char.ofNat_toNat] at hThis
    exact .inr hThis
  · exact .inl (dif_neg hCapital)

theorem isBlank_toLower
    (c : Char) :
    isBlank c.toLower = isBlank c := by
  rcases toLower_cases c with hSame | ⟨hBlank, hLower, _, _⟩
  · rw [hSame]
  · rw [hBlank, hLower]

/- In lower case only small letters come from others. -/
theorem eq_of_toLower_eq
    {c d : Char}
    (hOther : d.isLower = false)
    (h : c.toLower = d) :
    c = d := by
  rcases toLower_cases c with hSame | ⟨_, _, hLower, _⟩
  · rw [← h, hSame]
  · rw [h, hOther] at hLower
    cases hLower

theorem lowerAscii_lowerAscii
    (s : String) :
    lowerAscii (lowerAscii s) = lowerAscii s := by
  have hTwice (c : Char) : c.toLower.toLower = c.toLower := by
    rcases toLower_cases c with hSame | ⟨_, _, _, hLower⟩
    · rw [hSame, hSame]
    · exact hLower
  rw [lowerAscii, lowerAscii, String.toList_ofList, List.map_map,
    String.ofList_inj]
  exact List.map_congr_left fun c _ => hTwice c

/- A text may be trimmed before or after it is in lower case. -/
theorem trim_lowerAscii
    (s : String) :
    trim (lowerAscii s) = lowerAscii (trim s) := by
  have hBlank : isBlank ∘ Char.toLower = isBlank :=
    funext isBlank_toLower
  simp only [trim, lowerAscii, trimChars, String.toList_ofList,
    List.dropWhile_map, hBlank, ← List.map_reverse]

end Text

end BlockVolumes
