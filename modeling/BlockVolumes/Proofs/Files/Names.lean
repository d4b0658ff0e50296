import BlockVolumes.Files.Path
import BlockVolumes.Proofs.Text.Pieces

/-
  The names of files, and the paths from the root through some
  names. Such a path has the names as its components, so that
  different names make different paths.

  Key definitions include:
    * `Path.IsName`

  Key theorems include:
    * `Path.whole_of_mem_pieces`
    * `Path.components_ofNames`
    * `Path.ofNames_same_iff`
-/

namespace BlockVolumes

namespace Path

------------------------------------------------------------
-- Names
------------------------------------------------------------

/- Whether a text can be the name of a file in a directory. -/
structure IsName
    (name : String) : Prop where
  nonempty : name ≠ ""
  notHere : name ≠ "."
  notUp : name ≠ ".."
  whole : '/' ∉ name.toList

/- No piece of a path holds a slash. -/
theorem whole_of_mem_pieces
    {path : Path}
    {piece : String}
    (h : piece ∈ path.pieces) :
    '/' ∉ piece.toList := by
  rcases List.mem_map.mp h with ⟨cs, hMem, rfl⟩
  intro hSlash
  rw [String.toList_ofList] at hSlash
  have hOther := Text.not_separator_of_mem_pieces hMem '/' hSlash
  simp at hOther

/- A piece that only names something is a component with its name. -/
theorem componentOf?_of_ne
    {piece : String}
    (hNonempty : piece ≠ "")
    (hHere : piece ≠ ".")
    (hUp : piece ≠ "..") :
    componentOf? piece = some (.name piece) := by
  unfold componentOf?
  split
  · exact absurd rfl hNonempty
  · exact absurd rfl hHere
  · exact absurd rfl hUp
  · rfl

------------------------------------------------------------
-- Paths through Names
------------------------------------------------------------

variable {names others : List String}

/- The pieces of a path through names are the names. -/
theorem pieces_ofNames
    (h : ∀ name ∈ names, IsName name)
    (hSome : names ≠ []) :
    (ofNames names).pieces = "" :: names := by
  have hWhole : ∀ cs ∈ names.map String.toList, '/' ∉ cs := by
    intro cs hMem
    rcases List.mem_map.mp hMem with ⟨name, hName, rfl⟩
    exact (h name hName).whole
  have hText :
      (ofNames names).text.toList =
        '/' :: ['/'].intercalate (names.map String.toList) := by
    simp [ofNames, String.toList_append, String.toList_intercalate]
  unfold pieces Text.splitAtEvery
  rw [Text.pieces_eq_splitOnP, hText,
    List.splitOnP_cons_eq_if_modifyHead, if_pos (by simp),
    ← List.splitOn_eq_splitOnP,
    List.splitOn_intercalate '/' hWhole (by simpa using hSome)]
  simp

theorem isAbsolute_ofNames
    (names : List String) :
    (ofNames names).isAbsolute := by
  simp [isAbsolute, ofNames, String.toList_append]

/- The components of a path through names are the names. -/
theorem components_ofNames
    (h : ∀ name ∈ names, IsName name) :
    (ofNames names).components =
      .root :: names.map Component.name := by
  unfold components
  rw [if_pos (isAbsolute_ofNames names)]
  by_cases hSome : names = []
  · subst hSome
    rfl
  · have hNames :
        names.filterMap componentOf? =
          names.map Component.name :=
      List.filterMap_eq_map_iff_forall_eq_some.mpr
        fun name hName =>
          componentOf?_of_ne (h name hName).nonempty
            (h name hName).notHere (h name hName).notUp
    rw [pieces_ofNames h hSome, List.filterMap_cons, hNames]
    rfl

/- Different names make different paths. -/
theorem ofNames_same_iff
    (hNames : ∀ name ∈ names, IsName name)
    (hOthers : ∀ name ∈ others, IsName name) :
    Same (ofNames names) (ofNames others) ↔ names = others := by
  unfold Same
  rw [components_ofNames hNames, components_ofNames hOthers]
  constructor
  · intro h
    have hMap := List.tail_eq_of_cons_eq h
    exact (List.map_inj_right fun _ _ => Component.name.inj).mp hMap
  · rintro rfl
    rfl

end Path

end BlockVolumes
