import BlockVolumes.Proofs.Files.Walking
import Mathlib.Data.List.DropRight

/-
  Directories that are made and removed, as far as the ways
  through the tree are concerned.

  Key definitions include:
    * `FileTree.LeadsTo`

  Key theorems include:
    * `FileTree.isDirectory_iff`
    * `FileTree.makeDirectory_eq_ok`
    * `FileTree.makeDirectories_cases`
    * `FileTree.removeDirectory_eq_ok`
    * `FileTree.Stands.remove`
-/

namespace BlockVolumes

namespace FileTree

open Files (Failure)

variable {tree after : FileTree}
variable {path : Path}
variable {place spot : FilePlace}

------------------------------------------------------------
-- Entries
------------------------------------------------------------

/- The entries of a tree, but for the root, are listed in it. -/
theorem entry_eq_find
    (hPlace : place ≠ []) :
    tree.entry? place =
      (tree.entries.find? fun row => row.1 == place).map (·.2) := by
  cases place with
  | nil => exact absurd rfl hPlace
  | cons name rest => rfl

/- A new entry leaves those that are there as they are. -/
theorem grows_add
    (tree : FileTree)
    (spot : FilePlace)
    (entry : FileEntry) :
    Grows tree (tree.add spot entry) := by
  intro place other hOther
  by_cases hPlace : place = []
  · rw [hPlace] at hOther ⊢
    exact hOther
  · rw [entry_eq_find hPlace] at hOther ⊢
    rcases Option.map_eq_some_iff.mp hOther with ⟨row, hRow, rfl⟩
    simp [add, List.find?_append, hRow]

theorem entry_add
    {entry : FileEntry}
    (hFree : tree.entry? spot = none) :
    FileTree.entry? (tree.add spot entry) spot = some entry := by
  have hPlace : spot ≠ [] := by
    rintro rfl
    exact nomatch hFree
  rw [entry_eq_find hPlace] at hFree ⊢
  have hNone := Option.map_eq_none_iff.mp hFree
  simp [add, List.find?_append, hNone]

/- Other places are as they were. -/
theorem entry_remove
    (hOther : place ≠ spot) :
    FileTree.entry? (tree.remove spot) place = tree.entry? place := by
  by_cases hPlace : place = []
  · rw [hPlace]
    rfl
  · rw [entry_eq_find hPlace, entry_eq_find hPlace]
    congr 1
    rw [remove, List.find?_filter]
    congr 1
    funext row
    by_cases hRow : row.1 = place
    · simp [hRow, hOther]
    · simp [hRow]

/- Nothing stands in an empty directory. -/
theorem entry_of_empty
    {name : String}
    (hEmpty : tree.isEmptyDirectory place = true) :
    tree.entry? (place ++ [name]) = none := by
  rw [entry_eq_find (by simp), Option.map_eq_none_iff,
    List.find?_eq_none]
  intro row hRow hSame
  have hOutside := List.all_eq_true.mp hEmpty row hRow
  rw [beq_iff_eq.mp hSame] at hOutside
  simp at hOutside

/-
  Removing an empty directory leaves all other places that
  stand.
-/
theorem Stands.remove
    (h : Stands tree place)
    (hEmpty : tree.isEmptyDirectory spot)
    (hOther : place ≠ spot) :
    Stands (tree.remove spot) place := by
  induction h with
  | root => exact .root
  | @inside place name _ hName hShort hEntry ih =>
      have hAbove : place ≠ spot := by
        rintro rfl
        rw [entry_of_empty hEmpty] at hEntry
        exact nomatch hEntry
      refine .inside (ih hAbove) hName hShort ?_
      rw [entry_remove hOther]
      exact hEntry

------------------------------------------------------------
-- Resolving
------------------------------------------------------------

/- Whether a path leads to a directory at a place. -/
structure LeadsTo
    (tree : FileTree)
    (path : Path)
    (place : FilePlace) : Prop where
  text : checkText path.text = .ok ()
  entry : tree.entry? place = some .directory
  way :
    ∃ left,
      Enters tree linkLimit
        (startOf path.text tree.workingDirectory) path.pieces left
        place

theorem resolve_eq_ok_iff :
    tree.resolve path = .ok place ↔
      checkText path.text = .ok () ∧
        tree.walk true linkLimit
          (startOf path.text tree.workingDirectory) path.pieces =
          .ok place := by
  unfold resolve
  cases checkText path.text with
  | error failure => simp [bind, Except.bind]
  | ok =>
      cases tree.walk true linkLimit
          (startOf path.text tree.workingDirectory)
          path.pieces with
      | error n => simp [bind, Except.bind, fromNumber]
      | ok other => simp [bind, Except.bind, fromNumber]

theorem LeadsTo.resolve
    (h : LeadsTo tree path place) :
    tree.resolve path = .ok place := by
  rcases h.way with ⟨left, hWay⟩
  exact resolve_eq_ok_iff.mpr ⟨h.text, hWay.walk_eq⟩

theorem LeadsTo.canonicalOrSelf
    (h : LeadsTo tree path place) :
    tree.canonicalOrSelf path = Path.ofNames place := by
  unfold FileTree.canonicalOrSelf canonical
  rw [h.resolve]
  rfl

theorem isDirectory_iff :
    tree.isDirectory path = true ↔
      ∃ place, LeadsTo tree path place := by
  unfold isDirectory follow
  constructor
  · intro h
    split at h
    · next hFollow =>
        cases hResolve : tree.resolve path with
        | error failure =>
            rw [hResolve] at hFollow
            exact nomatch hFollow
        | ok place =>
            rw [hResolve] at hFollow
            have hEntry : tree.entry? place = some .directory := by
              cases hThere : tree.entry? place with
              | none => simp [bind, Except.bind, hThere] at hFollow
              | some entry =>
                  simpa [bind, Except.bind, hThere] using hFollow
            rcases resolve_eq_ok_iff.mp hResolve with ⟨hText, hWalk⟩
            exact ⟨place, hText, hEntry,
              enters_of_walk hWalk (.inl hEntry)⟩
    · exact nomatch h
  · rintro ⟨place, hLeads⟩
    simp [hLeads.resolve, bind, Except.bind, hLeads.entry]

/- A path leads to the same place while the tree grows. -/
theorem LeadsTo.add
    (h : LeadsTo tree path place)
    (spot : FilePlace)
    (entry : FileEntry) :
    LeadsTo (tree.add spot entry) path place := by
  have hGrows := grows_add tree spot entry
  rcases h.way with ⟨left, hWay⟩
  exact ⟨h.text, hGrows _ _ h.entry, left, hWay.grow hGrows⟩

theorem leadsTo_root
    (tree : FileTree) :
    LeadsTo tree ⟨"/"⟩ [] :=
  ⟨rfl, rfl, linkLimit, .stay (.inl rfl) (.stay (.inl rfl) .here)⟩

theorem isDirectory_root
    (tree : FileTree) :
    tree.isDirectory ⟨"/"⟩ = true :=
  isDirectory_iff.mpr ⟨_, leadsTo_root tree⟩

/- The path of a directory in the root leads to it. -/
theorem leadsTo_of_name
    {name : String}
    (hText : checkText path.text = .ok ())
    (hStart : startOf path.text tree.workingDirectory = [])
    (hPieces : path.pieces = ["", name])
    (hName : IsEntryName name)
    (hEntry : tree.entry? [name] = some .directory) :
    LeadsTo tree path [name] := by
  refine ⟨hText, hEntry, linkLimit, ?_⟩
  rw [hStart, hPieces]
  exact .stay (.inl rfl) (.into hName hEntry .here)

------------------------------------------------------------
-- The Last Piece
------------------------------------------------------------

/- The pieces of a path without the slashes at its end. -/
def trimmed
    (pieces : List String) : List String :=
  (pieces.reverse.dropWhile (·.isEmpty)).reverse

/- Pieces are empty, or there is a last one that is not. -/
theorem trimmed_cases
    (pieces : List String) :
    (trimmed pieces = [] ∧ ∀ piece ∈ pieces, piece = "") ∨
      ∃ front last slashes,
        pieces = front ++ last :: slashes ∧ last ≠ "" ∧
          (∀ piece ∈ slashes, piece = "") ∧
          trimmed pieces = front ++ [last] := by
  induction pieces using List.reverseRecOn with
  | nil => exact .inl ⟨rfl, nofun⟩
  | append_singleton pieces piece ih =>
      by_cases hPiece : piece = ""
      · subst hPiece
        have hSame : trimmed (pieces ++ [""]) = trimmed pieces := by
          simp [trimmed]
        rcases ih with ⟨hNone, hEmpty⟩ |
          ⟨front, last, slashes, rfl, hLast, hEmpty, hTrimmed⟩
        · refine .inl ⟨hSame.trans hNone, fun other hMem => ?_⟩
          rcases List.mem_append.mp hMem with hOld | hNew
          · exact hEmpty other hOld
          · exact List.mem_singleton.mp hNew
        · refine .inr ⟨front, last, slashes ++ [""], by simp, hLast,
            fun other hMem => ?_, hSame.trans hTrimmed⟩
          rcases List.mem_append.mp hMem with hOld | hNew
          · exact hEmpty other hOld
          · exact List.mem_singleton.mp hNew
      · refine .inr ⟨pieces, piece, [], rfl, hPiece, nofun, ?_⟩
        simp [trimmed, hPiece]

/- Slashes at the end of a path lead nowhere else. -/
theorem enters_slashes
    {slashes : List String}
    (hEmpty : ∀ piece ∈ slashes, piece = "")
    (links : Nat)
    (place : FilePlace) :
    Enters tree links place slashes links place := by
  induction slashes with
  | nil => exact .here
  | cons piece slashes ih =>
      refine .stay (.inl (hEmpty piece List.mem_cons_self)) (ih ?_)
      exact fun other hMem => hEmpty other (List.mem_cons_of_mem _ hMem)

/- A slash leads nowhere else. -/
theorem Enters.of_slash
    {links left : Nat}
    {reached : FilePlace}
    (h : Enters tree links place [""] left reached) :
    left = links ∧ reached = place := by
  generalize hPieces : [""] = pieces at h
  cases h with
  | here => exact nomatch hPieces
  | stay _ hRest =>
      cases hPieces
      cases hRest
      exact ⟨rfl, rfl⟩
  | up => simp at hPieces
  | into hPiece =>
      cases hPieces
      exact absurd rfl hPiece.nonempty
  | follow hPiece =>
      cases hPieces
      exact absurd rfl hPiece.nonempty

/- The last piece of a path stands where the others lead. -/
theorem lastPiece_of_trimmed
    {before : List String}
    {last : String}
    (hText : checkText path.text = .ok ())
    (hTrimmed : trimmed path.pieces = before ++ [last]) :
    tree.lastPiece path =
      (fromNumber
        (tree.walk true linkLimit
          (startOf path.text tree.workingDirectory)
          (before ++ [""]))).map
        fun front => (front, some last) := by
  have hKept :
      (path.pieces.reverse.dropWhile (·.isEmpty)).reverse =
        before ++ [last] := hTrimmed
  unfold lastPiece lastPieceFrom
  simp only [hText, hKept, List.getLast?_concat,
    List.dropLast_concat, bind, Except.bind, Except.map]

/- A path of slashes only has no last piece. -/
theorem lastPiece_of_slashes
    (hText : checkText path.text = .ok ())
    (hNone : trimmed path.pieces = []) :
    tree.lastPiece path = .ok ([], none) := by
  have hKept :
      (path.pieces.reverse.dropWhile (·.isEmpty)).reverse = [] :=
    hNone
  unfold lastPiece lastPieceFrom
  simp only [hText, hKept, List.getLast?_nil, bind, Except.bind]

/-
  Where the last piece of a path stands: the way to that
  directory, and the piece among the pieces of the path.
-/
structure EndsWith
    (tree : FileTree)
    (path : Path)
    (front : FilePlace)
    (last : String) : Prop where
  text : checkText path.text = .ok ()
  nonempty : last ≠ ""
  way :
    ∃ before slashes left,
      path.pieces = before ++ last :: slashes ∧
        (∀ piece ∈ slashes, piece = "") ∧
        Enters tree linkLimit
          (startOf path.text tree.workingDirectory) before left
          front

theorem endsWith_of_lastPiece
    {front : FilePlace}
    {last : String}
    (h : tree.lastPiece path = .ok (front, some last)) :
    EndsWith tree path front last := by
  cases hText : checkText path.text with
  | error failure =>
      unfold lastPiece lastPieceFrom at h
      rw [hText] at h
      exact nomatch h
  | ok =>
      rcases trimmed_cases path.pieces with ⟨hNone, _⟩ |
        ⟨before, other, slashes, hPieces, hLast, hEmpty, hTrimmed⟩
      · rw [lastPiece_of_slashes hText hNone] at h
        exact nomatch h
      · rw [lastPiece_of_trimmed hText hTrimmed] at h
        cases hWalk :
            tree.walk true linkLimit
              (startOf path.text tree.workingDirectory)
              (before ++ [""]) with
        | error n =>
            rw [hWalk] at h
            exact nomatch h
        | ok reached =>
            rw [hWalk] at h
            cases h
            rcases enters_of_walk hWalk (.inr (by simp)) with
              ⟨left, hEnters⟩
            rcases hEnters.split with ⟨between, middle, hWay, hSlash⟩
            rcases hSlash.of_slash with ⟨_, rfl⟩
            exact ⟨hText, hLast, before, slashes, between, hPieces,
              hEmpty, hWay⟩

/- A directory is found where the last piece of its path stands. -/
theorem LeadsTo.lastPiece
    (h : LeadsTo tree path place) :
    tree.lastPiece path = .ok ([], none) ∨
      ∃ front last,
        tree.lastPiece path = .ok (front, some last) ∧
          (last = "." ∨ last = ".." ∨
            last.utf8ByteSize ≤ 255 ∧
              (tree.entry? (front ++ [last])).isSome) := by
  rcases h.way with ⟨left, hWay⟩
  rcases trimmed_cases path.pieces with ⟨hNone, _⟩ |
    ⟨before, last, slashes, hPieces, hLast, hEmpty, hTrimmed⟩
  · exact .inl (lastPiece_of_slashes h.text hNone)
  · rw [hPieces] at hWay
    rcases hWay.split with ⟨between, front, hBefore, hRest⟩
    have hSlash : Enters tree between front [""] between front :=
      .stay (.inl rfl) .here
    have hWalk := hBefore.append hSlash
    refine .inr ⟨front, last, ?_, ?_⟩
    · rw [lastPiece_of_trimmed h.text hTrimmed, hWalk.walk_eq]
      rfl
    · cases hRest with
      | stay hPiece =>
          rcases hPiece with hNone | hHere
          · exact absurd hNone hLast
          · exact .inl hHere
      | up => exact .inr (.inl rfl)
      | into hPiece hEntry =>
          exact .inr (.inr ⟨hPiece.short, by rw [hEntry]; rfl⟩)
      | follow hPiece hEntry =>
          exact .inr (.inr ⟨hPiece.short, by rw [hEntry]; rfl⟩)

------------------------------------------------------------
-- Making Directories
------------------------------------------------------------

/- A directory that is there is not made again. -/
theorem LeadsTo.makeDirectory
    (h : LeadsTo tree path place) :
    tree.makeDirectory path =
      .error (.ofNumber Failure.entryExists) := by
  unfold FileTree.makeDirectory
  rcases h.lastPiece with hNone | ⟨front, last, hSome, hLast⟩
  · simp [hNone, bind, Except.bind]
  · rcases hLast with rfl | rfl | ⟨hShort, hThere⟩
    · simp [hSome, bind, Except.bind]
    · simp [hSome, bind, Except.bind]
    · simp only [hSome, bind, Except.bind]
      split
      · rfl
      · simp [Nat.not_lt.mpr hShort]

/- The way to an entry below the directory of the last piece. -/
theorem EndsWith.leadsTo
    {front : FilePlace}
    {last : String}
    (h : EndsWith tree path front last)
    (hName : IsEntryName last)
    (hEntry : tree.entry? (front ++ [last]) = some .directory) :
    LeadsTo tree path (front ++ [last]) := by
  rcases h.way with ⟨before, slashes, left, hPieces, hEmpty, hWay⟩
  refine ⟨h.text, hEntry, left, ?_⟩
  rw [hPieces]
  exact hWay.append
    (.into hName hEntry (enters_slashes hEmpty left _))

theorem EndsWith.add
    {front : FilePlace}
    {last : String}
    (h : EndsWith tree path front last)
    (spot : FilePlace)
    (entry : FileEntry) :
    EndsWith (tree.add spot entry) path front last := by
  rcases h.way with ⟨before, slashes, left, hPieces, hEmpty, hWay⟩
  exact ⟨h.text, h.nonempty, before, slashes, left, hPieces, hEmpty,
    hWay.grow (grows_add tree spot entry)⟩

/- A directory is made at a free place, where its path leads. -/
theorem makeDirectory_eq_ok
    (h : tree.makeDirectory path = .ok after) :
    ∃ place,
      tree.entry? place = none ∧
        after = tree.add place .directory ∧
        LeadsTo after path place := by
  unfold makeDirectory at h
  cases hLast : tree.lastPiece path with
  | error failure =>
      rw [hLast] at h
      exact nomatch h
  | ok found =>
      rcases found with ⟨front, _ | last⟩
      · rw [hLast] at h
        exact nomatch h
      · simp only [hLast, bind, Except.bind] at h
        split at h
        · exact nomatch h
        · next hDots =>
            split at h
            · exact nomatch h
            · next hShort =>
                split at h
                · exact nomatch h
                · next hThere =>
                    cases h
                    have hFree :
                        tree.entry? (front ++ [last]) = none := by
                      simpa using hThere
                    have hEnds := endsWith_of_lastPiece hLast
                    have hName : IsEntryName last :=
                      ⟨hEnds.nonempty, fun h => hDots (.inl h),
                        fun h => hDots (.inr h),
                        Nat.not_lt.mp hShort⟩
                    exact ⟨_, hFree, rfl,
                      (hEnds.add _ _).leadsTo hName
                        (entry_add hFree)⟩

/- A directory that is there stays as it is. -/
theorem LeadsTo.makeDirectoriesFrom
    (h : LeadsTo tree path place)
    (fuel : Nat) :
    FileTree.makeDirectoriesFrom fuel tree path = (.ok (), tree) := by
  cases fuel with
  | zero => rfl
  | succ fuel =>
      have hThere : tree.isDirectory path = true :=
        isDirectory_iff.mpr ⟨place, h⟩
      have hKind :
          (Failure.ofNumber Failure.entryExists).kind ≠ .notFound := by
        decide
      unfold FileTree.makeDirectoriesFrom
      split
      · rfl
      · rw [h.makeDirectory]
        exact if_neg hKind

/-
  Where a path has a directory above it: the path leads to a
  directory already, or to a new one, or no directory is made.
-/
theorem makeDirectories_cases
    {made : Except Failure Unit}
    {parent : Path}
    (hParent : path.parent? = some parent)
    (hAbove : tree.isDirectory parent = true)
    (h : tree.makeDirectories path = (made, after)) :
    (after = tree ∧
        (made = .ok () → ∃ place, LeadsTo tree path place)) ∨
      ∃ place,
        tree.entry? place = none ∧
          after = tree.add place .directory ∧
          LeadsTo after path place := by
  rcases isDirectory_iff.mp hAbove with ⟨above, hLeads⟩
  have hSame :
      ∀ {failure : Failure},
        (if tree.isDirectory path = true then (.ok (), tree)
          else (.error failure, tree)) = (made, after) →
          after = tree ∧
            (made = .ok () → ∃ place, LeadsTo tree path place) := by
    intro failure hMade
    by_cases hThere : tree.isDirectory path = true
    · rw [if_pos hThere] at hMade
      cases hMade
      exact ⟨rfl, fun _ => isDirectory_iff.mp hThere⟩
    · rw [if_neg hThere] at hMade
      cases hMade
      exact ⟨rfl, nofun⟩
  have hSome : path.components.isEmpty = false := by
    cases hComponents : path.components with
    | nil => simp [Path.parent?, hComponents] at hParent
    | cons => rfl
  unfold makeDirectories FileTree.makeDirectoriesFrom at h
  simp only [hSome, Bool.false_eq_true, if_false] at h
  cases hMake : tree.makeDirectory path with
  | ok tree' =>
      rw [hMake] at h
      cases h
      exact .inr (makeDirectory_eq_ok hMake)
  | error failure =>
      simp only [hMake, hParent, hLeads.makeDirectoriesFrom] at h
      split at h
      · exact .inl (hSame h)
      · exact .inl (hSame h)

/- All other paths lead where they led before. -/
theorem LeadsTo.makeDirectories
    {other parent : Path}
    (h : LeadsTo tree other place)
    (hParent : path.parent? = some parent)
    (hAbove : tree.isDirectory parent = true) :
    LeadsTo (tree.makeDirectories path).2 other place := by
  rcases hMade : tree.makeDirectories path with ⟨made, later⟩
  rcases makeDirectories_cases hParent hAbove hMade with
    ⟨rfl, _⟩ | ⟨spot, _, rfl, _⟩
  · exact h
  · exact h.add spot .directory

------------------------------------------------------------
-- Removing Directories
------------------------------------------------------------

/-
  An empty directory is removed. Its path leads to it unless
  the name is longer than names can be looked up.
-/
theorem removeDirectory_eq_ok
    (h : tree.removeDirectory path = .ok after) :
    ∃ front last,
      after = tree.remove (front ++ [last]) ∧
        tree.isEmptyDirectory (front ++ [last]) = true ∧
        (last.utf8ByteSize ≤ 255 →
          LeadsTo tree path (front ++ [last])) := by
  unfold removeDirectory at h
  cases hLast : tree.lastPiece path with
  | error failure =>
      rw [hLast] at h
      exact nomatch h
  | ok found =>
      rcases found with ⟨front, _ | last⟩
      · rw [hLast] at h
        exact nomatch h
      · simp only [hLast, bind, Except.bind] at h
        by_cases hHere : last = "."
        · simp [hHere] at h
        · by_cases hUp : last = ".."
          · simp [hUp] at h
          · simp only [hHere, hUp, if_false] at h
            split at h
            · exact nomatch h
            · next hEntry =>
                split at h
                · next hEmpty =>
                    cases h
                    have hEnds := endsWith_of_lastPiece hLast
                    exact ⟨front, last, rfl, hEmpty, fun hShort =>
                      hEnds.leadsTo
                        ⟨hEnds.nonempty, hHere, hUp, hShort⟩ hEntry⟩
                · exact nomatch h
            · exact nomatch h

end FileTree

end BlockVolumes
