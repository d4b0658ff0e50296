import BlockVolumes.Files.Tree
import BlockVolumes.Proofs.Files.Names
import Mathlib.Data.List.Induction

/-
  How pieces of paths lead through a tree of files. A way to a
  directory can be put together from parts, and it stays open
  while entries are only added.

  Key definitions include:
    * `FileTree.Enters`
    * `FileTree.Stands`
    * `FileTree.Grows`

  Key theorems include:
    * `FileTree.Enters.walk`
    * `FileTree.enters_of_walk`
    * `FileTree.Enters.split`
    * `FileTree.Enters.grow`
    * `FileTree.reached_of_walk`
-/

namespace BlockVolumes

namespace FileTree

variable {tree later : FileTree}
variable {links left between : Nat}
variable {place reached middle : FilePlace}
variable {todo rest more : List String}
variable {piece : String}

------------------------------------------------------------
-- Ways to Directories
------------------------------------------------------------

/- Whether a piece is to be looked up in a directory. -/
structure IsEntryName
    (piece : String) : Prop where
  nonempty : piece ≠ ""
  notHere : piece ≠ "."
  notUp : piece ≠ ".."
  short : piece.utf8ByteSize ≤ 255

instance
    (piece : String) :
    Decidable (IsEntryName piece) :=
  decidable_of_iff
    (piece ≠ "" ∧ piece ≠ "." ∧ piece ≠ ".." ∧
      piece.utf8ByteSize ≤ 255)
    ⟨fun ⟨hNonempty, hHere, hUp, hShort⟩ =>
        ⟨hNonempty, hHere, hUp, hShort⟩,
      fun h => ⟨h.nonempty, h.notHere, h.notUp, h.short⟩⟩

/-
  Whether pieces lead from a place to a directory that is
  reached with a number of links left to follow.
-/
inductive Enters
    (tree : FileTree) :
    Nat → FilePlace → List String → Nat → FilePlace → Prop where
  | here
      {links : Nat}
      {place : FilePlace} :
      Enters tree links place [] links place
  | stay
      {links left : Nat}
      {place reached : FilePlace}
      {piece : String}
      {rest : List String}
      (hPiece : piece = "" ∨ piece = ".")
      (hRest : Enters tree links place rest left reached) :
      Enters tree links place (piece :: rest) left reached
  | up
      {links left : Nat}
      {place reached : FilePlace}
      {rest : List String}
      (hRest : Enters tree links place.dropLast rest left reached) :
      Enters tree links place (".." :: rest) left reached
  | into
      {links left : Nat}
      {place reached : FilePlace}
      {piece : String}
      {rest : List String}
      (hPiece : IsEntryName piece)
      (hEntry : tree.entry? (place ++ [piece]) = some .directory)
      (hRest :
        Enters tree links (place ++ [piece]) rest left reached) :
      Enters tree links place (piece :: rest) left reached
  | follow
      {links left : Nat}
      {place reached : FilePlace}
      {piece target : String}
      {rest : List String}
      (hPiece : IsEntryName piece)
      (hEntry :
        tree.entry? (place ++ [piece]) = some (.link target))
      (hRest :
        Enters tree links (startOf target place)
          (piecesOf target ++ rest) left reached) :
      Enters tree (links + 1) place (piece :: rest) left reached

/- A walk goes on from the directory that it has reached. -/
theorem Enters.walk
    (h : Enters tree links place todo left reached)
    (more : List String) :
    tree.walk true links place (todo ++ more) =
      tree.walk true left reached more := by
  induction h with
  | here => rfl
  | stay hPiece _ ih =>
      rw [List.cons_append, FileTree.walk, if_pos hPiece, ih]
  | up _ ih =>
      rw [List.cons_append, FileTree.walk, if_neg (by simp),
        if_pos rfl, ih]
  | into hPiece hEntry _ ih =>
      rw [List.cons_append, FileTree.walk,
        if_neg (by simp [hPiece.nonempty, hPiece.notHere]),
        if_neg hPiece.notUp,
        if_neg (Nat.not_lt.mpr hPiece.short), hEntry]
      exact ih
  | follow hPiece hEntry _ ih =>
      rw [List.cons_append, FileTree.walk,
        if_neg (by simp [hPiece.nonempty, hPiece.notHere]),
        if_neg hPiece.notUp,
        if_neg (Nat.not_lt.mpr hPiece.short), hEntry]
      simpa using ih

/- The end of a walk to a directory. -/
theorem Enters.walk_eq
    (h : Enters tree links place todo left reached) :
    tree.walk true links place todo = .ok reached := by
  have hWalk := h.walk []
  rw [List.append_nil] at hWalk
  rw [hWalk, FileTree.walk]

/- A walk that comes to a file has to end there. -/
theorem Enters.walk_file
    {next : String}
    {content : List UInt8}
    (h : Enters tree links place todo left reached)
    (hPiece : IsEntryName piece)
    (hEntry :
      tree.entry? (reached ++ [piece]) = some (.file content))
    (more : List String) :
    tree.walk true links place (todo ++ piece :: next :: more) =
      .error Files.Failure.notADirectory := by
  rw [h.walk, FileTree.walk,
    if_neg (by simp [hPiece.nonempty, hPiece.notHere]),
    if_neg hPiece.notUp, if_neg (Nat.not_lt.mpr hPiece.short),
    hEntry]
  rfl

/-
  A walk leads to a directory if its end is one, or if a slash
  ends its pieces.
-/
theorem enters_of_walk
    (hWalk : tree.walk true links place todo = .ok reached)
    (hEnd :
      tree.entry? reached = some .directory ∨
        todo.getLast? = some "") :
    ∃ left, Enters tree links place todo left reached := by
  have hLast :
      ∀ {piece : String} {rest : List String},
        (rest = [] → piece ≠ "") →
          (tree.entry? reached = some .directory ∨
            (piece :: rest).getLast? = some "") →
          tree.entry? reached = some .directory ∨
            rest.getLast? = some "" := by
    intro piece rest hPiece hEnd
    rcases hEnd with hEntry | hSlash
    · exact .inl hEntry
    · cases rest with
      | nil => exact absurd (by simpa using hSlash) (hPiece rfl)
      | cons next rest => exact .inr (by simpa using hSlash)
  fun_induction FileTree.walk tree true links place todo with
  | case1 links place =>
      cases hWalk
      exact ⟨links, .here⟩
  | case2 links place piece rest hPiece ih =>
      by_cases hRest : rest = []
      · subst hRest
        rw [FileTree.walk] at hWalk
        cases hWalk
        exact ⟨links, .stay hPiece .here⟩
      · rcases ih hWalk (hLast (absurd · hRest) hEnd) with
          ⟨left, hEnters⟩
        exact ⟨left, .stay hPiece hEnters⟩
  | case3 links place rest _ ih =>
      rcases ih hWalk (hLast (by simp) hEnd) with ⟨left, hEnters⟩
      exact ⟨left, .up hEnters⟩
  | case6 links place piece rest hNot hUp hShort hEntry ih =>
      have hPiece : IsEntryName piece := by
        constructor <;> simp_all
      rcases ih hWalk (hLast (fun _ => hPiece.nonempty) hEnd) with
        ⟨left, hEnters⟩
      exact ⟨left, .into hPiece hEntry hEnters⟩
  | case7 links place piece rest hNot hUp hShort content hEntry hLone =>
      cases hWalk
      rcases hEnd with hDirectory | hSlash
      · rw [hEntry] at hDirectory
        exact nomatch hDirectory
      · simp_all
  | case11 place piece rest hNot hUp hShort target hEntry _ links ih =>
      have hPiece : IsEntryName piece := by
        constructor <;> simp_all
      have hSome :
          tree.entry? reached = some .directory ∨
            (piecesOf target ++ rest).getLast? = some "" := by
        rcases hLast (fun _ => hPiece.nonempty) hEnd with
          hDirectory | hSlash
        · exact .inl hDirectory
        · exact .inr (by simp [List.getLast?_append, hSlash])
      rcases ih hWalk hSome with ⟨left, hEnters⟩
      exact ⟨left, .follow hPiece hEntry hEnters⟩
  | case9 => simp_all
  | case4 | case5 | case8 | case10 => exact nomatch hWalk

/- Two ways one after the other. -/
theorem Enters.append
    (hFirst : Enters tree links place todo between middle)
    (hSecond : Enters tree between middle more left reached) :
    Enters tree links place (todo ++ more) left reached := by
  induction hFirst with
  | here => exact hSecond
  | stay hPiece _ ih => exact .stay hPiece (ih hSecond)
  | up _ ih => exact .up (ih hSecond)
  | into hPiece hEntry _ ih => exact .into hPiece hEntry (ih hSecond)
  | follow hPiece hEntry _ ih =>
      have hRest := ih hSecond
      rw [List.append_assoc] at hRest
      exact .follow hPiece hEntry hRest

/- The two parts of a way. -/
theorem Enters.split
    (h : Enters tree links place (todo ++ more) left reached) :
    ∃ between middle,
      Enters tree links place todo between middle ∧
        Enters tree between middle more left reached := by
  generalize hAll : todo ++ more = all at h
  induction h generalizing todo with
  | here =>
      rcases List.append_eq_nil_iff.mp hAll with ⟨rfl, rfl⟩
      exact ⟨_, _, .here, .here⟩
  | stay hPiece hRest ih =>
      cases todo with
      | nil =>
          subst hAll
          exact ⟨_, _, .here, .stay hPiece hRest⟩
      | cons first todo =>
          cases hAll
          rcases ih rfl with ⟨between, middle, hFirst, hSecond⟩
          exact ⟨between, middle, .stay hPiece hFirst, hSecond⟩
  | up hRest ih =>
      cases todo with
      | nil =>
          subst hAll
          exact ⟨_, _, .here, .up hRest⟩
      | cons first todo =>
          cases hAll
          rcases ih rfl with ⟨between, middle, hFirst, hSecond⟩
          exact ⟨between, middle, .up hFirst, hSecond⟩
  | into hPiece hEntry hRest ih =>
      cases todo with
      | nil =>
          subst hAll
          exact ⟨_, _, .here, .into hPiece hEntry hRest⟩
      | cons first todo =>
          cases hAll
          rcases ih rfl with ⟨between, middle, hFirst, hSecond⟩
          exact ⟨between, middle, .into hPiece hEntry hFirst, hSecond⟩
  | follow hPiece hEntry hRest ih =>
      cases todo with
      | nil =>
          subst hAll
          exact ⟨_, _, .here, .follow hPiece hEntry hRest⟩
      | cons first todo =>
          cases hAll
          rcases ih (List.append_assoc ..) with
            ⟨between, middle, hFirst, hSecond⟩
          exact ⟨between, middle, .follow hPiece hEntry hFirst,
            hSecond⟩

------------------------------------------------------------
-- Trees That Grow
------------------------------------------------------------

/- Whether all entries of a tree are still there. -/
def Grows
    (tree later : FileTree) : Prop :=
  ∀ place entry,
    tree.entry? place = some entry → later.entry? place = some entry

/- A way stays open while entries are only added. -/
theorem Enters.grow
    (hGrows : Grows tree later)
    (h : Enters tree links place todo left reached) :
    Enters later links place todo left reached := by
  induction h with
  | here => exact .here
  | stay hPiece _ ih => exact .stay hPiece ih
  | up _ ih => exact .up ih
  | into hPiece hEntry _ ih => exact .into hPiece (hGrows _ _ hEntry) ih
  | follow hPiece hEntry _ ih =>
      exact .follow hPiece (hGrows _ _ hEntry) ih

------------------------------------------------------------
-- Places That Stand
------------------------------------------------------------

/-
  Whether a place can be reached from the root by its names,
  through directories only.
-/
inductive Stands
    (tree : FileTree) : FilePlace → Prop where
  | root : Stands tree []
  | inside
      {place : FilePlace}
      {name : String}
      (hAbove : Stands tree place)
      (hName : Path.IsName name)
      (hShort : name.utf8ByteSize ≤ 255)
      (hEntry : tree.entry? (place ++ [name]) = some .directory) :
      Stands tree (place ++ [name])

namespace Stands

theorem entry
    (h : Stands tree place) :
    tree.entry? place = some .directory := by
  cases h with
  | root => rfl
  | inside _ _ _ hEntry => exact hEntry

theorem names
    (h : Stands tree place) :
    ∀ name ∈ place, Path.IsName name ∧ name.utf8ByteSize ≤ 255 := by
  induction h with
  | root => exact nofun
  | inside _ hName hShort _ ih =>
      intro other hMem
      rcases List.mem_append.mp hMem with hAbove | hLast
      · exact ih other hAbove
      · rw [List.mem_singleton.mp hLast]
        exact ⟨hName, hShort⟩

theorem dropLast
    (h : Stands tree place) :
    Stands tree place.dropLast := by
  cases h with
  | root => exact .root
  | inside hAbove =>
      rw [List.dropLast_concat]
      exact hAbove

/- A link leads on from a place that stands. -/
theorem start
    {target : String}
    (h : Stands tree place) :
    Stands tree (startOf target place) := by
  unfold startOf
  split
  · exact .root
  · exact h

theorem grow
    (hGrows : Grows tree later)
    (h : Stands tree place) :
    Stands later place := by
  induction h with
  | root => exact .root
  | inside _ hName hShort hEntry ih =>
      exact .inside ih hName hShort (hGrows _ _ hEntry)

end Stands

/- No piece of the target of a link holds a slash. -/
theorem whole_of_mem_piecesOf
    {target : String}
    (h : piece ∈ piecesOf target) :
    '/' ∉ piece.toList := by
  have hPiece : piece ∈ (Path.mk target).pieces := h
  exact Path.whole_of_mem_pieces hPiece

/- Ways lead to places that stand. -/
theorem Enters.stands
    (h : Enters tree links place todo left reached)
    (hPlace : Stands tree place)
    (hWhole : ∀ piece ∈ todo, '/' ∉ piece.toList) :
    Stands tree reached := by
  induction h with
  | here => exact hPlace
  | stay _ _ ih =>
      exact ih hPlace fun piece hMem =>
        hWhole piece (List.mem_cons_of_mem _ hMem)
  | up _ ih =>
      exact ih hPlace.dropLast fun piece hMem =>
        hWhole piece (List.mem_cons_of_mem _ hMem)
  | into hPiece hEntry _ ih =>
      have hName : Path.IsName _ :=
        ⟨hPiece.nonempty, hPiece.notHere, hPiece.notUp,
          hWhole _ List.mem_cons_self⟩
      exact ih (.inside hPlace hName hPiece.short hEntry)
        fun piece hMem => hWhole piece (List.mem_cons_of_mem _ hMem)
  | @follow links left place reached piece target rest hPiece hEntry
      _ ih =>
      refine ih hPlace.start fun piece hMem => ?_
      rcases List.mem_append.mp hMem with hTarget | hRest
      · exact whole_of_mem_piecesOf hTarget
      · exact hWhole piece (List.mem_cons_of_mem _ hRest)

/-
  A walk from a place that stands leads to another one, or to
  a file in one.
-/
theorem reached_of_walk
    (hWalk : tree.walk true links place todo = .ok reached)
    (hPlace : Stands tree place)
    (hWhole : ∀ piece ∈ todo, '/' ∉ piece.toList) :
    Stands tree reached ∨
      ∃ front name content,
        reached = front ++ [name] ∧ Stands tree front ∧
          Path.IsName name ∧
          tree.entry? reached = some (.file content) := by
  fun_induction FileTree.walk tree true links place todo with
  | case1 =>
      cases hWalk
      exact .inl hPlace
  | case2 links place piece rest _ ih =>
      exact ih hWalk hPlace fun piece hMem =>
        hWhole piece (List.mem_cons_of_mem _ hMem)
  | case3 links place rest _ ih =>
      exact ih hWalk hPlace.dropLast fun piece hMem =>
        hWhole piece (List.mem_cons_of_mem _ hMem)
  | case6 links place piece rest hNot hUp hShort hEntry ih =>
      have hName : Path.IsName piece :=
        ⟨fun h => hNot (.inl h), fun h => hNot (.inr h), hUp,
          hWhole _ List.mem_cons_self⟩
      exact ih hWalk
        (.inside hPlace hName (Nat.not_lt.mp hShort) hEntry)
        fun piece hMem => hWhole piece (List.mem_cons_of_mem _ hMem)
  | case7 links place piece rest hNot hUp _ content hEntry =>
      cases hWalk
      have hName : Path.IsName piece :=
        ⟨fun h => hNot (.inl h), fun h => hNot (.inr h), hUp,
          hWhole _ List.mem_cons_self⟩
      exact .inr ⟨place, piece, content, rfl, hPlace, hName, hEntry⟩
  | case11 place piece rest _ _ _ target hEntry _ links ih =>
      refine ih hWalk hPlace.start fun piece hMem => ?_
      rcases List.mem_append.mp hMem with hTarget | hRest
      · exact whole_of_mem_piecesOf hTarget
      · exact hWhole piece (List.mem_cons_of_mem _ hRest)
  | case9 => simp_all
  | case4 | case5 | case8 | case10 => exact nomatch hWalk

end FileTree

end BlockVolumes
