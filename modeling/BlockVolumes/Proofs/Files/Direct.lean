import BlockVolumes.Proofs.Files.Changing

/-
  Paths that lead past no links. Such a path is the canonical
  path of what it leads to, and it stays so as long as the
  tree gets no new links.

  Key definitions include:
    * `FileTree.Direct`
    * `FileTree.KeepsLinks`

  Key theorems include:
    * `FileTree.reached_of_direct`
    * `FileTree.Direct.canonicalOrSelf_same`
    * `FileTree.Direct.of_keepsLinks`
-/

namespace BlockVolumes

------------------------------------------------------------
-- Components That Are Names
------------------------------------------------------------

namespace Path

variable {path : Path}
variable {names : List String}
variable {piece : String}

/- A piece that names something is the first of the names. -/
theorem names_of_piece
    {rest : List String}
    (h :
      (piece :: rest).filterMap componentOf? =
        names.map Component.name)
    (hNot : ¬ (piece = "" ∨ piece = "."))
    (hUp : piece ≠ "..") :
    ∃ more,
      names = piece :: more ∧
        rest.filterMap componentOf? = more.map Component.name := by
  rw [List.filterMap_cons,
    componentOf?_of_ne (fun h => hNot (.inl h))
      (fun h => hNot (.inr h)) hUp] at h
  cases names with
  | nil => exact nomatch h
  | cons name more =>
      rcases List.cons.inj h with ⟨hName, hRest⟩
      cases hName
      exact ⟨more, rfl, hRest⟩

/- No name is a way up. -/
theorem not_names_of_up
    (rest : List String)
    (names : List String) :
    (".." :: rest).filterMap componentOf? ≠
      names.map Component.name := by
  intro h
  have hUp : Component.up ∈ names.map Component.name := by
    rw [← h]
    simp [componentOf?]
  simp at hUp

theorem isName_of_component
    {name : String}
    (hPiece : piece ∈ path.pieces)
    (h : componentOf? piece = some (.name name)) :
    IsName name := by
  unfold componentOf? at h
  split at h
  · exact nomatch h
  · exact nomatch h
  · exact nomatch h
  · next hNonempty hHere hUp =>
      cases h
      exact ⟨hNonempty, hHere, hUp, whole_of_mem_pieces hPiece⟩

/- Only a path from the root has the root as a component. -/
theorem pieces_of_components
    (h : path.components = .root :: names.map Component.name) :
    path.isAbsolute = true ∧
      path.pieces.filterMap componentOf? =
        names.map Component.name := by
  have hNoRoot :
      ∀ piece, componentOf? piece ≠ some .root := by
    intro piece hRoot
    unfold componentOf? at hRoot
    split at hRoot <;> exact nomatch hRoot
  unfold components at h
  dsimp only at h
  split at h
  · next hAbsolute => exact ⟨hAbsolute, (List.cons.inj h).2⟩
  · split at h
    · exact nomatch (List.cons.inj h).1
    · have hRoot :
          Component.root ∈ path.pieces.filterMap componentOf? := by
        rw [h]
        exact List.mem_cons_self
      rcases List.mem_filterMap.mp hRoot with ⟨piece, _, hPiece⟩
      exact absurd hPiece (hNoRoot piece)

theorem isName_of_components
    (h : path.components = .root :: names.map Component.name) :
    ∀ name ∈ names, IsName name := by
  intro name hName
  have hMem : Component.name name ∈ names.map Component.name :=
    List.mem_map_of_mem hName
  rw [← (pieces_of_components h).2] at hMem
  rcases List.mem_filterMap.mp hMem with ⟨piece, hPiece, hComponent⟩
  exact isName_of_component hPiece hComponent

end Path

namespace FileTree

variable {tree later : FileTree}
variable {path : Path}
variable {place reached : FilePlace}

------------------------------------------------------------
-- Direct Paths
------------------------------------------------------------

/- Whether a path leads down to a place by names, past no link. -/
structure Direct
    (tree : FileTree)
    (path : Path)
    (place : FilePlace) : Prop where
  components :
    path.components = .root :: place.map Path.Component.name
  unlinked :
    ∀ front, front <+: place →
      ∀ target, tree.entry? front ≠ some (.link target)

/- A path of one name is direct unless the name is that of a link. -/
theorem direct_of_name
    {name : String}
    (hComponents : path.components = [.root, .name name])
    (hEntry : ∀ target, tree.entry? [name] ≠ some (.link target)) :
    Direct tree path [name] := by
  refine ⟨hComponents, fun front hFront target => ?_⟩
  rcases List.prefix_cons_iff.mp hFront with rfl | ⟨rest, rfl, hRest⟩
  · exact nofun
  · rw [List.prefix_nil.mp hRest]
    exact hEntry target

/- Past no link, a walk can only end where the names lead. -/
theorem reached_of_direct
    {links : Nat}
    {todo names : List String}
    (hWalk : tree.walk true links place todo = .ok reached)
    (hNames :
      todo.filterMap Path.componentOf? =
        names.map Path.Component.name)
    (hUnlinked :
      ∀ front, front <+: names →
        ∀ target, tree.entry? (place ++ front) ≠ some (.link target)) :
    reached = place ++ names := by
  -- The names are those of the pieces that are still to be followed.
  fun_induction FileTree.walk tree true links place todo
    generalizing names with
  | case1 links place =>
      cases hWalk
      have hNone : names = [] := by simpa using hNames.symm
      rw [hNone, List.append_nil]
  | case2 links place piece rest hPiece ih =>
      refine ih hWalk ?_ hUnlinked
      rcases hPiece with rfl | rfl
      · exact hNames
      · exact hNames
  | case3 links place rest _ ih =>
      exact absurd hNames (Path.not_names_of_up rest names)
  | case6 links place piece rest hNot hUp _ _ ih =>
      rcases Path.names_of_piece hNames hNot hUp with
        ⟨more, rfl, hRest⟩
      have hReached : reached = (place ++ [piece]) ++ more := by
        refine ih hWalk hRest fun front hFront target => ?_
        rw [List.append_assoc]
        exact hUnlinked (piece :: front)
          (List.cons_prefix_cons.mpr ⟨rfl, hFront⟩) target
      rw [hReached, List.append_assoc]
      rfl
  | case7 links place piece rest hNot hUp _ content _ hLone =>
      cases hWalk
      rcases Path.names_of_piece hNames hNot hUp with
        ⟨more, rfl, hRest⟩
      rw [List.isEmpty_iff.mp hLone] at hRest
      have hNone : more = [] := by simpa using hRest.symm
      rw [hNone]
  | case11 place piece rest hNot hUp _ target hEntry _ links ih =>
      rcases Path.names_of_piece hNames hNot hUp with ⟨more, rfl, _⟩
      exact absurd hEntry
        (hUnlinked [piece]
          (List.cons_prefix_cons.mpr ⟨rfl, List.nil_prefix⟩) target)
  | case9 => simp_all
  | case4 | case5 | case8 | case10 => cases hWalk

/- A direct path is its own canonical path, but for its spelling. -/
theorem Direct.canonicalOrSelf_same
    (h : Direct tree path place) :
    Path.Same (tree.canonicalOrSelf path) path := by
  rcases Path.pieces_of_components h.components with
    ⟨hAbsolute, hNames⟩
  unfold canonicalOrSelf canonical
  cases hResolve : tree.resolve path with
  | error failure => exact .refl path
  | ok reached =>
      rcases resolve_eq_ok_iff.mp hResolve with ⟨_, hWalk⟩
      have hStart : startOf path.text tree.workingDirectory = [] :=
        if_pos hAbsolute
      rw [hStart] at hWalk
      have hReached : reached = place :=
        reached_of_direct hWalk hNames h.unlinked
      rw [hReached]
      exact
        (Path.components_ofNames
          (Path.isName_of_components h.components)).trans
          h.components.symm

------------------------------------------------------------
-- Links That Stay the Only Ones
------------------------------------------------------------

/- Whether all links of a later tree were there before. -/
def KeepsLinks
    (tree later : FileTree) : Prop :=
  ∀ place target,
    later.entry? place = some (.link target) →
      tree.entry? place = some (.link target)

theorem Direct.of_keepsLinks
    (h : Direct tree path place)
    (hLinks : KeepsLinks tree later) :
    Direct later path place :=
  ⟨h.components, fun front hFront target hLink =>
    h.unlinked front hFront target (hLinks front target hLink)⟩

/- A new directory is no link. -/
theorem keepsLinks_add
    (tree : FileTree)
    (spot : FilePlace) :
    KeepsLinks tree (tree.add spot .directory) := by
  intro place target hLink
  by_cases hPlace : place = []
  · rw [hPlace] at hLink
    cases hLink
  · rw [entry_eq_find hPlace] at hLink ⊢
    rw [add, List.find?_append] at hLink
    cases hOld : tree.entries.find? fun row => row.1 == place with
    | some row => simpa [hOld] using hLink
    | none =>
        rw [hOld, Option.none_or, List.find?_singleton] at hLink
        split at hLink
        · cases hLink
        · cases hLink

theorem keepsLinks_remove
    (tree : FileTree)
    (spot : FilePlace) :
    KeepsLinks tree (tree.remove spot) := by
  intro place target hLink
  by_cases hSpot : place = spot
  · by_cases hPlace : place = []
    · rw [hPlace] at hLink
      cases hLink
    · rw [entry_eq_find hPlace, Option.map_eq_some_iff] at hLink
      rcases hLink with ⟨row, hRow, _⟩
      have hKept := List.mem_of_find?_eq_some hRow
      have hSame := List.find?_some hRow
      rw [remove, List.mem_filter] at hKept
      rw [beq_iff_eq.mp hSame, hSpot] at hKept
      simp at hKept
  · rw [entry_remove hSpot] at hLink
    exact hLink

/- Making a target makes no links. -/
theorem keepsLinks_makeDirectories
    {parent : Path}
    (hParent : path.parent? = some parent)
    (hAbove : tree.isDirectory parent = true) :
    KeepsLinks tree (tree.makeDirectories path).2 := by
  rcases hMade : tree.makeDirectories path with ⟨made, after⟩
  rcases makeDirectories_cases hParent hAbove hMade with
    ⟨rfl, _⟩ | ⟨spot, _, rfl, _⟩
  · exact fun _ _ hLink => hLink
  · exact keepsLinks_add tree spot

theorem keepsLinks_removeDirectory
    (h : tree.removeDirectory path = .ok later) :
    KeepsLinks tree later := by
  rcases removeDirectory_eq_ok h with ⟨front, last, rfl, _⟩
  exact keepsLinks_remove tree (front ++ [last])

end FileTree

end BlockVolumes
