import BlockVolumes.Proofs.Files.Bytes
import BlockVolumes.Proofs.Files.Changing
import BlockVolumes.Proofs.Memory.Mounter
import BlockVolumes.Proofs.Mounting.Ledger

/-
  Whether something is mounted at a path, as the mounter in
  memory judges it, and tables whose entries are at directories
  of the tree. All paths of that mounter are texts, so that its
  table shows in bytes what it shows as texts.

  Key definitions include:
    * `Mounting.Rooted`

  Key theorems include:
    * `Mount.isFree_raw`
    * `Mount.deviceMountedAt_raw`
    * `Mounting.isMounted_of_resolve`
    * `Mounting.isMounted_of_lost`
    * `Mounting.matches_of_isMounted`
    * `Mounting.free_of_isMounted`
    * `Mounting.Rooted.mount`
    * `Mounting.Rooted.remove`
-/

namespace BlockVolumes

------------------------------------------------------------
-- Places of Paths
------------------------------------------------------------

namespace FileTree

variable {tree : FileTree}
variable {path : Path}
variable {place : FilePlace}

theorem startOf_of_isAbsolute
    (hPath : path.isAbsolute = true)
    (here : FilePlace) :
    startOf path.text here = [] := by
  unfold startOf
  exact if_pos hPath

/- A path to a directory stands for the place of the directory. -/
theorem LeadsTo.stands
    (h : LeadsTo tree path place)
    (hPath : path.isAbsolute = true) :
    Stands tree place := by
  rcases h.way with ⟨left, hWay⟩
  rw [startOf_of_isAbsolute hPath] at hWay
  exact hWay.stands .root fun piece hMem =>
    Path.whole_of_mem_pieces hMem

/- Something stands where a path leads. -/
theorem leadsSomewhere_of_resolve
    (hPath : path.isAbsolute = true)
    (h : tree.resolve path = .ok place) :
    tree.leadsSomewhere path = true := by
  rcases resolve_eq_ok_iff.mp h with ⟨_, hWalk⟩
  rw [startOf_of_isAbsolute hPath] at hWalk
  have hReached := reached_of_walk hWalk .root fun piece hMem =>
    Path.whole_of_mem_pieces hMem
  have hEntry : ∃ entry, tree.entry? place = some entry := by
    rcases hReached with hStands | ⟨_, _, content, _, _, _, hFile⟩
    · exact ⟨_, hStands.entry⟩
    · exact ⟨_, hFile⟩
  rcases hEntry with ⟨entry, hEntry⟩
  simp [leadsSomewhere, follow, h, bind, Except.bind, hEntry,
    Except.isOk, Except.toBool]

end FileTree

------------------------------------------------------------
-- Tables of Texts
------------------------------------------------------------

namespace Mount

variable {table : List Point}
variable {directory : Path}

/- An entry shows a text in bytes if it does so as a text. -/
theorem shows_raw_iff
    {point : Point} :
    Shows point.path.raw directory.raw ↔ point.Matches directory := by
  have hDeleted :
      deletedPlace directory.raw =
        (Point.deletedPath directory).raw := by
    rw [deletedPlace, Path.raw, RawPath.shown_ofText]
    rfl
  unfold Shows Point.Matches
  rw [hDeleted, RawPath.same_raw_iff, RawPath.same_raw_iff]

theorem isFree_raw
    (table : List Point)
    (directory : Path) :
    isFree directory.raw (placesOf table) =
      !(table.any fun point => decide (point.Matches directory)) := by
  unfold isFree placesOf
  rw [List.any_map]
  simp only [Function.comp_def, shows_raw_iff]

/- A device is looked up by the path as a text. -/
theorem deviceMountedAt_raw
    (table : List Point)
    (path : Path) :
    deviceMountedAt table path.raw =
      (pointAt? table path).map fun point =>
        (point.device, usesOf table point.device) := by
  unfold deviceMountedAt pointAt?
  simp only [RawPath.same_raw_iff]

end Mount

namespace Mounting

open Memory (Action Mounter)
open Mount (Point pointAt?)

variable {tree after : FileTree}
variable {table : List Point}
variable {mounter : Mounter}
variable {path : Path}
variable {place spot : FilePlace}
variable {point : Point}

------------------------------------------------------------
-- Judgements
------------------------------------------------------------

/- The whole table decides about a path that leads somewhere. -/
theorem isMounted_of_resolve
    (hPath : path.isAbsolute = true)
    (h : tree.resolve path = .ok place) :
    mounter.isMounted tree path =
      .ok (mounter.table.any fun point =>
        decide (point.Matches (Path.ofNames place))) := by
  have hCanonical : tree.canonical path = .ok (Path.ofNames place) := by
    rw [FileTree.canonical, h]
    rfl
  have hSelf : tree.canonicalOrSelf path = Path.ofNames place := by
    rw [FileTree.canonicalOrSelf, hCanonical]
  have hThere : mounter.hasPath tree path = true := by
    rw [Mounter.hasPath,
      FileTree.leadsSomewhere_of_resolve hPath h, Bool.or_true]
  unfold Mounter.isMounted Mounter.isNotMountPoint
    Mounter.isLikelyNotMountPoint
  rw [if_pos hThere, hSelf]
  cases hPoint : pointAt? mounter.table (Path.ofNames place) with
  | some point =>
      have hListed := pointAt_isSome_iff.mp (by rw [hPoint]; rfl)
      rcases hListed with ⟨point, hMem, hSame⟩
      have hAny :
          (mounter.table.any fun point =>
            decide (point.Matches (Path.ofNames place))) = true :=
        List.any_eq_true.mpr
          ⟨point, hMem, decide_eq_true (.inl hSame)⟩
      rw [hAny]
      rfl
  | none =>
      simp [Mounter.place?, hCanonical, Mount.isNotMountPoint,
        Mount.leavesOpen, Mount.isAbsentFrom, Mount.isMounted,
        Mount.isFree_raw, Except.toOption, Except.map]

/- A path that leads nowhere is looked up as it is. -/
theorem isMounted_of_lost
    {failure : Files.Failure}
    (h : tree.resolve path = .error failure) :
    mounter.isMounted tree path =
      .ok (pointAt? mounter.table path).isSome := by
  have hCanonical : tree.canonical path = .error failure := by
    rw [FileTree.canonical, h]
    rfl
  have hSelf : tree.canonicalOrSelf path = path := by
    rw [FileTree.canonicalOrSelf, hCanonical]
  by_cases hThere : mounter.hasPath tree path = true
  · unfold Mounter.isMounted Mounter.isNotMountPoint
      Mounter.isLikelyNotMountPoint
    rw [if_pos hThere, hSelf]
    cases hPoint : pointAt? mounter.table path with
    | some point => rfl
    | none =>
        simp [Mounter.place?, hCanonical, Mount.isNotMountPoint,
          Mount.leavesOpen, Mount.isAbsentFrom, Mount.isMounted,
          Except.toOption]
  · rw [Bool.not_eq_true] at hThere
    rw [Mounter.isMounted_of_missing hThere]
    rw [Mounter.hasPath, Bool.or_eq_false_iff,
      Bool.or_eq_false_iff] at hThere
    rw [hThere.1.2]

/- A mount point has an entry, or is shown as deleted. -/
theorem matches_of_isMounted
    (hPath : path.isAbsolute = true)
    (h : mounter.isMounted tree path = .ok true) :
    ∃ point ∈ mounter.table,
      point.Matches (tree.canonicalOrSelf path) := by
  unfold FileTree.canonicalOrSelf FileTree.canonical
  cases hResolve : tree.resolve path with
  | ok place =>
      rw [isMounted_of_resolve hPath hResolve] at h
      simpa [Except.map] using h
  | error failure =>
      rw [isMounted_of_lost hResolve, Except.ok.injEq,
        pointAt_isSome_iff] at h
      rcases h with ⟨point, hMem, hSame⟩
      exact ⟨point, hMem, .inl hSame⟩

/- There is no entry for what is no mount point. -/
theorem free_of_isMounted
    (hPath : path.isAbsolute = true)
    (h : mounter.isMounted tree path = .ok false) :
    ¬ Listed mounter.table (tree.canonicalOrSelf path) := by
  rintro ⟨point, hMem, hSame⟩
  unfold FileTree.canonicalOrSelf FileTree.canonical at hSame
  cases hResolve : tree.resolve path with
  | ok place =>
      rw [isMounted_of_resolve hPath hResolve, Except.ok.injEq,
        List.any_eq_false] at h
      rw [hResolve] at hSame
      exact h point hMem (decide_eq_true (.inl hSame))
  | error failure =>
      have hListed : Listed mounter.table path := by
        rw [hResolve] at hSame
        exact ⟨point, hMem, hSame⟩
      rw [isMounted_of_lost hResolve,
        pointAt_isSome_iff.mpr hListed] at h
      simp at h

------------------------------------------------------------
-- Tables in a Tree
------------------------------------------------------------

/- Whether all entries are at directories of a tree. -/
def Rooted
    (tree : FileTree)
    (table : List Point) : Prop :=
  ∀ point ∈ table,
    ∃ place, point.path = Path.ofNames place ∧ tree.Stands place

namespace Rooted

/- The entry at a directory is found by its names. -/
theorem stands_of_listed
    (h : Rooted tree table)
    (hNames : ∀ name ∈ place, Path.IsName name)
    (hListed : Listed table (Path.ofNames place)) :
    tree.Stands place := by
  rcases hListed with ⟨point, hMem, hSame⟩
  rcases h point hMem with ⟨other, hPath, hStands⟩
  rw [hPath] at hSame
  have hEq :=
    (Path.ofNames_same_iff
      (fun name hName => (hStands.names name hName).1) hNames).mp
      hSame
  rw [← hEq]
  exact hStands

theorem grow
    (h : Rooted tree table)
    (hGrows : FileTree.Grows tree after) :
    Rooted after table := by
  intro point hMem
  rcases h point hMem with ⟨place, hPath, hStands⟩
  exact ⟨place, hPath, hStands.grow hGrows⟩

theorem mount
    (h : Rooted tree table)
    (hPath : point.path = Path.ofNames place)
    (hStands : tree.Stands place) :
    Rooted tree (table ++ [point]) := by
  intro other hMem
  rcases List.mem_append.mp hMem with hOld | hNew
  · exact h other hOld
  · rw [List.mem_singleton.mp hNew]
    exact ⟨place, hPath, hStands⟩

theorem unmount
    (h : Rooted tree table)
    (path : Path) :
    Rooted tree (Mounter.withoutPoint table path) :=
  fun point hMem => h point (List.mem_of_mem_eraseP hMem)

/- Removing an empty directory without an entry does no harm. -/
theorem remove
    (h : Rooted tree table)
    (hEmpty : tree.isEmptyDirectory spot = true)
    (hFree : tree.Stands spot → ¬ Listed table (Path.ofNames spot)) :
    Rooted (tree.remove spot) table := by
  intro point hMem
  rcases h point hMem with ⟨place, hPath, hStands⟩
  refine ⟨place, hPath, hStands.remove hEmpty ?_⟩
  rintro rfl
  refine hFree hStands ⟨point, hMem, ?_⟩
  rw [hPath]
  exact .refl _

end Rooted

end Mounting

end BlockVolumes
