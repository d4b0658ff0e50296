import BlockVolumes.Memory.Mounter
import BlockVolumes.Mount.SystemMounter
import BlockVolumes.Proofs.Files.Bytes
import BlockVolumes.Proofs.Files.Walking
import BlockVolumes.Proofs.Program.Exchanges

/-
  Whether something is mounted at a path, by the three looks on
  which every mounter judges it: a quick check of the path, the
  place to which the path leads, and the mount table.

  Key definitions include:
    * `Mount.LeavesOpen`
    * `Mount.Lists`
    * `Mount.DecidedByTable`
    * `Mount.Judged`

  Key theorems include:
    * `Mount.decidedByTable`
    * `Mount.judged`
    * `Mount.SystemMounter.run_isMounted`
    * `Mount.listed_mounts_never_overlooked`
-/

namespace BlockVolumes

namespace Mount

open Files (Failure)
open Interface (Record Replies)

variable {quick : Except Error Bool}
variable {resolved : Option RawPath}
variable {table : Except Error (List RawPath)}
variable {paths : List RawPath}
variable {place : RawPath}
variable {error : Error}

------------------------------------------------------------
-- Looks
------------------------------------------------------------

/-
  Whether a quick check leaves it to the table: it has found no
  mount point, or was not permitted to look.
-/
def LeavesOpen
    (quick : Except Error Bool) : Prop :=
  quick = .ok true ∨
    ∃ error, quick = .error error ∧ error.isPermission = true

/-
  Whether a table lists a place: the path of an entry is that
  of the place, or the text that shows the place in messages
  with the mark of what was deleted, in any spelling.
-/
def Lists
    (paths : List RawPath)
    (place : RawPath) : Prop :=
  ∃ path ∈ paths,
    RawPath.Same path place ∨
      RawPath.Same path
        (.ofText (place.shown ++ "\\040(deleted)"))

/-
  How the table decides whether something is mounted at a path.
  A path that leads nowhere is not looked up in it, and where
  there is no table, nothing is mounted. Any other failure to
  read it is passed on.
-/
structure DecidedByTable
    (resolved : Option RawPath)
    (table : Except Error (List RawPath))
    (answer : Except Error Bool) : Prop where
  mounted :
    answer = .ok true ↔
      ∃ place paths,
        resolved = some place ∧ table = .ok paths ∧
          Lists paths place
  unmounted :
    answer = .ok false ↔
      resolved = none ∨
        (∃ error,
          table = .error error ∧ error.isNotFound = true) ∨
        ∃ place paths,
          resolved = some place ∧ table = .ok paths ∧
            ¬ Lists paths place
  failed :
    ∀ error,
      answer = .error error ↔
        resolved.isSome = true ∧ table = .error error ∧
          error.isNotFound = false

/-
  How it is judged whether something is mounted at a path. The
  quick check has the last word where it finds a mount point or
  fails, unless it fails for want of a permission. Its failure
  is passed on if it does not say that the path is missing.
-/
structure Judged
    (quick : Except Error Bool)
    (resolved : Option RawPath)
    (table : Except Error (List RawPath))
    (answer : Except Error Bool) : Prop where
  found : quick = .ok false → answer = .ok true
  leftOpen : LeavesOpen quick → DecidedByTable resolved table answer
  missing :
    ∀ error,
      quick = .error error → error.isNotFound = true →
        answer = .ok false
  failed :
    ∀ error,
      quick = .error error → error.isNotFound = false →
        error.isPermission = false → answer = .error error

------------------------------------------------------------
-- Judgements
------------------------------------------------------------

/- What is missing is never reported as forbidden. -/
theorem Error.isPermission_of_isNotFound
    (h : error.isNotFound = true) :
    error.isPermission = false := by
  unfold isNotFound at h
  unfold isPermission
  cases hCause : error.cause? with
  | none => rfl
  | some cause =>
      rw [hCause, Option.any_some, beq_iff_eq] at h
      rw [Option.any_some, h]
      rfl

theorem leavesOpen_iff :
    leavesOpen quick = true ↔ LeavesOpen quick := by
  cases quick <;> simp [leavesOpen, LeavesOpen]

theorem any_shows_iff :
    (paths.any fun path => decide (Shows path place)) = true ↔
      Lists paths place := by
  simp only [List.any_eq_true, decide_eq_true_eq]
  rfl

theorem isMounted_error :
    isMounted (.error error) =
      if error.isNotFound = true then .ok false else .error error :=
  rfl

/- A table that could be read lists the place or does not. -/
theorem isMounted_of_paths :
    isMounted (isAbsentFrom (some place) (.ok paths)) =
      .ok (paths.any fun path => decide (Shows path place)) := by
  simp [isMounted, isAbsentFrom, isFree, Except.map]

theorem isNotMountPoint_of_leavesOpen
    (h : LeavesOpen quick) :
    isNotMountPoint quick resolved table =
      isAbsentFrom resolved table :=
  if_pos (leavesOpen_iff.mpr h)

theorem isNotMountPoint_of_error
    (h : error.isPermission = false) :
    isNotMountPoint (.error error) resolved table =
      .error error :=
  if_neg (by rw [leavesOpen, h]; decide)

/- The table decides as it should, whatever the other two show. -/
theorem decidedByTable
    (resolved : Option RawPath)
    (table : Except Error (List RawPath)) :
    DecidedByTable resolved table
      (isMounted (isAbsentFrom resolved table)) := by
  cases resolved with
  | none =>
      change DecidedByTable none table (.ok false)
      constructor
      · simp
      · simp
      · simp
  | some place =>
      cases table with
      | ok paths =>
          rw [isMounted_of_paths]
          constructor
          · rw [Except.ok.injEq, any_shows_iff]
            simp
          · rw [Except.ok.injEq, ← Bool.not_eq_true, any_shows_iff]
            simp
          · simp
      | error error =>
          change DecidedByTable (some place) (.error error)
            (isMounted (.error error))
          rw [isMounted_error]
          cases hMissing : error.isNotFound with
          | true =>
              constructor
              · simp
              · simp [hMissing]
              · simp [hMissing]
          | false =>
              constructor
              · simp
              · simp [hMissing]
              · simp [hMissing]

theorem judged
    (quick : Except Error Bool)
    (resolved : Option RawPath)
    (table : Except Error (List RawPath)) :
    Judged quick resolved table
      (isMounted (isNotMountPoint quick resolved table)) := by
  constructor
  · rintro rfl
    rfl
  · intro hOpen
    rw [isNotMountPoint_of_leavesOpen hOpen]
    exact decidedByTable resolved table
  · rintro error rfl hMissing
    rw [isNotMountPoint_of_error
      (Error.isPermission_of_isNotFound hMissing), isMounted_error,
      if_pos hMissing]
  · rintro error rfl hMissing hPermission
    rw [isNotMountPoint_of_error hPermission, isMounted_error,
      hMissing]
    rfl

------------------------------------------------------------
-- Mounters
------------------------------------------------------------

namespace SystemMounter

theorem run_resolve
    {replies : Replies Shell}
    {path : Path}
    {past : Record Shell}
    {place : Except Failure RawPath}
    (h : replies (.resolve path) past = place) :
    replies.run (resolve path) past =
      (.ok place.toOption, ⟨.resolve path, place⟩ :: past) := by
  cases place with
  | ok place => exact Replies.run_ask h
  | error failure => exact Replies.run_ask h

/- Only where the table can be read does it show a place. -/
theorem run_isFree
    (replies : Replies Shell)
    (place : RawPath)
    (past : Record Shell) :
    let table := replies.run list past
    replies.run
        (list.bind fun points => .done (isFree place (placesOf points)))
        past =
      ((table.1.map placesOf).map (isFree place), table.2) := by
  intro table
  cases hTable : table.1 with
  | ok points =>
      exact Replies.run_bind_of_ok (Prod.ext hTable rfl) _
  | error error =>
      exact Replies.run_bind_of_error (Prod.ext hTable rfl) _

/-
  The mounter of the system checks the path, asks where it
  leads and reads the table, and judges by what it gets. It
  takes no look that would not matter.
-/
theorem run_isMounted
    (replies : Replies Shell)
    (path : Path)
    (past : Record Shell) :
    let quick := replies.run (isLikelyNotMountPoint path) past
    let place : Except Failure RawPath :=
      replies (.resolve path) quick.2
    let resolved := ⟨.resolve path, place⟩ :: quick.2
    let table := replies.run list resolved
    replies.run (isMounted path) past =
      (Mount.isMounted
          (Mount.isNotMountPoint quick.1 place.toOption
            (table.1.map placesOf)),
        if leavesOpen quick.1 then
          if place.isOk then table.2 else resolved
        else quick.2) := by
  intro quick place resolved table
  have hResolve :
      replies.run (resolve path) quick.2 =
        (.ok place.toOption, resolved) :=
    run_resolve rfl
  have hLooks :
      replies.run (isNotMountPoint path) past =
        (Mount.isNotMountPoint quick.1 place.toOption
            (table.1.map placesOf),
          if leavesOpen quick.1 then
            if place.isOk then table.2 else resolved
          else quick.2) := by
    rw [isNotMountPoint, Program.bind_eq,
      Replies.run_bind_of_ok (Replies.run_attempt _ _ _)]
    change replies.run (if leavesOpen quick.1 then _ else _) quick.2 = _
    unfold Mount.isNotMountPoint
    by_cases hOpen : leavesOpen quick.1 = true
    · rw [if_pos hOpen, if_pos hOpen, if_pos hOpen, Program.bind_eq,
        Replies.run_bind_of_ok hResolve]
      clear_value place
      cases place with
      | error failure => rfl
      | ok found => exact run_isFree replies found resolved
    · rw [if_neg hOpen, if_neg hOpen, if_neg hOpen]
      exact Program.run_ofExcept _ _ _
  rw [isMounted, Program.bind_eq,
    Replies.run_bind_of_ok (Replies.run_attempt _ _ _), hLooks]
  exact Program.run_ofExcept _ _ _

end SystemMounter

/-
  Every mounter judges by its three looks in this way, whatever
  they show: the mounter in memory by the table that it keeps,
  and the mounter of the system by what the system replies. The
  text that shows a place in UTF-8 has the bytes of the place.
-/
theorem listed_mounts_never_overlooked :
    (∀ (quick : Except Error Bool) (resolved : Option RawPath)
      (table : Except Error (List RawPath)),
      Judged quick resolved table
        (isMounted (isNotMountPoint quick resolved table))) ∧
    (∀ place : RawPath,
      place.bytes.toByteArray.IsValidUTF8 →
        (RawPath.ofText (place.shown ++ "\\040(deleted)")).bytes =
          place.bytes ++ (RawPath.ofText "\\040(deleted)").bytes) ∧
    (∀ (mounter : Memory.Mounter) (tree : FileTree) (path : Path),
      Judged (mounter.isLikelyNotMountPoint tree path)
        ((tree.canonical path).toOption.map Path.raw)
        (.ok (mounter.table.map fun point => point.path.raw))
        (mounter.answer tree (.isMounted path)).1) ∧
    ∀ (system : SystemMounter) (path : Path)
      (replies : Replies Shell) (past : Record Shell),
      let quick :=
        replies.run (system.serve (.isLikelyNotMountPoint path)) past
      let place : Except Failure RawPath :=
        replies (.resolve path) quick.2
      let table :=
        replies.run (system.serve .list)
          (⟨.resolve path, place⟩ :: quick.2)
      Judged quick.1 place.toOption
        (table.1.map fun points =>
          points.map fun point => point.path.raw)
        (replies.run (system.serve (.isMounted path)) past).1 := by
  refine ⟨judged, ?_, fun mounter tree path => judged _ _ _, ?_⟩
  · intro place hText
    rcases RawPath.exists_eq_ofText_iff.mpr hText with ⟨text, rfl⟩
    rw [RawPath.shown_ofText, RawPath.bytes_ofText_append]
  · intro system path replies past quick place table
    have hRun :
        (replies.run (system.serve (.isMounted path)) past).1 =
          isMounted
            (isNotMountPoint quick.1 place.toOption
              (table.1.map placesOf)) :=
      congrArg Prod.fst
        (SystemMounter.run_isMounted replies path past)
    rw [hRun]
    exact judged _ _ _

/-
  Where the quick check is not permitted, a deleted directory
  is found in the table, although its path is spelled otherwise.
-/
theorem listed_mounts_never_overlooked_deleted :
    let forbidden : Error := .other (.ofNumber 13)
    let place : RawPath := .ofText "/a"
    let paths : List RawPath := [.ofText "//a\\040(deleted)/"]
    LeavesOpen (.error forbidden) ∧ Lists paths place ∧
      isMounted
          (isNotMountPoint (.error forbidden) (some place)
            (.ok paths)) =
        .ok true ∧
      place.bytes.toByteArray.IsValidUTF8 ∧
      (RawPath.ofText (place.shown ++ "\\040(deleted)")).bytes =
        place.bytes ++ (RawPath.ofText "\\040(deleted)").bytes := by
  intro forbidden place paths
  have hOpen : LeavesOpen (.error forbidden) :=
    .inr ⟨forbidden, rfl, by decide⟩
  have hSame :
      Path.Same ⟨"//a\\040(deleted)/"⟩ ⟨"/a\\040(deleted)"⟩ := by
    decide +kernel
  have hLists : Lists paths place := by
    refine ⟨_, List.mem_singleton.mpr rfl, .inr ?_⟩
    rw [RawPath.shown_ofText]
    exact RawPath.same_raw_iff.mpr hSame
  have hText : place.bytes.toByteArray.IsValidUTF8 :=
    RawPath.exists_eq_ofText_iff.mp ⟨_, rfl⟩
  have hJudged :=
    listed_mounts_never_overlooked.1 (.error forbidden) (some place)
      (.ok paths)
  exact ⟨hOpen, hLists,
    (hJudged.leftOpen hOpen).mounted.mpr
      ⟨place, paths, rfl, rfl, hLists⟩,
    hText, listed_mounts_never_overlooked.2.1 place hText⟩

/-
  A place that is no text is not found by its path with the
  mark, but by another one, in which a character stands for the
  byte that makes none. Where the path leads nowhere, for
  whatever reason, nothing is found to be mounted.
-/
theorem place_without_text_misjudged :
    let place : RawPath := ⟨[0x2f, 0xff]⟩
    let followed : RawPath :=
      ⟨place.bytes ++ (RawPath.ofText "\\040(deleted)").bytes⟩
    let replaced : RawPath := .ofText "/\ufffd\\040(deleted)"
    let judge (path : RawPath) :=
      isMounted
        (isNotMountPoint (.ok true) (some place) (.ok [path]))
    let tree : FileTree := { entries := [(["a"], .file [])] }
    let path : Path := ⟨"/a/b"⟩
    let mounter : Memory.Mounter := { paths := [path] }
    judge followed = .ok false ∧
    (¬ RawPath.Same replaced place ∧
      ¬ RawPath.Same replaced followed ∧
      judge replaced = .ok true) ∧
    mounter.isLikelyNotMountPoint tree path = .ok true ∧
    tree.canonical path = .error (.ofNumber Failure.notADirectory) ∧
    (Error.other (.ofNumber Failure.notADirectory)).isNotFound =
      false ∧
    (mounter.answer tree (.isMounted path)).1 = .ok false := by
  intro place followed replaced judge tree path mounter
  have hShown : place.shown = "/\ufffd" := by
    simp [RawPath.shown, Text.ofBytesLossy, place, Text.decodeBytes]
  have hJudge :
      ∀ path,
        judge path =
          .ok (decide (RawPath.Same path place ∨
            RawPath.Same path replaced)) := by
    intro path
    change isMounted (isAbsentFrom (some place) (.ok [path])) = _
    rw [isMounted_of_paths, List.any_cons, List.any_nil,
      Bool.or_false]
    simp only [Shows, deletedPlace, hShown]
    rfl
  have hQuick : mounter.isLikelyNotMountPoint tree path = .ok true :=
    if_pos (by rw [Memory.Mounter.hasPath]; decide +kernel)
  have hRoot :
      tree.Enters FileTree.linkLimit [] [""] FileTree.linkLimit [] :=
    .stay (.inl rfl) .here
  have hWalk :
      tree.walk true FileTree.linkLimit [] ["", "a", "b"] =
        .error Failure.notADirectory :=
    hRoot.walk_file (by decide +kernel) rfl []
  have hLost :
      tree.canonical path =
        .error (.ofNumber Failure.notADirectory) := by
    have hText : FileTree.checkText path.text = .ok () := by
      decide +kernel
    have hStart :
        FileTree.startOf path.text tree.workingDirectory = [] := by
      decide +kernel
    have hPieces : path.pieces = ["", "a", "b"] := by
      decide +kernel
    have hResolve :
        tree.resolve path =
          .error (.ofNumber Failure.notADirectory) := by
      rw [FileTree.resolve, hText, hStart, hPieces]
      exact congrArg FileTree.fromNumber hWalk
    rw [FileTree.canonical, hResolve]
    rfl
  have hNowhere :
      (tree.canonical path).toOption.map Path.raw = none := by
    rw [hLost]
    rfl
  refine ⟨?_, ⟨?_, ?_, ?_⟩, hQuick, hLost, ?_, ?_⟩
  · rw [hJudge]
    decide +kernel
  · decide +kernel
  · decide +kernel
  · rw [hJudge]
    decide +kernel
  · decide
  · exact ((judged _ _ _).leftOpen (.inl hQuick)).unmounted.mpr
      (.inl hNowhere)

end Mount

end BlockVolumes
