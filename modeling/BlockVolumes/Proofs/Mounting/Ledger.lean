import BlockVolumes.Memory.Mounter
import Mathlib.Data.List.Chain

/-
  A mount table beside the actions that have made it. A path
  is in the table if the last change on it was a mount, and
  each mount on it is followed by an unmount. An unmount need
  not follow a mount where the table has shown the path of a
  deleted directory.

  Key definitions include:
    * `Mounting.Change`
    * `Mounting.changesOn`
    * `Mounting.Shadowed`
    * `Mounting.Listed`
    * `Mounting.Settled`
    * `Mounting.Ledger`

  Key theorems include:
    * `Mounting.Ledger.mount`
    * `Mounting.Ledger.unmount`
-/

namespace BlockVolumes

namespace Mounting

open Memory (Action Mounter)
open Mount (Point pointAt?)

------------------------------------------------------------
-- Changes
------------------------------------------------------------

/- What an action does to the mount table at a path. -/
inductive Change where
  | mount
  | unmount
  deriving DecidableEq, Repr

/- The change of the table at a path by an action. -/
def changeOf?
    (path : Path) : Action → Option Change
  | .mounted _ target _ _ =>
      if Path.Same target path then some .mount else none
  | .unmounted target =>
      if Path.Same target path then some .unmount else none
  | _ => none

/- The changes of the table at a path by some actions. -/
def changesOn
    (path : Path)
    (actions : List Action) : List Change :=
  actions.filterMap (changeOf? path)

/-
  Whether something was mounted where the table would show a
  directory after it was deleted.
-/
def Shadowed
    (path : Path)
    (actions : List Action) : Prop :=
  ∃ directory,
    Path.Same directory path ∧
      .mount ∈ changesOn (Point.deletedPath directory) actions

theorem changesOn_append
    (path : Path)
    (actions : List Action)
    (action : Action) :
    changesOn path (actions ++ [action]) =
      changesOn path actions ++ (changeOf? path action).toList := by
  unfold changesOn
  rw [List.filterMap_append]
  cases hChange : changeOf? path action with
  | none => simp [hChange]
  | some change => simp [hChange]

/- What was mounted stays so in view of later actions. -/
theorem Shadowed.append
    {path : Path}
    {actions : List Action}
    (h : Shadowed path actions)
    (action : Action) :
    Shadowed path (actions ++ [action]) := by
  rcases h with ⟨directory, hSame, hMount⟩
  refine ⟨directory, hSame, ?_⟩
  rw [changesOn_append]
  exact List.mem_append_left _ hMount

/-
  Whether changes agree with the table: a mount is only
  followed by an unmount, and a mount comes last if there is
  an entry. Changes alternate from a mount on, unless there
  can be an unmount that was meant for another entry.
-/
structure Settled
    (changes : List Change)
    (shadowed listed : Prop) : Prop where
  single :
    changes.IsChain fun before after =>
      before = .mount → after = .unmount
  last : changes.getLast? = some .mount ↔ listed
  alternate : ¬ shadowed → changes.IsChain (· ≠ ·)
  first : ¬ shadowed → changes.head? ≠ some .unmount

namespace Settled

variable {changes : List Change}
variable {shadowed listed : Prop}

theorem mono
    {shadowed' : Prop}
    (h : Settled changes shadowed listed)
    (hMore : shadowed → shadowed') :
    Settled changes shadowed' listed :=
  { single := h.single
    last := h.last
    alternate := fun hNot => h.alternate (mt hMore hNot)
    first := fun hNot => h.first (mt hMore hNot) }

theorem mount
    (h : Settled changes shadowed listed)
    (hFree : ¬ listed) :
    Settled (changes ++ [.mount]) shadowed True := by
  have hLast : changes.getLast? ≠ some .mount :=
    mt h.last.mp hFree
  constructor
  · rw [List.isChain_append]
    refine ⟨h.single, List.isChain_singleton _, ?_⟩
    rintro before hBefore after ⟨⟩ rfl
    exact absurd hBefore hLast
  · simp
  · intro hNot
    rw [List.isChain_append]
    refine ⟨h.alternate hNot, List.isChain_singleton _, ?_⟩
    rintro before hBefore after ⟨⟩ rfl
    exact hLast hBefore
  · intro hNot
    cases changes with
    | nil => simp
    | cons change rest => simpa using h.first hNot

theorem unmount
    (h : Settled changes shadowed listed)
    (hThere : listed ∨ shadowed) :
    Settled (changes ++ [.unmount]) shadowed False := by
  have hLast :
      ¬ shadowed → changes.getLast? = some .mount := by
    intro hNot
    exact h.last.mpr (hThere.resolve_right hNot)
  constructor
  · rw [List.isChain_append]
    refine ⟨h.single, List.isChain_singleton _, ?_⟩
    rintro before _ after ⟨⟩ _
    rfl
  · simp
  · intro hNot
    rw [List.isChain_append]
    refine ⟨h.alternate hNot, List.isChain_singleton _, ?_⟩
    rintro before hBefore after ⟨⟩ rfl
    rw [hLast hNot] at hBefore
    exact nomatch hBefore
  · intro hNot
    cases changes with
    | nil => exact nomatch hLast hNot
    | cons change rest => simpa using h.first hNot

end Settled

------------------------------------------------------------
-- Tables
------------------------------------------------------------

variable {table : List Point}
variable {path place : Path}
variable {point : Point}

/- Whether a table has an entry at a path. -/
def Listed
    (table : List Point)
    (path : Path) : Prop :=
  ∃ point ∈ table, Path.Same point.path path

/- Entries at different paths only. -/
abbrev Apart
    (table : List Point) : Prop :=
  table.Pairwise fun first second =>
    ¬ Path.Same first.path second.path

theorem pointAt_isSome_iff :
    (pointAt? table path).isSome ↔ Listed table path := by
  unfold pointAt? Listed
  rw [List.find?_isSome]
  simp

/- Spellings of one path are listed together. -/
theorem Listed.of_same
    (h : Listed table path)
    (hSame : Path.Same path place) :
    Listed table place := by
  rcases h with ⟨point, hMem, hPath⟩
  exact ⟨point, hMem, hPath.trans hSame⟩

theorem listed_append :
    Listed (table ++ [point]) path ↔
      Listed table path ∨ Path.Same point.path path := by
  unfold Listed
  constructor
  · rintro ⟨other, hMem, hSame⟩
    rcases List.mem_append.mp hMem with hOld | hNew
    · exact .inl ⟨other, hOld, hSame⟩
    · rw [List.mem_singleton.mp hNew] at hSame
      exact .inr hSame
  · rintro (⟨other, hMem, hSame⟩ | hSame)
    · exact ⟨other, List.mem_append_left _ hMem, hSame⟩
    · exact ⟨point, by simp, hSame⟩

/- The only entry at a place is taken away. -/
theorem listed_without
    (hApart : Apart table) :
    Listed (Mounter.withoutPoint table place) path ↔
      Listed table path ∧ ¬ Path.Same place path := by
  induction table with
  | nil => simp [Mounter.withoutPoint, Listed]
  | cons point rest ih =>
      rcases List.pairwise_cons.mp hApart with ⟨hFirst, hRest⟩
      by_cases hHere : Path.Same point.path place
      · have hWithout :
            Mounter.withoutPoint (point :: rest) place = rest := by
          simp [Mounter.withoutPoint, hHere]
        rw [hWithout]
        constructor
        · rintro ⟨other, hMem, hSame⟩
          refine ⟨⟨other, List.mem_cons_of_mem _ hMem, hSame⟩,
            fun hPath => ?_⟩
          exact hFirst other hMem
            ((hHere.trans hPath).trans hSame.symm)
        · rintro ⟨⟨other, hMem, hSame⟩, hPath⟩
          rcases List.mem_cons.mp hMem with rfl | hOld
          · exact absurd (hHere.symm.trans hSame) hPath
          · exact ⟨other, hOld, hSame⟩
      · have hWithout :
            Mounter.withoutPoint (point :: rest) place =
              point :: Mounter.withoutPoint rest place := by
          simp [Mounter.withoutPoint, hHere]
        rw [hWithout]
        constructor
        · rintro ⟨other, hMem, hSame⟩
          rcases List.mem_cons.mp hMem with rfl | hOld
          · refine ⟨⟨other, List.mem_cons_self, hSame⟩, fun hPath => ?_⟩
            exact hHere (hSame.trans hPath.symm)
          · rcases (ih hRest).mp ⟨other, hOld, hSame⟩ with
              ⟨⟨last, hLast, hLastSame⟩, hPath⟩
            exact ⟨⟨last, List.mem_cons_of_mem _ hLast, hLastSame⟩,
              hPath⟩
        · rintro ⟨⟨other, hMem, hSame⟩, hPath⟩
          rcases List.mem_cons.mp hMem with rfl | hOld
          · exact ⟨other, List.mem_cons_self, hSame⟩
          · rcases (ih hRest).mpr ⟨⟨other, hOld, hSame⟩, hPath⟩ with
              ⟨last, hLast, hLastSame⟩
            exact ⟨last, List.mem_cons_of_mem _ hLast, hLastSame⟩

------------------------------------------------------------
-- Tables and Actions
------------------------------------------------------------

variable {actions : List Action}
variable {action : Action}

/- Whether a table is what actions have made of an empty one. -/
structure Ledger
    (table : List Point)
    (actions : List Action) : Prop where
  apart : Apart table
  settled :
    ∀ path,
      Settled (changesOn path actions) (Shadowed path actions)
        (Listed table path)

namespace Ledger

theorem empty : Ledger [] [] := by
  constructor
  · exact .nil
  · intro path
    constructor
    · exact .nil
    · simp [changesOn, Listed]
    · exact fun _ => .nil
    · exact nofun

/- An action changes nothing at any other path. -/
theorem settled_append
    (h : Ledger table actions)
    (hOther : changeOf? path action = none) :
    Settled (changesOn path (actions ++ [action]))
      (Shadowed path (actions ++ [action])) (Listed table path) := by
  rw [changesOn_append, hOther, Option.toList_none,
    List.append_nil]
  exact (h.settled path).mono fun hShadowed => hShadowed.append action

/- Other actions do not matter. -/
theorem other
    (h : Ledger table actions)
    (hOther : ∀ path, changeOf? path action = none) :
    Ledger table (actions ++ [action]) :=
  ⟨h.apart, fun path => h.settled_append (hOther path)⟩

/- Something is mounted at a path that has no entry. -/
theorem mount
    {filesystem : String}
    {options : List String}
    (h : Ledger table actions)
    (hFree : ¬ Listed table point.path) :
    Ledger (table ++ [point])
      (actions ++
        [.mounted point.device point.path filesystem options]) := by
  constructor
  · refine List.pairwise_append.mpr
      ⟨h.apart, List.pairwise_singleton _ _, ?_⟩
    intro other hMem new hNew hSame
    rw [List.mem_singleton.mp hNew] at hSame
    exact hFree ⟨other, hMem, hSame⟩
  · intro path
    by_cases hSame : Path.Same point.path path
    · have hThere : Listed (table ++ [point]) path :=
        listed_append.mpr (.inr hSame)
      have hOld : ¬ Listed table path := fun hListed =>
        hFree (hListed.of_same hSame.symm)
      have hNew := ((h.settled path).mount hOld).mono
        fun hShadowed => hShadowed.append
          (.mounted point.device point.path filesystem options)
      rw [changesOn_append]
      simpa [changeOf?, hSame, hThere] using hNew
    · have hOld :
          Listed (table ++ [point]) path ↔ Listed table path := by
        rw [listed_append]
        simp [hSame]
      rw [hOld]
      exact h.settled_append (by simp [changeOf?, hSame])

/-
  The mount at a path is ended that has an entry, or that the
  table seems to show as deleted.
-/
theorem unmount
    (h : Ledger table actions)
    (hThere : ∃ point ∈ table, point.Matches place) :
    Ledger (Mounter.withoutPoint table place)
      (actions ++ [.unmounted place]) := by
  have hFound : Listed table place ∨ Shadowed place actions := by
    rcases hThere with ⟨point, hMem, hSame | hDeleted⟩
    · exact .inl ⟨point, hMem, hSame⟩
    · have hLast :=
        (h.settled (Point.deletedPath place)).last.mpr
          ⟨point, hMem, hDeleted⟩
      exact .inr ⟨place, .refl place, List.mem_of_getLast? hLast⟩
  constructor
  · exact h.apart.sublist List.eraseP_sublist
  · intro path
    by_cases hSame : Path.Same place path
    · have hGone :
          ¬ Listed (Mounter.withoutPoint table place) path :=
        fun hThere => ((listed_without h.apart).mp hThere).2 hSame
      have hHere : Listed table path ∨ Shadowed path actions := by
        rcases hFound with hListed |
          ⟨directory, hDirectory, hMount⟩
        · exact .inl (hListed.of_same hSame)
        · exact .inr ⟨directory, hDirectory.trans hSame, hMount⟩
      have hNew := ((h.settled path).unmount hHere).mono
        fun hShadowed => hShadowed.append (.unmounted place)
      rw [changesOn_append]
      simpa [changeOf?, hSame, hGone] using hNew
    · have hOld :
          Listed (Mounter.withoutPoint table place) path ↔
            Listed table path := by
        rw [listed_without h.apart]
        simp [hSame]
      rw [hOld]
      exact h.settled_append (by simp [changeOf?, hSame])

end Ledger

end Mounting

end BlockVolumes
