import BlockVolumes.Proofs.Creation.Duplicates

/-
  Which of several volumes of one name stays when they are
  cleaned up, and what forbids the clean-up. A plan is made
  from a list that is sorted and parted; here it is described
  by the volumes in the order in which they were listed.

  Key definitions include:
    * `Service.Duplicates.OwnCopy`
    * `Service.Duplicates.Stays`
    * `Service.Duplicates.Verdict`
    * `Service.Duplicates.Judged`
    * `Service.Duplicates.OneOldest`

  Key theorems include:
    * `Service.Duplicates.Stays.eq_of_eq`
    * `Service.Duplicates.Stays.unique`
    * `Service.Duplicates.judged_plan`
    * `Service.Duplicates.Judged.agree`
-/

namespace BlockVolumes

namespace Service

namespace Duplicates

------------------------------------------------------------
-- Copies
------------------------------------------------------------

/-
  A volume that was created by this plugin with the wanted
  size, and lately: its age is less than the window, or it was
  created at a time that the clock has yet to show.
-/
structure OwnCopy
    (settings : Settings)
    (size : Nat)
    (now : Int)
    (disk : Disk) : Prop where
  creator : disk.tags.find? Disk.creatorTag = some settings.name
  fits : disk.size = size
  young :
    now < disk.createdAt ∨
      now - disk.createdAt < settings.duplicateWindow.nanoseconds

/- These are the volumes that may be removed. -/
theorem removable_iff
    {settings : Settings}
    {size : Nat}
    {now : Int}
    {disk : Disk} :
    Removable settings size now disk ↔
      OwnCopy settings size now disk := by
  constructor
  · rintro ⟨hCreator, hSize, hYoung⟩
    refine ⟨?_, hSize, Or.inr hYoung⟩
    simpa [Disk.createdBy] using hCreator
  · rintro ⟨hCreator, hSize, hYoung⟩
    refine ⟨?_, hSize, ?_⟩
    · simp [Disk.createdBy, hCreator]
    · unfold Young
      omega

instance
    (settings : Settings)
    (size : Nat)
    (now : Int)
    (disk : Disk) :
    Decidable (OwnCopy settings size now disk) :=
  decidable_of_iff _ removable_iff

------------------------------------------------------------
-- The Volume That Stays
------------------------------------------------------------

variable {removable : Disk → Prop}
variable {before after disks disks' : List Disk}
variable {before' after' : List Disk}
variable {keep keep' : Disk}
variable {name : String}

/-
  Whether a volume stays that is listed between others: all of
  these may be removed, and if it may be removed as well, it is
  older than those before it and not younger than those after.
-/
structure Stays
    (removable : Disk → Prop)
    (before : List Disk)
    (keep : Disk)
    (after : List Disk) : Prop where
  others : ∀ disk ∈ before ++ after, removable disk
  older :
    removable keep →
      (∀ disk ∈ before, keep.createdAt < disk.createdAt) ∧
        ∀ disk ∈ after, keep.createdAt ≤ disk.createdAt

/- No two volumes are the oldest ones. -/
def OneOldest
    (disks : List Disk) : Prop :=
  ∀ a ∈ disks, ∀ b ∈ disks,
    (∀ disk ∈ disks, a.createdAt ≤ disk.createdAt) →
      (∀ disk ∈ disks, b.createdAt ≤ disk.createdAt) →
        a = b

/- Besides the one that stays, all volumes may be removed. -/
theorem Stays.countP_le
    [DecidablePred removable]
    (h : Stays removable before keep after) :
    (before ++ keep :: after).countP (fun disk => ¬ removable disk) ≤
      1 := by
  have hOthers :
      (before ++ after).countP (fun disk => ¬ removable disk) =
        0 := by
    rw [List.countP_eq_zero]
    intro disk hDisk
    simpa using h.others disk hDisk
  have hPerm :
      (before ++ keep :: after).Perm (keep :: (before ++ after)) :=
    List.perm_middle
  rw [hPerm.countP_eq, List.countP_cons, hOthers]
  split <;> omega

/- Where all may be removed, the oldest one stays. -/
theorem Stays.oldest
    (h : Stays removable before keep after)
    (hKeep : removable keep) :
    ∀ disk ∈ before ++ keep :: after,
      keep.createdAt ≤ disk.createdAt := by
  rcases h.older hKeep with ⟨hBefore, hAfter⟩
  intro disk hDisk
  rcases List.mem_append.mp hDisk with hMem | hMem
  · exact Int.le_of_lt (hBefore disk hMem)
  · rcases List.mem_cons.mp hMem with rfl | hMem
    · exact Int.le_refl _
    · exact hAfter disk hMem

/- Of two volumes that are listed in turn, only one stays. -/
theorem Stays.not_later
    (h : Stays removable before keep after)
    (h' : Stays removable before' keep' after')
    (hAfter : keep' ∈ after)
    (hBefore : keep ∈ before') :
    False := by
  have hKeep : removable keep :=
    h'.others keep (List.mem_append_left _ hBefore)
  have hKeep' : removable keep' :=
    h.others keep' (List.mem_append_right _ hAfter)
  have hNotOlder := (h.older hKeep).2 keep' hAfter
  have hOlder := (h'.older hKeep').1 keep hBefore
  omega

/- A list of volumes settles which of them stays. -/
theorem Stays.eq_of_eq
    (h : Stays removable before keep after)
    (h' : Stays removable before' keep' after')
    (hList : before ++ keep :: after = before' ++ keep' :: after') :
    before = before' ∧ keep = keep' ∧ after = after' := by
  rcases List.append_eq_append_iff.mp hList with
    ⟨between, hBefore', hAfter⟩ | ⟨between, hBefore, hAfter'⟩
  · cases between with
    | nil =>
        cases hAfter
        exact ⟨(List.append_nil before).symm.trans hBefore'.symm,
          rfl, rfl⟩
    | cons first between =>
        cases hAfter
        exact (h.not_later h' (by simp) (by simp [hBefore'])).elim
  · cases between with
    | nil =>
        cases hAfter'
        exact ⟨hBefore.trans (List.append_nil before'), rfl, rfl⟩
    | cons first between =>
        cases hAfter'
        exact (h'.not_later h (by simp) (by simp [hBefore])).elim

theorem Stays.removable_of_ne
    (h : Stays removable before keep after)
    {disk : Disk}
    (hDisk : disk ∈ before ++ keep :: after)
    (hOther : disk ≠ keep) :
    removable disk := by
  apply h.others
  have hMem := List.perm_middle.mem_iff.mp hDisk
  exact (List.mem_cons.mp hMem).resolve_left hOther

/-
  The same volume stays in whichever order they are listed,
  unless the choice is between several oldest ones.
-/
theorem Stays.unique
    (h : Stays removable before keep after)
    (h' : Stays removable before' keep' after')
    (hPerm :
      (before ++ keep :: after).Perm (before' ++ keep' :: after'))
    (hOldest :
      (∀ disk ∈ before ++ keep :: after, removable disk) →
        OneOldest (before ++ keep :: after)) :
    keep = keep' ∧ (before ++ after).Perm (before' ++ after') := by
  have hKeep : keep ∈ before ++ keep :: after := by simp
  have hKeep' : keep' ∈ before ++ keep :: after :=
    hPerm.mem_iff.mpr (by simp)
  have hSame : keep = keep' := by
    by_cases hRemovable : removable keep
    · have hAll :
          ∀ disk ∈ before ++ keep :: after, removable disk := by
        intro disk hDisk
        by_cases hDiskKeep : disk = keep
        · rw [hDiskKeep]
          exact hRemovable
        · exact h.removable_of_ne hDisk hDiskKeep
      apply hOldest hAll keep hKeep keep' hKeep'
      · exact h.oldest hRemovable
      · intro disk hDisk
        exact h'.oldest (hAll keep' hKeep') disk
          (hPerm.mem_iff.mp hDisk)
    · by_contra hOther
      apply hRemovable
      exact h'.removable_of_ne (hPerm.mem_iff.mp hKeep) hOther
  subst hSame
  refine ⟨rfl, ?_⟩
  have hCons :
      (keep :: (before ++ after)).Perm
        (keep :: (before' ++ after')) :=
    (List.perm_middle.symm.trans hPerm).trans List.perm_middle
  exact hCons.cons_inv

------------------------------------------------------------
-- Judging a List
------------------------------------------------------------

/- The same volumes in the order of their creation. -/
structure Aged
    (queue disks : List Disk) : Prop where
  perm : queue.Perm disks
  sorted : queue.Pairwise fun a b => a.createdAt ≤ b.createdAt

/-
  What is decided once it is clear which volume stays. A broken
  one is left to be looked into together with the others, and
  these are removed only if each of them can be deleted.
-/
inductive Verdict
    (name : String)
    (keep : Disk)
    (others : List Disk) :
    Except Error Plan → Prop where
  | broken
      (hBroken : keep.status = .error) :
      Verdict name keep others
        (.error (.duplicates name (others.length + 1)))
  | busy
      {other : Disk}
      (hSound : keep.status ≠ .error)
      (hOther : other ∈ others)
      (hBusy : other.status ≠ .available ∧ other.status ≠ .error) :
      Verdict name keep others
        (.error (.refused other.id other.status .delete))
  | idle
      {queue : List Disk}
      (hSound : keep.status ≠ .error)
      (hIdle :
        ∀ other ∈ others,
          other.status = .available ∨ other.status = .error)
      (hAged : Aged queue others) :
      Verdict name keep others (.ok ⟨keep, queue⟩)

/-
  What is decided about volumes as they are listed. Where two
  of them may not be removed there is none that stays.
-/
inductive Judged
    (removable : Disk → Prop)
    [DecidablePred removable]
    (name : String) :
    List Disk → Except Error Plan → Prop where
  | unclear
      {disks : List Disk}
      (hSeveral :
        2 ≤ disks.countP fun disk => ¬ removable disk) :
      Judged removable name disks
        (.error (.duplicates name disks.length))
  | clear
      {before after : List Disk}
      {keep : Disk}
      {result : Except Error Plan}
      (hStays : Stays removable before keep after)
      (hVerdict : Verdict name keep (before ++ after) result) :
      Judged removable name (before ++ keep :: after) result

theorem permits_delete_iff
    {status : Disk.Status} :
    status.permits .delete = true ↔
      status = .available ∨ status = .error := by
  cases status <;> decide

/- The volume that is chosen stays, and all others are queued. -/
theorem exists_stays_of_survivor?
    [DecidablePred removable]
    {plan : Plan}
    (h :
      survivor? (fun disk => decide (removable disk))
        (byAge disks) = some plan) :
    ∃ before after,
      disks = before ++ plan.keep :: after ∧
        Stays removable before plan.keep after ∧
        Aged plan.remove (before ++ after) := by
  have hPerm := (perm_of_survivor? h).trans (perm_byAge disks)
  have hSorted := pairwise_byAge disks
  have hListed :
      (∃ before after,
        disks = before ++ plan.keep :: after ∧
          Stays removable before plan.keep after) ∧
        plan.remove.Sublist (byAge disks) := by
    unfold survivor? at h
    split at h
    · exact nomatch h
    · next oldest others hKept hYoung =>
        cases h
        have hAll :
            ∀ disk ∈ byAge disks, decide (removable disk) = true := by
          intro disk hDisk
          simpa using List.filter_eq_nil_iff.mp hKept disk hDisk
        rw [List.filter_eq_self.mpr hAll] at hYoung
        rcases listed_of_byAge hYoung with
          ⟨before, after, hDisks, hBefore, hAfter⟩
        refine ⟨⟨before, after, hDisks, ?_, ?_⟩, ?_⟩
        · intro disk hDisk
          have hMem : disk ∈ disks := by
            rw [hDisks, List.perm_middle.mem_iff]
            exact List.mem_cons_of_mem _ hDisk
          exact of_decide_eq_true
            (hAll disk ((perm_byAge disks).mem_iff.mpr hMem))
        · exact fun _ => ⟨hBefore, hAfter⟩
        · rw [hYoung]
          exact List.sublist_cons_self _ _
    · next keep hKept =>
        cases h
        have hOnly :
            disks.filter (fun disk => !decide (removable disk)) =
              [keep] := by
          apply List.perm_singleton.mp
          rw [← hKept]
          exact ((perm_byAge disks).filter _).symm
        rcases List.filter_eq_cons_iff.mp hOnly with
          ⟨before, after, hDisks, hBefore, hKeep, hAfter⟩
        refine ⟨⟨before, after, hDisks, ?_, ?_⟩,
          List.filter_sublist⟩
        · intro disk hDisk
          rcases List.mem_append.mp hDisk with hMem | hMem
          · simpa using hBefore disk hMem
          · simpa using List.filter_eq_nil_iff.mp hAfter disk hMem
        · intro hRemovable
          simp [hRemovable] at hKeep
    · exact nomatch h
  rcases hListed with ⟨⟨before, after, hDisks, hStays⟩, hSublist⟩
  refine ⟨before, after, hDisks, hStays, ?_, hSorted.sublist hSublist⟩
  rw [hDisks] at hPerm
  exact (hPerm.trans List.perm_middle).cons_inv

/- There is no choice only where two may not be removed. -/
theorem several_of_survivor?
    [DecidablePred removable]
    (hSome : disks ≠ [])
    (h :
      survivor? (fun disk => decide (removable disk))
        (byAge disks) = none) :
    2 ≤ disks.countP fun disk => ¬ removable disk := by
  have hCount :
      disks.countP (fun disk => ¬ removable disk) =
        ((byAge disks).filter fun disk =>
          !decide (removable disk)).length := by
    rw [← (perm_byAge disks).countP_eq, List.countP_eq_length_filter]
    simp only [decide_not]
  unfold survivor? at h
  split at h
  · next hKept hYoung =>
      exfalso
      apply hSome
      apply List.perm_nil.mp
      have hParts :=
        List.filter_append_perm
          (fun disk => decide (removable disk)) (byAge disks)
      rw [hKept, hYoung] at hParts
      exact (hParts.trans (perm_byAge disks)).symm
  · exact nomatch h
  · exact nomatch h
  · next hKept =>
      rw [hCount, hKept]
      simp

/- A plan is what is decided about the volumes. -/
theorem judged_plan
    {settings : Settings}
    {size : Nat}
    {now : Int}
    (hSome : disks ≠ []) :
    Judged (OwnCopy settings size now) name disks
      (plan settings name size now disks) := by
  have hRemovable :
      (fun disk => decide (Removable settings size now disk)) =
        fun disk => decide (OwnCopy settings size now disk) := by
    funext disk
    exact decide_eq_decide.mpr removable_iff
  unfold plan
  dsimp only
  rw [hRemovable]
  split
  · next hNone =>
      exact .unclear (several_of_survivor? hSome hNone)
  · next found hFound =>
      rcases exists_stays_of_survivor? hFound with
        ⟨before, after, hDisks, hStays, hAged⟩
      have hLength :
          disks.length = (before ++ after).length + 1 := by
        rw [hDisks]
        simp
        omega
      rw [hLength, hDisks]
      apply Judged.clear hStays
      split
      · next hBroken => exact .broken hBroken
      · next hSound =>
          split
          · next busy hBusy =>
              have hMem := List.mem_of_find?_eq_some hBusy
              have hRefused := List.find?_some hBusy
              refine .busy hSound (hAged.perm.mem_iff.mp hMem) ?_
              rw [Bool.not_eq_true', ← Bool.not_eq_true,
                permits_delete_iff, not_or] at hRefused
              exact hRefused
          · next hNone =>
              refine .idle hSound ?_ hAged
              intro other hOther
              have hDeletable := List.find?_eq_none.mp hNone other
                (hAged.perm.mem_iff.mpr hOther)
              rw [Bool.not_eq_true', Bool.not_eq_false,
                permits_delete_iff] at hDeletable
              exact hDeletable

------------------------------------------------------------
-- Lists in Another Order
------------------------------------------------------------

/- Refusals to clean up that differ in the volume they name. -/
inductive Alike :
    Error → Error → Prop where
  | duplicates
      {name : String}
      {count : Nat} :
      Alike (.duplicates name count) (.duplicates name count)
  | refused
      {id id' : String}
      {status status' : Disk.Status}
      {action : Disk.Action} :
      Alike (.refused id status action)
        (.refused id' status' action)

/- Decisions for the same volume and against the same ones. -/
def Agree :
    Except Error Plan → Except Error Plan → Prop
  | .error error, .error error' => Alike error error'
  | .ok plan, .ok plan' =>
      plan.keep = plan'.keep ∧ plan.remove.Perm plan'.remove
  | _, _ => False

variable {result result' : Except Error Plan}

theorem Verdict.agree
    {others others' : List Disk}
    (h : Verdict name keep others result)
    (h' : Verdict name keep others' result')
    (hPerm : others.Perm others') :
    Agree result result' := by
  have hIdle :
      ∀ {disks disks' : List Disk} {other : Disk},
        disks.Perm disks' → other ∈ disks →
          other.status ≠ .available ∧ other.status ≠ .error →
            ¬ ∀ disk ∈ disks',
              disk.status = .available ∨ disk.status = .error := by
    intro disks disks' other hPerm hOther hBusy hAll
    rcases hAll other (hPerm.mem_iff.mp hOther) with hStatus | hStatus
    · exact hBusy.1 hStatus
    · exact hBusy.2 hStatus
  cases h with
  | broken hBroken =>
      cases h' with
      | broken => rw [hPerm.length_eq]; exact .duplicates
      | busy hSound => exact absurd hBroken hSound
      | idle hSound => exact absurd hBroken hSound
  | busy hSound hOther hBusy =>
      cases h' with
      | broken hBroken => exact absurd hBroken hSound
      | busy => exact .refused
      | idle _ hAll => exact hIdle hPerm hOther hBusy hAll
  | idle hSound hAll hAged =>
      cases h' with
      | broken hBroken => exact absurd hBroken hSound
      | busy _ hOther hBusy =>
          exact hIdle hPerm.symm hOther hBusy hAll
      | idle _ _ hAged' =>
          exact ⟨rfl,
            (hAged.perm.trans hPerm).trans hAged'.perm.symm⟩

/-
  The order in which the volumes are listed decides nothing but
  a choice between several oldest ones.
-/
theorem Judged.agree
    [DecidablePred removable]
    (h : Judged removable name disks result)
    (h' : Judged removable name disks' result')
    (hPerm : disks.Perm disks')
    (hOldest :
      (∀ disk ∈ disks, removable disk) → OneOldest disks) :
    Agree result result' := by
  cases h with
  | unclear hSeveral =>
      cases h' with
      | unclear =>
          rw [hPerm.length_eq]
          exact .duplicates
      | clear hStays =>
          rw [hPerm.countP_eq] at hSeveral
          have hAtMost := hStays.countP_le
          omega
  | clear hStays hVerdict =>
      cases h' with
      | unclear hSeveral =>
          rw [← hPerm.countP_eq] at hSeveral
          have hAtMost := hStays.countP_le
          omega
      | clear hStays' hVerdict' =>
          rcases hStays.unique hStays' hPerm hOldest with
            ⟨rfl, hOthers⟩
          exact hVerdict.agree hVerdict' hOthers

end Duplicates

end Service

end BlockVolumes
