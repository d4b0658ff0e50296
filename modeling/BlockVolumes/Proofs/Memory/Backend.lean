import BlockVolumes.Memory.Backend
import Mathlib.Data.List.Nodup

/-
  The backend in memory while no failure is scripted: every
  call is performed, volumes stay in the order of their
  identifiers, and each identifier stands for one volume.

  Key definitions include:
    * `Memory.Scripts.Spent`
    * `Memory.Backend.Undisturbed`
    * `Memory.Backend.Ordered`

  Key theorems include:
    * `Memory.Backend.answer_eq_perform`
    * `Memory.Backend.Undisturbed.perform`
    * `Memory.Backend.Ordered.perform`
    * `Memory.Backend.Ordered.putDisk_eq_map`
-/

namespace BlockVolumes

namespace Memory

------------------------------------------------------------
-- Scripts
------------------------------------------------------------

namespace Scripts

variable {α : Type}

/- No entry is left for any name. -/
def Spent
    (scripts : Scripts α) : Prop :=
  ∀ row ∈ scripts, row.2 = []

instance
    [DecidableEq α]
    (scripts : Scripts α) :
    Decidable scripts.Spent := by
  unfold Spent
  infer_instance

theorem take_of_spent
    {scripts : Scripts α}
    (h : scripts.Spent)
    (name : String) :
    scripts.take name = (none, scripts) := by
  induction scripts with
  | nil => rfl
  | cons row scripts ih =>
      rcases row with ⟨key, entries⟩
      have hRow : entries = [] := h (key, entries) (by simp)
      have hRest : Spent scripts := fun other hOther =>
        h other (List.mem_cons_of_mem _ hOther)
      subst hRow
      unfold take
      split
      · rfl
      · rw [ih hRest]

end Scripts

namespace Backend

open BlockVolumes.Backend (Call)

------------------------------------------------------------
-- Calls Without Failures
------------------------------------------------------------

/- No failure of a call is scripted. -/
def Undisturbed
    (backend : Backend) : Prop :=
  Scripts.Spent backend.failures

instance
    (backend : Backend) :
    Decidable backend.Undisturbed := by
  unfold Undisturbed
  infer_instance

theorem answer_eq_perform
    {backend : Backend}
    (h : backend.Undisturbed)
    (call : Call) :
    backend.answer call = backend.perform call := by
  have hTake :
      Failures.take call.name backend.failures =
        (none, backend.failures) := by
    rw [Failures.take, Scripts.take_of_spent h]
    rfl
  rw [answer, hTake]

/- Changing a volume changes nothing but the volumes. -/
theorem change_eq
    (backend : Backend)
    (id : String)
    (f : Disk → Disk) :
    ∃ disks,
      (backend.change id f).2 = { backend with disks := disks } := by
  unfold change
  split
  · exact ⟨backend.disks, rfl⟩
  · exact ⟨_, rfl⟩

@[simp] theorem lookUp_snd
    (backend : Backend)
    (id : String) :
    (backend.lookUp id).2 = backend := by
  unfold lookUp
  split <;> rfl

/- A call changes nothing that is scripted about failures. -/
theorem perform_failures
    (backend : Backend)
    (call : Call) :
    (backend.perform call).2.failures = backend.failures := by
  have hChange :
      ∀ (backend : Backend) id f,
        (backend.change id f).2.failures = backend.failures := by
    intro backend id f
    rcases change_eq backend id f with ⟨disks, h⟩
    rw [h]
  cases call with
  | create spec =>
      simp only [perform, create]
      split <;> rfl
  | delete id =>
      simp only [perform, delete]
      split <;> rfl
  | get id =>
      simp only [perform, get]
      split
      · rw [lookUp_snd]
      · rfl
      · rw [lookUp_snd, hChange]
  | expand id size => exact hChange _ _ _
  | attach id instanceId => exact hChange _ _ _
  | detach id instanceId => exact hChange _ _ _
  | find _ => rfl
  | list => rfl
  | checkAttach _ _ => rfl
  | attachedVolumes _ => rfl
  | describe _ => rfl

theorem Undisturbed.perform
    {backend : Backend}
    (h : backend.Undisturbed)
    (call : Call) :
    (backend.perform call).2.Undisturbed := by
  unfold Undisturbed
  rw [perform_failures]
  exact h

------------------------------------------------------------
-- The Order of Volumes
------------------------------------------------------------

/- The volumes stand in the order of their identifiers. -/
def Ordered
    (backend : Backend) : Prop :=
  backend.disks.Pairwise fun a b => a.id < b.id

instance
    (backend : Backend) :
    Decidable backend.Ordered := by
  unfold Ordered
  infer_instance

/- No two volumes have the same identifier. -/
theorem Ordered.nodup
    {backend : Backend}
    (h : backend.Ordered) :
    (backend.disks.map (·.id)).Nodup := by
  rw [List.Nodup, List.pairwise_map]
  exact h.imp fun hLess hEq => by
    rw [hEq] at hLess
    exact String.lt_irrefl _ hLess

theorem mem_insertDisk
    {disk other : Disk}
    {disks : List Disk}
    (h : other ∈ insertDisk disk disks) :
    other = disk ∨ other ∈ disks := by
  induction disks with
  | nil => simpa [insertDisk] using h
  | cons first disks ih =>
      unfold insertDisk at h
      split at h
      · simpa using h
      · split at h
        · rcases List.mem_cons.mp h with hEq | hMem
          · exact Or.inl hEq
          · exact Or.inr (List.mem_cons_of_mem _ hMem)
        · rcases List.mem_cons.mp h with hEq | hMem
          · exact Or.inr (by simp [hEq])
          · rcases ih hMem with hEq | hOld
            · exact Or.inl hEq
            · exact Or.inr (List.mem_cons_of_mem _ hOld)

theorem pairwise_insertDisk
    (disk : Disk)
    {disks : List Disk}
    (h : disks.Pairwise fun a b => a.id < b.id) :
    (insertDisk disk disks).Pairwise fun a b => a.id < b.id := by
  induction disks with
  | nil => simp [insertDisk]
  | cons first disks ih =>
      rcases List.pairwise_cons.mp h with ⟨hFirst, hRest⟩
      unfold insertDisk
      split
      · next hLess =>
          refine List.pairwise_cons.mpr ⟨fun other hOther => ?_, h⟩
          rcases List.mem_cons.mp hOther with rfl | hMem
          · exact hLess
          · exact String.lt_trans hLess (hFirst other hMem)
      · next hNotLess =>
          split
          · next hSame =>
              refine List.pairwise_cons.mpr ⟨fun other hMem => ?_, hRest⟩
              rw [hSame]
              exact hFirst other hMem
          · next hOther =>
              refine List.pairwise_cons.mpr ⟨fun other hMem => ?_, ih hRest⟩
              rcases mem_insertDisk hMem with rfl | hOld
              · apply Decidable.by_contra
                intro hNotMore
                have hSame := String.le_antisymm
                  (String.not_lt.mp hNotMore)
                  (String.not_lt.mp hNotLess)
                exact hOther hSame
              · exact hFirst other hOld

theorem Ordered.putDisk
    {backend : Backend}
    (h : backend.Ordered)
    (disk : Disk) :
    (backend.putDisk disk).Ordered :=
  pairwise_insertDisk disk h

theorem Ordered.change
    {backend : Backend}
    (h : backend.Ordered)
    (id : String)
    (f : Disk → Disk) :
    (backend.change id f).2.Ordered := by
  unfold Backend.change
  split
  · exact h
  · exact h.putDisk _

/- Every call keeps the volumes in order. -/
theorem Ordered.perform
    {backend : Backend}
    (h : backend.Ordered)
    (call : Call) :
    (backend.perform call).2.Ordered := by
  cases call with
  | create spec =>
      simp only [Backend.perform, create]
      split
      · exact h
      · exact pairwise_insertDisk _ h
  | delete id =>
      simp only [Backend.perform, delete]
      split
      · exact h
      · exact List.Pairwise.filter _ h
  | get id =>
      simp only [Backend.perform, get]
      split
      · rw [lookUp_snd]
        exact h
      · exact h
      · rw [lookUp_snd]
        apply Ordered.change
        exact h
  | expand id size => exact h.change _ _
  | attach id instanceId => exact h.change _ _
  | detach id instanceId => exact h.change _ _
  | find _ => exact h
  | list => exact h
  | checkAttach _ _ => exact h
  | attachedVolumes _ => exact h
  | describe _ => exact h

------------------------------------------------------------
-- Single Volumes
------------------------------------------------------------

/- The volume that an identifier finds has the identifier. -/
theorem disk?_eq_some
    {backend : Backend}
    {id : String}
    {disk : Disk}
    (h : backend.disk? id = some disk) :
    disk ∈ backend.disks ∧ disk.id = id := by
  have hId := List.find?_some h
  exact ⟨List.mem_of_find?_eq_some h, by simpa using hId⟩

/- A volume is found under its identifier. -/
theorem Ordered.disk?_of_mem
    {backend : Backend}
    (h : backend.Ordered)
    {disk : Disk}
    (hMem : disk ∈ backend.disks) :
    backend.disk? disk.id = some disk := by
  unfold disk?
  cases hFind : backend.disks.find? fun d => d.id == disk.id with
  | none =>
      have hNone := List.find?_eq_none.mp hFind disk hMem
      simp at hNone
  | some found =>
      rcases disk?_eq_some hFind with ⟨hFound, hId⟩
      rw [List.inj_on_of_nodup_map h.nodup hFound hMem hId]

/-
  Replacing a volume by one of the same identifier changes the
  volumes one by one.
-/
theorem insertDisk_eq_map
    {disk : Disk}
    {disks : List Disk}
    (hOrdered : disks.Pairwise fun a b => a.id < b.id)
    (hThere : ∃ old ∈ disks, old.id = disk.id) :
    insertDisk disk disks =
      disks.map fun old => if old.id = disk.id then disk else old := by
  induction disks with
  | nil => simp at hThere
  | cons first disks ih =>
      rcases List.pairwise_cons.mp hOrdered with ⟨hFirst, hRest⟩
      by_cases hSame : first.id = disk.id
      · have hOthers :
            (disks.map fun old =>
              if old.id = disk.id then disk else old) = disks := by
          rw [List.map_congr_left (g := id), List.map_id]
          intro old hOld
          have hLess := hFirst old hOld
          rw [hSame] at hLess
          rw [if_neg (String.ne_of_lt hLess).symm, id]
        rw [insertDisk, if_neg (by simp [hSame]), if_pos hSame.symm,
          List.map_cons, if_pos hSame, hOthers]
      · have hLater : ∃ old ∈ disks, old.id = disk.id := by
          rcases hThere with ⟨old, hOld, hId⟩
          rcases List.mem_cons.mp hOld with rfl | hMem
          · exact absurd hId hSame
          · exact ⟨old, hMem, hId⟩
        have hAfter : ¬ disk.id < first.id := by
          rcases hLater with ⟨old, hOld, hId⟩
          rw [← hId]
          exact String.lt_asymm (hFirst old hOld)
        rw [insertDisk, if_neg hAfter, if_neg (Ne.symm hSame),
          List.map_cons, if_neg hSame, ih hRest hLater]

theorem Ordered.putDisk_eq_map
    {backend : Backend}
    (h : backend.Ordered)
    {disk : Disk}
    (hThere : ∃ old ∈ backend.disks, old.id = disk.id) :
    backend.putDisk disk =
      { backend with
        disks := backend.disks.map fun old =>
          if old.id = disk.id then disk else old } := by
  rw [Backend.putDisk, insertDisk_eq_map h hThere]

end Backend

end Memory

end BlockVolumes
