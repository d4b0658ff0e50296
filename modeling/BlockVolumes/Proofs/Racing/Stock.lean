import BlockVolumes.Proofs.Creation.Duplicates
import BlockVolumes.Proofs.Program.Behaviour
import BlockVolumes.Service.Creation

/-
  A backend in which several calls create copies of one volume
  and delete copies again. The oldest copy is never deleted,
  whatever a call has seen of the others and however long ago.

  Key definitions include:
    * `Racing.Stock`
    * `Racing.Answers`
    * `Racing.Sound`
    * `Racing.Allowed`
    * `Racing.around`

  Key theorems include:
    * `Racing.Sound.of_answer`
    * `Racing.Sound.exists_named`
-/

namespace BlockVolumes

namespace Racing

open BlockVolumes.Backend (CreateSpec)
open Service (Duplicates.Young)

------------------------------------------------------------
-- The Stock
------------------------------------------------------------

/- The volumes that are there, and all that were created. -/
structure Stock where
  disks : List Disk
  created : List Disk

/- The volume that a creation request makes. -/
def newDisk
    (spec : CreateSpec)
    (id : String)
    (createdAt : Int) : Disk :=
  { id := id
    name := spec.name
    size := spec.size
    status := .available
    diskType := spec.diskType
    zone := spec.zone
    attachments := []
    createdAt := createdAt
    tags := spec.tags }

namespace Stock

/- The stock with a new volume. -/
def add
    (stock : Stock)
    (disk : Disk) : Stock :=
  ⟨disk :: stock.disks, disk :: stock.created⟩

/- The stock without a volume. -/
def remove
    (stock : Stock)
    (id : String) : Stock :=
  { stock with
    disks := stock.disks.filter fun disk => disk.id != id }

/- The volumes of a name. -/
def named
    (stock : Stock)
    (name : String) : List Disk :=
  stock.disks.filter fun disk => disk.name == name

/- An identifier and a time that no other volume has had. -/
def IsNew
    (stock : Stock)
    (id : String)
    (createdAt : Int) : Prop :=
  (∀ disk ∈ stock.disks, disk.id ≠ id) ∧
    ∀ disk ∈ stock.created,
      disk.id ≠ id ∧ disk.createdAt ≠ createdAt

end Stock

------------------------------------------------------------
-- Replies
------------------------------------------------------------

/-
  The replies that requests may get. Creations succeed, and no
  two volumes are created at the same time. A deletion may
  fail, with or without an effect. The clock shows a time at
  which every volume is young. Anything else may be replied
  in any way and has no effect on the stock.
-/
def Answers
    (settings : Settings) :
    (request : Host.Request) → Stock → Host.Reply request →
      Stock → Prop
  | .backend (.create spec), stock, reply, after =>
      ∃ id createdAt,
        stock.IsNew id createdAt ∧ reply = .ok id ∧
          after = stock.add (newDisk spec id createdAt)
  | .backend (.find name), stock, reply, after =>
      after = stock ∧
        ∀ disks, reply = .ok disks → disks.Perm (stock.named name)
  | .backend (.delete id), stock, reply, after =>
      after = stock.remove id ∨ (after = stock ∧ reply ≠ .ok ())
  | .wallClock, stock, now, after =>
      after = stock ∧
        ∀ disk ∈ stock.created,
          Duplicates.Young settings.duplicateWindow now disk
  | _, stock, _, after => after = stock

------------------------------------------------------------
-- What Is Kept
------------------------------------------------------------

/- Whether a property tells all volumes apart. -/
def Apart
    {β : Type}
    (key : Disk → β)
    (disks : List Disk) : Prop :=
  ∀ a ∈ disks, ∀ b ∈ disks, key a = key b → a = b

theorem Apart.cons
    {β : Type}
    {key : Disk → β}
    {disk : Disk}
    {disks : List Disk}
    (h : Apart key disks)
    (hNew : ∀ other ∈ disks, key other ≠ key disk) :
    Apart key (disk :: disks) := by
  intro a ha b hb hSame
  rcases List.mem_cons.mp ha with hFirst | hOldA
  · rcases List.mem_cons.mp hb with hSecond | hOldB
    · rw [hFirst, hSecond]
    · rw [hFirst] at hSame
      exact absurd hSame.symm (hNew b hOldB)
  · rcases List.mem_cons.mp hb with hSecond | hOldB
    · rw [hSecond] at hSame
      exact absurd hSame (hNew a hOldA)
    · exact h a hOldA b hOldB hSame

/- A volume that any of the calls would take for its own. -/
structure IsCopy
    (settings : Settings)
    (name : String)
    (size : Nat)
    (disk : Disk) : Prop where
  named : disk.name = name
  sized : disk.size = size
  available : disk.status = .available
  tagged : disk.createdBy settings.name = true

/-
  What holds of the stock at any time: all created volumes are
  copies that can be told apart, there are no other volumes of
  the name, and the oldest one of all is still there.
-/
structure Sound
    (settings : Settings)
    (name : String)
    (size : Nat)
    (stock : Stock) : Prop where
  copies : ∀ disk ∈ stock.created, IsCopy settings name size disk
  ids : Apart (·.id) stock.created
  times : Apart (·.createdAt) stock.created
  known : ∀ disk ∈ stock.named name, disk ∈ stock.created
  distinct : (stock.disks.map (·.id)).Nodup
  oldest :
    ∀ disk ∈ stock.created,
      (∀ other ∈ stock.created,
        disk.createdAt ≤ other.createdAt) → disk ∈ stock.disks

/-
  The requests that keep the stock sound: creations of copies,
  and deletions of volumes that are not the oldest copy.
-/
def Allowed
    (settings : Settings)
    (name : String)
    (size : Nat) : Host.Request → Stock → Prop
  | .backend (.create spec), _ =>
      spec.name = name ∧ spec.size = size ∧
        spec.tags.find? Disk.creatorTag = some settings.name
  | .backend (.delete id), stock =>
      ∀ disk ∈ stock.created, disk.id = id →
        ∃ other ∈ stock.created, other.createdAt < disk.createdAt
  | _, _ => True

variable {settings : Settings}
variable {name : String}
variable {size : Nat}
variable {stock : Stock}

/- A new copy can be told apart from the others. -/
theorem Sound.of_add
    (h : Sound settings name size stock)
    {disk : Disk}
    (hCopy : IsCopy settings name size disk)
    (hNew : stock.IsNew disk.id disk.createdAt) :
    Sound settings name size (stock.add disk) := by
  rcases hNew with ⟨hAbsent, hUnlike⟩
  constructor
  · intro a ha
    rcases List.mem_cons.mp ha with rfl | ha
    · exact hCopy
    · exact h.copies a ha
  · exact h.ids.cons fun other hOther => (hUnlike other hOther).1
  · exact h.times.cons fun other hOther => (hUnlike other hOther).2
  · intro a ha
    rcases List.mem_filter.mp ha with ⟨hMem, hName⟩
    rcases List.mem_cons.mp hMem with rfl | hMem
    · exact List.mem_cons_self ..
    · have hOld : a ∈ stock.named name :=
        List.mem_filter.mpr ⟨hMem, hName⟩
      exact List.mem_cons_of_mem disk (h.known a hOld)
  · refine List.nodup_cons.mpr ⟨?_, h.distinct⟩
    intro hThere
    rcases List.mem_map.mp hThere with ⟨other, hOther, hId⟩
    exact hAbsent other hOther hId
  · intro a ha hLeast
    rcases List.mem_cons.mp ha with rfl | ha
    · exact List.mem_cons_self ..
    · have hThere : a ∈ stock.disks :=
        h.oldest a ha fun other hOther =>
          hLeast other (List.mem_cons_of_mem disk hOther)
      exact List.mem_cons_of_mem disk hThere

/- The oldest copy is not the one that is deleted. -/
theorem Sound.of_remove
    (h : Sound settings name size stock)
    {id : String}
    (hAllowed :
      Allowed settings name size (.backend (.delete id)) stock) :
    Sound settings name size (stock.remove id) := by
  constructor
  · exact h.copies
  · exact h.ids
  · exact h.times
  · intro a ha
    rcases List.mem_filter.mp ha with ⟨hMem, hName⟩
    have hOld : a ∈ stock.named name :=
      List.mem_filter.mpr ⟨List.mem_of_mem_filter hMem, hName⟩
    exact h.known a hOld
  · have hFewer :
        ((stock.remove id).disks.map (·.id)).Sublist
          (stock.disks.map (·.id)) :=
      List.filter_sublist.map _
    exact h.distinct.sublist hFewer
  · intro a ha hLeast
    have hOther : a.id ≠ id := by
      intro hId
      rcases hAllowed a ha hId with ⟨older, hOlder, hLess⟩
      have hNotLess := hLeast older hOlder
      omega
    have hThere : a ∈ stock.disks := h.oldest a ha hLeast
    exact List.mem_filter.mpr ⟨hThere, by simpa using hOther⟩

/- No allowed request makes the stock unsound. -/
theorem Sound.of_answer
    (h : Sound settings name size stock)
    {request : Host.Request}
    {reply : Host.Reply request}
    {after : Stock}
    (hAllowed : Allowed settings name size request stock)
    (hAnswer : Answers settings request stock reply after) :
    Sound settings name size after := by
  cases request with
  | backend call =>
      cases call with
      | create spec =>
          rcases hAllowed with ⟨hName, hSize, hTag⟩
          rcases hAnswer with ⟨id, createdAt, hNew, _, rfl⟩
          have hTagged :
              (newDisk spec id createdAt).createdBy
                settings.name = true := by
            rw [Disk.createdBy, newDisk, hTag]
            exact beq_self_eq_true _
          exact h.of_add ⟨hName, hSize, rfl, hTagged⟩ hNew
      | delete id =>
          rcases hAnswer with rfl | ⟨rfl, _⟩
          · exact h.of_remove hAllowed
          · exact h
      | find _ =>
          rcases hAnswer with ⟨rfl, _⟩
          exact h
      | _ =>
          cases hAnswer
          exact h
  | wallClock =>
      rcases hAnswer with ⟨rfl, _⟩
      exact h
  | _ =>
      cases hAnswer
      exact h

/- Created volumes are on record for ever. -/
theorem created_of_answer
    {request : Host.Request}
    {reply : Host.Reply request}
    {after : Stock}
    (hAnswer : Answers settings request stock reply after)
    {disk : Disk}
    (hDisk : disk ∈ stock.created) :
    disk ∈ after.created := by
  cases request with
  | backend call =>
      cases call with
      | create spec =>
          rcases hAnswer with ⟨id, createdAt, _, _, rfl⟩
          exact List.mem_cons_of_mem _ hDisk
      | delete id =>
          rcases hAnswer with rfl | ⟨rfl, _⟩
          · exact hDisk
          · exact hDisk
      | find _ =>
          rcases hAnswer with ⟨rfl, _⟩
          exact hDisk
      | _ =>
          cases hAnswer
          exact hDisk
  | wallClock =>
      rcases hAnswer with ⟨rfl, _⟩
      exact hDisk
  | _ =>
      cases hAnswer
      exact hDisk

/- Once a volume was created, there is one of the name. -/
theorem Sound.exists_named
    (h : Sound settings name size stock)
    (hCreated : stock.created ≠ []) :
    ∃ disk ∈ stock.disks, disk.name = name := by
  let oldest := stock.created.minOn (·.createdAt) hCreated
  have hOldest : oldest ∈ stock.created := List.minOn_mem
  have hLeast :
      ∀ other ∈ stock.created,
        oldest.createdAt ≤ other.createdAt := by
    intro other hOther
    exact List.apply_minOn_le_of_mem hOther
  have hThere : oldest ∈ stock.disks :=
    h.oldest oldest hOldest hLeast
  exact ⟨oldest, hThere, (h.copies oldest hOldest).named⟩

------------------------------------------------------------
-- Side by Side
------------------------------------------------------------

/-
  The surroundings of one call: the others leave a sound stock
  sound, and the record of created volumes only grows.
-/
def around
    (settings : Settings)
    (name : String)
    (size : Nat) : Surroundings Host Stock :=
  { Answers := Answers settings
    Drifts := fun stock now =>
      (Sound settings name size stock →
        Sound settings name size now) ∧
      ∀ disk ∈ stock.created, disk ∈ now.created
    refl := fun _ => ⟨id, fun _ => id⟩
    trans := fun hFirst hSecond =>
      ⟨hSecond.1 ∘ hFirst.1,
        fun disk hDisk => hSecond.2 disk (hFirst.2 disk hDisk)⟩ }

/- What one call may do is a drift for the others. -/
theorem drifts_of_answer
    {request : Host.Request}
    {reply : Host.Reply request}
    {after : Stock}
    (hAllowed : Allowed settings name size request stock)
    (hAnswer :
      (around settings name size).Answers request stock reply
        after) :
    (around settings name size).Drifts stock after :=
  ⟨fun hSound => hSound.of_answer hAllowed hAnswer,
    fun _ hDisk => created_of_answer hAnswer hDisk⟩

end Racing

end BlockVolumes
