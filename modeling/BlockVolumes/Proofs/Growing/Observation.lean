import BlockVolumes.Memory.World
import BlockVolumes.Proofs.Capacity
import BlockVolumes.Proofs.Csi.Reading
import BlockVolumes.Proofs.Waiting.Polls
import BlockVolumes.Service.Provisioner

/-
  Making a volume larger, in whatever way the backend replies.
  The volume is expanded at most once, after it was seen to be
  smaller, and the size that is told was seen by the call.

  Key definitions include:
    * `Service.Growing.GrowsOnce`
    * `Service.Growing.Observed`
    * `Service.Growing.Asked`

  Key theorems include:
    * `Service.Growing.growTo_observed`
    * `Service.Growing.expand_observed`
    * `Service.Growing.expand_reports_observed`
-/

namespace BlockVolumes

namespace Service

namespace Growing

open Csi (ExpandVolume.Error ExpandVolume.Outcome)
open Host (Exchange Observes Record Replies changes looks)

------------------------------------------------------------
-- Sizes That Were Seen
------------------------------------------------------------

/-
  Whether a request changes nothing, or is the first change and
  expands a volume to a size, after it was seen to be smaller
  and in a status that permits it.
-/
def GrowsOnce
    (volumeId : String)
    (size : Nat)
    (request : Host.Request)
    (past : Record) : Prop :=
  ∀ call,
    request.change? = some call →
      call = .expand volumeId size ∧ changes past = [] ∧
        ∃ disk,
          .ok disk ∈ looks volumeId past ∧ disk.size < size ∧
            (disk.status = .available ∨ disk.status = .inUse)

/-
  What a call that asked for a size has seen before it tells
  another one. If it has changed the volume, it saw the size
  after that, when the volume was not being extended any more;
  and if the size is larger, it was so from the first look on.
-/
structure Observed
    (volumeId : String)
    (size told : Nat)
    (past : Record) : Prop where
  enough : size ≤ told
  seen :
    ∃ (later earlier : Record) (disk : Disk),
      past =
          later ++ ⟨.backend (.get volumeId), .ok disk⟩ ::
            earlier ∧
        told ≤ disk.size ∧
        (changes past ≠ [] →
          changes earlier ≠ [] ∧ disk.status ≠ .extending)
  larger :
    size < told →
      ∃ first,
        (looks volumeId past).getLast? = some (.ok first) ∧
          size < first.size

variable {settings : Settings}
variable {volumeId : String}
variable {size told : Nat}
variable {disk : Disk}
variable {past now : Record}

theorem status_of_permits_expand
    {status : Disk.Status}
    (h : status.permits .expand = true) :
    status = .available ∨ status = .inUse := by
  revert h
  cases status <;> decide

theorem hasGrown_eq_true_iff :
    hasGrown size disk = true ↔
      disk.status ≠ .extending ∧ size ≤ disk.size := by
  simp [hasGrown]

theorem growsOnce_of_harmless
    {request : Host.Request}
    (h : request.change? = none) :
    GrowsOnce volumeId size request past := by
  intro call hChange
  rw [h] at hChange
  exact nomatch hChange

/- What is seen is not forgotten when the lock is given back. -/
theorem Observed.released
    (h : Observed volumeId size told now) :
    Observed volumeId size told (⟨.release, ()⟩ :: now) := by
  rcases h with ⟨hEnough, hSeen, hLarger⟩
  rcases hSeen with ⟨later, earlier, disk, hSplit, hSize, hAfter⟩
  have hChanges :
      changes (⟨.release, ()⟩ :: now) = changes now :=
    Host.changes_of_harmless rfl
  have hLooks :
      looks volumeId (⟨.release, ()⟩ :: now) =
        looks volumeId now :=
    Host.looks_of_blind rfl
  refine ⟨hEnough, ?_, ?_⟩
  · refine ⟨⟨.release, ()⟩ :: later, earlier, disk, ?_, hSize, ?_⟩
    · rw [hSplit]
      rfl
    · rw [hChanges]
      exact hAfter
  · rw [hLooks]
    exact hLarger

/- A volume that is large enough at once is left as it is. -/
theorem observed_of_large
    (hUntouched : changes past = [])
    (hUnseen : looks volumeId past = [])
    (hLarge : size ≤ disk.size) :
    Observed volumeId size disk.size
      (⟨.backend (.get volumeId), .ok disk⟩ :: past) := by
  refine ⟨hLarge, ⟨[], past, disk, rfl, Nat.le_refl _, ?_⟩, ?_⟩
  · rw [Host.changes_of_harmless rfl]
    exact fun hChanged => absurd hUntouched hChanged
  · intro hLarger
    exact ⟨disk, Host.getLast?_looks hUnseen (List.suffix_refl _),
      hLarger⟩

/- One that has grown was changed before it was seen. -/
theorem observed_of_grown
    {between : Record}
    (hChanged : changes past ≠ [])
    (hWaits : ∀ exchange ∈ between, exchange.Waits volumeId)
    (hGrown : hasGrown size disk = true) :
    Observed volumeId size size
      (⟨.backend (.get volumeId), .ok disk⟩ ::
        (between ++ past)) := by
  rcases hasGrown_eq_true_iff.mp hGrown with ⟨hStatus, hSize⟩
  refine ⟨Nat.le_refl _,
    ⟨[], between ++ past, disk, rfl, hSize, fun _ => ?_⟩,
    fun hLarger => absurd hLarger (Nat.lt_irrefl size)⟩
  rw [Host.changes_of_waits hWaits]
  exact ⟨hChanged, hStatus⟩

------------------------------------------------------------
-- Growing
------------------------------------------------------------

/-
  Whether a program expands a volume at most once, and its
  result agrees with the record at its end.
-/
abbrev Grows
    {ε α : Type}
    (volumeId : String)
    (size : Nat)
    (middle : α → Record → Prop)
    (program : Program Host ε α)
    (past : Record) : Prop :=
  Observes (GrowsOnce volumeId size) middle program past

/- A volume that was seen to be smaller is made larger. -/
theorem growTo_observed
    (hUntouched : changes past = [])
    (hSeen : .ok disk ∈ looks volumeId past)
    (hSmaller : disk.size < size) :
    Grows volumeId size
      (fun _ now => Observed volumeId size size now)
      (growTo settings volumeId size disk) past := by
  unfold growTo
  split
  · next hPermits =>
      have hExpand :
          GrowsOnce volumeId size
            (.backend (.expand volumeId size)) past := by
        rintro call ⟨⟩
        exact ⟨rfl, hUntouched, disk, hSeen, hSmaller,
          status_of_permits_expand hPermits⟩
      refine (Observes.mapError (Observes.backend hExpand)).bind
        fun _ now hNow => ?_
      refine (Wait.untilMet_waits
        (fun _ => growsOnce_of_harmless rfl)
        (fun _ _ => growsOnce_of_harmless rfl)
        _ _ _ now).bind fun grown later h => ?_
      rcases h with ⟨hGrown, between, rfl, hWaits⟩
      refine Observes.done_iff.mpr
        (observed_of_grown ?_ hWaits hGrown)
      rw [hNow, Host.changes_of_change rfl]
      exact List.cons_ne_nil _ _
  · exact Observes.failed

theorem expandTo_observed
    (settings : Settings)
    (hUntouched : changes past = [])
    (hUnseen : looks volumeId past = []) :
    Grows volumeId size
      (fun answer now =>
        ∃ told,
          answer = outcome told ∧
            Observed volumeId size told now)
      (expandTo settings volumeId size) past := by
  refine (Attaching.getVolume_reads _
    (growsOnce_of_harmless rfl)).bind fun disk now hNow => ?_
  subst hNow
  split
  · next hLarge =>
      exact Observes.done_iff.mpr ⟨disk.size, rfl,
        observed_of_large hUntouched hUnseen hLarge⟩
  · next hSmaller =>
      have hGrow :
          Grows volumeId size
            (fun _ now => Observed volumeId size size now)
            (growTo settings volumeId size disk)
            (⟨.backend (.get volumeId), .ok disk⟩ :: past) := by
        apply growTo_observed
        · rw [Host.changes_of_harmless rfl, hUntouched]
        · rw [Host.looks_get]
          exact List.mem_cons_self
        · exact Nat.lt_of_not_le hSmaller
      refine (Observes.mapError hGrow).bind fun _ now h => ?_
      exact Observes.done_iff.mpr ⟨size, rfl, h⟩

/- A request for an allocated size leads to no other size. -/
theorem expand_observed
    {request : Csi.ExpandVolume.Request}
    (hEnabled : settings.expansionEnabled = true)
    (hSize :
      Capacity.allocate settings.capacity (some request.range) =
        .ok size) :
    Grows request.volumeId size
      (fun answer now =>
        ∃ told,
          answer = outcome told ∧
            Observed request.volumeId size told now)
      (expand settings request) [] := by
  unfold expand
  rw [if_pos hEnabled, hSize]
  apply Observes.exclusively (expandTo_observed settings rfl rfl)
  · exact growsOnce_of_harmless rfl
  · exact fun _ => growsOnce_of_harmless rfl
  · rintro answer now ⟨told, hAnswer, hObserved⟩
    exact ⟨told, hAnswer, hObserved.released⟩

------------------------------------------------------------
-- Messages
------------------------------------------------------------

/-
  Whether a message asks for a size, by the range in it, of a
  plugin that makes volumes larger at all.
-/
structure Asked
    (settings : Settings)
    (message : Csi.ExpandVolume.Message)
    (range : Capacity.Range)
    (size : Nat) : Prop where
  enabled : settings.expansionEnabled = true
  read :
    ∃ request,
      Csi.ExpandVolume.Request.ofMessage message = .ok request ∧
        request.range = range
  allocated :
    Capacity.allocate settings.capacity (some range) = .ok size

/-
  Whether the answer to a message tells a size that is enough
  and was seen. In messages, a size is a number of 64 bits with
  a sign, which is the size only below `2 ^ 63` bytes.
-/
def Tells
    (volumeId : String)
    (range : Capacity.Range)
    (size : Nat)
    (answer : Csi.Controller.Answer)
    (past : Record) : Prop :=
  ∃ (told : Nat) (bytes : Int),
    answer = .expanded ⟨bytes, true⟩ ∧
      (bytes = told * Capacity.gib ↔
        told * Capacity.gib < Nat.pow 2 63) ∧
      Observed volumeId size told past ∧
      (∀ required ∈ range.required?,
        required ≤ told * Capacity.gib) ∧
      ∀ limit ∈ range.limit?,
        limit < told * Capacity.gib →
          ∃ first,
            (looks volumeId past).getLast? = some (.ok first) ∧
              size < first.size

theorem tells_of_observed
    {range : Capacity.Range}
    (hAdmits : range.Admits (size * Capacity.gib))
    (hObserved : Observed volumeId size told past) :
    Tells volumeId range size
      (.expanded (outcome told).toAnswer) past := by
  refine ⟨told, _, rfl, ?_, hObserved, ?_, ?_⟩
  · exact Csi.signed64_eq_self_iff
  · intro required hRequired
    exact Nat.le_trans (hAdmits.required required hRequired)
      (Nat.mul_le_mul_right _ hObserved.enough)
  -- The size that was asked for lies within the limit, so that
  -- one beyond the limit is another one.
  · intro limit hLimit hLarger
    apply hObserved.larger
    have hFits := hAdmits.limit limit hLimit
    exact Nat.lt_of_mul_lt_mul_right
      (Nat.lt_of_le_of_lt hFits hLarger)

variable {message : Csi.ExpandVolume.Message}
variable {request : Csi.ExpandVolume.Request}

/- A request that was read is handled, and its result written. -/
theorem run_serve_expand
    (settings : Settings)
    (replies : Replies)
    (hRead :
      Csi.ExpandVolume.Request.ofMessage message = .ok request) :
    replies.run ((provisioner settings).serve (.expand message))
        [] =
      (((replies.run (expand settings request) []).1.mapError
          ExpandVolume.Error.status).map fun outcome =>
            .expanded outcome.toAnswer,
        (replies.run (expand settings request) []).2) :=
  Replies.run_procedure hRead

/- A message that asks for no size is refused at once. -/
theorem run_serve_expand_of_not_asked
    (settings : Settings)
    (message : Csi.ExpandVolume.Message)
    (replies : Replies)
    (h : ¬ ∃ range size, Asked settings message range size) :
    ∃ refusal,
      replies.run ((provisioner settings).serve (.expand message))
          [] =
        (.error refusal, []) := by
  cases hRead : Csi.ExpandVolume.Request.ofMessage message with
  | error refusal =>
      exact ⟨refusal, Replies.run_procedure_refused hRead⟩
  | ok request =>
      rw [run_serve_expand settings replies hRead]
      unfold expand
      split
      · next hEnabled =>
          split
          · exact ⟨_, rfl⟩
          · next size hSize =>
              exact absurd ⟨request.range, size, hEnabled,
                ⟨request, hRead, rfl⟩, hSize⟩ h
      · exact ⟨_, rfl⟩

/-
  The controller tells no size that it has not seen, and asks
  the backend for no other change than to make the volume as
  large as the message asks for.
-/
theorem expand_reports_observed
    (settings : Settings)
    (message : Csi.ExpandVolume.Message)
    (replies : Replies) :
    let run :=
      replies.run ((provisioner settings).serve (.expand message))
        []
    (∃ range size,
      Asked settings message range size ∧
        (∀ later exchange earlier,
          run.2 = later ++ exchange :: earlier →
            GrowsOnce message.volumeId size exchange.request
              earlier) ∧
        ∀ answer,
          run.1 = .ok answer →
            Tells message.volumeId range size answer run.2) ∨
      (¬ ∃ range size, Asked settings message range size) ∧
        ∃ refusal, run = (.error refusal, []) := by
  intro run
  by_cases hAsked :
      ∃ range size, Asked settings message range size
  · left
    rcases hAsked with ⟨range, size, hAsked⟩
    refine ⟨range, size, hAsked, ?_⟩
    rcases hAsked.read with ⟨request, hRead, rfl⟩
    have hRun := run_serve_expand settings replies hRead
    have hObserved :=
      expand_observed hAsked.enabled hAsked.allocated
    have hId :=
      Csi.ExpandVolume.Request.volumeId_of_ofMessage hRead
    rw [hId] at hObserved
    change run = _ at hRun
    rw [hRun]
    constructor
    · intro later exchange earlier hSplit
      have hOrderly := hObserved.orderly_run replies trivial
      rw [hSplit] at hOrderly
      exact hOrderly.of_split
    · intro answer hAnswer
      cases hEnd : (replies.run (expand settings request) []).1 with
      | error error =>
          rw [hEnd] at hAnswer
          exact nomatch hAnswer
      | ok outcome =>
          rw [hEnd] at hAnswer
          cases hAnswer
          rcases hObserved.of_run hEnd with ⟨told, rfl, hTold⟩
          exact tells_of_observed
            (Capacity.admits_of_allocate hAsked.allocated) hTold
  · exact .inr ⟨hAsked,
      run_serve_expand_of_not_asked settings message replies hAsked⟩

/-
  A size of `2 ^ 63` bytes is more than a message can carry, so
  that no size in GiB is told for such a volume.
-/
theorem expand_tells_wrapped_size :
    let disk : Disk :=
      ⟨"vol-1", "pvc-1", 8589934592, .available, "cloud_ssd",
        "zone-a", [], 0, []⟩
    let message : Csi.ExpandVolume.Message :=
      { volumeId := "vol-1"
        range := some { required := Capacity.gib } }
    let world : Memory.World := { backend := { disks := [disk] } }
    let replies : Replies :=
      fun request _ => (Memory.World.answer request world).1
    let run :=
      replies.run ((provisioner {}).serve (.expand message)) []
    ∃ bytes,
      run.1 = .ok (.expanded ⟨bytes, true⟩) ∧
        ¬ ∃ told : Nat, bytes = told * Capacity.gib := by
  intro disk message world replies run
  refine ⟨-9223372036854775808, by decide +kernel, ?_⟩
  rintro ⟨told, hTold⟩
  have hNatural : (0 : Int) ≤ told * Capacity.gib := by
    exact Int.natCast_nonneg _
  omega

end Growing

end Service

end BlockVolumes
