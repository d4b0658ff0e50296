import BlockVolumes.Proofs.Program.Crew
import BlockVolumes.Service.Growing
import Mathlib.Logic.Function.Basic

/-
  Calls that make volumes larger side by side, of which any
  may be dropped at any time. No volume ever shrinks, and none
  is smaller than a call has answered, because a call holds
  the lock from its look at the volume to its last poll.

  Key definitions include:
    * `Growth.Sizes`
    * `Growth.Answers`
    * `Growth.guard`
    * `Growth.Allowed`
    * `Growth.Inside`

  Key theorems include:
    * `Growth.section_grows`
    * `Growth.keep_of_calls`
    * `Growth.expansions_lose_nothing`
-/

namespace BlockVolumes

namespace Growth

open Csi (ExpandVolume.Error ExpandVolume.Outcome)
open Host (Crew Guard)
open Service

------------------------------------------------------------
-- The Backend
------------------------------------------------------------

/- The size of each volume in GiB. -/
abbrev Sizes := String → Nat

/-
  A backend in which only expansions change sizes. A volume
  is shown with its size and in any status. An expansion may
  be carried out or not, whatever the reply, and anything else
  may be replied in any way.
-/
def Answers :
    (request : Host.Request) → Sizes → Host.Reply request →
      Sizes → Prop
  | .backend (.get id), sizes, reply, after =>
      after = sizes ∧
        ∀ disk, reply = .ok disk → disk.size = sizes id
  | .backend (.expand id size), sizes, _, after =>
      after = sizes ∨ after = Function.update sizes id size
  | _, sizes, _, after => after = sizes

/- Nothing but the calls changes sizes. -/
abbrev around : Surroundings Host Sizes :=
  .alone Answers

------------------------------------------------------------
-- The Contract of a Call
------------------------------------------------------------

/- Without the lock nothing is changed, and nothing shrinks. -/
def guard : Guard Sizes :=
  { Quiet := Eq
    Loud := fun before now => ∀ id, before id ≤ now id
    quiet_refl := fun _ => rfl
    quiet_trans := Eq.trans
    loud_trans := fun hFirst hSecond id =>
      Nat.le_trans (hFirst id) (hSecond id)
    loud_of_quiet := fun h id => Nat.le_of_eq (congrFun h id) }

/-
  Whether a request may be put: without the lock none but the
  one for the lock, and with it no expansion to a size that is
  not larger.
-/
def Allowed : Host.Request → Guard.View Sizes → Prop
  | .acquire, _ => True
  | .backend (.expand id size), view =>
      view.2 = true ∧ view.1 id < size
  | _, view => view.2 = true

/- Whether the volume is as large as a call has answered. -/
def Kept
    (volumeId : String)
    (result : Except ExpandVolume.Error ExpandVolume.Outcome)
    (view : Guard.View Sizes) : Prop :=
  ∀ size flag,
    result = .ok ⟨size * Capacity.gib, flag⟩ →
      size ≤ view.1 volumeId

/- Sizes that are smaller are not asked for. -/
theorem holds :
    guard.Holds Answers Allowed := by
  intro request sizes held reply after hOpen hAllowed hAnswer
  cases request with
  | acquire => exact absurd trivial hOpen
  | release => exact absurd trivial hOpen
  | backend call =>
      cases call with
      | expand id size =>
          rcases hAllowed with ⟨hHeld, hLess⟩
          dsimp only at hHeld hLess
          subst hHeld
          rcases hAnswer with rfl | rfl
          · exact fun _ => Nat.le_refl _
          · intro other
            by_cases hSame : other = id
            · rw [hSame, Function.update_self]
              exact Nat.le_of_lt hLess
            · have hKept := Function.update_of_ne hSame size sizes
              exact Nat.le_of_eq hKept.symm
      | get id =>
          have hEq : after = sizes := hAnswer.1
          exact Guard.others_of_quiet hEq.symm _
      | _ =>
          have hEq : after = sizes := hAnswer
          exact Guard.others_of_quiet hEq.symm _
  | _ =>
      have hEq : after = sizes := hAnswer
      exact Guard.others_of_quiet hEq.symm _

------------------------------------------------------------
-- One Call
------------------------------------------------------------

variable {ε α : Type}
variable {sizes : Sizes}
variable {volumeId : String}

/-
  Whether a call that holds the lock asks for larger sizes
  only, and its result agrees with the sizes at its end.
-/
abbrev Grows
    (middle : α → Sizes → Prop)
    (program : Program Host ε α)
    (sizes : Sizes) : Prop :=
  guard.Within Answers Allowed middle program sizes

/- While a call holds the lock, only its requests matter. -/
theorem grows_ask
    {middle : α → Sizes → Prop}
    {request : Host.Request}
    {next : Host.Reply request → Program Host ε α}
    (hOpen : ¬ request.IsOfLock)
    (hAllowed : Allowed request (sizes, true))
    (hNext :
      ∀ reply after, Answers request sizes reply after →
        Grows middle (next reply) after) :
    Grows middle (.ask (I := Host) request next) sizes := by
  refine Guard.Within.ask hOpen fun now hNow => ?_
  have hEq : sizes = now := hNow
  rw [← hEq]
  exact ⟨hAllowed, hNext⟩

theorem grows_done
    {middle : α → Sizes → Prop}
    {a : α}
    (h : middle a sizes) :
    Grows middle (.done a : Program Host ε α) sizes := by
  refine Guard.Within.done fun now hNow => ?_
  have hEq : sizes = now := hNow
  rw [← hEq]
  exact h

/- The volume is seen as large as it is. -/
theorem getVolume_grows
    [RpcError ε]
    (missing : String → ε) :
    Grows (fun disk now => now = sizes ∧ disk.size = sizes volumeId)
      (Attaching.getVolume missing volumeId) sizes := by
  refine grows_ask nofun rfl fun reply after hAnswer => ?_
  rcases hAnswer with ⟨rfl, hSize⟩
  cases reply with
  | ok disk => exact grows_done ⟨rfl, hSize disk rfl⟩
  | error error => exact Guard.Within.failedEither

/- A poll that shows a volume large enough shows it as it is. -/
theorem le_of_met
    {size : Nat}
    {reply : Except Backend.Error Disk}
    (hSize : ∀ disk, reply = .ok disk → disk.size = sizes volumeId)
    {disk : Disk}
    (hMet : Wait.met (Growing.hasGrown size) reply = some disk) :
    size ≤ sizes volumeId := by
  cases reply with
  | error error => exact nomatch hMet
  | ok seen =>
      rw [Wait.met] at hMet
      split at hMet
      · next hGrown =>
          unfold Growing.hasGrown at hGrown
          rw [Bool.and_eq_true, decide_eq_true_eq] at hGrown
          rw [← hSize seen rfl]
          exact hGrown.2
      · exact nomatch hMet

/- Polls change nothing, and the last one shows the size. -/
theorem poll_grows
    (size interval left : Nat) :
    Grows
      (fun found now =>
        ∀ disk, found = some disk → size ≤ now volumeId)
      (Wait.poll volumeId (Growing.hasGrown size) interval left)
      sizes := by
  induction left generalizing sizes with
  | zero =>
      refine grows_ask nofun rfl fun reply after hAnswer => ?_
      rcases hAnswer with ⟨rfl, hSize⟩
      exact grows_done fun disk hMet => le_of_met hSize hMet
  | succ left ih =>
      have hSleep :
          ¬ (Host.Request.sleep interval).IsOfLock :=
        nofun
      refine grows_ask nofun rfl fun reply after hAnswer => ?_
      rcases hAnswer with ⟨rfl, hSize⟩
      dsimp only [Program.done_bind]
      split
      · next disk hMet =>
          exact grows_done fun _ _ => le_of_met hSize hMet
      · exact grows_ask hSleep rfl fun _ later hLater => ih

theorem untilMet_grows
    (polling : Polling)
    (size : Nat) :
    Grows (fun _ now => size ≤ now volumeId)
      (Wait.untilMet polling volumeId "resized"
        (Growing.hasGrown size))
      sizes := by
  unfold Wait.untilMet
  refine (poll_grows size _ _).bind fun found now hFound => ?_
  cases found with
  | some disk => exact grows_done (hFound disk rfl)
  | none =>
      refine grows_ask nofun rfl fun _ _ _ => ?_
      exact Guard.Within.failed

/- A smaller volume is made as large as it should be. -/
theorem growTo_grows
    (settings : Settings)
    {size : Nat}
    (hLess : sizes volumeId < size)
    (disk : Disk) :
    Grows (fun _ now => size ≤ now volumeId)
      (Growing.growTo settings volumeId size disk) sizes := by
  unfold Growing.growTo
  split
  · have hExpand :
        Grows (fun _ _ => True)
          (Host.backend (.expand volumeId size)) sizes := by
      refine grows_ask nofun ⟨rfl, hLess⟩ fun reply after _ => ?_
      exact Guard.Within.ofExcept fun _ _ _ _ => trivial
    refine hExpand.mapError.bind fun _ now _ => ?_
    refine (untilMet_grows settings.polling size).bind
      fun _ later hLater => ?_
    exact grows_done hLater
  · exact Guard.Within.failed

/-
  What a call does while it holds the lock: the volume is at
  its end as large as is answered.
-/
theorem section_grows
    (settings : Settings)
    (size : Nat) :
    Grows
      (fun outcome now => Kept volumeId (.ok outcome) (now, true))
      (Growing.expandTo settings volumeId size) sizes := by
  have hKept :
      ∀ {reached : Nat} {now : Sizes},
        reached ≤ now volumeId →
          Kept volumeId (.ok (Growing.outcome reached))
            (now, true) := by
    intro reached now hReached answered flag hAnswer
    have hBytes :
        reached * Capacity.gib = answered * Capacity.gib :=
      congrArg ExpandVolume.Outcome.capacity (Except.ok.inj hAnswer)
    have hEq : reached = answered :=
      Nat.eq_of_mul_eq_mul_right (by decide) hBytes
    rw [← hEq]
    exact hReached
  unfold Growing.expandTo
  refine (getVolume_grows _).bind fun disk now hDisk => ?_
  rcases hDisk with ⟨rfl, hSize⟩
  split
  · exact grows_done (hKept (Nat.le_of_eq hSize))
  · next hSmall =>
      have hLess : now volumeId < size := by
        rw [← hSize]
        exact Nat.lt_of_not_le hSmall
      refine (growTo_grows settings hLess disk).mapError.bind
        fun _ later hLater => ?_
      exact grows_done (hKept hLater)

/- A call keeps to its contract from the beginning. -/
theorem expand_keeps
    (settings : Settings)
    (request : Csi.ExpandVolume.Request) :
    (Growing.expand settings request).Keeps (guard.seen Answers)
      Allowed (Kept request.volumeId) (sizes, false) := by
  unfold Growing.expand
  split
  · split
    · exact fun _ _ _ _ hAnswer => nomatch hAnswer
    · next size _ =>
        refine Guard.Within.exclusively (fun _ => trivial)
          (fun now => section_grows settings size)
          (fun _ => rfl) ?_ ?_
        · intro outcome before now hKept hLoud answered flag hAnswer
          exact Nat.le_trans (hKept answered flag hAnswer)
            (hLoud request.volumeId)
        · exact fun _ _ _ _ hAnswer => nomatch hAnswer
  · exact fun _ _ _ _ hAnswer => nomatch hAnswer

------------------------------------------------------------
-- Calls Side by Side
------------------------------------------------------------

/- The calls for some requests, of which none has begun. -/
def calls
    (settings : Settings)
    (requests : List Csi.ExpandVolume.Request)
    (sizes : Sizes) :
    Crew ExpandVolume.Error ExpandVolume.Outcome Sizes :=
  Crew.start (requests.map (Growing.expand settings)) sizes

/-
  Whether a call has put a request other than the one for the
  lock and has not ended. So it is from the get of its volume
  to the end of its wait, and until it gives the lock back.
-/
def Inside
    (crew : Crew ExpandVolume.Error ExpandVolume.Outcome Sizes)
    (index : Nat) : Prop :=
  ∃ request, crew.Asks index request ∧ request ≠ .acquire

variable {settings : Settings}
variable {requests : List Csi.ExpandVolume.Request}
variable {crew : Crew ExpandVolume.Error ExpandVolume.Outcome Sizes}

/- Whatever a call asks for but the lock, it holds the lock. -/
theorem held_of_allowed
    {request : Host.Request}
    {view : Guard.View Sizes}
    (hAllowed : Allowed request view)
    (hOther : request ≠ .acquire) :
    view.2 = true := by
  cases request with
  | acquire => exact absurd rfl hOther
  | backend call =>
      cases call with
      | expand id size => exact hAllowed.1
      | _ => exact hAllowed
  | _ => exact hAllowed

/- What the contract of each call says of its own volume. -/
abbrev Contract
    (requests : List Csi.ExpandVolume.Request)
    (index : Nat)
    (result : Except ExpandVolume.Error ExpandVolume.Outcome)
    (view : Guard.View Sizes) : Prop :=
  ∀ request,
    requests[index]? = some request →
      Kept request.volumeId result view

/- All calls keep to their contracts. -/
theorem keep_of_calls
    (hReach :
      Crew.Reaches around (calls settings requests sizes) crew) :
    Crew.Keep guard Answers (fun _ => Allowed) (Contract requests)
      crew := by
  refine Crew.keep_of_reaches (fun _ => holds) id
    (Crew.keep_start fun index program hProgram => ?_) hReach
  rw [List.getElem?_map, Option.map_eq_some_iff] at hProgram
  rcases hProgram with ⟨request, hRequest, rfl⟩
  refine Program.Keeps.mono (expand_keeps settings request) ?_
  intro result view hKept other hOther
  have hSame : request = other :=
    Option.some.inj (hRequest.symm.trans hOther)
  rw [← hSame]
  exact hKept

/-
  However the requests of calls interleave, and whichever of
  them are dropped on the way: no two calls are inside at the
  same time, each expansion is to a larger size, no size ever
  decreases, and a volume is never again smaller than a call
  has answered.
-/
theorem expansions_lose_nothing
    (hReach :
      Crew.Reaches around (calls settings requests sizes) crew) :
    (∀ first second,
      Inside crew first → Inside crew second →
        first = second) ∧
    (∀ index id size,
      crew.Asks index (.backend (.expand id size)) →
        crew.state id < size) ∧
    (∀ later,
      Crew.Reaches around crew later →
        ∀ id, crew.state id ≤ later.state id) ∧
    (∀ (index : Nat) request size flag later,
      requests[index]? = some request →
      crew.Ended index ⟨size * Capacity.gib, flag⟩ →
      Crew.Reaches around crew later →
        size ≤ later.state request.volumeId) := by
  have hKeep := keep_of_calls hReach
  have hHolder :
      ∀ {index}, Inside crew index → crew.holder = some index := by
    rintro index ⟨request, hAsks, hOther⟩
    have hHeld :=
      held_of_allowed (hKeep.allowed_of_asks hAsks) hOther
    exact beq_iff_eq.mp hHeld
  have hGrows :
      ∀ later, Crew.Reaches around crew later →
        ∀ id, crew.state id ≤ later.state id :=
    fun later hLater =>
      Crew.loud_of_reaches (fun _ => holds) id hKeep hLater
  refine ⟨?_, ?_, hGrows, ?_⟩
  · intro first second hFirst hSecond
    have hSame : some first = some second :=
      (hHolder hFirst).symm.trans (hHolder hSecond)
    exact Option.some.inj hSame
  · intro index id size hAsks
    exact (hKeep.allowed_of_asks hAsks).2
  · intro index request size flag later hRequest hEnded hLater
    have hKept : size ≤ crew.state request.volumeId :=
      hKeep.wanted_of_ended hEnded request hRequest size flag rfl
    exact Nat.le_trans hKept (hGrows later hLater _)

/-
  The second call waits for the lock while the first one makes
  the volume larger, and then asks for a still larger size.
-/
theorem expansions_lose_nothing_two_calls :
    let request (bytes : Nat) : Csi.ExpandVolume.Request :=
      ⟨"vol-1", .atLeast bytes, [], none⟩
    let requests :=
      [request (20 * Capacity.gib), request (30 * Capacity.gib)]
    let before : Sizes := fun _ => 10
    ∃ crew,
      Crew.Reaches around (calls {} requests before) crew ∧
      crew.Ended 0 ⟨20 * Capacity.gib, true⟩ ∧
      Inside crew 1 ∧
      (∀ index, Inside crew index → index = 1) ∧
      crew.Asks 1 (.backend (.expand "vol-1" 30)) ∧
      crew.state "vol-1" < 30 ∧
      ∀ later, Crew.Reaches around crew later →
        20 ≤ later.state "vol-1" := by
  intro request requests before
  let disk (size : Nat) : Disk :=
    ⟨"vol-1", "pvc-1", size, .available, "cloud_ssd", "zone-a",
      [], 0, []⟩
  have hRun :
      ∃ next,
        Crew.Reaches around (calls {} requests before)
          { rests :=
              [some (.done ⟨20 * Capacity.gib, true⟩),
                some (.ask (I := Host)
                  (.backend (.expand "vol-1" 30)) next)]
            holder := some 1
            state := Function.update before "vol-1" 20 } := by
    apply Exists.intro
    refine .head (.turn 0 (.acquire rfl rfl)) ?_
    refine .head (.of_reply 0 (Except.ok (disk 10)) rfl nofun
      ⟨rfl, ?_⟩) ?_
    · rintro _ ⟨⟩
      rfl
    refine .head (.of_reply 0 (Except.ok ()) rfl nofun (.inr rfl)) ?_
    refine .head (.of_reply 0 (Except.ok (disk 20)) rfl nofun
      ⟨rfl, ?_⟩) ?_
    · rintro _ ⟨⟩
      rfl
    refine .head (.turn 0 (.release rfl)) ?_
    refine .head (.turn 1 (.acquire rfl rfl)) ?_
    refine .head (.of_reply 1 (Except.ok (disk 20)) rfl nofun
      ⟨rfl, ?_⟩) ?_
    · rintro _ ⟨⟩
      rfl
    exact .refl
  rcases hRun with ⟨next, hReach⟩
  rcases expansions_lose_nothing hReach with
    ⟨hOnly, hLarger, _, hKept⟩
  refine ⟨_, hReach, rfl, ?_⟩
  exact ⟨⟨_, ⟨next, rfl⟩, nofun⟩,
    fun index hOther =>
      hOnly index 1 hOther ⟨_, ⟨next, rfl⟩, nofun⟩,
    ⟨next, rfl⟩, hLarger 1 "vol-1" 30 ⟨next, rfl⟩,
    fun later hLater => hKept 0 _ 20 true later rfl rfl hLater⟩

end Growth

end BlockVolumes
