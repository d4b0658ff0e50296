import BlockVolumes.Memory.World
import BlockVolumes.Proofs.Waiting.Polls
import Mathlib.Algebra.Group.Nat.Defs

/-
  The schedule of a wait. Polling without an end is raced
  against the end of the time, which is the same as a number of
  polls told in advance; so the wait takes as many polls, and as
  much time, as the first poll that shows the volume as wanted
  needs, and all of the time if there is none.

  Key definitions include:
    * `Service.Wait.race`
    * `Host.elapsed`

  Key theorems include:
    * `Service.Wait.untilMet_eq_race`
    * `Service.Wait.run_untilMet_of_seen`
    * `Service.Wait.run_untilMet_of_unseen`
    * `Service.Wait.untilMet_on_schedule`
-/

namespace BlockVolumes

------------------------------------------------------------
-- Time on Record
------------------------------------------------------------

namespace Host

/- The ticks for which an exchange makes a program sleep. -/
def Exchange.ticks
    (exchange : Exchange) : Nat :=
  match exchange.request with
  | .sleep ticks => ticks
  | _ => 0

/- The time that has passed, which it does only while sleeping. -/
def elapsed : Record → Nat
  | [] => 0
  | exchange :: past => exchange.ticks + elapsed past

@[simp] theorem elapsed_nil :
    elapsed [] = 0 :=
  rfl

@[simp] theorem ticks_sleep
    (ticks : Nat) :
    Exchange.ticks ⟨.sleep ticks, ()⟩ = ticks :=
  rfl

theorem elapsed_cons
    (exchange : Exchange)
    (past : Record) :
    elapsed (exchange :: past) = exchange.ticks + elapsed past :=
  rfl

end Host

namespace Service

namespace Wait

open Host (Record Replies elapsed elapsed_cons looks)

------------------------------------------------------------
-- The Race
------------------------------------------------------------

/-
  Polling without an end, raced against a deadline. A program
  sleeps until its next poll or until the deadline, whichever
  comes first; if both come at once, the poll goes first.
-/
def race
    (timeout : Duration)
    (volumeId expected : String)
    (wanted : Disk → Bool)
    (interval deadline : Nat)
    (hInterval : 0 < interval)
    (now : Nat) : Program Host Error Disk := do
  match met wanted (← Host.askBackend (.get volumeId)) with
  | some disk => return disk
  | none =>
      if _h : now + interval ≤ deadline then
        Host.sleepTicks interval
        race timeout volumeId expected wanted interval deadline
          hInterval (now + interval)
      else
        Host.sleepTicks (deadline - now)
        throw (.timeout volumeId expected timeout)
  termination_by deadline - now

variable {timeout : Duration}
variable {volumeId expected : String}
variable {wanted : Disk → Bool}
variable {interval deadline now left : Nat}

/- How a wait goes on after its polls. -/
def conclude
    (timeout : Duration)
    (volumeId expected : String)
    (rest : Nat) : Option Disk → Program Host Error Disk
  | some disk => return disk
  | none => do
      Host.sleepTicks rest
      throw (.timeout volumeId expected timeout)

/-
  The polls that still fit into the time are told in advance by
  what is left of it.
-/
theorem poll_eq_race
    (hInterval : 0 < interval)
    (hLeft : left = (deadline - now) / interval)
    (hNow : now ≤ deadline) :
    (poll volumeId wanted interval left).bind
        (conclude timeout volumeId expected
          (deadline - now - left * interval)) =
      race timeout volumeId expected wanted interval deadline
        hInterval now := by
  -- One poll more is told where one interval more fits.
  induction left generalizing now with
  | zero =>
      have hOver : ¬ now + interval ≤ deadline := by
        have hShort :=
          (Nat.div_eq_zero_iff_lt hInterval).mp hLeft.symm
        omega
      rw [race, dif_neg hOver, Nat.zero_mul, Nat.sub_zero]
      apply congrArg (Program.ask (I := Host) _)
      funext reply
      change conclude timeout volumeId expected (deadline - now)
        (met wanted reply) = _
      dsimp only [Program.done_bind]
      cases met wanted reply <;> rfl
  | succ left ih =>
      have hRoom : (left + 1) * interval ≤ deadline - now :=
        (Nat.le_div_iff_mul_le hInterval).mp (Nat.le_of_eq hLeft)
      have hNext : now + interval ≤ deadline := by
        rw [Nat.succ_mul] at hRoom
        omega
      have hLater :
          left = (deadline - (now + interval)) / interval := by
        rw [Nat.div_eq_sub_div hInterval (by omega),
          Nat.sub_sub] at hLeft
        exact Nat.succ.inj hLeft
      have hRest :
          deadline - now - (left + 1) * interval =
            deadline - (now + interval) - left * interval := by
        rw [Nat.succ_mul]
        omega
      rw [race, dif_pos hNext, hRest, ← ih hLater hNext]
      apply congrArg (Program.ask (I := Host) _)
      funext reply
      dsimp only [Program.done_bind]
      cases met wanted reply <;> rfl

/-
  A wait is the race between its polls and the end of its time.
-/
theorem untilMet_eq_race
    {polling : Polling}
    (hInterval : 0 < polling.interval.pause) :
    untilMet polling volumeId expected wanted =
      race polling.timeout volumeId expected wanted
        polling.interval.pause polling.timeout.span hInterval 0 := by
  have hPolls :
      polls polling =
        (polling.timeout.span - 0) / polling.interval.pause := by
    rw [polls, if_neg (Nat.ne_of_gt hInterval), Nat.sub_zero]
  rw [← poll_eq_race hInterval hPolls (Nat.zero_le _),
    Nat.sub_zero]
  rfl

------------------------------------------------------------
-- Polls and Time on Record
------------------------------------------------------------

variable {replies : Replies}
variable {past : Record}
variable {k : Nat}

/- Each poll is one more look at the volume. -/
theorem looks_waited
    (replies : Replies)
    (volumeId : String)
    (interval : Nat)
    (past : Record)
    (k : Nat) :
    (looks volumeId
        (waited replies volumeId interval past k)).length =
      (looks volumeId past).length + k := by
  induction k with
  | zero => rfl
  | succ k ih =>
      rw [waited_succ, Host.looks_of_blind rfl, polled,
        Host.looks_get, List.length_cons, ih]
      rfl

/- Between two polls it is slept for one interval. -/
theorem elapsed_waited
    (replies : Replies)
    (volumeId : String)
    (interval : Nat)
    (past : Record)
    (k : Nat) :
    elapsed (waited replies volumeId interval past k) =
      elapsed past + k * interval := by
  induction k with
  | zero =>
      rw [Nat.zero_mul]
      rfl
  | succ k ih =>
      rw [waited_succ, elapsed_cons, polled, elapsed_cons, ih,
        Host.ticks_sleep, Nat.succ_mul]
      simp only [Host.Exchange.ticks]
      omega

theorem looks_polled :
    (looks volumeId
        (polled replies volumeId interval past k)).length =
      (looks volumeId past).length + (k + 1) := by
  rw [polled, Host.looks_get, List.length_cons, looks_waited]
  rfl

theorem elapsed_polled :
    elapsed (polled replies volumeId interval past k) =
      elapsed past + k * interval := by
  rw [polled, elapsed_cons, elapsed_waited]
  exact Nat.zero_add _

/- All of the time is over after the last pause. -/
theorem elapsed_rest
    {polling : Polling}
    (hInterval : 0 < polling.interval.pause) :
    elapsed
        (⟨.sleep (rest polling), ()⟩ ::
          polled replies volumeId polling.interval.pause past
            (polls polling)) =
      elapsed past + polling.timeout.span := by
  have hFits :
      polls polling * polling.interval.pause ≤
        polling.timeout.span := by
    rw [polls, if_neg (Nat.ne_of_gt hInterval)]
    exact Nat.div_mul_le_self _ _
  have hRest :
      rest polling + polls polling * polling.interval.pause =
        polling.timeout.span := by
    rw [rest]
    exact Nat.sub_add_cancel hFits
  rw [elapsed_cons, elapsed_polled, Host.ticks_sleep, ← hRest]
  exact Nat.add_left_comm _ _ _

/- Nothing but polls and pauses is put on record. -/
theorem waits_of_polled
    {exchange : Host.Exchange}
    (hMem : exchange ∈ polled replies volumeId interval [] k) :
    exchange.Waits volumeId := by
  rcases polled_eq_append replies volumeId interval [] k with
    ⟨added, hAdded, hWaits, _⟩
  rw [hAdded, List.append_nil] at hMem
  exact hWaits exchange hMem

------------------------------------------------------------
-- The Schedule
------------------------------------------------------------

theorem pause_milliseconds
    (p : Nat) :
    (Duration.milliseconds p).pause =
      min p Duration.longestPause := by
  rw [Duration.pause, Duration.ticks_milliseconds]

theorem span_milliseconds
    (t : Nat) :
    (Duration.milliseconds t).span =
      if t < 2 ^ 63 * 1000 then t else Duration.longestPause := by
  have hLimit :
      (Duration.milliseconds t).nanoseconds <
          Nat.pow 2 63 * Duration.nanosecondsPerSecond ↔
        t < 2 ^ 63 * 1000 := by
    rw [Duration.milliseconds, Duration.nanosecondsPerSecond,
      Nat.pow_eq]
    dsimp only
    omega
  rw [Duration.span, Duration.ticks_milliseconds]
  simp only [hLimit]

theorem met_eq_none_iff
    {reply : Except Backend.Error Disk} :
    met wanted reply = none ↔
      ∀ disk, reply = .ok disk → wanted disk = false := by
  cases reply with
  | error error => exact iff_of_true rfl nofun
  | ok seen => simp [met]

variable {polling : Polling}
variable {seen : Nat → Except Backend.Error Disk}
variable {run : Except Error Disk × Record}

theorem sight_of_seen
    (hSeen :
      ∀ past, replies (.backend (.get volumeId)) past =
        seen (looks volumeId past).length)
    (interval k : Nat) :
    sight replies volumeId interval [] k = seen k := by
  rw [sight, hSeen, looks_waited]
  exact congrArg seen (Nat.zero_add k)

/- The first poll that shows the volume as wanted is the last. -/
theorem run_untilMet_of_seen
    (hSeen :
      ∀ past, replies (.backend (.get volumeId)) past =
        seen (looks volumeId past).length)
    (hk : k ≤ polls polling)
    {disk : Disk}
    (hShown : seen k = .ok disk)
    (hWanted : wanted disk = true)
    (hEarlier :
      ∀ j < k, ∀ other, seen j = .ok other →
        wanted other = false)
    (hRun :
      replies.run (untilMet polling volumeId expected wanted) [] =
        run) :
    run.1 = .ok disk ∧
      (looks volumeId run.2).length = k + 1 ∧
      elapsed run.2 = k * polling.interval.pause := by
  have hEnd :
      run =
        (.ok disk,
          polled replies volumeId polling.interval.pause [] k) := by
    rw [← hRun]
    apply run_untilMet_of_met hk
    · intro j hj
      rw [sight_of_seen hSeen]
      exact met_eq_none_iff.mpr (hEarlier j hj)
    · rw [sight_of_seen hSeen]
      exact met_eq_some_iff.mpr ⟨hShown, hWanted⟩
  rw [hEnd, looks_polled, elapsed_polled, Host.looks_nil,
    Host.elapsed_nil, List.length_nil, Nat.zero_add, Nat.zero_add]
  exact ⟨rfl, rfl, rfl⟩

/- If there is no such poll, the time is used up. -/
theorem run_untilMet_of_unseen
    (hSeen :
      ∀ past, replies (.backend (.get volumeId)) past =
        seen (looks volumeId past).length)
    (hInterval : 0 < polling.interval.pause)
    (hNever :
      ∀ k ≤ polls polling, ∀ disk, seen k = .ok disk →
        wanted disk = false)
    (hRun :
      replies.run (untilMet polling volumeId expected wanted) [] =
        run) :
    run.1 = .error (.timeout volumeId expected polling.timeout) ∧
      (looks volumeId run.2).length = polls polling + 1 ∧
      elapsed run.2 = polling.timeout.span := by
  have hEnd :
      run =
        (.error (.timeout volumeId expected polling.timeout),
          ⟨.sleep (rest polling), ()⟩ ::
            polled replies volumeId polling.interval.pause []
              (polls polling)) := by
    rw [← hRun]
    apply run_untilMet_of_unmet
    intro j hj
    rw [sight_of_seen hSeen]
    exact met_eq_none_iff.mpr (hNever j hj)
  rw [hEnd]
  dsimp only
  rw [Host.looks_of_blind rfl, looks_polled, elapsed_rest hInterval,
    Host.looks_nil, Host.elapsed_nil, List.length_nil,
    Nat.zero_add, Nat.zero_add]
  exact ⟨rfl, rfl, rfl⟩

/- A wait ends in one of two ways, and does nothing but wait. -/
theorem run_untilMet_ends
    (hRun :
      replies.run (untilMet polling volumeId expected wanted) [] =
        run) :
    ((∃ disk, run.1 = .ok disk) ∨
        run.1 =
          .error (.timeout volumeId expected polling.timeout)) ∧
      ∀ exchange ∈ run.2, exchange.Waits volumeId := by
  rcases run_untilMet_cases replies polling volumeId expected
      wanted [] with
    ⟨_, disk, _, _, _, hEnd⟩ | ⟨_, hEnd⟩
  · rw [← hRun, hEnd]
    exact ⟨.inl ⟨disk, rfl⟩, fun _ hMem => waits_of_polled hMem⟩
  · rw [← hRun, hEnd]
    refine ⟨.inr rfl, fun exchange hMem => ?_⟩
    rcases List.mem_cons.mp hMem with rfl | hPolled
    · exact .inr ⟨_, rfl⟩
    · exact waits_of_polled hPolled

/-
  A wait ends with the first poll that shows the volume as it is
  wanted, as long as it may take, and otherwise with all of its
  time. There is one poll at once, and one after each interval.
  The timer sleeps for thirty years at the most, and takes this
  for a time whose end cannot be told.
-/
theorem untilMet_on_schedule
    {p t : Nat}
    (hInterval : 0 < p)
    (volumeId expected : String)
    (wanted : Disk → Bool)
    {seen : Nat → Except Backend.Error Disk}
    {replies : Replies}
    (hSeen :
      ∀ past, replies (.backend (.get volumeId)) past =
        seen (looks volumeId past).length) :
    let polling : Polling := ⟨.milliseconds p, .milliseconds t⟩
    let interval := min p Duration.longestPause
    let time :=
      if t < 2 ^ 63 * 1000 then t else Duration.longestPause
    let run :=
      replies.run (untilMet polling volumeId expected wanted) []
    (∀ k ≤ time / interval, ∀ disk,
        seen k = .ok disk → wanted disk = true →
        (∀ j < k, ∀ other, seen j = .ok other →
          wanted other = false) →
        run.1 = .ok disk ∧
          (looks volumeId run.2).length = k + 1 ∧
          elapsed run.2 = k * interval) ∧
      ((∀ k ≤ time / interval, ∀ disk, seen k = .ok disk →
          wanted disk = false) →
        run.1 =
            .error (.timeout volumeId expected polling.timeout) ∧
          (looks volumeId run.2).length = time / interval + 1 ∧
          elapsed run.2 = time) ∧
      ((∃ disk, run.1 = .ok disk) ∨
        run.1 =
          .error (.timeout volumeId expected polling.timeout)) ∧
      (∀ exchange ∈ run.2, exchange.Waits volumeId) ∧
      ∃ hPositive,
        untilMet polling volumeId expected wanted =
          race polling.timeout volumeId expected wanted interval
            time hPositive 0 := by
  intro polling interval time run
  have hPause : polling.interval.pause = interval :=
    pause_milliseconds p
  have hSpan : polling.timeout.span = time := span_milliseconds t
  have hPositive : 0 < interval :=
    Nat.lt_min.mpr ⟨hInterval, by decide⟩
  have hPolls : polls polling = time / interval := by
    rw [polls, hPause, hSpan, if_neg (Nat.ne_of_gt hPositive)]
  have hRun :
      replies.run (untilMet polling volumeId expected wanted) [] =
        run :=
    rfl
  have hEnds := run_untilMet_ends hRun
  refine ⟨?_, ?_, hEnds.1, hEnds.2, hPositive, ?_⟩
  · intro k hk disk hShown hWanted hEarlier
    rw [← hPause]
    exact run_untilMet_of_seen hSeen (hPolls ▸ hk) hShown hWanted
      hEarlier hRun
  · intro hNever
    rw [← hPolls] at hNever ⊢
    rw [← hSpan]
    exact run_untilMet_of_unseen hSeen (hPause ▸ hPositive) hNever
      hRun
  · rw [untilMet_eq_race (hPause ▸ hPositive)]
    congr 1

/-
  A volume that cannot be got three times is seen at last by the
  poll that falls on the deadline.
-/
theorem untilMet_on_schedule_deadline :
    let disk : Disk :=
      ⟨"vol-1", "pvc-1", 10, .inUse, "cloud_ssd", "zone-a", [], 0, []⟩
    let seen : Nat → Except Backend.Error Disk := fun k =>
      if k = 3 then .ok disk else .error (.failed "away")
    let replies : Replies := fun request past =>
      match request with
      | .backend (.get id) => seen (looks id past).length
      | request => (Memory.World.answer request {}).1
    let run :=
      replies.run
        (untilMet ⟨.milliseconds 3000, .milliseconds 9000⟩ "vol-1"
          "in-use" fun disk => disk.status == .inUse)
        []
    0 < 3000 ∧
      (∀ past, replies (.backend (.get "vol-1")) past =
        seen (looks "vol-1" past).length) ∧
      run.1 = .ok disk ∧
      (looks "vol-1" run.2).length = 4 ∧
      elapsed run.2 = 9000 := by
  intro disk seen replies run
  have hSeen :
      ∀ past, replies (.backend (.get "vol-1")) past =
        seen (looks "vol-1" past).length := by
    intro past
    rfl
  have hSchedule :=
    untilMet_on_schedule (t := 9000) (show 0 < 3000 by decide)
      "vol-1" "in-use" (fun disk => disk.status == .inUse) hSeen
  have hEnd := hSchedule.1 3 (by decide) disk rfl rfl (by
    intro j hj other hOther
    have hAway : seen j = .error (.failed "away") :=
      if_neg (Nat.ne_of_lt hj)
    rw [hAway] at hOther
    exact nomatch hOther)
  exact ⟨by decide, hSeen, hEnd⟩

/-
  The timer sleeps for thirty years where settings ask for more,
  so that a wait puts more polls than fit into its time.
-/
theorem untilMet_polls_early :
    let polling : Polling :=
      ⟨.seconds 1000000000, .seconds 20000000000⟩
    let disk : Disk :=
      ⟨"vol-1", "pvc-1", 10, .creating, "cloud_ssd", "zone-a", [],
        0, []⟩
    let replies : Replies := fun request _ =>
      match request with
      | .backend (.get _) => .ok disk
      | request => (Memory.World.answer request {}).1
    let run :=
      replies.run
        (untilMet polling "vol-1" "available" fun disk =>
          disk.status == .available)
        []
    ({ polling := polling } : Settings).validate.isOk = true ∧
      run.1 =
        .error (.timeout "vol-1" "available" polling.timeout) ∧
      (looks "vol-1" run.2).length = 22 ∧
      20000000000 / 1000000000 + 1 = 21 := by
  intro polling disk replies run
  have hPolls : polls polling = 21 := by
    decide
  have hRun :
      run =
        (.error (.timeout "vol-1" "available" polling.timeout),
          ⟨.sleep (rest polling), ()⟩ ::
            polled replies "vol-1" polling.interval.pause []
              (polls polling)) :=
    run_untilMet_of_unmet fun _ _ => rfl
  refine ⟨by decide +kernel, ?_, ?_, rfl⟩
  · rw [hRun]
  · rw [hRun]
    dsimp only
    rw [Host.looks_of_blind rfl, looks_polled, hPolls]
    rfl

end Wait

end Service

end BlockVolumes
