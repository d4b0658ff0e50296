import BlockVolumes.Proofs.Transitions.Looks
import BlockVolumes.Service.Wait
import Mathlib.Data.Nat.Find
import Mathlib.Logic.Function.Iterate

/-
  Waiting for a volume, poll by poll. The first poll is put at
  once, each further one an interval later, and the last one
  when no other fits into the time. The wait ends well with the
  first poll that shows the volume as wanted, if there is one.

  Key definitions include:
    * `Service.Wait.waited`
    * `Service.Wait.sight`
    * `Service.Wait.polled`
    * `Host.Exchange.Waits`

  Key theorems include:
    * `Service.Wait.le_polls_iff`
    * `Service.Wait.polled_eq_append`
    * `Service.Wait.run_untilMet_of_met`
    * `Service.Wait.run_untilMet_of_unmet`
    * `Service.Wait.untilMet_waits`
-/

namespace BlockVolumes

------------------------------------------------------------
-- Exchanges of a Wait
------------------------------------------------------------

namespace Host

/- Whether an exchange is a poll of a volume or a pause. -/
def Exchange.Waits
    (id : String)
    (exchange : Exchange) : Prop :=
  exchange.request = .backend (.get id) ∨
    ∃ ticks, exchange.request = .sleep ticks

variable {id : String}
variable {between past : Record}

theorem Exchange.Waits.harmless
    {exchange : Exchange}
    (h : exchange.Waits id) :
    exchange.request.change? = none ∧
      exchange.request.action? = none := by
  rcases h with hPoll | ⟨ticks, hPause⟩
  · rw [hPoll]
    exact ⟨rfl, rfl⟩
  · rw [hPause]
    exact ⟨rfl, rfl⟩

/- A wait changes nothing. -/
theorem changes_of_waits
    (h : ∀ exchange ∈ between, exchange.Waits id) :
    changes (between ++ past) = changes past := by
  have hNone : changes between = [] :=
    List.filterMap_eq_nil_iff.mpr
      fun exchange hMem => (h exchange hMem).harmless.1
  rw [changes_append, hNone, List.nil_append]

theorem performed_of_waits
    (h : ∀ exchange ∈ between, exchange.Waits id) :
    performed (between ++ past) = performed past := by
  have hNone : performed between = [] :=
    List.filterMap_eq_nil_iff.mpr
      fun exchange hMem => (h exchange hMem).harmless.2
  rw [performed_append, hNone, List.nil_append]

end Host

namespace Service

namespace Wait

open Host (Exchange Observes Record Replies changes)

variable {wanted : Disk → Bool}
variable {disk : Disk}
variable {reply : Except Backend.Error Disk}

theorem met_eq_some_iff :
    met wanted reply = some disk ↔
      reply = .ok disk ∧ wanted disk = true := by
  cases reply with
  | error error => simp [met]
  | ok seen =>
      simp only [met, Option.ite_none_right_eq_some,
        Option.some.injEq, Except.ok.injEq]
      constructor
      · rintro ⟨hWanted, rfl⟩
        exact ⟨rfl, hWanted⟩
      · rintro ⟨rfl, hWanted⟩
        exact ⟨hWanted, rfl⟩

------------------------------------------------------------
-- The Times of the Polls
------------------------------------------------------------

variable {polling : Polling}

theorem pause_pos
    {d : Duration}
    (h : d.nanoseconds ≠ 0) :
    0 < d.pause := by
  have hTicks : 0 < d.ticks := by
    unfold Duration.ticks
    omega
  exact lt_min hTicks (by decide)

/- The polls are those that fall into the time. -/
theorem le_polls_iff
    {k : Nat}
    (hInterval : polling.interval.nanoseconds ≠ 0) :
    k ≤ polls polling ↔
      k * polling.interval.pause ≤ polling.timeout.span := by
  have hPause := pause_pos hInterval
  unfold polls
  rw [if_neg (Nat.ne_of_gt hPause), Nat.le_div_iff_mul_le hPause]

------------------------------------------------------------
-- One Poll After the Other
------------------------------------------------------------

/- The record after a poll and the pause that follows it. -/
def afterPoll
    (replies : Replies)
    (volumeId : String)
    (interval : Nat)
    (past : Record) : Record :=
  ⟨.sleep interval, ()⟩ ::
    ⟨.backend (.get volumeId),
      replies (.backend (.get volumeId)) past⟩ ::
    past

/- The record after a number of polls, each with its pause. -/
def waited
    (replies : Replies)
    (volumeId : String)
    (interval : Nat)
    (past : Record)
    (k : Nat) : Record :=
  (afterPoll replies volumeId interval)^[k] past

/- The reply to a poll, counted from zero. -/
def sight
    (replies : Replies)
    (volumeId : String)
    (interval : Nat)
    (past : Record)
    (k : Nat) : Except Backend.Error Disk :=
  replies (.backend (.get volumeId))
    (waited replies volumeId interval past k)

/- The record right after a poll, counted from zero. -/
def polled
    (replies : Replies)
    (volumeId : String)
    (interval : Nat)
    (past : Record)
    (k : Nat) : Record :=
  ⟨.backend (.get volumeId),
      sight replies volumeId interval past k⟩ ::
    waited replies volumeId interval past k

variable {replies : Replies}
variable {volumeId expected : String}
variable {interval left k : Nat}
variable {past : Record}

theorem waited_succ :
    waited replies volumeId interval past (k + 1) =
      ⟨.sleep interval, ()⟩ ::
        polled replies volumeId interval past k :=
  Function.iterate_succ_apply' ..

/- The first poll may be taken for part of what went before. -/
theorem waited_shift :
    waited replies volumeId interval past (k + 1) =
      waited replies volumeId interval
        (afterPoll replies volumeId interval past) k :=
  Function.iterate_succ_apply ..

theorem sight_shift :
    sight replies volumeId interval past (k + 1) =
      sight replies volumeId interval
        (afterPoll replies volumeId interval past) k := by
  rw [sight, waited_shift, sight]

theorem polled_shift :
    polled replies volumeId interval past (k + 1) =
      polled replies volumeId interval
        (afterPoll replies volumeId interval past) k := by
  rw [polled, sight_shift, waited_shift, polled]

/-
  Polls and pauses are all that a wait adds to the record, and
  each poll stays there.
-/
theorem polled_eq_append
    (replies : Replies)
    (volumeId : String)
    (interval : Nat)
    (past : Record)
    (k : Nat) :
    ∃ added : Record,
      polled replies volumeId interval past k = added ++ past ∧
        (∀ exchange ∈ added, exchange.Waits volumeId) ∧
        ∀ j ≤ k,
          ⟨.backend (.get volumeId),
            sight replies volumeId interval past j⟩ ∈ added := by
  let poll (j : Nat) : Exchange :=
    ⟨.backend (.get volumeId),
      sight replies volumeId interval past j⟩
  induction k with
  | zero =>
      refine ⟨[poll 0], rfl, ?_, ?_⟩
      · rw [List.forall_mem_singleton]
        exact .inl rfl
      · intro j hj
        rw [Nat.le_zero.mp hj]
        exact List.mem_singleton_self _
  | succ k ih =>
      rcases ih with ⟨added, hAdded, hWaits, hPolls⟩
      let pause : Exchange := ⟨.sleep interval, ()⟩
      refine ⟨poll (k + 1) :: pause :: added, ?_, ?_, ?_⟩
      · rw [polled, waited_succ, hAdded]
        rfl
      · rw [List.forall_mem_cons, List.forall_mem_cons]
        exact ⟨.inl rfl, .inr ⟨interval, rfl⟩, hWaits⟩
      · intro j hj
        rcases Nat.le_succ_iff.mp hj with hEarlier | rfl
        · exact List.mem_cons_of_mem _
            (List.mem_cons_of_mem _ (hPolls j hEarlier))
        · exact List.mem_cons_self

theorem changes_polled :
    changes (polled replies volumeId interval past k) =
      changes past := by
  rcases polled_eq_append replies volumeId interval past k with
    ⟨added, hAdded, hWaits, _⟩
  rw [hAdded]
  exact Host.changes_of_waits hWaits

------------------------------------------------------------
-- Waits and Their Ends
------------------------------------------------------------

/- The first poll shows the volume as it is wanted. -/
theorem run_poll_of_met_zero
    (h :
      met wanted (sight replies volumeId interval past 0) =
        some disk) :
    replies.run (poll volumeId wanted interval left) past =
      (.ok (some disk),
        polled replies volumeId interval past 0) := by
  have hMet :
      met wanted (replies (.backend (.get volumeId)) past) =
        some disk :=
    h
  cases left with
  | zero =>
      rw [← h]
      rfl
  | succ left =>
      have hAsk :
          replies.run (poll volumeId wanted interval (left + 1))
              past =
            _ :=
        Replies.run_ask rfl
      rw [hAsk]
      dsimp only [Program.done_bind]
      rw [hMet]
      rfl

/- The first poll does not, and there is time for another one. -/
theorem run_poll_of_unmet_zero
    (h :
      met wanted (sight replies volumeId interval past 0) =
        none) :
    replies.run (poll volumeId wanted interval (left + 1)) past =
      replies.run (poll volumeId wanted interval left)
        (afterPoll replies volumeId interval past) := by
  have hUnmet :
      met wanted (replies (.backend (.get volumeId)) past) =
        none :=
    h
  have hAsk :
      replies.run (poll volumeId wanted interval (left + 1))
          past =
        _ :=
    Replies.run_ask rfl
  rw [hAsk]
  dsimp only [Program.done_bind]
  rw [hUnmet]
  rfl

theorem run_poll_of_met
    (hWithin : k ≤ left)
    (hUnmet :
      ∀ j < k,
        met wanted (sight replies volumeId interval past j) = none)
    (hMet :
      met wanted (sight replies volumeId interval past k) =
        some disk) :
    replies.run (poll volumeId wanted interval left) past =
      (.ok (some disk),
        polled replies volumeId interval past k) := by
  -- A poll that fails goes into the past, so that the wanted
  -- one comes one earlier.
  induction k generalizing left past with
  | zero => exact run_poll_of_met_zero hMet
  | succ k ih =>
      cases left with
      | zero => omega
      | succ left =>
          rw [run_poll_of_unmet_zero (hUnmet 0 (by omega)),
            polled_shift]
          apply ih (by omega)
          · intro j hj
            rw [← sight_shift]
            exact hUnmet (j + 1) (by omega)
          · rw [← sight_shift]
            exact hMet

theorem run_poll_of_unmet
    (hUnmet :
      ∀ j ≤ left,
        met wanted (sight replies volumeId interval past j) =
          none) :
    replies.run (poll volumeId wanted interval left) past =
      (.ok none, polled replies volumeId interval past left) := by
  induction left generalizing past with
  | zero =>
      rw [← hUnmet 0 (Nat.le_refl 0)]
      rfl
  | succ left ih =>
      rw [run_poll_of_unmet_zero (hUnmet 0 (by omega)),
        polled_shift]
      apply ih
      intro j hj
      rw [← sight_shift]
      exact hUnmet (j + 1) (by omega)

/- The wait ends with the first poll that shows what is wanted. -/
theorem run_untilMet_of_met
    (hWithin : k ≤ polls polling)
    (hUnmet :
      ∀ j < k,
        met wanted
          (sight replies volumeId polling.interval.pause past j) =
          none)
    (hMet :
      met wanted
        (sight replies volumeId polling.interval.pause past k) =
        some disk) :
    replies.run (untilMet polling volumeId expected wanted) past =
      (.ok disk,
        polled replies volumeId polling.interval.pause past k) :=
  Host.Replies.run_bind_of_ok (run_poll_of_met hWithin hUnmet hMet) _

/- If no poll does, it fails when the time is over. -/
theorem run_untilMet_of_unmet
    (hUnmet :
      ∀ j ≤ polls polling,
        met wanted
          (sight replies volumeId polling.interval.pause past j) =
          none) :
    replies.run (untilMet polling volumeId expected wanted) past =
      (.error (.timeout volumeId expected polling.timeout),
        ⟨.sleep (rest polling), ()⟩ ::
          polled replies volumeId polling.interval.pause past
            (polls polling)) :=
  Host.Replies.run_bind_of_ok (run_poll_of_unmet hUnmet) _

/- One of the two always happens. -/
theorem run_untilMet_cases
    (replies : Replies)
    (polling : Polling)
    (volumeId expected : String)
    (wanted : Disk → Bool)
    (past : Record) :
    (∃ k disk,
      k ≤ polls polling ∧
        sight replies volumeId polling.interval.pause past k =
          .ok disk ∧
        wanted disk = true ∧
        replies.run (untilMet polling volumeId expected wanted)
            past =
          (.ok disk,
            polled replies volumeId polling.interval.pause past
              k)) ∨
      (∀ k ≤ polls polling,
        met wanted
          (sight replies volumeId polling.interval.pause past k) =
          none) ∧
        replies.run (untilMet polling volumeId expected wanted)
            past =
          (.error (.timeout volumeId expected polling.timeout),
            ⟨.sleep (rest polling), ()⟩ ::
              polled replies volumeId polling.interval.pause past
                (polls polling)) := by
  by_cases hSome :
      ∃ k, k ≤ polls polling ∧
        met wanted
            (sight replies volumeId polling.interval.pause past
              k) ≠
          none
  · left
    rcases Nat.find_spec hSome with ⟨hWithin, hMet⟩
    rcases Option.ne_none_iff_exists'.mp hMet with ⟨disk, hDisk⟩
    have hUnmet :
        ∀ j < Nat.find hSome,
          met wanted
            (sight replies volumeId polling.interval.pause past
              j) =
            none := by
      intro j hj
      by_contra hOther
      exact Nat.find_min hSome hj ⟨by omega, hOther⟩
    rcases met_eq_some_iff.mp hDisk with ⟨hSight, hWanted⟩
    exact ⟨Nat.find hSome, disk, hWithin, hSight, hWanted,
      run_untilMet_of_met hWithin hUnmet hDisk⟩
  · right
    have hUnmet :
        ∀ k ≤ polls polling,
          met wanted
            (sight replies volumeId polling.interval.pause past
              k) =
            none := by
      intro k hk
      by_contra hOther
      exact hSome ⟨k, hk, hOther⟩
    exact ⟨hUnmet, run_untilMet_of_unmet hUnmet⟩

/- The same for a wait until a volume has a status. -/
theorem run_forStatus_cases
    (replies : Replies)
    (polling : Polling)
    (volumeId : String)
    (status : Disk.Status)
    (past : Record) :
    (∃ k disk,
      k ≤ polls polling ∧
        sight replies volumeId polling.interval.pause past k =
          .ok disk ∧
        disk.status = status ∧
        replies.run (forStatus polling volumeId status) past =
          (.ok disk,
            polled replies volumeId polling.interval.pause past
              k)) ∨
      (∀ k ≤ polls polling, ∀ disk,
        sight replies volumeId polling.interval.pause past k =
            .ok disk →
          disk.status ≠ status) ∧
        replies.run (forStatus polling volumeId status) past =
          (.error (.timeout volumeId status.name polling.timeout),
            ⟨.sleep (rest polling), ()⟩ ::
              polled replies volumeId polling.interval.pause past
                (polls polling)) := by
  rcases run_untilMet_cases replies polling volumeId status.name
      (fun disk => disk.status == status) past with
    ⟨k, disk, hWithin, hSight, hStatus, hRun⟩ | ⟨hUnmet, hRun⟩
  · exact .inl
      ⟨k, disk, hWithin, hSight, beq_iff_eq.mp hStatus, hRun⟩
  · refine .inr ⟨fun k hk disk hSight hStatus => ?_, hRun⟩
    have hMet :
        met (fun disk => disk.status == status)
            (sight replies volumeId polling.interval.pause past
              k) =
          some disk :=
      met_eq_some_iff.mpr ⟨hSight, beq_iff_eq.mpr hStatus⟩
    rw [hUnmet k hk] at hMet
    exact nomatch hMet

------------------------------------------------------------
-- What a Wait Observes
------------------------------------------------------------

variable {allowed : Host.Request → Record → Prop}

theorem poll_waits
    (hGet : ∀ now, allowed (.backend (.get volumeId)) now)
    (hSleep : ∀ ticks now, allowed (.sleep ticks) now)
    (wanted : Disk → Bool)
    (interval left : Nat)
    (past : Record) :
    Observes allowed
      (fun found now =>
        ∃ (reply : Except Backend.Error Disk) (between : Record),
          now =
              ⟨.backend (.get volumeId), reply⟩ ::
                (between ++ past) ∧
            (∀ exchange ∈ between, exchange.Waits volumeId) ∧
            found = met wanted reply)
      (poll volumeId wanted interval left) past := by
  induction left generalizing past with
  | zero =>
      refine Observes.ask_iff.mpr ⟨hGet past, fun reply => ?_⟩
      exact Observes.done_iff.mpr
        ⟨reply, [], rfl, List.forall_mem_nil _, rfl⟩
  | succ left ih =>
      refine Observes.ask_iff.mpr ⟨hGet past, fun reply => ?_⟩
      dsimp only [Program.done_bind]
      split
      · next seen hMet =>
          exact Observes.done_iff.mpr
            ⟨reply, [], rfl, List.forall_mem_nil _, hMet.symm⟩
      · refine Observes.ask_iff.mpr
          ⟨hSleep interval _, fun _ => ?_⟩
        refine (ih _).mono fun found now h => ?_
        rcases h with ⟨last, between, hNow, hWaits, hFound⟩
        let first : Exchange := ⟨.backend (.get volumeId), reply⟩
        let pause : Exchange := ⟨.sleep interval, ()⟩
        refine ⟨last, between ++ [pause, first], ?_, ?_, hFound⟩
        · rw [hNow, List.append_assoc]
          rfl
        · intro exchange hMem
          rcases List.mem_append.mp hMem with hLater | hFirst
          · exact hWaits exchange hLater
          · rw [List.mem_cons, List.mem_singleton] at hFirst
            rcases hFirst with rfl | rfl
            · exact .inr ⟨interval, rfl⟩
            · exact .inl rfl

/-
  A wait that ends well ends with a look at the volume as it
  was wanted, and it has done nothing but wait before.
-/
theorem untilMet_waits
    (hGet : ∀ now, allowed (.backend (.get volumeId)) now)
    (hSleep : ∀ ticks now, allowed (.sleep ticks) now)
    (polling : Polling)
    (expected : String)
    (wanted : Disk → Bool)
    (past : Record) :
    Observes allowed
      (fun disk now =>
        wanted disk = true ∧
          ∃ between : Record,
            now =
                ⟨.backend (.get volumeId), .ok disk⟩ ::
                  (between ++ past) ∧
              ∀ exchange ∈ between, exchange.Waits volumeId)
      (untilMet polling volumeId expected wanted) past := by
  refine (poll_waits hGet hSleep wanted _ _ past).bind
    fun found now h => ?_
  rcases h with ⟨reply, between, hNow, hWaits, hFound⟩
  cases found with
  | some disk =>
      rcases met_eq_some_iff.mp hFound.symm with ⟨rfl, hWanted⟩
      exact Observes.done_iff.mpr
        ⟨hWanted, between, hNow, hWaits⟩
  | none =>
      refine Observes.ask_iff.mpr ⟨hSleep _ _, fun _ => ?_⟩
      exact Observes.failed

end Wait

end Service

end BlockVolumes
