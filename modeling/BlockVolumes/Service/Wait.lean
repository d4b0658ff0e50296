import BlockVolumes.Host
import BlockVolumes.Service.Error
import BlockVolumes.Settings

/-
  Waiting for a volume: its state is polled at equal intervals
  until it is as wanted or the time is over.

  Key definitions include:
    * `Service.Wait.burst`
    * `Service.Wait.polls`
    * `Service.Wait.rest`
    * `Service.Wait.untilMet`
    * `Service.Wait.forStatus`
-/

namespace BlockVolumes

namespace Service

namespace Wait

/-
  So many times a program goes on without a real pause before
  the end of its time is noticed. This is the budget that tokio
  gives a task until it has to let others run.
-/
def burst : Nat := 128

/-
  The number of polls after the first one. The last of them
  may fall on the end of the time.
-/
def polls
    (polling : Polling) : Nat :=
  if polling.interval.pause = 0 then burst
  else polling.timeout.span / polling.interval.pause

/- The time that is left after the last poll. -/
def rest
    (polling : Polling) : Nat :=
  polling.timeout.span - polls polling * polling.interval.pause

/- A volume that was got and is as wanted. -/
def met
    (wanted : Disk → Bool) :
    Except Backend.Error Disk → Option Disk
  | .ok disk => if wanted disk then some disk else none
  | .error _ => none

/-
  Polls a volume, and again after each interval, a number of
  times. A poll that fails counts like one that shows another
  state.
-/
def poll
    (volumeId : String)
    (wanted : Disk → Bool)
    (interval : Nat) :
    Nat → Program Host Error (Option Disk)
  | 0 => do
      return met wanted (← Host.askBackend (.get volumeId))
  | left + 1 => do
      match met wanted (← Host.askBackend (.get volumeId)) with
      | some disk => return some disk
      | none =>
          Host.sleepTicks interval
          poll volumeId wanted interval left

/-
  Waits until a volume is as wanted. The words for what is
  expected go into the error.
-/
def untilMet
    (polling : Polling)
    (volumeId expected : String)
    (wanted : Disk → Bool) : Program Host Error Disk := do
  match ← poll volumeId wanted polling.interval.pause
      (polls polling) with
  | some disk => return disk
  | none =>
      Host.sleepTicks (rest polling)
      throw (.timeout volumeId expected polling.timeout)

/- Waits until a volume has a status. -/
def forStatus
    (polling : Polling)
    (volumeId : String)
    (status : Disk.Status) : Program Host Error Disk :=
  untilMet polling volumeId status.name
    fun disk => disk.status == status

end Wait

end Service

end BlockVolumes
