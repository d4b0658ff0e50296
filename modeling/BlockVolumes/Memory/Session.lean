import BlockVolumes.Memory.Scheduler

/-
  A service over its lifetime: calls come one after another or
  several at a time, and some of them leave work behind that
  goes on beside the next ones.

  Key definitions include:
    * `Memory.Session`
    * `Memory.Session.runAll`
    * `Memory.Session.callAll`
    * `Memory.Session.pass`
-/

namespace BlockVolumes

namespace Memory

variable {ε α : Type}

/-
  The world of a service and the work that was left behind,
  which gives no result.
-/
structure Session
    (ε α : Type) where
  world : World
  background : List (Task ε (Option α)) := []

/- What came of a call. -/
inductive Outcome
    (ε α : Type) where
  | ended (result : Except ε α)
  | cancelled
  deriving Repr

namespace Session

/- A call, and the time after which it is cancelled. -/
structure Call
    (ε α : Type) where
  program : Program Host ε α
  cancelAfter : Option Nat := none

/- A call as a task. -/
def Call.task
    (clock : Nat)
    (call : Call ε α) : Task ε (Option α) :=
  .start (do return some (← call.program))
    (call.cancelAfter.map (clock + ·))

/- What came of a task. -/
def outcome
    (task : Task ε (Option α)) : Outcome ε α :=
  match task.progress with
  | .ended (.ok (some a)) => .ended (.ok a)
  | .ended (.error e) => .ended (.error e)
  | _ => .cancelled

/- The work of a registration as a task. -/
def registrationTask
    (registration : Program Host ε Unit) : Task ε (Option α) :=
  .start (do registration; return none) none

/-
  Runs tasks side by side until all of them have ended, and
  what they started until it sleeps.
-/
def runAll
    (registration : Program Host ε Unit)
    (tasks : List (Task ε (Option α)))
    (session : Session ε α) :
    List (Outcome ε α) × Session ε α :=
  let pool : Pool ε (Option α) :=
    { shared := { world := session.world }
      tasks := tasks ++ session.background }
  let pool := pool.run tasks.length
  let outcomes := (pool.tasks.take tasks.length).map outcome
  let started :=
    List.replicate pool.shared.launches
      (registrationTask registration)
  let left :=
    (pool.tasks.drop tasks.length).filter (·.rest.isSome) ++ started
  let settled :=
    ({ shared := { world := pool.shared.world }
       tasks := left } : Pool ε (Option α)).settle
  (outcomes,
    { world := settled.shared.world
      background := settled.tasks.filter (·.rest.isSome) })

/- Runs calls side by side. -/
def callAll
    (registration : Program Host ε Unit)
    (calls : List (Call ε α))
    (session : Session ε α) :
    List (Outcome ε α) × Session ε α :=
  session.runAll registration
    (calls.map (Call.task session.world.clock))

/- Lets time pass, as far as the timer sleeps. -/
def pass
    (registration : Program Host ε Unit)
    (ticks : Nat)
    (session : Session ε α) : Session ε α :=
  let idle : Task ε (Option α) :=
    .start
      (do
        Host.sleepTicks (min ticks Duration.longestPause)
        return none)
      none
  (session.runAll registration [idle]).2

end Session

end Memory

end BlockVolumes
