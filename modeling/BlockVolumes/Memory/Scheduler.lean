import BlockVolumes.Memory.World
import BlockVolumes.Program.Descent

/-
  Programs that run side by side in one world. One runs at a
  time, until it sleeps or waits for the lock; then the next
  one that can go on has its turn. The lock is given in the
  order in which it was asked for. The clock moves only when
  no program can go on.

  Key definitions include:
    * `Memory.Task`
    * `Memory.Pool`
    * `Memory.Pool.advance`
    * `Memory.Pool.step?`
    * `Memory.Pool.run`
-/

namespace BlockVolumes

namespace Memory

open Program (Rest)

variable {ε α : Type}

------------------------------------------------------------
-- Tasks
------------------------------------------------------------

/- How far a program has come. -/
inductive Progress
    (ε α : Type) where
  | asleep (wake : Nat) (program : Program Host ε α)
  | inLine (program : Program Host ε α)
  | ended (result : Except ε α)
  | dropped

/- What is left of a program. -/
def Progress.rest : Progress ε α → Rest Host ε α
  | asleep _ program => some program
  | inLine program => some program
  | ended _ => none
  | dropped => none

/- A program that is dropped when it is not through in time. -/
structure Task
    (ε α : Type) where
  progress : Progress ε α
  deadline : Option Nat := none

namespace Task

/- A program that has not begun. -/
def start
    (program : Program Host ε α)
    (deadline : Option Nat) : Task ε α :=
  ⟨.asleep 0 program, deadline⟩

/- What is left of the program of a task. -/
def rest
    (task : Task ε α) : Rest Host ε α :=
  task.progress.rest

/- The next time at which a task has to be looked at. -/
def wake?
    (task : Task ε α) : Option Nat :=
  match task.progress, task.deadline with
  | .asleep wake _, none => some wake
  | .asleep wake _, some deadline => some (min wake deadline)
  | .inLine _, deadline => deadline
  | _, _ => none

end Task

------------------------------------------------------------
-- Pools
------------------------------------------------------------

/- What the programs of a pool share. -/
structure Shared where
  world : World
  -- The tasks that hold the lock or wait for it, in order.
  line : List Nat := []
  -- The registrations that are to be started.
  launches : Nat := 0

namespace Shared

/- Lets a task join the line, unless it is in it. -/
def join
    (shared : Shared)
    (task : Nat) : Shared :=
  if shared.line.contains task then shared
  else { shared with line := shared.line ++ [task] }

/- Lets a task leave the line. -/
def leave
    (shared : Shared)
    (task : Nat) : Shared :=
  { shared with line := shared.line.filter (· != task) }

/- Whether a task holds the lock. -/
def isHolder
    (shared : Shared)
    (task : Nat) : Bool :=
  shared.line.head? == some task

end Shared

/- Programs in one world, and the one that ran last. -/
structure Pool
    (ε α : Type) where
  shared : Shared
  tasks : List (Task ε α)
  cursor : Nat := 0

namespace Pool

/- What is left of the programs. -/
def rests
    (pool : Pool ε α) : List (Rest Host ε α) :=
  pool.tasks.map Task.rest

------------------------------------------------------------
-- Running One Program
------------------------------------------------------------

/-
  Runs the program of a task until it sleeps, waits for the
  lock, or ends.
-/
def advance
    (task : Nat) :
    Program Host ε α → Shared → Progress ε α × Shared
  | .done a, shared => (.ended (.ok a), shared)
  | .failed e, shared => (.ended (.error e), shared)
  | .ask (.sleep ticks) next, shared =>
      if ticks = 0 then advance task (next ()) shared
      else (.asleep (shared.world.clock + ticks) (next ()), shared)
  | .ask .acquire next, shared =>
      let shared := shared.join task
      if shared.isHolder task then advance task (next ()) shared
      else (.inLine (next ()), shared)
  | .ask .release next, shared =>
      advance task (next ()) (shared.leave task)
  | .ask .launchRegistration next, shared =>
      advance task (next ())
        { shared with launches := shared.launches + 1 }
  | .ask request next, shared =>
      let (reply, world) := World.answer request shared.world
      advance task (next reply) { shared with world := world }

/- Running a program leaves less of it. -/
theorem advance_less
    (task : Nat)
    (program : Program Host ε α)
    (shared : Shared) :
    Rest.Less (advance task program shared).1.rest
      (some program) := by
  induction program generalizing shared with
  | done a => exact .ended _
  | failed e => exact .ended _
  | ask request next ih =>
      cases request <;> simp only [advance]
      case sleep ticks =>
        split
        · exact (ih () shared).of_next
        · exact Rest.less_next _ next ()
      case acquire =>
        split
        · exact (ih () _).of_next
        · exact Rest.less_next _ next ()
      all_goals exact (ih _ _).of_next

------------------------------------------------------------
-- Steps
------------------------------------------------------------

/- Whether a task can go on at a time. -/
def canGo
    (shared : Shared)
    (clock index : Nat) : Progress ε α → Bool
  | .asleep wake _ => decide (wake ≤ clock)
  | .inLine _ => shared.isHolder index
  | _ => false

/- Whether the time of a task is over. -/
def isOver
    (clock : Nat)
    (task : Task ε α) : Bool :=
  task.deadline.any fun deadline => decide (deadline ≤ clock)

/-
  Lets a task go on, or drops it if it cannot go on and its
  time is over. There is nothing to do for any other task.
-/
def act?
    (pool : Pool ε α)
    (clock index : Nat) : Option (Pool ε α) :=
  match pool.tasks[index]? with
  | none => none
  | some task =>
      match task.rest with
      | none => none
      | some program =>
          let world := { pool.shared.world with clock := clock }
          let shared := { pool.shared with world := world }
          if canGo shared clock index task.progress then
            let (progress, shared) := advance index program shared
            some
              { shared := shared
                tasks :=
                  pool.tasks.set index
                    { task with progress := progress }
                cursor := index }
          else if isOver clock task then
            some
              { shared := shared.leave index
                tasks :=
                  pool.tasks.set index
                    { task with progress := .dropped }
                cursor := index }
          else none

/- A step of a pool leaves less of its programs. -/
theorem act?_lowered
    {pool after : Pool ε α}
    {clock index : Nat}
    (h : pool.act? clock index = some after) :
    Lowered Rest.Less after.rests pool.rests := by
  unfold act? at h
  split at h
  · exact absurd h (by simp)
  · next task hTask =>
      split at h
      · exact absurd h (by simp)
      · next program hRest =>
          have hPlace :
              pool.rests[index]? = some (some program) := by
            simp [rests, hTask, hRest]
          simp only at h
          split at h
          · simp only [Option.some.injEq] at h
            subst h
            simp only [rests, List.map_set]
            exact .of_set hPlace (advance_less index program _)
          · split at h
            · simp only [Option.some.injEq] at h
              subst h
              simp only [rests, List.map_set]
              exact .of_set hPlace (.ended program)
            · exact absurd h (by simp)

/- The tasks in the order of their turns. -/
def turns
    (pool : Pool ε α) : List Nat :=
  let indices := List.range pool.tasks.length
  indices.drop pool.cursor ++ indices.take pool.cursor

/- The next time at which a task has to be looked at. -/
def nextWake?
    (pool : Pool ε α) : Option Nat :=
  (pool.tasks.filterMap Task.wake?).min?

/-
  The next step without a move of the clock, or with one where
  that is allowed and nothing else is left.
-/
def step?
    (mayWait : Bool)
    (pool : Pool ε α) : Option (Pool ε α) :=
  let clock := pool.shared.world.clock
  match pool.turns.findSome? (pool.act? clock) with
  | some after => some after
  | none =>
      if mayWait then
        match pool.nextWake? with
        | none => none
        | some wake =>
            (List.range pool.tasks.length).findSome?
              (pool.act? (max clock wake))
      else none

theorem step?_lowered
    {mayWait : Bool}
    {pool after : Pool ε α}
    (h : pool.step? mayWait = some after) :
    Lowered Rest.Less after.rests pool.rests := by
  unfold step? at h
  simp only at h
  split at h
  · next found hFound =>
      simp only [Option.some.injEq] at h
      subst h
      obtain ⟨index, _, hAct⟩ := List.exists_of_findSome?_eq_some hFound
      exact act?_lowered hAct
  · split at h
    · split at h
      · exact absurd h (by simp)
      · obtain ⟨index, _, hAct⟩ := List.exists_of_findSome?_eq_some h
        exact act?_lowered hAct
    · exact absurd h (by simp)

------------------------------------------------------------
-- Runs
------------------------------------------------------------

/- Whether the first tasks of a pool have all ended. -/
def haveEnded
    (count : Nat)
    (pool : Pool ε α) : Bool :=
  (pool.tasks.take count).all fun task => task.rest.isNone

instance : WellFoundedRelation (List (Rest Host ε α)) :=
  ⟨Lowered Rest.Less, Lowered.wf Rest.less_wf⟩

/- Runs a pool until its first tasks have ended. -/
def run
    (count : Nat)
    (pool : Pool ε α) : Pool ε α :=
  if pool.haveEnded count then pool
  else
    match _h : pool.step? true with
    | none => pool
    | some after => run count after
termination_by pool.rests
decreasing_by exact step?_lowered _h

/- Runs a pool until no program can go on at this time. -/
def settle
    (pool : Pool ε α) : Pool ε α :=
  match _h : pool.step? false with
  | none => pool
  | some after => settle after
termination_by pool.rests
decreasing_by exact step?_lowered _h

end Pool

end Memory

end BlockVolumes
