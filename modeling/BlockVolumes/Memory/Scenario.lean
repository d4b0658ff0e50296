import BlockVolumes.Memory.Session

/-
  Scenarios: the surroundings of a service change, time passes,
  and calls are made, step by step. What happens in a step is
  told apart from what happened before.

  Key definitions include:
    * `Memory.Step`
    * `Memory.Happening`
    * `Memory.Session.take`
    * `Memory.Session.follow`
-/

namespace BlockVolumes

namespace Memory

variable {ε α : Type}

/-
  A step of a scenario. Calls are made side by side, and each
  of them may depend on the world in which it is made.
-/
inductive Step
    (ε α : Type) where
  | change (f : World → World)
  | sleep (ticks : Nat)
  | calls (calls : List (World → Session.Call ε α))

/- What happened in a step, and the files after it. -/
structure Happening
    (ε α : Type) where
  outcomes : List (Outcome ε α) := []
  events : List Event
  actions : List Action
  tree : FileTree
  elapsed : Nat

namespace Session

/- Forgets what happened so far. -/
def forget
    (session : Session ε α) : Session ε α :=
  { session with
    world :=
      { session.world with
        latestEvents := []
        mounter := { session.world.mounter with log := [] } } }

/- Takes a step. -/
def take
    (registration : Program Host ε Unit)
    (session : Session ε α) :
    Step ε α → List (Outcome ε α) × Session ε α
  | .change f => ([], { session with world := f session.world })
  | .sleep ticks => ([], session.pass registration ticks)
  | .calls calls =>
      session.callAll registration
        (calls.map fun call => call session.world)

/- What happened since a time, which was not told before. -/
def happening
    (start : Nat)
    (outcomes : List (Outcome ε α))
    (session : Session ε α) : Happening ε α :=
  { outcomes := outcomes
    events := session.world.events
    actions := session.world.mounter.log
    tree := session.world.tree
    elapsed := session.world.clock - start }

/- Takes one step after the other. -/
def follow
    (registration : Program Host ε Unit) :
    List (Step ε α) → Session ε α →
      List (Happening ε α) × Session ε α
  | [], session => ([], session)
  | step :: steps, session =>
      let (outcomes, after) :=
        session.forget.take registration step
      let (rest, last) := follow registration steps after
      (after.happening session.world.clock outcomes :: rest, last)

end Session

end Memory

end BlockVolumes
