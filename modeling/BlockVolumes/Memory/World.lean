import BlockVolumes.Files.Tree
import BlockVolumes.Host
import BlockVolumes.Memory.Backend
import BlockVolumes.Memory.Directory
import BlockVolumes.Memory.Mounter

/-
  Surroundings of the services in memory. Every request is
  answered at once; time passes only while a program sleeps.

  Key definitions include:
    * `Memory.Event`
    * `Memory.World`
    * `Memory.World.takeTurn`
    * `Memory.World.answer`
    * `Memory.World.run`
-/

namespace BlockVolumes

namespace Memory

/- The calls that leave a trace. -/
inductive Event where
  | backend (call : BlockVolumes.Backend.Call)
  | cluster (call : Cluster.Call)
  deriving DecidableEq, Repr

/-
  The state of the surroundings. Each storage class has a turn
  with which it starts.
-/
structure World where
  backend : Backend := {}
  directory : Directory := {}
  mounter : Mounter := {}
  mounterFailures : Failures Mount.Error := []
  tree : FileTree := {}
  clock : Nat := 0
  startOfTurns : String → UInt32 := fun _ => 0
  turns : List (String × UInt64) := []
  topology : Option Topology := none
  registering : Bool := false
  -- The calls so far, the latest one first.
  latestEvents : List Event := []

namespace World

/- Records a call. -/
def record
    (world : World)
    (event : Event) : World :=
  { world with latestEvents := event :: world.latestEvents }

/- The calls so far, in order. -/
def events
    (world : World) : List Event :=
  world.latestEvents.reverse

/- The next turn of a storage class. -/
def nextTurn
    (world : World)
    (storageClass : String) : UInt64 :=
  match world.turns.find? fun row => row.1 == storageClass with
  | some row => row.2
  | none => (world.startOfTurns storageClass).toUInt64

/- Takes the next turn of a storage class. -/
def takeTurn
    (world : World)
    (storageClass : String) : UInt64 × World :=
  let turn := world.nextTurn storageClass
  (turn,
    { world with
      turns :=
        (storageClass, turn + 1) ::
          world.turns.filter fun row => row.1 != storageClass })

/- Calls the mounter, which may fail by script. -/
def callMounter
    (world : World)
    (call : Mount.Call) : call.Reply × World :=
  let (failure, failures) := world.mounterFailures.take call.name
  let world := { world with mounterFailures := failures }
  match failure with
  | some error => (.error error, world)
  | none =>
      let (reply, mounter) := world.mounter.answer world.tree call
      (reply, { world with mounter := mounter })

/- Makes a directory and those above it that are missing. -/
def makeDirectories
    (world : World)
    (path : Path) : Except Files.Failure Unit × World :=
  let (made, tree) := world.tree.makeDirectories path
  (made, { world with tree := tree })

/- Removes an empty directory. -/
def removeDirectory
    (world : World)
    (path : Path) : Except Files.Failure Unit × World :=
  match world.tree.removeDirectory path with
  | .ok tree => (.ok (), { world with tree := tree })
  | .error failure => (.error failure, world)

/-
  Answers a request of a program that runs alone, for which
  the lock is always free.
-/
def answer :
    (request : Host.Request) → World →
      Host.Reply request × World
  | .backend call, world =>
      let (reply, backend) := world.backend.answer call
      (reply,
        { world with backend := backend }.record (.backend call))
  | .cluster call, world =>
      let (reply, directory) := world.directory.answer call
      (reply,
        { world with directory := directory }.record
          (.cluster call))
  | .mounter call, world => world.callMounter call
  | .makeDirectories path, world => world.makeDirectories path
  | .removeDirectory path, world => world.removeDirectory path
  | .wallClock, world => (world.backend.now, world)
  | .sleep ticks, world =>
      ((), { world with clock := world.clock + ticks })
  | .acquire, world => ((), world)
  | .release, world => ((), world)
  | .takeTurn storageClass, world => world.takeTurn storageClass
  | .knownTopology, world => (world.topology, world)
  | .keepTopology topology, world =>
      ((), { world with topology := some topology })
  | .claimRegistration, world =>
      (!world.registering, { world with registering := true })
  | .endRegistration, world =>
      ((), { world with registering := false })
  | .launchRegistration, world => ((), world)

/- Runs a program alone. -/
def run
    {ε α : Type}
    (program : Program Host ε α)
    (world : World) : Except ε α × World :=
  Program.run answer program world

end World

end Memory

end BlockVolumes
