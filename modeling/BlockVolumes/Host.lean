import BlockVolumes.Backend
import BlockVolumes.Cluster
import BlockVolumes.Mount.Call
import BlockVolumes.Program

/-
  The surroundings of the services: the backend, the cluster
  directory, the mounter, the files of the node, time, and
  what the calls of one service share.

  Key definitions include:
    * `Host`
    * `Host.Request`
    * `Host.Reply`
    * `Host.exclusively`
-/

namespace BlockVolumes

namespace Host

open Files (Failure)

------------------------------------------------------------
-- Requests
------------------------------------------------------------

/-
  The requests of the services. Each service has one lock, a
  line of zones for each storage class, and a node keeps its
  topology and starts at most one registration at a time.
-/
inductive Request where
  | backend (call : Backend.Call)
  | cluster (call : Cluster.Call)
  | mounter (call : Mount.Call)
  | makeDirectories (path : Path)
  | removeDirectory (path : Path)
  | wallClock
  | sleep (ticks : Nat)
  | acquire
  | release
  | takeTurn (storageClass : String)
  | knownTopology
  | keepTopology (topology : Topology)
  | claimRegistration
  | endRegistration
  | launchRegistration
  deriving DecidableEq, Repr

/-
  The replies. The wall clock shows nanoseconds, a turn is the
  number of the turn, and a claim says whether it was met.
-/
abbrev Reply : Request → Type
  | .backend call => call.Reply
  | .cluster call => call.Reply
  | .mounter call => call.Reply
  | .makeDirectories _ => Except Failure Unit
  | .removeDirectory _ => Except Failure Unit
  | .wallClock => Int
  | .sleep _ => Unit
  | .acquire => Unit
  | .release => Unit
  | .takeTurn _ => UInt64
  | .knownTopology => Option Topology
  | .keepTopology _ => Unit
  | .claimRegistration => Bool
  | .endRegistration => Unit
  | .launchRegistration => Unit

end Host

/- The surroundings as an interface. -/
abbrev Host : Interface :=
  ⟨Host.Request, Host.Reply⟩

namespace Host

open Files (Failure)

variable {ε α : Type}

------------------------------------------------------------
-- Calls
------------------------------------------------------------

/- A call of the backend with its reply. -/
def askBackend
    (call : Backend.Call) : Program Host ε call.Reply :=
  Program.perform (I := Host) (Request.backend call)

/- A call of the backend that has to succeed. -/
def backend
    (call : Backend.Call) :
    Program Host Backend.Error call.Result := do
  Program.ofExcept (← askBackend call)

/- A call of the cluster directory with its reply. -/
def askCluster
    (call : Cluster.Call) : Program Host ε call.Reply :=
  Program.perform (I := Host) (Request.cluster call)

/- A call of the cluster directory that has to succeed. -/
def cluster
    (call : Cluster.Call) :
    Program Host Cluster.Error call.Result := do
  Program.ofExcept (← askCluster call)

/- A call of the mounter with its reply. -/
def askMounter
    (call : Mount.Call) : Program Host ε call.Reply :=
  Program.perform (I := Host) (Request.mounter call)

/- A call of the mounter that has to succeed. -/
def mounter
    (call : Mount.Call) :
    Program Host Mount.Error call.Result := do
  Program.ofExcept (← askMounter call)

------------------------------------------------------------
-- Files and Time
------------------------------------------------------------

/- Makes a directory and those above it that are missing. -/
def makeDirectories
    (path : Path) : Program Host ε (Except Failure Unit) :=
  Program.perform (I := Host) (Request.makeDirectories path)

/- Removes an empty directory. -/
def removeDirectory
    (path : Path) : Program Host ε (Except Failure Unit) :=
  Program.perform (I := Host) (Request.removeDirectory path)

/- The time of day in nanoseconds. -/
def wallClock : Program Host ε Int :=
  Program.perform (I := Host) Request.wallClock

/- Sleeps for a number of ticks. -/
def sleepTicks
    (ticks : Nat) : Program Host ε Unit :=
  Program.perform (I := Host) (Request.sleep ticks)

/- Sleeps for some time, as far as the timer does. -/
def sleep
    (d : Duration) : Program Host ε Unit :=
  sleepTicks d.pause

------------------------------------------------------------
-- What Calls Share
------------------------------------------------------------

/- Takes the next turn of a storage class. -/
def takeTurn
    (storageClass : String) : Program Host ε UInt64 :=
  Program.perform (I := Host) (Request.takeTurn storageClass)

/- The topology that is kept. -/
def knownTopology : Program Host ε (Option Topology) :=
  Program.perform (I := Host) Request.knownTopology

/- Keeps a topology. -/
def keepTopology
    (topology : Topology) : Program Host ε Unit :=
  Program.perform (I := Host) (Request.keepTopology topology)

/- Claims the registration; only one claim is met at a time. -/
def claimRegistration : Program Host ε Bool :=
  Program.perform (I := Host) Request.claimRegistration

/- Gives the claim on the registration back. -/
def endRegistration : Program Host ε Unit :=
  Program.perform (I := Host) Request.endRegistration

/- Starts the registration beside the calls. -/
def launchRegistration : Program Host ε Unit :=
  Program.perform (I := Host) Request.launchRegistration

------------------------------------------------------------
-- The Lock
------------------------------------------------------------

/-
  Runs a program while holding the lock of the service, which
  is given back however the program ends.
-/
def exclusively
    (program : Program Host ε α) : Program Host ε α := do
  Program.perform (I := Host) Request.acquire
  let result ← program.attempt
  Program.perform (I := Host) Request.release
  Program.ofExcept result

end Host

end BlockVolumes
