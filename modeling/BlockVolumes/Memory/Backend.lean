import BlockVolumes.Backend
import BlockVolumes.Memory.Script

/-
  A storage backend in memory. Each call takes effect at once;
  which status a volume has afterwards can be chosen.

  Key definitions include:
    * `Memory.Instance`
    * `Memory.Transitions`
    * `Memory.Backend`
    * `Memory.Backend.perform`
    * `Memory.Backend.answer`
-/

namespace BlockVolumes

namespace Memory

open BlockVolumes.Backend (Call Error CreateSpec AttachCheck)

------------------------------------------------------------
-- State
------------------------------------------------------------

/- An instance and the volumes that it reports as attached. -/
structure Instance where
  id : String
  info : BlockVolumes.Backend.InstanceInfo
  attached : List String := []
  deriving DecidableEq, Repr

/-
  The status of a volume after each kind of call. Expansion
  changes no status unless one is given.
-/
structure Transitions where
  create : Disk.Status := .available
  attach : Disk.Status := .inUse
  detach : Disk.Status := .available
  expand : Option Disk.Status := none
  -- The attachments after a volume was attached, if not to
  -- the wanted instance.
  attachTo : Option (List Disk.Attachment) := none
  -- Whether an expansion leaves the size as it is.
  keepsSize : Bool := false
  deriving DecidableEq, Repr

/- What a volume shows when it is looked at. -/
inductive Sight where
  | failure (error : Error)
  | status (status : Disk.Status)
  deriving DecidableEq, Repr

/-
  The state of a backend. Volumes are in the order of their
  identifiers.
-/
structure Backend where
  disks : List Disk := []
  instances : List Instance := []
  transitions : Transitions := {}
  soldOut : List String := []
  failures : Failures Error := []
  sights : Scripts Sight := []
  created : Nat := 0
  -- The time of day in nanoseconds, which stands still. It is
  -- a little later than the time from which ages are counted.
  now : Int := 100000
  deriving DecidableEq, Repr

namespace Backend

------------------------------------------------------------
-- Volumes
------------------------------------------------------------

/- The volume with an identifier. -/
def disk?
    (backend : Backend)
    (id : String) : Option Disk :=
  backend.disks.find? fun disk => disk.id == id

/- The instance with an identifier. -/
def instance?
    (backend : Backend)
    (id : String) : Option Instance :=
  backend.instances.find? fun inst => inst.id == id

/- Puts a volume at its place among others. -/
def insertDisk
    (disk : Disk) :
    List Disk → List Disk
  | [] => [disk]
  | other :: disks =>
      if disk.id < other.id then disk :: other :: disks
      else if disk.id = other.id then disk :: disks
      else other :: insertDisk disk disks

/- The backend with a volume put in or replaced. -/
def putDisk
    (backend : Backend)
    (disk : Disk) : Backend :=
  { backend with disks := insertDisk disk backend.disks }

/- The backend without a volume. -/
def removeDisk
    (backend : Backend)
    (id : String) : Backend :=
  { backend with
    disks := backend.disks.filter fun disk => disk.id != id }

/- The backend with an instance put in or replaced. -/
def putInstance
    (backend : Backend)
    (inst : Instance) : Backend :=
  { backend with
    instances :=
      backend.instances.filter (fun other => other.id != inst.id) ++
        [inst] }

/- The volume that a creation request makes. -/
def newDisk
    (backend : Backend)
    (id : String)
    (spec : CreateSpec) : Disk :=
  { id := id
    name := spec.name
    size := spec.size
    status := backend.transitions.create
    diskType := spec.diskType
    zone := spec.zone
    attachments := []
    createdAt := 0
    tags := spec.tags }

/- The attachments of a volume that was attached. -/
def attachmentsAfter
    (backend : Backend)
    (instanceId : String) : List Disk.Attachment :=
  backend.transitions.attachTo.getD [⟨instanceId, "/dev/vdb"⟩]

------------------------------------------------------------
-- Calls
------------------------------------------------------------

/- Changes a volume that has to be there. -/
def change
    (backend : Backend)
    (id : String)
    (f : Disk → Disk) : Except Error Unit × Backend :=
  match backend.disk? id with
  | none => (.error (.notFound id), backend)
  | some disk => (.ok (), backend.putDisk (f disk))

/- An instance that has to be there. -/
def requireInstance
    (backend : Backend)
    (id : String) : Except Error Instance :=
  match backend.instance? id with
  | none => .error (.notFound id)
  | some inst => .ok inst

/- Creates a volume, unless its type is sold out. -/
def create
    (backend : Backend)
    (spec : CreateSpec) : Except Error String × Backend :=
  if spec.diskType ∈ backend.soldOut then
    (.error (.rejected
      ("disk type " ++ spec.diskType ++ " is sold out")), backend)
  else
    let number := backend.created + 1
    let id := "vol-" ++ toString number
    let backend := { backend with created := number }
    (.ok id, backend.putDisk (backend.newDisk id spec))

/- Deletes a volume. -/
def delete
    (backend : Backend)
    (id : String) : Except Error Unit × Backend :=
  match backend.disk? id with
  | none => (.error (.notFound id), backend)
  | some _ => (.ok (), backend.removeDisk id)

/- A volume as it is. -/
def lookUp
    (backend : Backend)
    (id : String) : Except Error Disk × Backend :=
  match backend.disk? id with
  | none => (.error (.notFound id), backend)
  | some disk => (.ok disk, backend)

/- Gets a volume, which may have to show a sight of its own. -/
def get
    (backend : Backend)
    (id : String) : Except Error Disk × Backend :=
  let (sight, sights) := backend.sights.take id
  let backend := { backend with sights := sights }
  match sight with
  | none => backend.lookUp id
  | some (.failure error) => (.error error, backend)
  | some (.status status) =>
      (backend.change id fun disk =>
        { disk with status := status }).2.lookUp id

/- Makes a volume larger. -/
def expand
    (backend : Backend)
    (id : String)
    (size : Nat) : Except Error Unit × Backend :=
  backend.change id fun disk =>
    { disk with
      size :=
        if backend.transitions.keepsSize then disk.size else size
      status := backend.transitions.expand.getD disk.status }

/- Attaches a volume to an instance. -/
def attach
    (backend : Backend)
    (id instanceId : String) : Except Error Unit × Backend :=
  backend.change id fun disk =>
    { disk with
      status := backend.transitions.attach
      attachments := backend.attachmentsAfter instanceId }

/- Detaches a volume from all instances. -/
def detach
    (backend : Backend)
    (id : String) : Except Error Unit × Backend :=
  backend.change id fun disk =>
    { disk with
      status := backend.transitions.detach
      attachments := [] }

/- Performs a call that does not fail by script. -/
def perform
    (backend : Backend) :
    (call : Call) → call.Reply × Backend
  | .create spec => backend.create spec
  | .delete id => backend.delete id
  | .get id => backend.get id
  | .find name =>
      (.ok (backend.disks.filter fun disk => disk.name == name),
        backend)
  | .list => (.ok backend.disks, backend)
  | .expand id size => backend.expand id size
  | .attach id instanceId => backend.attach id instanceId
  | .detach id _ => backend.detach id
  | .checkAttach instanceId diskType =>
      ((backend.requireInstance instanceId).map fun inst =>
        (⟨inst.info.diskTypes.contains diskType,
          inst.info.volumeLimit⟩ : AttachCheck), backend)
  | .attachedVolumes instanceId =>
      ((backend.requireInstance instanceId).map (·.attached),
        backend)
  | .describe instanceId =>
      ((backend.requireInstance instanceId).map (·.info), backend)

/- Answers a call. A call that fails by script has no effect. -/
def answer
    (backend : Backend)
    (call : Call) : call.Reply × Backend :=
  let (failure, failures) := backend.failures.take call.name
  let backend := { backend with failures := failures }
  match failure with
  | some error => (.error error, backend)
  | none => backend.perform call

end Backend

end Memory

end BlockVolumes
