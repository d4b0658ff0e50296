import BlockVolumes.Memory.World
import BlockVolumes.Mount.Document

/-
  Descriptions of surroundings as documents. A description is
  put into what is there: it adds entries, replaces those with
  the same identifier, and leaves everything else alone. What
  is scripted for a name is replaced as a whole.

  Key definitions include:
    * `FileTree.extend`
    * `Memory.Mounter.extend`
    * `Memory.Backend.extend`
    * `Memory.Directory.extend`
    * `Memory.World.extend`
-/

namespace BlockVolumes

------------------------------------------------------------
-- Trees
------------------------------------------------------------

/- The content of a file of which only the presence counts. -/
def FileTree.someContent : List UInt8 := [120]

/-
  The tree with further directories, files and links, in this
  order. A directory comes with those above it.
-/
def FileTree.extend
    (tree : FileTree)
    (document : Document) : FileTree :=
  let tree :=
    (document.textsAt "dirs").foldl
      (fun tree path => (tree.makeDirectories ⟨path⟩).2) tree
  let tree :=
    (document.textsAt "files").foldl
      (fun tree path => tree.write ⟨path⟩ someContent) tree
  (document.itemsAt "links").foldl
    (fun tree link =>
      tree.makeLink ⟨link.itemText 0⟩ (link.itemText 1)) tree

namespace Memory

------------------------------------------------------------
-- Scripts
------------------------------------------------------------

/- Scripts with the entries of a record for its names. -/
def Scripts.extend
    {α : Type}
    (read : Document → α)
    (scripts : Scripts α)
    (document : Document) : Scripts α :=
  scripts.merge
    (document.toFields.map fun (name, entries) =>
      (name, entries.toItems.map read))

/- A failure, or none for a call that is let through. -/
def readFailure
    {ε : Type}
    (read : Document → ε)
    (document : Document) : Option ε :=
  document.orNone.map read

------------------------------------------------------------
-- Mounters
------------------------------------------------------------

def Mounter.extend
    (mounter : Mounter)
    (document : Document) : Mounter :=
  { mounter with
    table :=
      mounter.table ++
        (document.itemsAt "mount_points").map Mount.Point.ofDocument
    paths :=
      mounter.paths ++ (document.textsAt "paths").map Path.mk
    latePaths :=
      mounter.latePaths ++
        (document.textsAt "udev_paths").map Path.mk
    formats :=
      (document.itemsAt "formats").foldl
        (fun formats row =>
          setFormat formats ⟨row.itemText 0⟩ (row.itemText 1))
        mounter.formats
    usage :=
      ((document.field? "stats").map
        Mount.Usage.ofDocument).getD mounter.usage }

/- The world with more for its mounter and for its failures. -/
def World.extendMounter
    (world : World)
    (document : Document) : World :=
  { world with
    mounter := world.mounter.extend document
    mounterFailures :=
      Scripts.extend (readFailure Mount.Error.ofDocument)
        world.mounterFailures (document.field "fail") }

------------------------------------------------------------
-- Backends
------------------------------------------------------------

end Memory

namespace Backend

/- An error under the name of its kind. -/
def Error.ofDocument
    (document : Document) : Error :=
  match document.text? "not_found", document.text? "rejected" with
  | some what, _ => .notFound what
  | none, some reason => .rejected reason
  | none, none => .failed (document.textAt "backend")

end Backend

namespace Disk

/- The status with a name; a volume is available by default. -/
def Status.named
    (name : Option String) : Status :=
  (name.bind parse?).getD .available

/- An attachment, to the first further device by default. -/
def Attachment.ofDocument
    (document : Document) : Attachment :=
  { instanceId := document.itemText 0
    mountPoint :=
      (document.item 1).toText?.getD "/dev/vdb" }

/-
  A number of seconds in nanoseconds. What is no such number
  counts as none.
-/
def nanosecondsOf : Document → Int
  | .integer n => n * Duration.nanosecondsPerSecond
  | .decimal x =>
      let length := fun (x : Float) =>
        ((Duration.ofSeconds? x).map (·.nanoseconds)).getD 0
      if x < 0.0 then -(length (-x)) else length x
  | _ => 0

/- A volume, created so many seconds ago as it is old. -/
def ofDocument
    (document : Document) : Disk :=
  { id := document.textAt "id"
    name := document.textAt "name"
    size := document.naturalAt "size_gb"
    status := .named (document.text? "status")
    diskType := (document.text? "disk_type").getD "cloud_ssd"
    zone := (document.text? "zone").getD "zone-a"
    attachments :=
      (document.itemsAt "attachments").map Attachment.ofDocument
    createdAt := -(nanosecondsOf (document.field "age"))
    tags := document.dictionaryAt "tags" }

end Disk

namespace Memory

def Instance.ofDocument
    (document : Document) : Instance :=
  { id := document.textAt "id"
    info :=
      { region := document.textAt "region"
        zone := document.textAt "zone"
        instanceType := document.textAt "instance_type"
        diskTypes := document.textsAt "disk_types"
        volumeLimit := document.naturalAt "max_volumes" }
    attached := document.textsAt "attached" }

/- A sight: the name of a status, or an error. -/
def Sight.ofDocument : Document → Sight
  | .text name => .status (.named (some name))
  | document => .failure (.ofDocument document)

def Transitions.extend
    (transitions : Transitions)
    (document : Document) : Transitions :=
  let named := fun name =>
    (document.text? name).map fun s => Disk.Status.named (some s)
  { create := (named "create").getD transitions.create
    attach := (named "attach").getD transitions.attach
    detach := (named "detach").getD transitions.detach
    expand := (named "expand").or transitions.expand
    attachTo :=
      ((document.field? "attach_to").map fun rows =>
        rows.toItems.map Disk.Attachment.ofDocument).or
          transitions.attachTo
    keepsSize :=
      document.flagOr transitions.keepsSize "expand_keeps_size" }

def Backend.extend
    (backend : Backend)
    (document : Document) : Backend :=
  let backend :=
    (document.itemsAt "volumes").foldl
      (fun backend row => backend.putDisk (.ofDocument row)) backend
  let backend :=
    (document.textsAt "remove_volumes").foldl removeDisk backend
  let backend :=
    (document.itemsAt "instances").foldl
      (fun backend row => backend.putInstance (.ofDocument row))
      backend
  { backend with
    transitions := backend.transitions.extend (document.field "after")
    soldOut :=
      ((document.field? "rejected_types").map
        Document.toTexts).getD backend.soldOut
    failures :=
      Scripts.extend (readFailure BlockVolumes.Backend.Error.ofDocument)
        backend.failures (document.field "fail")
    sights :=
      Scripts.extend Sight.ofDocument backend.sights
        (document.field "scripts") }

------------------------------------------------------------
-- Directories
------------------------------------------------------------

end Memory

namespace Cluster

/- An error under the name of its kind. -/
def Error.ofDocument
    (document : Document) : Error :=
  match document.text? "node_not_found" with
  | some name => .nodeNotFound name
  | none => .failed (document.textAt "api")

/- A node, which is ready by default. -/
def Node.ofDocument
    (document : Document) : Node :=
  { name := document.textAt "name"
    instanceId := document.text? "instance_id"
    labels := document.dictionaryAt "labels"
    ready := document.flagOr true "ready" }

end Cluster

namespace Memory

def Member.ofDocument
    (document : Document) : Member :=
  { role := (document.text? "role").getD "node"
    node := .ofDocument document }

def Directory.extend
    (directory : Directory)
    (document : Document) : Directory :=
  let directory :=
    (document.itemsAt "nodes").foldl
      (fun directory row => directory.put (.ofDocument row)) directory
  let directory :=
    (document.textsAt "remove_nodes").foldl remove directory
  { directory with
    failures :=
      Scripts.extend (readFailure Cluster.Error.ofDocument)
        directory.failures (document.field "fail") }

------------------------------------------------------------
-- Worlds
------------------------------------------------------------

/- The world with more for its backend and its directory. -/
def World.extend
    (world : World)
    (document : Document) : World :=
  { world with
    backend := world.backend.extend document
    directory := world.directory.extend document }

/-
  The world with more for each of its parts: the mounter and
  the files have descriptions of their own in the document.
-/
def World.extendAll
    (world : World)
    (document : Document) : World :=
  let world :=
    (world.extend document).extendMounter (document.field "mounter")
  { world with tree := world.tree.extend (document.field "fs") }

end Memory

end BlockVolumes
