import BlockVolumes.Files.Failure
import BlockVolumes.Files.Path

/-
  A tree of directories, files and symbolic links: how paths
  are resolved in it, and how it changes. All names in a tree
  are Unicode texts, and so are the targets of its links; a
  name in a system may hold any bytes but slashes and zeros.

  Key definitions include:
    * `FileTree`
    * `FileTree.resolve`
    * `FileTree.canonical`
    * `FileTree.makeDirectories`
    * `FileTree.removeDirectory`
    * `FileTree.write`
    * `FileTree.makeLink`
-/

namespace BlockVolumes

------------------------------------------------------------
-- Trees
------------------------------------------------------------

/- What stands at a place of a tree. -/
inductive FileEntry where
  | directory
  | file (content : List UInt8)
  | link (target : String)
  deriving DecidableEq, Repr

/- The names on the way from the root to a place. -/
abbrev FilePlace :=
  List String

/-
  A tree by its places. The root is a directory and is not
  listed. Other file systems begin at some of the places.
-/
structure FileTree where
  entries : List (FilePlace × FileEntry) := []
  fileSystems : List FilePlace := []
  workingDirectory : FilePlace := []
  deriving DecidableEq, Repr

namespace FileTree

open Files (Failure)

/- What stands at a place. -/
def entry?
    (tree : FileTree) :
    FilePlace → Option FileEntry
  | [] => some .directory
  | place =>
      (tree.entries.find? fun row => row.1 == place).map (·.2)

/- The tree with an entry at a place where there is none. -/
def add
    (tree : FileTree)
    (place : FilePlace)
    (entry : FileEntry) : FileTree :=
  { tree with entries := tree.entries ++ [(place, entry)] }

/- The tree without the entry at a place. -/
def remove
    (tree : FileTree)
    (place : FilePlace) : FileTree :=
  { tree with
    entries := tree.entries.filter fun row => row.1 != place }

/- Whether a directory holds no entry. -/
def isEmptyDirectory
    (tree : FileTree)
    (place : FilePlace) : Bool :=
  tree.entries.all fun row =>
    row.1.isEmpty || row.1.dropLast != place

------------------------------------------------------------
-- Resolving Paths
------------------------------------------------------------

/- The number of links that are followed on one way. -/
def linkLimit : Nat := 40

/- The pieces of a text between slashes. -/
def piecesOf
    (text : String) : List String :=
  Text.splitAtEvery '/' text

/- The place from which a text leads on. -/
def startOf
    (text : String)
    (here : FilePlace) : FilePlace :=
  if (Path.mk text).isAbsolute then [] else here

/-
  Follows the pieces of a path from a directory. Links are
  followed, the last one only on demand, and no more of them
  than the given number. The result is the place reached or
  the number of the failure.
-/
def walk
    (tree : FileTree)
    (followLast : Bool)
    (links : Nat)
    (place : FilePlace)
    (todo : List String) : Except Nat FilePlace :=
  match todo with
  | [] => .ok place
  | piece :: rest =>
      if piece = "" ∨ piece = "." then
        walk tree followLast links place rest
      else if piece = ".." then
        walk tree followLast links place.dropLast rest
      else if 255 < piece.utf8ByteSize then
        .error Failure.nameTooLong
      else
        match tree.entry? (place ++ [piece]) with
        | none => .error Failure.noSuchEntry
        | some .directory =>
            walk tree followLast links (place ++ [piece]) rest
        | some (.file _) =>
            if rest.isEmpty then .ok (place ++ [piece])
            else .error Failure.notADirectory
        | some (.link target) =>
            if rest.isEmpty && !followLast then
              .ok (place ++ [piece])
            else
              match links with
              | 0 => .error Failure.tooManyLinks
              | links + 1 =>
                  walk tree followLast links
                    (startOf target place)
                    (piecesOf target ++ rest)
termination_by (links, todo.length)

/- Refuses the texts that the system takes for no path at all. -/
def checkText
    (text : String) : Except Failure Unit :=
  if text.toList.contains '\x00' then .error .zeroInName
  else if text.isEmpty then .error (.ofNumber Failure.noSuchEntry)
  else if 4096 ≤ text.utf8ByteSize then
    .error (.ofNumber Failure.nameTooLong)
  else .ok ()

/- A number of the system as a failure. -/
def fromNumber
    {α : Type} :
    Except Nat α → Except Failure α
  | .ok a => .ok a
  | .error n => .error (.ofNumber n)

/- The place that a path leads to, links followed. -/
def resolve
    (tree : FileTree)
    (path : Path) : Except Failure FilePlace := do
  checkText path.text
  fromNumber
    (tree.walk true linkLimit
      (startOf path.text tree.workingDirectory)
      path.pieces)

/- What a path leads to. -/
def follow
    (tree : FileTree)
    (path : Path) : Except Failure FileEntry := do
  let place ← tree.resolve path
  match tree.entry? place with
  | some entry => .ok entry
  | none => .error (.ofNumber Failure.noSuchEntry)

/- Whether a path leads anywhere. -/
def leadsSomewhere
    (tree : FileTree)
    (path : Path) : Bool :=
  (tree.follow path).isOk

/- Whether a path leads to a directory. -/
def isDirectory
    (tree : FileTree)
    (path : Path) : Bool :=
  match tree.follow path with
  | .ok .directory => true
  | _ => false

/- The path from the root without links to the same place. -/
def canonical
    (tree : FileTree)
    (path : Path) : Except Failure Path :=
  (tree.resolve path).map Path.ofNames

/- The canonical path, or the path itself if there is none. -/
def canonicalOrSelf
    (tree : FileTree)
    (path : Path) : Path :=
  match tree.canonical path with
  | .ok resolved => resolved
  | .error _ => path

/- The bytes of the file to which a path leads. -/
def read
    (tree : FileTree)
    (path : Path) : Except Failure (List UInt8) := do
  match ← tree.follow path with
  | .file content => .ok content
  | _ => .error (.ofNumber Failure.isADirectory)

/-
  The file system that holds a place: the deepest one that
  begins on the way to it.
-/
def fileSystemOf
    (tree : FileTree)
    (place : FilePlace) : FilePlace :=
  (tree.fileSystems.filter fun start => start.isPrefixOf place).foldl
    (fun best start =>
      if best.length ≤ start.length then start else best)
    []

------------------------------------------------------------
-- Changing the Tree
------------------------------------------------------------

/-
  The directory in which the last piece of a path stands, and
  that piece, for a path that leads on from some place.
  Slashes at the end are dropped. There is no last piece where
  the path is the root.
-/
def lastPieceFrom
    (tree : FileTree)
    (here : FilePlace)
    (path : Path) :
    Except Failure (FilePlace × Option String) := do
  checkText path.text
  let kept :=
    (path.pieces.reverse.dropWhile (·.isEmpty)).reverse
  match kept.getLast? with
  | none => .ok ([], none)
  | some last =>
      let place ←
        fromNumber
          (tree.walk true linkLimit (startOf path.text here)
            (kept.dropLast ++ [""]))
      .ok (place, some last)

/- The same for a path that starts at the working directory. -/
def lastPiece
    (tree : FileTree)
    (path : Path) :
    Except Failure (FilePlace × Option String) :=
  tree.lastPieceFrom tree.workingDirectory path

/- Makes a directory in an existing one. -/
def makeDirectory
    (tree : FileTree)
    (path : Path) : Except Failure FileTree := do
  match ← tree.lastPiece path with
  | (_, none) => .error (.ofNumber Failure.entryExists)
  | (place, some last) =>
      if last = "." ∨ last = ".." then
        .error (.ofNumber Failure.entryExists)
      else if 255 < last.utf8ByteSize then
        .error (.ofNumber Failure.nameTooLong)
      else if (tree.entry? (place ++ [last])).isSome then
        .error (.ofNumber Failure.entryExists)
      else
        .ok (tree.add (place ++ [last]) .directory)

/-
  Makes a directory and those above it that are missing. What
  was made before a failure stays. The fuel is never used up
  when it starts above the number of components.
-/
def makeDirectoriesFrom :
    Nat → FileTree → Path → Except Failure Unit × FileTree
  | 0, tree, _ => (.ok (), tree)
  | fuel + 1, tree, path =>
      if path.components.isEmpty then (.ok (), tree)
      else
        match tree.makeDirectory path with
        | .ok made => (.ok (), made)
        | .error failure =>
            if failure.kind = .notFound then
              match path.parent? with
              | none =>
                  (.error (.ofText "failed to create whole tree"),
                    tree)
              | some parent =>
                  match makeDirectoriesFrom fuel tree parent with
                  | (.error failure, tree) =>
                      (.error failure, tree)
                  | (.ok (), tree) =>
                      match tree.makeDirectory path with
                      | .ok made => (.ok (), made)
                      | .error failure =>
                          if tree.isDirectory path then
                            (.ok (), tree)
                          else (.error failure, tree)
            else if tree.isDirectory path then (.ok (), tree)
            else (.error failure, tree)

/- Makes a directory and those above it that are missing. -/
def makeDirectories
    (tree : FileTree)
    (path : Path) : Except Failure Unit × FileTree :=
  makeDirectoriesFrom (path.components.length + 1) tree path

/- Removes an empty directory; a link is none. -/
def removeDirectory
    (tree : FileTree)
    (path : Path) : Except Failure FileTree := do
  match ← tree.lastPiece path with
  | (_, none) => .error (.ofNumber Failure.busy)
  | (place, some last) =>
      if last = "." then
        .error (.ofNumber Failure.invalidArgument)
      else if last = ".." then
        .error (.ofNumber Failure.notEmpty)
      else
        match tree.entry? (place ++ [last]) with
        | none => .error (.ofNumber Failure.noSuchEntry)
        | some .directory =>
            if tree.isEmptyDirectory (place ++ [last]) then
              .ok (tree.remove (place ++ [last]))
            else .error (.ofNumber Failure.notEmpty)
        | some _ => .error (.ofNumber Failure.notADirectory)

/-
  Writes a file where a path leads that starts at some place.
  A link is followed, and its target is made if it is missing;
  the fuel is the number of links that may be followed. The
  tree stays as it is where no file can be written.
-/
def writeFrom
    (tree : FileTree)
    (content : List UInt8) :
    Nat → FilePlace → Path → FileTree
  | links, here, path =>
      match tree.lastPieceFrom here path with
      | .ok (place, some last) =>
          if last = "." ∨ last = ".." ∨
              255 < last.utf8ByteSize then tree
          else
            let spot := place ++ [last]
            match tree.entry? spot, links with
            | none, _ => tree.add spot (.file content)
            | some .directory, _ => tree
            | some (.file _), _ =>
                (tree.remove spot).add spot (.file content)
            | some (.link _), 0 => tree
            | some (.link target), links + 1 =>
                writeFrom tree content links place ⟨target⟩
      | _ => tree

/- Writes a file where a path leads. -/
def write
    (tree : FileTree)
    (path : Path)
    (content : List UInt8) : FileTree :=
  tree.writeFrom content linkLimit tree.workingDirectory path

/- Makes a link where a path ends and nothing stands yet. -/
def makeLink
    (tree : FileTree)
    (path : Path)
    (target : String) : FileTree :=
  match tree.lastPiece path with
  | .ok (place, some last) =>
      if last = "." ∨ last = ".." ∨
          (tree.entry? (place ++ [last])).isSome then tree
      else tree.add (place ++ [last]) (.link target)
  | _ => tree

------------------------------------------------------------
-- Listing
------------------------------------------------------------

/- The order of names by their bytes. -/
def nameBefore
    (a b : String) : Bool :=
  !(decide (b < a))

/-
  The entries below a place with their names relative to it,
  directory by directory in the order of the names. The fuel
  is never used up when it starts above the depth of the tree.
-/
def below :
    Nat → FileTree → FilePlace → List (FilePlace × FileEntry)
  | 0, _, _ => []
  | fuel + 1, tree, place =>
      let children :=
        (tree.entries.filterMap fun row =>
          match row.1.getLast? with
          | some name =>
              if row.1.dropLast = place then some (name, row.2)
              else none
          | none => none).mergeSort
            fun a b => nameBefore a.1 b.1
      children.flatMap fun (name, entry) =>
        ([name], entry) ::
          (match entry with
          | .directory =>
              (below fuel tree (place ++ [name])).map
                fun row => (name :: row.1, row.2)
          | _ => [])

/- The entries below a place. -/
def list
    (tree : FileTree)
    (place : FilePlace) : List (FilePlace × FileEntry) :=
  below (tree.entries.length + 1) tree place

end FileTree

end BlockVolumes
