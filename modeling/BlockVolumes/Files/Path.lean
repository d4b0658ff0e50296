import BlockVolumes.Text.Blank

/-
  Paths. A path is kept as it was written; two paths are the
  same when they have the same components, so that repeated
  slashes, slashes at the end and components `.` between
  others do not matter.

  A path here is a Unicode text, as it is in every request and
  in the mount table. The paths of a system are bytes, of which
  not all are texts; they are in `BlockVolumes.Files.RawPath`.

  Key definitions include:
    * `Path`
    * `Path.components`
    * `Path.Same`
    * `Path.join`
    * `Path.parent?`
-/

namespace BlockVolumes

/- A path as it was written. -/
structure Path where
  text : String
  deriving DecidableEq, Repr

namespace Path

------------------------------------------------------------
-- Components
------------------------------------------------------------

/- The parts of a path. -/
inductive Component where
  | root
  | here
  | up
  | name (text : String)
  deriving DecidableEq, Repr

/- The texts between the slashes of a path. -/
def pieces
    (path : Path) : List String :=
  Text.splitAtEvery '/' path.text

/- Whether a path starts at the root. -/
def isAbsolute
    (path : Path) : Bool :=
  path.text.toList.head? == some '/'

/- The component that a piece makes, if it makes one. -/
def componentOf? : String → Option Component
  | "" => none
  | "." => none
  | ".." => some .up
  | name => some (.name name)

/-
  The components of a path. A piece `.` makes one only at the
  start of a path that does not start at the root.
-/
def components
    (path : Path) : List Component :=
  let rest := path.pieces.filterMap componentOf?
  if path.isAbsolute then .root :: rest
  else if path.pieces.head? = some "." then .here :: rest
  else rest

/- Two paths are the same when their components are. -/
def Same
    (p q : Path) : Prop :=
  p.components = q.components

instance
    (p q : Path) :
    Decidable (Same p q) := by
  unfold Same
  infer_instance

theorem Same.refl
    (p : Path) :
    Same p p :=
  rfl

theorem Same.symm
    {p q : Path}
    (h : Same p q) :
    Same q p :=
  Eq.symm h

theorem Same.trans
    {p q r : Path}
    (hpq : Same p q)
    (hqr : Same q r) :
    Same p r :=
  Eq.trans hpq hqr

/- Whether a list holds the path under some spelling. -/
def isIn
    (path : Path)
    (paths : List Path) : Bool :=
  paths.any fun other => decide (Same other path)

------------------------------------------------------------
-- Building
------------------------------------------------------------

/-
  A path below another one. A path from the root replaces the
  one before it.
-/
def join
    (path : Path)
    (below : String) : Path :=
  if (Path.mk below).isAbsolute then ⟨below⟩
  else if path.text.isEmpty ||
      path.text.toList.getLast? == some '/' then
    ⟨path.text ++ below⟩
  else
    ⟨path.text ++ "/" ++ below⟩

/- The piece that a component is written as. -/
def pieceOf : Component → String
  | .root => ""
  | .here => "."
  | .up => ".."
  | .name text => text

/- The path with the given components. -/
def ofComponents : List Component → Path
  | [.root] => ⟨"/"⟩
  | components => ⟨"/".intercalate (components.map pieceOf)⟩

/- The path without its last component, unless that is the root. -/
def parent?
    (path : Path) : Option Path :=
  match path.components.getLast? with
  | none => none
  | some .root => none
  | some _ => some (ofComponents path.components.dropLast)

/- The path from the root through the given names. -/
def ofNames
    (names : List String) : Path :=
  ⟨"/" ++ "/".intercalate names⟩

end Path

end BlockVolumes
