import BlockVolumes.Files.Path
import BlockVolumes.Text.Blank

/-
  The command lines that mount a filesystem. Beside each line
  there is the text under which it may be logged, from which
  the sensitive options are left out.

  Key definitions include:
    * `Mount.CommandLine`
    * `Mount.CommandLine.ofMount`
    * `Mount.CommandLine.inScope`
-/

namespace BlockVolumes

namespace Mount

/- The arguments of a program and the text for the log. -/
structure CommandLine where
  arguments : List String
  log : String
  deriving DecidableEq, Repr

namespace CommandLine

------------------------------------------------------------
-- Mounting
------------------------------------------------------------

/- The arguments that name the filesystem. -/
def filesystemPart
    (filesystem : String) : CommandLine :=
  if filesystem.isEmpty then ⟨[], ""⟩
  else ⟨["-t", filesystem], "-t " ++ filesystem⟩

/- The arguments that carry the options. -/
def optionsPart
    (options sensitive : List String) : CommandLine :=
  if options.isEmpty && sensitive.isEmpty then ⟨[], ""⟩
  else
    ⟨["-o", Text.joinWith "," (options ++ sensitive)],
      " -o " ++ Text.joinWith "," options⟩

/- The argument that names a place. -/
def placePart
    (place : Path) : CommandLine :=
  ⟨[place.text], " " ++ place.text⟩

/- One part of a line after another. -/
def append
    (first second : CommandLine) : CommandLine :=
  ⟨first.arguments ++ second.arguments, first.log ++ second.log⟩

/-
  The line for a mount: the filesystem, the options, the
  source and the target, each only if it is given.
-/
def ofMount
    (source : Option Path)
    (target : Path)
    (filesystem : String)
    (options sensitive : List String) : CommandLine :=
  (((filesystemPart filesystem).append
    (optionsPart options sensitive)).append
      (match source with
      | some source => placePart source
      | none => ⟨[], ""⟩)).append
        (placePart target)

/- The line with an argument in front. -/
def after
    (line : CommandLine)
    (argument : String) : CommandLine :=
  ⟨argument :: line.arguments, argument ++ " " ++ line.log⟩

------------------------------------------------------------
-- Scopes
------------------------------------------------------------

/-
  The line that runs a command in a scope of its own, so that
  processes which the command leaves behind survive a restart
  of the caller.
-/
def inScope
    (target : Path)
    (command : String)
    (line : CommandLine) : CommandLine :=
  let start :=
    ["--description=Block disk CSI transient mount for " ++
      target.text, "--scope", "--", command]
  ⟨start ++ line.arguments,
    Text.joinWith " " start ++ " " ++ line.log⟩

end CommandLine

end Mount

end BlockVolumes
