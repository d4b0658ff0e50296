import BlockVolumes.Files.Failure

/-
  How formatting, mounting and resizing fail.

  Key definitions include:
    * `Mount.Error`
    * `Mount.Error.message`
    * `Mount.Error.isNotFound`
-/

namespace BlockVolumes

namespace Mount

open Files (Failure FailureKind)

/-
  A failure of the system, with the device if it is known
  which one was worked on, or a filesystem that no tool serves.
-/
inductive Error where
  | format (device : String) (cause : Failure)
  | diskFormat (device : String) (cause : Failure)
  | resize (device : String) (cause : Failure)
  | unsupported (filesystem : String)
  | other (cause : Failure)
  deriving DecidableEq, Repr

namespace Error

/- The wording of an error. -/
def message : Error → String
  | format device cause =>
      "Format of " ++ device ++ " failed: " ++ cause.text
  | diskFormat device cause =>
      "Get disk format of " ++ device ++ " failed: " ++ cause.text
  | resize device cause =>
      "Resize of " ++ device ++ " failed: " ++ cause.text
  | unsupported filesystem =>
      "Unsupported filesystem type: " ++ filesystem
  | other cause => "Unknown mount error: " ++ cause.text

/- The failure of the system behind an error. -/
def cause? : Error → Option Failure
  | format _ cause => some cause
  | diskFormat _ cause => some cause
  | resize _ cause => some cause
  | unsupported _ => none
  | other cause => some cause

def isNotFound
    (error : Error) : Bool :=
  error.cause?.any fun cause => cause.kind == .notFound

def isPermission
    (error : Error) : Bool :=
  error.cause?.any fun cause => cause.kind == .permissionDenied

/- An error that has nothing but a text. -/
def ofText
    (text : String) : Error :=
  .other (.ofText text)

end Error

/- The result of an operation of the system. -/
def fromSystem
    {α : Type} :
    Except Failure α → Except Error α
  | .ok a => .ok a
  | .error cause => .error (.other cause)

end Mount

end BlockVolumes
