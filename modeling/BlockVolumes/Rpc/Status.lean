/-
  How a remote procedure call fails: a code and a text.

  Key definitions include:
    * `Rpc.Code`
    * `Rpc.Status`
-/

namespace BlockVolumes

namespace Rpc

------------------------------------------------------------
-- Codes
------------------------------------------------------------

/-
  The codes of the call protocol, in the order of their
  numbers.
-/
inductive Code where
  | ok
  | cancelled
  | unknown
  | invalidArgument
  | deadlineExceeded
  | notFound
  | alreadyExists
  | permissionDenied
  | resourceExhausted
  | failedPrecondition
  | aborted
  | outOfRange
  | unimplemented
  | internal
  | unavailable
  | dataLoss
  | unauthenticated
  deriving DecidableEq, Repr

namespace Code

/- All codes, each at the place of its number. -/
def all : List Code :=
  [ok, cancelled, unknown, invalidArgument, deadlineExceeded,
    notFound, alreadyExists, permissionDenied,
    resourceExhausted, failedPrecondition, aborted, outOfRange,
    unimplemented, internal, unavailable, dataLoss,
    unauthenticated]

/- The code of a number; any other number is unknown. -/
def ofNumber
    (n : Int) : Code :=
  if n < 0 then unknown
  else (all[n.toNat]?).getD unknown

/- The name of a code. -/
def name : Code → String
  | ok => "Ok"
  | cancelled => "Cancelled"
  | unknown => "Unknown"
  | invalidArgument => "InvalidArgument"
  | deadlineExceeded => "DeadlineExceeded"
  | notFound => "NotFound"
  | alreadyExists => "AlreadyExists"
  | permissionDenied => "PermissionDenied"
  | resourceExhausted => "ResourceExhausted"
  | failedPrecondition => "FailedPrecondition"
  | aborted => "Aborted"
  | outOfRange => "OutOfRange"
  | unimplemented => "Unimplemented"
  | internal => "Internal"
  | unavailable => "Unavailable"
  | dataLoss => "DataLoss"
  | unauthenticated => "Unauthenticated"

end Code

------------------------------------------------------------
-- Statuses
------------------------------------------------------------

/-
  A failed call: the code that programs read and the text
  that people read.
-/
structure Status where
  code : Code
  message : String
  deriving DecidableEq, Repr

namespace Status

/- A request that is wrong whatever the state of the system. -/
def invalidArgument
    (message : String) : Status :=
  ⟨.invalidArgument, message⟩

def notFound
    (message : String) : Status :=
  ⟨.notFound, message⟩

def unavailable
    (message : String) : Status :=
  ⟨.unavailable, message⟩

def internal
    (message : String) : Status :=
  ⟨.internal, message⟩

/- A procedure that the service does not offer. -/
def unsupported
    (procedure : String) : Status :=
  ⟨.unimplemented,
    "Unsupported method " ++ procedure ++ " called"⟩

/- A procedure of which the server has not heard. -/
def unheardOf : Status :=
  ⟨.unimplemented, ""⟩

end Status

end Rpc

end BlockVolumes
