import BlockVolumes.Disk

/-
  The storage backend as the driver sees it: the requests it
  takes, what it answers, and how it fails.

  Key definitions include:
    * `Backend.Error`
    * `Backend.CreateSpec`
    * `Backend.Call`
    * `Backend.Call.Reply`
-/

namespace BlockVolumes

namespace Backend

------------------------------------------------------------
-- Errors
------------------------------------------------------------

/-
  How a backend request fails. A rejected request had no
  effect; any other failure may still have taken effect.
-/
inductive Error where
  | notFound (what : String)
  | rejected (reason : String)
  | failed (reason : String)
  deriving DecidableEq, Repr

namespace Error

/- The wording of an error. -/
def message : Error → String
  | notFound what => "Resource not found: " ++ what
  | rejected reason =>
      "Backend rejected the request: " ++ reason
  | failed reason => "Backend request failed: " ++ reason

def isNotFound : Error → Bool
  | notFound _ => true
  | _ => false

def isRejected : Error → Bool
  | rejected _ => true
  | _ => false

end Error

------------------------------------------------------------
-- Requests
------------------------------------------------------------

/- The volume that a creation request describes. -/
structure CreateSpec where
  name : String
  size : Nat
  diskType : String
  zone : String
  region : String
  projectId : Option String
  chargeType : Option String
  purchaseTime : Option Nat
  performanceLevel : Option String
  tags : Dictionary
  deriving DecidableEq, Repr

/- Whether an instance takes one more volume of a type. -/
structure AttachCheck where
  supported : Bool
  volumeLimit : Nat
  deriving DecidableEq, Repr

/- What the backend knows about an instance. -/
structure InstanceInfo where
  region : String
  zone : String
  instanceType : String
  diskTypes : List String
  volumeLimit : Nat
  deriving DecidableEq, Repr

/-
  The requests of the backend. Each is one call and has one
  answer.
-/
inductive Call where
  | create (spec : CreateSpec)
  | delete (id : String)
  | get (id : String)
  | find (name : String)
  | list
  | expand (id : String) (size : Nat)
  | attach (id instanceId : String)
  | detach (id instanceId : String)
  | checkAttach (instanceId diskType : String)
  | attachedVolumes (instanceId : String)
  | describe (instanceId : String)
  deriving DecidableEq, Repr

namespace Call

/- What a request is answered with when it succeeds. -/
abbrev Result : Call → Type
  | create _ => String
  | delete _ => Unit
  | get _ => Disk
  | find _ => List Disk
  | list => List Disk
  | expand _ _ => Unit
  | attach _ _ => Unit
  | detach _ _ => Unit
  | checkAttach _ _ => AttachCheck
  | attachedVolumes _ => List String
  | describe _ => InstanceInfo

/- The answer to a request. -/
abbrev Reply
    (call : Call) : Type :=
  Except Error call.Result

/- The name of a request. -/
def name : Call → String
  | create _ => "create"
  | delete _ => "delete"
  | get _ => "get"
  | find _ => "find"
  | list => "list"
  | expand _ _ => "expand"
  | attach _ _ => "attach"
  | detach _ _ => "detach"
  | checkAttach _ _ => "validate"
  | attachedVolumes _ => "instance_volumes"
  | describe _ => "instance"

end Call

end Backend

end BlockVolumes
