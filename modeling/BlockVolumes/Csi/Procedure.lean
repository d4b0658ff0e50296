import BlockVolumes.Program
import BlockVolumes.Rpc.Status

/-
  Remote procedures in general: a message is read, the request
  in it is handled, and the result is written.

  Key definitions include:
    * `Csi.procedure`
-/

namespace BlockVolumes

namespace Csi

open Rpc (Status)

variable {I : Interface}
variable {ρ ε α β : Type}

/-
  A procedure under its name. A message that cannot be read
  is refused before it is known whether there is a handler.
-/
def procedure
    (name : String)
    (status : ε → Status)
    (write : α → β)
    (handler : Option (ρ → Program I ε α))
    (request : Except Status ρ) : Program I Status β :=
  match request, handler with
  | .error refusal, _ => .failed refusal
  | .ok _, none => .failed (.unsupported name)
  | .ok request, some handle => do
      let result ← (handle request).mapError status
      return write result

end Csi

end BlockVolumes
