import BlockVolumes.Dictionary

/-
  What a plugin says about itself, whichever service it runs.

  Key definitions include:
    * `Csi.Expansion`
    * `Csi.Identity`
    * `Csi.PluginCapability`
    * `Csi.Identity.capabilities`
    * `Csi.Identity.answer`
-/

namespace BlockVolumes

namespace Csi

/- When the volumes of a plugin can grow. -/
inductive Expansion where
  | never
  | offline
  | online
  deriving DecidableEq, Repr

/- A plugin as its identity service presents it. -/
structure Identity where
  name : String
  version : String
  manifest : Dictionary := []
  -- Whether volumes are not reachable from everywhere.
  placed : Bool := false
  expansion : Expansion := .never
  ready : Bool := true
  deriving DecidableEq, Repr

/- What a plugin can do, by the numbers of messages. -/
inductive PluginCapability where
  | service (number : Int)
  | expansion (number : Int)
  deriving DecidableEq, Repr

/- Which service stands beside the identity service. -/
inductive ServiceKind where
  | controller
  | node
  deriving DecidableEq, Repr

namespace Identity

/-
  What the plugin can do. Only a controller service has to be
  announced.
-/
def capabilities
    (identity : Identity)
    (kind : ServiceKind) : List PluginCapability :=
  (match kind with
    | .controller => [.service 1]
    | .node => []) ++
  (if identity.placed then [.service 2] else []) ++
  (match identity.expansion with
    | .never => []
    | .offline => [.expansion 2]
    | .online => [.expansion 1])

/- The questions about a plugin itself. -/
inductive Question where
  | name
  | capabilities
  | readiness
  deriving DecidableEq, Repr

/- The answers to the questions. -/
inductive Answer where
  | name (name version : String) (manifest : Dictionary)
  | capabilities (capabilities : List PluginCapability)
  | readiness (ready : Bool)
  deriving DecidableEq, Repr

/- Answers a question about a plugin. -/
def answer
    (identity : Identity)
    (kind : ServiceKind) : Question → Answer
  | .name =>
      .name identity.name identity.version identity.manifest
  | .capabilities => .capabilities (identity.capabilities kind)
  | .readiness => .readiness identity.ready

end Identity

end Csi

end BlockVolumes
