import BlockVolumes.Csi.Volume
import BlockVolumes.Host
import BlockVolumes.Parameters
import BlockVolumes.Service.Error

/-
  In which zone a volume is created: where the request says,
  else in the zones with nodes, one after the other for each
  storage class.

  Key definitions include:
    * `Service.Zones.ofNodes`
    * `Service.Zones.next`
    * `Service.Zones.choose`

  Key theorems include:
    * `Service.Zones.run_next`
-/

namespace BlockVolumes

namespace Service

namespace Zones

/- Puts a zone into an ordered list that has it at most once. -/
def insert
    (zone : String) :
    List String → List String
  | [] => [zone]
  | z :: zones =>
      if zone < z then zone :: z :: zones
      else if zone = z then z :: zones
      else z :: insert zone zones

/- The zones of nodes in order, each once. -/
def ofNodes
    (nodes : List Cluster.Node) : List String :=
  (nodes.filterMap Cluster.Node.zone?).foldr insert []

/- The zone whose turn it is. -/
def pick
    (zones : List String)
    (turn : UInt64) : String :=
  (zones[turn.toNat % zones.length]?).getD ""

/-
  The next zone of a storage class. A turn is taken only if
  there are zones.
-/
def next
    (role storageClass : String) :
    Program Host Error String := do
  let nodes ←
    during .cluster "list nodes with role" role
      (Host.cluster (.listNodes role))
  let zones := ofNodes nodes
  if zones.isEmpty then
    throw (.noZone storageClass)
  else
    let turn ← Host.takeTurn storageClass
    return pick zones turn

/- The nodes are listed first, and a turn is taken last. -/
theorem run_next
    {σ : Type}
    (answer :
      (request : Host.Request) → σ → Host.Reply request × σ)
    (role storageClass : String)
    (state : σ) :
    (next role storageClass).run answer state =
      let (reply, listed) :=
        answer (.cluster (.listNodes role)) state
      match reply with
      | .error error =>
          (.error (.during "list nodes with role" role
            (.cluster error)), listed)
      | .ok nodes =>
          if (ofNodes nodes).isEmpty then
            (.error (.noZone storageClass), listed)
          else
            let (turn, taken) :=
              answer (.takeTurn storageClass) listed
            (.ok (pick (ofNodes nodes) turn), taken) := by
  have hStep :
      (next role storageClass).run answer state =
        Program.run answer
          ((during .cluster "list nodes with role" role
            (Program.ofExcept
              (answer (.cluster (.listNodes role)) state).1)).bind
            fun nodes =>
              if (ofNodes nodes).isEmpty then
                .failed (.noZone storageClass)
              else
                .ask (I := Host) (.takeTurn storageClass)
                  fun turn => .done (pick (ofNodes nodes) turn))
          (answer (.cluster (.listNodes role)) state).2 :=
    rfl
  rw [hStep]
  rcases answer (.cluster (.listNodes role)) state with
    ⟨error | nodes, listed⟩
  · rfl
  · dsimp only [during, Program.ofExcept_ok, Program.mapError_done,
      Program.done_bind]
    split <;> rfl

/- The first zone that a requirement names, preferences first. -/
def required?
    (requirement : Csi.TopologyRequirement) : Option String :=
  (requirement.preferred ++ requirement.requisite).findSome?
    fun segments => segments.find? Cluster.zoneKey

/-
  The zone for a new volume: that of the parameters, else that
  of the requirement, else the next one of the storage class.
-/
def choose
    (role : String)
    (parameters : Parameters)
    (requirement : Option Csi.TopologyRequirement) :
    Program Host Error String :=
  match parameters.zone, requirement.bind required? with
  | some zone, _ => return zone
  | none, some zone => return zone
  | none, none => next role parameters.classKey

end Zones

end Service

end BlockVolumes
