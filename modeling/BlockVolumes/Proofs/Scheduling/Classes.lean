import BlockVolumes.Proofs.Parameters.Types
import BlockVolumes.Proofs.Scheduling

/-
  Which volumes take turns from one counter. A zone that is
  given in turn moves the counter of its storage class on, and
  no other one. As a storage class is named for its disk types,
  lists of types have a counter in common only if they are the
  same list.

  Key theorems include:
    * `Scheduling.nextTurn_of_next`
    * `Scheduling.nextTurn_of_choose`
    * `Scheduling.counters_shared_by_types`
-/

namespace BlockVolumes

namespace Scheduling

open Memory (World)
open Parameters (Accepted)
open Service (Zones.choose Zones.next Zones.ofNodes Zones.required?)

variable {role storageClass zone : String}
variable {world after : World}
variable {parameters : Parameters}
variable {requirement : Option Csi.TopologyRequirement}

------------------------------------------------------------
-- Counters
------------------------------------------------------------

/- A zone that is given takes a turn of its class, and of no other. -/
theorem nextTurn_of_next
    (hRun :
      World.run (Zones.next role storageClass) world =
        (.ok zone, after))
    (other : String) :
    after.nextTurn other =
      if storageClass = other then world.nextTurn other + 1
      else world.nextTurn other := by
  rw [run_next] at hRun
  cases hListed :
      (world.directory.answer (.listNodes role)).1 with
  | error error =>
      rw [hListed] at hRun
      exact nomatch hRun
  | ok nodes =>
      rw [hListed] at hRun
      dsimp only at hRun
      split at hRun
      · exact nomatch hRun
      · cases hRun
        rw [nextTurn_takeTurn]
        by_cases hOther : storageClass = other
        · subst hOther
          rw [if_pos rfl, if_pos rfl]
          rfl
        · rw [if_neg hOther, if_neg (Ne.symm hOther)]
          rfl

/- Where no zone is asked for, the types take the turn. -/
theorem nextTurn_of_choose
    (hZone : parameters.zone = none)
    (hRequirement : requirement.bind Zones.required? = none)
    (hRun :
      World.run (Zones.choose role parameters requirement) world =
        (.ok zone, after))
    (other : String) :
    after.nextTurn other =
      if parameters.classKey = other then world.nextTurn other + 1
      else world.nextTurn other := by
  rw [Zones.choose, hZone, hRequirement] at hRun
  exact nextTurn_of_next hRun other

------------------------------------------------------------
-- Classes of the Same Types
------------------------------------------------------------

/-
  Parameters whose types are given by the name of a class are
  accepted if the rest of them is, and have the types of the
  class. So a volume that gets a zone in turn moves on the
  counter of another one if and only if their lists of types
  are the same.
-/
theorem counters_shared_by_types
    {standardType otherStandard value otherValue : String}
    {entries others : Dictionary}
    {other : Parameters}
    (hDistinct : (entries.map Prod.fst).Nodup)
    (hType : ("type", value) ∈ entries)
    (hParse :
      Parameters.parse standardType entries = .ok parameters)
    (hOtherDistinct : (others.map Prod.fst).Nodup)
    (hOtherType : ("type", otherValue) ∈ others)
    (hOtherParse :
      Parameters.parse otherStandard others = .ok other) :
    (∀ (standard : String) (again : Dictionary),
      (again.map Prod.fst).Nodup →
      ("type", parameters.classKey) ∈ again →
        ((∃ result, Parameters.parse standard again = .ok result) ↔
          ∀ entry ∈ again, entry.1 ≠ "type" → Accepted entry) ∧
        ∀ result, Parameters.parse standard again = .ok result →
          result.diskTypes = parameters.diskTypes) ∧
    (parameters.classKey = other.classKey ↔
      parameters.diskTypes = other.diskTypes) ∧
    ∀ (role : String)
        (requirement : Option Csi.TopologyRequirement)
        (world after : World) (zone : String),
      parameters.zone = none →
      requirement.bind Zones.required? = none →
      World.run (Zones.choose role parameters requirement) world =
        (.ok zone, after) →
        after.nextTurn other.classKey =
          if parameters.diskTypes = other.diskTypes then
            world.nextTurn other.classKey + 1
          else
            world.nextTurn other.classKey := by
  have hTypes :=
    Parameters.splitTypes_classKey hDistinct hType hParse
  have hOtherTypes :=
    Parameters.splitTypes_classKey hOtherDistinct hOtherType
      hOtherParse
  have hSome := Parameters.diskTypes_ne_nil_of_parse hParse
  have hKeys := Parameters.classKey_eq_iff hTypes hOtherTypes
  refine ⟨?_, hKeys, ?_⟩
  · intro standard again hAgain hKey
    exact
      ⟨Parameters.parse_classKey_eq_ok_iff hTypes hSome hAgain hKey,
        fun result hResult =>
          Parameters.diskTypes_of_parse_classKey hTypes hAgain hKey
            hResult⟩
  · intro role requirement world after zone hZone hRequirement hRun
    rw [nextTurn_of_choose hZone hRequirement hRun]
    simp only [hKeys]

/-
  Two spellings of one list. The zone that a volume of the one
  gets moves the counter of the other on.
-/
theorem counters_shared_by_types_spelled_differently :
    let entries : Dictionary := [("type", " RSSD,, cloud_ssd ")]
    let others : Dictionary :=
      [("purchasetime", "1"), ("type", "rssd,Cloud_SSD")]
    let again : Dictionary := [("type", "rssd,cloud_ssd")]
    let parameters : Parameters :=
      { diskTypes := ["rssd", "cloud_ssd"] }
    let other : Parameters :=
      { diskTypes := ["rssd", "cloud_ssd"], purchaseTime := some 1 }
    let node : Memory.Member :=
      ⟨"node", ⟨"a", none, [(Cluster.zoneKey, "zone-a")], true⟩⟩
    let world : World := { directory := { members := [node] } }
    let after :=
      (World.run (Zones.choose "node" parameters none) world).2
    Parameters.parse "ssd" entries = .ok parameters ∧
      Parameters.parse "hdd" others = .ok other ∧
      (∃ result, Parameters.parse "hdd" again = .ok result ∧
        result.diskTypes = parameters.diskTypes) ∧
      after.nextTurn other.classKey =
        world.nextTurn other.classKey + 1 := by
  intro entries others again parameters other node world after
  have hParse :
      Parameters.parse "ssd" entries = .ok parameters := by
    decide +kernel
  have hOtherParse :
      Parameters.parse "hdd" others = .ok other := by
    decide +kernel
  rcases counters_shared_by_types (by decide)
      List.mem_cons_self hParse (by decide)
      (List.mem_cons_of_mem _ List.mem_cons_self) hOtherParse with
    ⟨hAgain, _, hCounter⟩
  have hKey : ("type", parameters.classKey) ∈ again := by
    decide
  rcases hAgain "hdd" again (by decide) hKey with
    ⟨hAccepted, hSame⟩
  have hRest :
      ∀ entry ∈ again, entry.1 ≠ "type" → Accepted entry := by
    intro entry hMem hOther
    rw [List.mem_singleton.mp hMem] at hOther
    exact absurd rfl hOther
  rcases hAccepted.mpr hRest with ⟨result, hResult⟩
  refine ⟨hParse, hOtherParse, ⟨result, hResult, hSame _ hResult⟩, ?_⟩
  rw [hCounter "node" none world after "zone-a" rfl rfl rfl]
  exact if_pos rfl

end Scheduling

end BlockVolumes
