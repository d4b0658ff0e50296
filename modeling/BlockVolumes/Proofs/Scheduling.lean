import BlockVolumes.Proofs.Memory.World
import BlockVolumes.Service.Zones
import Mathlib.Data.List.Basic
import Mathlib.Data.List.Perm.Subperm
import Mathlib.Data.String.Basic

/-
  Zones in turn. Calls for a zone follow one another, each with
  a directory, a role and a storage class of its own. A storage
  class starts at some turn, and takes one turn more with each
  zone that it is given, whatever happens in between.

  Key definitions include:
    * `Scheduling.IsZonesOf`
    * `Scheduling.Visit`
    * `Scheduling.serveAll`
    * `Scheduling.taken`
    * `Scheduling.Answered`

  Key theorems include:
    * `Scheduling.isZonesOf_ofNodes`
    * `Scheduling.serve_answered`
    * `Scheduling.serveAll_answered`
    * `Scheduling.zones_in_turn`
-/

namespace BlockVolumes

namespace Scheduling

open Memory (Directory World)
open Service (Zones.insert Zones.next Zones.ofNodes Zones.pick)

------------------------------------------------------------
-- The Zones of Nodes
------------------------------------------------------------

variable {zone other storageClass : String}
variable {zones : List String}
variable {nodes : List Cluster.Node}

/-
  Whether zones are those that the labels of nodes name, in
  order and each once. An empty label names no zone.
-/
structure IsZonesOf
    (nodes : List Cluster.Node)
    (zones : List String) : Prop where
  ordered : zones.Pairwise (· < ·)
  named :
    ∀ zone, zone ∈ zones ↔
      zone ≠ "" ∧ ∃ node ∈ nodes,
        node.labels.find? Cluster.zoneKey = some zone

theorem IsZonesOf.nodup
    (h : IsZonesOf nodes zones) :
    zones.Nodup :=
  h.ordered.imp ne_of_lt

theorem mem_insert :
    other ∈ Zones.insert zone zones ↔
      other = zone ∨ other ∈ zones := by
  induction zones with
  | nil => simp [Zones.insert]
  | cons first rest ih =>
      unfold Zones.insert
      split
      · exact List.mem_cons
      · split
        · next hSame =>
            subst hSame
            simp
        · rw [List.mem_cons, ih, List.mem_cons]
          exact or_left_comm

theorem pairwise_insert
    (h : zones.Pairwise (· < ·)) :
    (Zones.insert zone zones).Pairwise (· < ·) := by
  induction zones with
  | nil => exact List.pairwise_singleton _ _
  | cons first rest ih =>
      rcases List.pairwise_cons.mp h with ⟨hFirst, hRest⟩
      unfold Zones.insert
      split
      · next hBefore =>
          refine List.pairwise_cons.mpr ⟨?_, h⟩
          intro later hLater
          rcases List.mem_cons.mp hLater with rfl | hMem
          · exact hBefore
          · exact hBefore.trans (hFirst later hMem)
      · next hNotBefore =>
          split
          · exact h
          · next hOther =>
              refine List.pairwise_cons.mpr ⟨?_, ih hRest⟩
              intro later hLater
              rcases mem_insert.mp hLater with rfl | hMem
              · exact lt_of_le_of_ne (not_lt.mp hNotBefore)
                  (Ne.symm hOther)
              · exact hFirst later hMem

theorem zone?_eq_some_iff
    {node : Cluster.Node} :
    node.zone? = some zone ↔
      zone ≠ "" ∧
        node.labels.find? Cluster.zoneKey = some zone := by
  simp [Cluster.Node.zone?, Cluster.Node.label?, and_comm]

theorem mem_ofNodes :
    zone ∈ Zones.ofNodes nodes ↔
      ∃ node ∈ nodes, node.zone? = some zone := by
  unfold Zones.ofNodes
  induction nodes with
  | nil => simp
  | cons node nodes ih =>
      cases hZone : node.zone? with
      | none =>
          rw [List.filterMap_cons_none hZone, ih]
          simp [hZone]
      | some first =>
          rw [List.filterMap_cons_some hZone, List.foldr_cons,
            mem_insert, ih]
          simp [hZone, eq_comm]

theorem pairwise_ofNodes
    (nodes : List Cluster.Node) :
    (Zones.ofNodes nodes).Pairwise (· < ·) := by
  unfold Zones.ofNodes
  induction nodes.filterMap Cluster.Node.zone? with
  | nil => exact List.Pairwise.nil
  | cons first rest ih => exact pairwise_insert ih

theorem isZonesOf_ofNodes
    (nodes : List Cluster.Node) :
    IsZonesOf nodes (Zones.ofNodes nodes) := by
  refine ⟨pairwise_ofNodes nodes, fun zone => ?_⟩
  rw [mem_ofNodes]
  constructor
  · rintro ⟨node, hMem, hZone⟩
    rcases zone?_eq_some_iff.mp hZone with ⟨hSome, hLabel⟩
    exact ⟨hSome, node, hMem, hLabel⟩
  · rintro ⟨hSome, node, hMem, hLabel⟩
    exact ⟨node, hMem, zone?_eq_some_iff.mpr ⟨hSome, hLabel⟩⟩

/- Nodes have one list of zones. -/
theorem IsZonesOf.unique
    (h : IsZonesOf nodes zones)
    {others : List String}
    (hOthers : IsZonesOf nodes others) :
    zones = others := by
  apply List.Perm.eq_of_pairwise
    (fun a b _ _ hLess hGreater => absurd hGreater hLess.asymm)
    h.ordered hOthers.ordered
  rw [List.perm_ext_iff_of_nodup h.nodup hOthers.nodup]
  intro zone
  rw [h.named, hOthers.named]

------------------------------------------------------------
-- Calls and What They Are Answered
------------------------------------------------------------

/- A call for a zone, and the directory as it is at that time. -/
structure Visit where
  directory : Directory
  role : String
  storageClass : String

/- What the directory answers when it is asked for the nodes. -/
def Visit.listed
    (visit : Visit) : Except Cluster.Error (List Cluster.Node) :=
  (visit.directory.answer (.listNodes visit.role)).1

/- A call and how it ended. -/
structure Pick where
  visit : Visit
  result : Except Service.Error String

/- The zone that a storage class was given by a call. -/
def Pick.zoneFor?
    (storageClass : String)
    (pick : Pick) : Option String :=
  if pick.visit.storageClass = storageClass then
    pick.result.toOption
  else
    none

/- The zones that a storage class was given, in order. -/
def taken
    (storageClass : String)
    (picks : List Pick) : List String :=
  picks.filterMap (Pick.zoneFor? storageClass)

/- Makes one call. -/
def serve
    (visit : Visit)
    (world : World) : Pick × World :=
  let (result, after) :=
    World.run (Zones.next visit.role visit.storageClass)
      { world with directory := visit.directory }
  (⟨visit, result⟩, after)

/- Makes one call after the other. -/
def serveAll :
    List Visit → World → List Pick × World
  | [], world => ([], world)
  | visit :: visits, world =>
      let (pick, between) := serve visit world
      let (picks, after) := serveAll visits between
      (pick :: picks, after)

/-
  How a call is answered after others, given the turns at which
  the storage classes start. Turns are counted in 64 bits.
-/
inductive Answered
    (start : String → Nat)
    (earlier : List Pick)
    (visit : Visit) : Except Service.Error String → Prop where
  | failed {error : Cluster.Error}
      (hListed : visit.listed = .error error) :
      Answered start earlier visit
        (.error (.during "list nodes with role" visit.role
          (.cluster error)))
  | nowhere {nodes : List Cluster.Node}
      (hListed : visit.listed = .ok nodes)
      (hZones : IsZonesOf nodes []) :
      Answered start earlier visit
        (.error (.noZone visit.storageClass))
  | turn {nodes : List Cluster.Node} {zones : List String}
      {zone : String}
      (hListed : visit.listed = .ok nodes)
      (hZones : IsZonesOf nodes zones)
      (hZone :
        zones[(start visit.storageClass +
            (taken visit.storageClass earlier).length) % 2 ^ 64 %
              zones.length]? =
          some zone) :
      Answered start earlier visit (.ok zone)

------------------------------------------------------------
-- One Call
------------------------------------------------------------

variable {world after : World}
variable {visit : Visit}
variable {earlier before : List Pick}
variable {start : String → Nat}

/-
  Whether each storage class is at the turn that comes after
  the zones it was given.
-/
def InTurn
    (start : String → Nat)
    (earlier : List Pick)
    (world : World) : Prop :=
  ∀ storageClass,
    (world.nextTurn storageClass).toNat =
      (start storageClass + (taken storageClass earlier).length) %
        2 ^ 64

theorem nextTurn_takeTurn
    (world : World)
    (storageClass other : String) :
    (world.takeTurn storageClass).2.nextTurn other =
      if other = storageClass then world.nextTurn storageClass + 1
      else world.nextTurn other := by
  by_cases hOther : other = storageClass
  · subst hOther
    simp [World.takeTurn, World.nextTurn]
  · have hRows :
        (world.turns.filter fun row => row.1 != storageClass).find?
            (fun row => row.1 == other) =
          world.turns.find? fun row => row.1 == other := by
      rw [List.find?_filter]
      congr 1
      funext row
      by_cases hRow : row.1 = other
      · simp [hRow, hOther]
      · simp [hRow]
    rw [if_neg hOther]
    simp only [World.takeTurn, World.nextTurn]
    rw [List.find?_cons_of_neg (by simpa using Ne.symm hOther),
      hRows]

/- A call for a zone, as the directory answers it. -/
theorem run_next
    (role storageClass : String)
    (world : World) :
    World.run (Zones.next role storageClass) world =
      match (world.directory.answer (.listNodes role)).1 with
      | .error error =>
          (.error (.during "list nodes with role" role
              (.cluster error)),
            world.afterQuery (.listNodes role))
      | .ok nodes =>
          if (Zones.ofNodes nodes).isEmpty then
            (.error (.noZone storageClass),
              world.afterQuery (.listNodes role))
          else
            (.ok (Zones.pick (Zones.ofNodes nodes)
                (world.nextTurn storageClass)),
              ((world.afterQuery (.listNodes role)).takeTurn
                storageClass).2) :=
  Service.Zones.run_next World.answer role storageClass world

theorem taken_append
    (picks : List Pick) :
    taken storageClass (before ++ picks) =
      taken storageClass before ++ taken storageClass picks :=
  List.filterMap_append

/- A call that gives no zone leaves all turns as they were. -/
theorem InTurn.of_error
    {error : Service.Error}
    (h : InTurn start earlier world)
    (hTurns : ∀ other, after.nextTurn other = world.nextTurn other) :
    InTurn start (earlier ++ [⟨visit, .error error⟩]) after := by
  intro storageClass
  have hNone :
      taken storageClass [⟨visit, .error error⟩] = [] := by
    simp [taken, Pick.zoneFor?, Except.toOption]
  rw [hTurns, taken_append, hNone, List.append_nil]
  exact h storageClass

/- A call that gives a zone takes one turn of its class. -/
theorem InTurn.of_ok
    (h : InTurn start earlier world)
    (hTurns :
      ∀ other,
        after.nextTurn other =
          if other = visit.storageClass then
            world.nextTurn visit.storageClass + 1
          else world.nextTurn other) :
    InTurn start (earlier ++ [⟨visit, .ok zone⟩]) after := by
  intro other
  rw [hTurns, taken_append]
  by_cases hOther : other = visit.storageClass
  · subst hOther
    have hOne :
        taken visit.storageClass [⟨visit, .ok zone⟩] = [zone] := by
      simp [taken, Pick.zoneFor?, Except.toOption]
    rw [if_pos rfl, hOne, UInt64.toNat_add, h visit.storageClass,
      List.length_append, List.length_singleton, ← Nat.add_assoc]
    exact Nat.mod_add_mod _ _ _
  · have hNone : taken other [⟨visit, .ok zone⟩] = [] := by
      simp [taken, Pick.zoneFor?, Ne.symm hOther]
    rw [if_neg hOther, hNone, List.append_nil]
    exact h other

/- The zone whose turn it is is the one at that place. -/
theorem getElem?_pick
    (hSome : zones ≠ [])
    (turn : UInt64) :
    zones[turn.toNat % zones.length]? =
      some (Zones.pick zones turn) := by
  have hLess : turn.toNat % zones.length < zones.length :=
    Nat.mod_lt _ (List.length_pos_of_ne_nil hSome)
  unfold Zones.pick
  rw [List.getElem?_eq_getElem hLess]
  rfl

/-
  A call is answered as is its turn, and takes this turn if it
  gives a zone.
-/
theorem serve_answered
    (h : InTurn start earlier world)
    (visit : Visit) :
    (serve visit world).1.visit = visit ∧
      Answered start earlier visit (serve visit world).1.result ∧
      InTurn start (earlier ++ [(serve visit world).1])
        (serve visit world).2 := by
  unfold serve
  rw [run_next]
  cases hListed : visit.listed with
  | error error =>
      have hAnswer :
          (visit.directory.answer (.listNodes visit.role)).1 =
            .error error :=
        hListed
      rw [hAnswer]
      exact ⟨rfl, .failed hListed, h.of_error fun _ => rfl⟩
  | ok nodes =>
      have hAnswer :
          (visit.directory.answer (.listNodes visit.role)).1 =
            .ok nodes :=
        hListed
      have hZones := isZonesOf_ofNodes nodes
      rw [hAnswer]
      dsimp only
      by_cases hNone : (Zones.ofNodes nodes).isEmpty
      · rw [if_pos hNone]
        rw [List.isEmpty_iff.mp hNone] at hZones
        exact ⟨rfl, .nowhere hListed hZones,
          h.of_error fun _ => rfl⟩
      · rw [if_neg hNone]
        rw [List.isEmpty_iff] at hNone
        refine ⟨rfl, .turn hListed hZones ?_,
          h.of_ok fun other => nextTurn_takeTurn _ _ other⟩
        rw [← h visit.storageClass]
        exact getElem?_pick hNone _

------------------------------------------------------------
-- One Call after the Other
------------------------------------------------------------

/- Each call of a run is answered as is its turn. -/
theorem serveAll_answered
    (h : InTurn start before world)
    (visits : List Visit) :
    (serveAll visits world).1.map Pick.visit = visits ∧
      ∀ earlier pick later,
        (serveAll visits world).1 = earlier ++ pick :: later →
          Answered start (before ++ earlier) pick.visit
            pick.result := by
  -- The calls that are made go over to those made before.
  induction visits generalizing before world with
  | nil =>
      refine ⟨rfl, fun earlier pick later hPicks => ?_⟩
      simp [serveAll] at hPicks
  | cons visit visits ih =>
      rcases serve_answered h visit with
        ⟨hVisit, hAnswered, hNext⟩
      rcases ih hNext with ⟨hVisits, hRest⟩
      refine ⟨?_, fun earlier pick later hPicks => ?_⟩
      · change (serve visit world).1.visit ::
          (serveAll visits (serve visit world).2).1.map Pick.visit =
            _
        rw [hVisit, hVisits]
      · change (serve visit world).1 ::
          (serveAll visits (serve visit world).2).1 = _ at hPicks
        cases earlier with
        | nil =>
            rw [List.nil_append, List.cons.injEq] at hPicks
            rw [← hPicks.1, List.append_nil, hVisit]
            exact hAnswered
        | cons first earlier =>
            rw [List.cons_append, List.cons.injEq] at hPicks
            have hLater := hRest earlier pick later hPicks.2
            rw [hPicks.1, List.append_assoc] at hLater
            exact hLater

/- A scheduler that is new is at the first turn of each class. -/
theorem inTurn_of_new
    (h : world.turns = []) :
    InTurn (fun storageClass =>
      (world.startOfTurns storageClass).toNat) [] world := by
  intro storageClass
  have hTurn :
      world.nextTurn storageClass =
        (world.startOfTurns storageClass).toUInt64 := by
    rw [World.nextTurn, h]
    rfl
  have hSmall := (world.startOfTurns storageClass).toNat_lt
  rw [hTurn, UInt32.toNat_toUInt64]
  change _ = ((world.startOfTurns storageClass).toNat + 0) % _
  omega

/- A zone that a class was given, and the call that gave it. -/
theorem exists_pick_of_taken
    {picks : List Pick}
    {k : Nat}
    (hTaken : (taken storageClass picks)[k]? = some zone) :
    ∃ earlier visit later,
      picks = earlier ++ ⟨visit, .ok zone⟩ :: later ∧
        visit.storageClass = storageClass ∧
        (taken storageClass earlier).length = k := by
  rcases List.getElem?_eq_some_iff.mp hTaken with ⟨hLess, hZone⟩
  have hSplit :
      taken storageClass picks =
        (taken storageClass picks).take k ++
          zone :: (taken storageClass picks).drop (k + 1) := by
    rw [← hZone, List.getElem_cons_drop, List.take_append_drop]
  rcases List.filterMap_eq_append_iff.mp hSplit with
    ⟨earlier, rest, hPicks, hEarlier, hRest⟩
  rcases List.filterMap_eq_cons_iff.mp hRest with
    ⟨skipped, ⟨visit, result⟩, later, hRestSplit, hSkipped, hPick, _⟩
  unfold Pick.zoneFor? at hPick
  split at hPick
  · next hClass =>
      cases result with
      | error error => exact nomatch hPick
      | ok picked =>
          cases hPick
          refine ⟨earlier ++ skipped, visit, later, ?_, hClass, ?_⟩
          · rw [hPicks, hRestSplit, List.append_assoc]
          · have hNone : taken storageClass skipped = [] :=
              List.filterMap_eq_nil_iff.mpr hSkipped
            have hLength := congrArg List.length hEarlier
            rw [List.length_take] at hLength
            rw [taken_append, hNone, List.append_nil]
            change (taken storageClass earlier).length = _ at hLength
            omega
  · exact nomatch hPick

/- Each zone of a class is the one at the place of its turn. -/
theorem place_of_taken
    {picks : List Pick}
    (hAnswered :
      ∀ earlier pick later, picks = earlier ++ pick :: later →
        Answered start earlier pick.visit pick.result)
    (hZones :
      ∀ pick ∈ picks, pick.visit.storageClass = storageClass →
        ∀ nodes, pick.visit.listed = .ok nodes →
          IsZonesOf nodes zones)
    {k : Nat}
    (hTaken : (taken storageClass picks)[k]? = some zone) :
    zones.Nodup ∧
      zones[(start storageClass + k) % 2 ^ 64 % zones.length]? =
        some zone := by
  rcases exists_pick_of_taken hTaken with
    ⟨earlier, visit, later, hPicks, rfl, rfl⟩
  have hMem : (⟨visit, .ok zone⟩ : Pick) ∈ picks := by
    rw [hPicks]
    exact List.mem_append_right _ List.mem_cons_self
  cases hAnswered _ _ _ hPicks with
  | @turn nodes seen _ hListed hSeen hZone =>
      have hThese := hZones _ hMem rfl nodes hListed
      rw [hSeen.unique hThese] at hZone
      exact ⟨hThese.nodup, hZone⟩

/- Turns that are not far apart are at different places. -/
theorem eq_of_mod_eq
    {first second m : Nat}
    (hLess : first ≤ second)
    (hNear : second < first + m)
    (hSame : first % m = second % m) :
    first = second := by
  have hZero : (second - first) % m = 0 :=
    Nat.sub_mod_eq_zero_of_mod_eq hSame.symm
  have hNone : second - first = 0 := by
    rw [← hZero]
    exact (Nat.mod_eq_of_lt (by omega)).symm
  omega

/-
  As many zones in a row as there are turns are all zones, each
  of them once.
-/
theorem perm_of_window
    {given : List String}
    {first : Nat}
    (hNodup : zones.Nodup)
    (hSmall : first + given.length ≤ 2 ^ 64)
    (hGiven :
      ∀ k zone, given[k]? = some zone →
        zones[(first + k) % 2 ^ 64 % zones.length]? = some zone)
    {i : Nat}
    (hWithin : i + zones.length ≤ given.length) :
    ((given.drop i).take zones.length).Perm zones := by
  let window := (given.drop i).take zones.length
  have hLength : window.length = zones.length := by
    rw [List.length_take, List.length_drop]
    omega
  have hPlace :
      ∀ k (hk : k < window.length),
        zones[(first + (i + k)) % zones.length]? =
          some window[k] := by
    intro k hk
    have hZone :=
      hGiven (i + k) _ (List.getElem?_eq_getElem (by omega))
    rw [Nat.mod_eq_of_lt (a := first + (i + k)) (by omega)] at hZone
    rw [hZone, List.getElem_take, List.getElem_drop]
  have hDistinct : window.Nodup := by
    rw [List.Nodup, List.pairwise_iff_getElem]
    intro j k hj hk hLess hSame
    have hZones :
        zones[(first + (i + j)) % zones.length]? =
          zones[(first + (i + k)) % zones.length]? := by
      rw [hPlace j hj, hPlace k hk, hSame]
    have hIndex :=
      (List.getElem?_inj (Nat.mod_lt _ (by omega)) hNodup).mp
        hZones
    have hTurn := eq_of_mod_eq (by omega) (by omega) hIndex
    omega
  have hSubset : window ⊆ zones := by
    intro zone hMem
    rcases List.getElem_of_mem hMem with ⟨k, hk, rfl⟩
    exact List.mem_of_getElem? (hPlace k hk)
  exact (hDistinct.subperm hSubset).perm_of_length_le
    (Nat.le_of_eq hLength.symm)

------------------------------------------------------------
-- Zones in Turn
------------------------------------------------------------

/-
  Each storage class starts at a turn of 32 bits, and the zone
  that it is given next is the one at the place of its turn,
  counted from there on by the zones it was given. So while the
  zones stay the same, as many zones in a row as there are are
  all of them.
-/
theorem zones_in_turn
    (hNew : world.turns = [])
    (visits : List Visit) :
    let picks := (serveAll visits world).1
    picks.map Pick.visit = visits ∧
      (∃ start : String → Nat,
        (∀ storageClass, start storageClass < 2 ^ 32) ∧
          ∀ earlier pick later, picks = earlier ++ pick :: later →
            Answered start earlier pick.visit pick.result) ∧
      ∀ storageClass zones,
        (∀ visit ∈ visits, visit.storageClass = storageClass →
          ∀ nodes, visit.listed = .ok nodes →
            IsZonesOf nodes zones) →
        (taken storageClass picks).length < 2 ^ 63 →
        ∀ i, i + zones.length ≤ (taken storageClass picks).length →
          (((taken storageClass picks).drop i).take
            zones.length).Perm zones := by
  intro picks
  rcases serveAll_answered (inTurn_of_new hNew) visits with
    ⟨hVisits, hAnswered⟩
  have hStart (storageClass : String) :
      (world.startOfTurns storageClass).toNat < 2 ^ 32 :=
    (world.startOfTurns storageClass).toNat_lt
  refine ⟨hVisits, ⟨_, hStart, hAnswered⟩, ?_⟩
  intro storageClass zones hZones hFew i hWithin
  have hSame :
      ∀ pick ∈ picks, pick.visit.storageClass = storageClass →
        ∀ nodes, pick.visit.listed = .ok nodes →
          IsZonesOf nodes zones := by
    intro pick hMem
    apply hZones
    rw [← hVisits]
    exact List.mem_map_of_mem hMem
  by_cases hNone : zones = []
  · subst hNone
    exact List.Perm.refl []
  · have hSome : 0 < zones.length := List.length_pos_of_ne_nil hNone
    have hFirst : 0 < (taken storageClass picks).length := by
      omega
    have hSmall :
        (world.startOfTurns storageClass).toNat +
            (taken storageClass picks).length ≤
          2 ^ 64 := by
      have hBound := hStart storageClass
      omega
    have hPlace :=
      place_of_taken hAnswered hSame
        (List.getElem?_eq_getElem hFirst)
    apply perm_of_window hPlace.1 hSmall _ hWithin
    intro k zone hTaken
    exact (place_of_taken hAnswered hSame hTaken).2

/-
  Two classes take turns between two zones of four nodes. The
  directory fails once for the one class, and has no nodes once
  for the other. The first class starts at the last turn of 32
  bits.
-/
theorem zones_in_turn_two_classes :
    let node (name zone : String) : Memory.Member :=
      ⟨"node", ⟨name, none, [(Cluster.zoneKey, zone)], true⟩⟩
    let full : Directory :=
      { members :=
          [node "a" "zone-b", node "b" "zone-a", node "c" "zone-b",
            node "d" ""] }
    let failing : Directory :=
      { full with
        failures := [("list_nodes", [some (.failed "away")])] }
    let visits : List Visit :=
      [⟨full, "node", "ssd"⟩, ⟨full, "node", "hdd"⟩,
        ⟨failing, "node", "ssd"⟩, ⟨{}, "node", "hdd"⟩,
        ⟨full, "node", "ssd"⟩]
    let world : World := { startOfTurns := fun _ => 4294967295 }
    let picks := (serveAll visits world).1
    world.turns = [] ∧
      (∀ visit ∈ visits, visit.storageClass = "ssd" →
        ∀ nodes, visit.listed = .ok nodes →
          IsZonesOf nodes ["zone-a", "zone-b"]) ∧
      taken "ssd" picks = ["zone-b", "zone-a"] ∧
      (((taken "ssd" picks).drop 0).take 2).Perm
        ["zone-a", "zone-b"] := by
  intro node full failing visits world picks
  have hTaken : taken "ssd" picks = ["zone-b", "zone-a"] := by
    decide
  have hFull :
      IsZonesOf (full.members.map Memory.Member.node)
        ["zone-a", "zone-b"] := by
    have hZones :
        Zones.ofNodes (full.members.map Memory.Member.node) =
          ["zone-a", "zone-b"] := by
      decide
    rw [← hZones]
    exact isZonesOf_ofNodes _
  have hSame :
      ∀ visit ∈ visits, visit.storageClass = "ssd" →
        ∀ nodes, visit.listed = .ok nodes →
          IsZonesOf nodes ["zone-a", "zone-b"] := by
    intro visit hMem hClass nodes hListed
    simp only [visits, List.mem_cons, List.not_mem_nil,
      or_false] at hMem
    rcases hMem with rfl | rfl | rfl | rfl | rfl
    · cases hListed
      exact hFull
    · exact absurd hClass (by decide)
    · exact nomatch hListed
    · exact absurd hClass (by decide)
    · cases hListed
      exact hFull
  have hNew : world.turns = [] := rfl
  rcases zones_in_turn hNew visits with ⟨_, _, hWindow⟩
  refine ⟨hNew, hSame, hTaken, ?_⟩
  apply hWindow "ssd" ["zone-a", "zone-b"] hSame
  · change (taken "ssd" picks).length < _
    rw [hTaken]
    decide
  · change _ ≤ (taken "ssd" picks).length
    rw [hTaken]
    decide

end Scheduling

end BlockVolumes
