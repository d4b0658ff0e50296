import BlockVolumes.Proofs.Creation.Loss
import BlockVolumes.Proofs.Creation.Repeated
import BlockVolumes.Proofs.Parameters

/-
  The attempts to create a new volume. Where there is no volume
  of the name, the disk types are tried in order, and nothing
  but a rejection leads on to the next one. All attempts are
  for the same volume but for its type.

  Key definitions include:
    * `Host.creations`
    * `Service.Creation.Attempt`
    * `Service.Creation.Descent`
    * `Service.Creation.AsksFor`
    * `Service.Creation.Wanted`

  Key theorems include:
    * `Service.Creation.descent_of_tryTypes`
    * `Service.Creation.descent_of_createNew`
    * `Service.Creation.create_falls_through_rejections`
-/

namespace BlockVolumes

------------------------------------------------------------
-- Creations on Record
------------------------------------------------------------

namespace Host

/- The volume that an exchange orders, and the reply. -/
def Exchange.creation? :
    Exchange →
      Option (Backend.CreateSpec × Except Backend.Error String)
  | ⟨.backend (.create spec), reply⟩ => some (spec, reply)
  | _ => none

/- The volumes that were ordered, the first one first. -/
def creations
    (past : Record) :
    List (Backend.CreateSpec × Except Backend.Error String) :=
  (past.filterMap Exchange.creation?).reverse

theorem creations_append
    (later past : Record) :
    creations (later ++ past) = creations past ++ creations later := by
  rw [creations, List.filterMap_append, List.reverse_append]
  rfl

/- Whether an exchange is with the directory of the cluster. -/
def Exchange.Consults
    (exchange : Exchange) : Prop :=
  ∃ call, exchange.request = .cluster call

end Host

namespace Service

namespace Creation

open Host (Exchange Record Replies creations creations_append)

------------------------------------------------------------
-- One Type after the Other
------------------------------------------------------------

/- A disk type that is tried, and how the backend replies. -/
structure Attempt where
  diskType : String
  reply : Except Backend.Error String

namespace Attempt

def Rejected
    (attempt : Attempt) : Prop :=
  ∃ reason, attempt.reply = .error (.rejected reason)

/- What an attempt leaves on record. -/
def exchange
    (specOf : String → Backend.CreateSpec)
    (attempt : Attempt) : Exchange :=
  ⟨.backend (.create (specOf attempt.diskType)), attempt.reply⟩

end Attempt

/-
  Attempts with some first ones of the disk types, in order. All
  but the last attempt are rejected, and the last one is
  rejected only if there is no further type.
-/
structure Descent
    (diskTypes : List String)
    (before : List Attempt)
    (last : Attempt) : Prop where
  tried : (before ++ [last]).map Attempt.diskType <+: diskTypes
  rejected : ∀ attempt ∈ before, attempt.Rejected
  exhausted :
    last.Rejected →
      (before ++ [last]).map Attempt.diskType = diskTypes

variable {diskType id : String}
variable {diskTypes : List String}
variable {before : List Attempt}
variable {last : Attempt}
variable {reply : Except Backend.Error String}
variable {error earlier : Backend.Error}
variable {specOf : String → Backend.CreateSpec}
variable {replies : Replies}
variable {past now : Record}

/- An attempt that is not rejected is the only one. -/
theorem descent_of_not_rejected
    (h : ∀ reason, reply ≠ .error (.rejected reason)) :
    Descent (diskType :: diskTypes) [] ⟨diskType, reply⟩ :=
  { tried := ⟨diskTypes, rfl⟩
    rejected := nofun
    exhausted := fun ⟨reason, hReply⟩ => absurd hReply (h reason) }

/- Without a further type the attempt may be rejected. -/
theorem descent_of_single :
    Descent [diskType] [] ⟨diskType, reply⟩ :=
  { tried := List.prefix_rfl
    rejected := nofun
    exhausted := fun _ => rfl }

/- A rejection is followed by the attempts with further types. -/
theorem Descent.cons
    (h : Descent diskTypes before last)
    (diskType reason : String) :
    Descent (diskType :: diskTypes)
      (⟨diskType, .error (.rejected reason)⟩ :: before) last := by
  constructor
  · exact (List.prefix_cons_inj diskType).mpr h.tried
  · intro attempt hMem
    rcases List.mem_cons.mp hMem with rfl | hLater
    · exact ⟨reason, rfl⟩
    · exact h.rejected attempt hLater
  · intro hLast
    exact congrArg (diskType :: ·) (h.exhausted hLast)

theorem run_tryTypes_of_ok
    (hReply :
      replies (.backend (.create (specOf diskType))) past = .ok id) :
    replies.run (tryTypes specOf earlier (diskType :: diskTypes))
        past =
      (.ok (id, diskType),
        Attempt.exchange specOf ⟨diskType, .ok id⟩ :: past) :=
  Replies.run_ask hReply

theorem run_tryTypes_of_error
    (hReply :
      replies (.backend (.create (specOf diskType))) past =
        .error error) :
    replies.run (tryTypes specOf earlier (diskType :: diskTypes))
        past =
      replies.run
        (if error.isRejected then tryTypes specOf error diskTypes
          else .failed error)
        (Attempt.exchange specOf ⟨diskType, .error error⟩ :: past) :=
  Replies.run_ask hReply

/-
  Types are tried until one is not rejected, and the result is
  the reply to the last attempt.
-/
theorem descent_of_tryTypes
    (specOf : String → Backend.CreateSpec)
    (earlier : Backend.Error)
    (hSome : diskTypes ≠ [])
    (replies : Replies)
    (past : Record) :
    ∃ before last,
      Descent diskTypes before last ∧
        replies.run (tryTypes specOf earlier diskTypes) past =
          (last.reply.map fun id => (id, last.diskType),
            ((before ++ [last]).map
              (Attempt.exchange specOf)).reverse ++ past) := by
  -- A rejection goes on with the error and the record it left.
  induction diskTypes generalizing earlier past with
  | nil => exact absurd rfl hSome
  | cons diskType diskTypes ih =>
      cases hReply :
          replies (.backend (.create (specOf diskType))) past with
      | ok id =>
          exact ⟨[], ⟨diskType, .ok id⟩,
            descent_of_not_rejected (fun _ => nofun),
            run_tryTypes_of_ok hReply⟩
      | error error =>
          cases error with
          | rejected reason =>
              cases diskTypes with
              | nil =>
                  exact ⟨[], ⟨diskType, .error (.rejected reason)⟩,
                    descent_of_single, run_tryTypes_of_error hReply⟩
              | cons next diskTypes =>
                  rcases ih (.rejected reason)
                      (List.cons_ne_nil _ _)
                      (Attempt.exchange specOf
                        ⟨diskType, .error (.rejected reason)⟩ ::
                          past) with
                    ⟨before, last, hDescent, hRun⟩
                  refine ⟨⟨diskType, .error (.rejected reason)⟩ ::
                    before, last, hDescent.cons diskType reason, ?_⟩
                  rw [List.cons_append, List.map_cons,
                    List.reverse_cons, List.append_assoc]
                  exact (run_tryTypes_of_error hReply).trans hRun
          | notFound what =>
              exact ⟨[], ⟨diskType, .error (.notFound what)⟩,
                descent_of_not_rejected (fun _ => nofun),
                run_tryTypes_of_error hReply⟩
          | failed reason =>
              exact ⟨[], ⟨diskType, .error (.failed reason)⟩,
                descent_of_not_rejected (fun _ => nofun),
                run_tryTypes_of_error hReply⟩

/- Neither the search nor an attempt is with the cluster. -/
theorem consults_attempts_iff
    {attempts : List Attempt}
    {chosen : Record}
    {call : Backend.Call}
    {reply : call.Reply} :
    (∃ exchange ∈
        (attempts.map (Attempt.exchange specOf)).reverse ++
          (chosen ++ [⟨.backend call, reply⟩]),
      exchange.Consults) ↔
      ∃ exchange ∈ chosen, exchange.Consults := by
  constructor
  · rintro ⟨exchange, hMem, directory, hDirectory⟩
    rcases List.mem_append.mp hMem with hAttempt | hEarlier
    · rw [List.mem_reverse, List.mem_map] at hAttempt
      rcases hAttempt with ⟨attempt, _, rfl⟩
      exact nomatch hDirectory
    · rcases List.mem_append.mp hEarlier with hChosen | hFind
      · exact ⟨exchange, hChosen, directory, hDirectory⟩
      · rw [List.mem_singleton] at hFind
        subst hFind
        exact nomatch hDirectory
  · rintro ⟨exchange, hMem, hCluster⟩
    exact ⟨exchange,
      List.mem_append_right _ (List.mem_append_left _ hMem),
      hCluster⟩

/- All attempts are on record, and nothing else is ordered. -/
theorem creations_attempts
    (attempts : List Attempt) :
    creations (attempts.map (Attempt.exchange specOf)).reverse =
      attempts.map fun attempt =>
        (specOf attempt.diskType, attempt.reply) := by
  rw [creations, List.filterMap_reverse, List.reverse_reverse,
    List.filterMap_map]
  exact congrFun List.filterMap_eq_map attempts

------------------------------------------------------------
-- The Zone
------------------------------------------------------------

/-
  The zone that a message asks for: that of its parameters, or
  else that of the first place with a zone, of which preferred
  ones are first.
-/
inductive AsksFor
    (message : Csi.CreateVolume.Message) : String → Prop where
  | parameter
      {value : String}
      (hValue :
        message.parameters.find? Parameters.Key.zone.name =
          some value) :
      AsksFor message (Text.trim value)
  | place
      {requirement : Csi.TopologyRequirement}
      {before after : List Dictionary}
      {segments : Dictionary}
      {zone : String}
      (hNone :
        message.parameters.find? Parameters.Key.zone.name = none)
      (hRequirement : message.requirement = some requirement)
      (hPlaces :
        requirement.preferred ++ requirement.requisite =
          before ++ segments :: after)
      (hBefore :
        ∀ place ∈ before, place.find? Cluster.zoneKey = none)
      (hZone : segments.find? Cluster.zoneKey = some zone) :
      AsksFor message zone

variable {message : Csi.CreateVolume.Message}
variable {parameters : Parameters}
variable {role storageClass zone asked : String}

theorem choose_of_asksFor
    (hParameters :
      parameters.zone =
        (message.parameters.find? Parameters.Key.zone.name).map
          Text.trim)
    (h : AsksFor message asked) :
    Zones.choose role parameters message.requirement =
      .done asked := by
  cases h with
  | parameter hValue =>
      rw [hValue] at hParameters
      rw [Zones.choose, hParameters]
      rfl
  | place hNone hRequirement hPlaces hBefore hZone =>
      rw [hNone] at hParameters
      have hRequired :
          message.requirement.bind Zones.required? = some asked := by
        rw [hRequirement]
        exact List.findSome?_eq_some_iff.mpr
          ⟨_, _, _, hPlaces, hZone, hBefore⟩
      rw [Zones.choose, hParameters, hRequired]
      rfl

theorem choose_of_not_asksFor
    (hParameters :
      parameters.zone =
        (message.parameters.find? Parameters.Key.zone.name).map
          Text.trim)
    (h : ∀ asked, ¬ AsksFor message asked) :
    Zones.choose role parameters message.requirement =
      Zones.next role parameters.classKey := by
  cases hValue :
      message.parameters.find? Parameters.Key.zone.name with
  | some value => exact absurd (.parameter hValue) (h _)
  | none =>
      rw [hValue] at hParameters
      have hRequired :
          message.requirement.bind Zones.required? = none := by
        rw [Option.eq_none_iff_forall_ne_some]
        intro asked hAsked
        rw [Option.bind_eq_some_iff] at hAsked
        rcases hAsked with ⟨requirement, hRequirement, hFirst⟩
        rcases List.findSome?_eq_some_iff.mp hFirst with
          ⟨before, segments, after, hPlaces, hZone, hBefore⟩
        exact h asked
          (.place hValue hRequirement hPlaces hBefore hZone)
      rw [Zones.choose, hParameters, hRequired]
      rfl

/- The nodes are listed before a turn is taken. -/
theorem run_next_of_ok
    (h :
      (replies.run (Zones.next role storageClass) past).1 =
        .ok zone) :
    ∃ reply turn,
      replies.run (Zones.next role storageClass) past =
        (.ok zone,
          [⟨.takeTurn storageClass, turn⟩,
            ⟨.cluster (.listNodes role), reply⟩] ++ past) := by
  rw [Replies.run, Zones.run_next] at h ⊢
  dsimp only [Replies.answer] at h ⊢
  cases hReply : replies (.cluster (.listNodes role)) past with
  | error error =>
      rw [hReply] at h
      exact nomatch h
  | ok nodes =>
      rw [hReply] at h
      dsimp only at h ⊢
      by_cases hNone : (Zones.ofNodes nodes).isEmpty
      · rw [if_pos hNone] at h
        exact nomatch h
      · rw [if_neg hNone] at h ⊢
        cases h
        exact ⟨.ok nodes, _, rfl⟩

/-
  What is on record once a zone was chosen: nothing where the
  message asks for the zone, and a look at the nodes elsewhere.
-/
theorem run_choose_of_ok
    (hParameters :
      parameters.zone =
        (message.parameters.find? Parameters.Key.zone.name).map
          Text.trim)
    (h :
      (replies.run
          (Zones.choose role parameters message.requirement)
          past).1 =
        .ok zone) :
    ∃ chosen : Record,
      replies.run (Zones.choose role parameters message.requirement)
          past =
        (.ok zone, chosen ++ past) ∧
      creations chosen = [] ∧
      (∀ asked, AsksFor message asked → zone = asked) ∧
      ((∃ exchange ∈ chosen, exchange.Consults) ↔
        ∀ asked, ¬ AsksFor message asked) := by
  -- The choice has one result, whatever was asked for.
  have hZone : ∀ asked, AsksFor message asked → zone = asked := by
    intro asked hAsked
    rw [choose_of_asksFor hParameters hAsked] at h
    exact (Except.ok.inj h).symm
  by_cases hAsks : ∃ asked, AsksFor message asked
  · rcases hAsks with ⟨asked, hAsked⟩
    refine ⟨[], ?_, rfl, hZone, ?_⟩
    · rw [choose_of_asksFor hParameters hAsked, hZone asked hAsked]
      rfl
    · apply iff_of_false
      · rintro ⟨_, hMem, _⟩
        exact nomatch hMem
      · exact fun hNone => hNone asked hAsked
  · rw [not_exists] at hAsks
    rw [choose_of_not_asksFor hParameters hAsks] at h ⊢
    rcases run_next_of_ok h with ⟨reply, turn, hRun⟩
    refine ⟨_, hRun, rfl, hZone, iff_of_true ?_ hAsks⟩
    exact ⟨⟨.cluster (.listNodes role), reply⟩, by simp, _, rfl⟩

------------------------------------------------------------
-- New Volumes
------------------------------------------------------------

variable {settings : Settings}
variable {request : Csi.CreateVolume.Request}
variable {order : Order}

/- The parameters of an order are those of the request. -/
theorem parse_of_readOrder
    (h : readOrder settings request = .ok order) :
    Parameters.parse settings.diskType request.parameters =
      .ok order.parameters := by
  rcases readOrder_eq_ok_iff.mp h with ⟨_, _, _, _, _, hParse⟩
  exact hParse

/- In a chosen zone the types of an order are tried. -/
theorem descent_of_createNew
    (hTypes : order.parameters.diskTypes ≠ [])
    (hZone :
      replies.run
          (Zones.choose settings.nodeRole order.parameters
            request.requirement)
          past =
        (.ok zone, now)) :
    ∃ before last,
      Descent order.parameters.diskTypes before last ∧
        replies.run (createNew settings request order) past =
          ((last.reply.mapError fun error =>
              raise (.during "create volume" request.name
                (.backend error))).map fun id =>
            describeVolume settings id order.size last.diskType zone,
            ((before ++ [last]).map
              (Attempt.exchange
                (specify settings request.name order.size zone
                  order.parameters))).reverse ++ now) := by
  rcases descent_of_tryTypes
      (specify settings request.name order.size zone
        order.parameters)
      noType hTypes replies now with
    ⟨before, last, hDescent, hRun⟩
  refine ⟨before, last, hDescent, ?_⟩
  refine (Replies.run_bind_of_ok
    (Replies.run_within_of_ok hZone) _).trans ?_
  cases hReply : last.reply with
  | ok id =>
      rw [hReply] at hRun
      exact Replies.run_bind_of_ok
        (Replies.run_within_of_ok
          (Replies.run_mapError_of_ok hRun _)) _
  | error error =>
      rw [hReply] at hRun
      exact Replies.run_bind_of_error
        (Replies.run_within_of_error
          (Replies.run_mapError_of_error hRun _)) _

/- Where no volume counts, a new one is created. -/
theorem run_serve_of_none
    {found : List Disk}
    (hRead : Csi.CreateVolume.Request.ofMessage message = .ok request)
    (hOrder : readOrder settings request = .ok order)
    (hFound :
      replies (.backend (.find request.name)) [] = .ok found)
    (hNone : ∀ disk ∈ found, disk.status = .deleting)
    {result : Except Csi.CreateVolume.Error Csi.Volume}
    (hRun :
      replies.run (createNew settings request order)
          [⟨.backend (.find request.name), .ok found⟩] =
        (result, now)) :
    replies.run ((provisioner settings).serve (.create message))
        [] =
      ((result.mapError Csi.CreateVolume.Error.status).map
        fun volume => .created volume.toMessage, now) := by
  have hCount :
      (found.filter fun disk => disk.status != .deleting) = [] := by
    rw [List.filter_eq_nil_iff]
    intro disk hDisk
    simp [hNone disk hDisk]
  have hCreate :
      replies.run (create settings request) [] = (result, now) := by
    rw [run_create hOrder, run_findExisting, hFound]
    dsimp only
    rw [hCount]
    exact hRun
  rw [run_serve hRead, hCreate]

/-
  The volume that all attempts are for. It has the name of the
  message, the tags of the message, and the mark of the plugin
  in place of any that the message sets.
-/
structure Wanted
    (settings : Settings)
    (message : Csi.CreateVolume.Message)
    (size : Nat)
    (zone : String)
    (spec : Backend.CreateSpec) : Prop where
  name : spec.name = message.name
  size : spec.size = size
  zone : spec.zone = zone
  region : spec.region = settings.region
  creator : spec.tags.find? Disk.creatorTag = some settings.name
  tags :
    ∀ key, key ≠ Disk.creatorTag →
      spec.tags.find? key =
        Dictionary.find?
          ((message.parameters.find? Parameters.Key.tags.name).elim
            [] Tags.parse) key

theorem wanted_specify
    (hTags :
      parameters.tags =
        (message.parameters.find? Parameters.Key.tags.name).elim []
          Tags.parse)
    (size : Nat)
    (diskType : String) :
    Wanted settings message size zone
      (specify settings message.name size zone parameters
        diskType) := by
  refine ⟨rfl, rfl, rfl, rfl, ?_, ?_⟩
  · exact Dictionary.find?_insert_self _ _ _
  · intro key hKey
    rw [← hTags]
    exact Dictionary.find?_insert_of_ne hKey _ _

/-
  Where no volume of the name counts and a zone is chosen, the
  disk types are tried in order until one is not rejected, for
  a volume that is the same but for its type. The last attempt
  settles the answer. The cluster is asked for nodes only where
  the message asks for no zone.
-/
theorem create_falls_through_rejections
    (settings : Settings)
    {message : Csi.CreateVolume.Message}
    {request : Csi.CreateVolume.Request}
    {order : Order}
    {found : List Disk}
    {zone : String}
    {replies : Replies}
    (hDistinct : (message.parameters.map Prod.fst).Nodup)
    (hRead : Csi.CreateVolume.Request.ofMessage message = .ok request)
    (hOrder : readOrder settings request = .ok order)
    (hFound :
      replies (.backend (.find message.name)) [] = .ok found)
    (hNone : ∀ disk ∈ found, disk.status = .deleting)
    (hZone :
      (replies.run
          (Zones.choose settings.nodeRole order.parameters
            message.requirement)
          [⟨.backend (.find message.name), .ok found⟩]).1 =
        .ok zone) :
    let run :=
      replies.run ((provisioner settings).serve (.create message)) []
    let diskTypes :=
      (message.parameters.find? Parameters.Key.diskType.name).elim
        [settings.diskType] Parameters.splitTypes
    ∃ spec before last,
      Wanted settings message order.size zone spec ∧
        Descent diskTypes before last ∧
        creations run.2 =
          ((before ++ [last]).map fun attempt =>
            ({ spec with diskType := attempt.diskType },
              attempt.reply)) ∧
        run.1 =
          ((last.reply.mapError fun error =>
            (Error.during "create volume" message.name
              (.backend error)).status).map fun id =>
            .created (describeVolume settings id order.size
              last.diskType zone).toMessage) ∧
        (∀ asked, AsksFor message asked → zone = asked) ∧
        ((∃ exchange ∈ run.2, exchange.Consults) ↔
          ∀ asked, ¬ AsksFor message asked) := by
  intro run diskTypes
  rcases Csi.CreateVolume.Request.fields_of_ofMessage hRead with
    ⟨hName, hParameters, hRequirement⟩
  have hParse := parse_of_readOrder hOrder
  rw [hParameters] at hParse
  have hPart := Parameters.part_of_parse hDistinct hParse
  have hTypes : order.parameters.diskTypes = diskTypes :=
    hPart .diskType
  rcases run_choose_of_ok (Parameters.zone_of_parse hDistinct hParse)
      hZone with
    ⟨chosen, hChoose, hCreations, hAsked, hConsults⟩
  rw [← hName] at hFound
  rw [← hRequirement, ← hName] at hChoose
  rcases descent_of_createNew (Parameters.diskTypes_ne_nil_of_parse
      hParse) hChoose with
    ⟨before, last, hDescent, hRun⟩
  have hServe := run_serve_of_none hRead hOrder hFound hNone hRun
  rw [hTypes] at hDescent
  rw [hName] at hServe
  refine ⟨_, before, last,
    wanted_specify (hPart .tags) order.size "", hDescent, ?_, ?_,
    hAsked, ?_⟩
  · rw [show run = _ from hServe]
    dsimp only
    rw [creations_append, creations_append, hCreations,
      creations_attempts]
    rfl
  · rw [show run = _ from hServe]
    cases last.reply <;> rfl
  · rw [← hConsults, show run = _ from hServe]
    exact consults_attempts_iff

/-
  The first type is sold out and the second one is not. The tags
  name a creator, which the name of the plugin replaces, and the
  preferred places come before the requisite ones.
-/
theorem create_falls_through_rejections_second_type :
    let earlier : Disk :=
      ⟨"vol-1", "pvc-1", 10, .deleting, "cloud_ssd", "zone-a", [],
        0, []⟩
    let message : Csi.CreateVolume.Message :=
      { name := "pvc-1"
        range := some { required := 10 * Capacity.gib }
        capabilities := [⟨some 1, some (.mount "ext4" [])⟩]
        parameters :=
          [("tags", "created-by~me;team~db"),
            ("type", "rssd, Cloud_SSD,")]
        requirement :=
          some
            { requisite := [[(Cluster.zoneKey, "zone-a")]]
              preferred := [[], [(Cluster.zoneKey, "zone-c")]] } }
    let world : Memory.World :=
      { backend := { disks := [earlier], soldOut := ["rssd"] } }
    let replies : Replies :=
      fun request _ => (Memory.World.answer request world).1
    let run :=
      replies.run ((provisioner {}).serve (.create message)) []
    (message.parameters.map Prod.fst).Nodup ∧
      (∃ spec before last,
        Wanted {} message 10 "zone-c" spec ∧
          Descent ["rssd", "cloud_ssd"] before last) ∧
      ((creations run.2).map fun creation =>
          (creation.1.diskType, creation.1.tags)) =
        [("rssd", [("created-by", "blockdisk.csi.io"),
            ("team", "db")]),
          ("cloud_ssd", [("created-by", "blockdisk.csi.io"),
            ("team", "db")])] ∧
      ¬ ∃ exchange ∈ run.2, exchange.Consults := by
  intro earlier message world replies run
  have hDistinct : (message.parameters.map Prod.fst).Nodup := by
    decide
  have hMessage :
      ∃ request,
        Csi.CreateVolume.Request.ofMessage message = .ok request ∧
          ∃ order, readOrder {} request = .ok order ∧
            order.size = 10 ∧ order.parameters.zone = none :=
    ⟨_, rfl, _, rfl, rfl, rfl⟩
  rcases hMessage with ⟨request, hRead, order, hOrder, hSize, hZoneOf⟩
  have hFound : replies (.backend (.find "pvc-1")) [] = .ok [earlier] :=
    rfl
  have hNone : ∀ disk ∈ [earlier], disk.status = .deleting := by
    decide
  have hZone :
      (replies.run
          (Zones.choose ({} : Settings).nodeRole order.parameters
            message.requirement)
          [⟨.backend (.find "pvc-1"), .ok [earlier]⟩]).1 =
        .ok "zone-c" := by
    rw [Zones.choose, hZoneOf]
    rfl
  rcases create_falls_through_rejections {} hDistinct hRead hOrder
      hFound hNone hZone with
    ⟨spec, before, last, hWanted, hDescent, _, _, _, hConsults⟩
  rw [hSize] at hWanted
  have hPlaces :
      [[], [(Cluster.zoneKey, "zone-c")]] ++
          [[(Cluster.zoneKey, "zone-a")]] =
        [[]] ++ [(Cluster.zoneKey, "zone-c")] ::
          [[(Cluster.zoneKey, "zone-a")]] :=
    rfl
  have hAsks : AsksFor message "zone-c" :=
    .place rfl rfl hPlaces (by decide) rfl
  refine ⟨hDistinct, ⟨spec, before, last, hWanted, hDescent⟩, ?_, ?_⟩
  · decide
  · exact fun hConsulted => hConsults.mp hConsulted "zone-c" hAsks

end Creation

end Service

end BlockVolumes
