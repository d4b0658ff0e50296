import BlockVolumes.Proofs.Dictionary
import BlockVolumes.Proofs.Memory.World
import BlockVolumes.Proofs.Registration.Site
import BlockVolumes.Proofs.Text.Numerals
import BlockVolumes.Proofs.Transitions.Looks

/-
  The labels that a registration writes. They say of a node
  what the registration keeps of it, whatever other labels the
  node has, and other labels stay as they are.

  Key definitions include:
    * `Memory.Member.withLabels`
    * `Memory.Directory.Relabelled`

  Key theorems include:
    * `Memory.Directory.relabelled_of_answer`
    * `Topology.ofLabels?_of_labels`
    * `Service.Registration.run_lookup`
-/

namespace BlockVolumes

------------------------------------------------------------
-- Members of a Directory
------------------------------------------------------------

namespace Memory

/- A member of a directory with other labels. -/
def Member.withLabels
    (member : Member)
    (labels : Dictionary) : Member :=
  { member with node := { member.node with labels := labels } }

@[simp] theorem Member.withLabels_name
    (member : Member)
    (labels : Dictionary) :
    (member.withLabels labels).node.name = member.node.name :=
  rfl

@[simp] theorem Member.withLabels_labels
    (member : Member)
    (labels : Dictionary) :
    (member.withLabels labels).node.labels = labels :=
  rfl

namespace Directory

variable {directory : Directory}
variable {member : Member}
variable {name : String}
variable {labels : Dictionary}

theorem member?_put_self
    (hName : member.node.name = name)
    (directory : Directory) :
    (directory.put member).member? name = some member := by
  change (insertMember member directory.members).find? _ = _
  induction directory.members with
  | nil => simp [insertMember, hName]
  | cons other members ih =>
      unfold insertMember
      split
      · simp [hName]
      · split
        · simp [hName]
        · next hOther =>
            rw [hName] at hOther
            rw [List.find?_cons_of_neg (by simpa using Ne.symm hOther)]
            exact ih

theorem member?_put_of_ne
    (hName : member.node.name ≠ name)
    (directory : Directory) :
    (directory.put member).member? name =
      directory.member? name := by
  change (insertMember member directory.members).find? _ =
    directory.members.find? _
  induction directory.members with
  | nil => simp [insertMember, hName]
  | cons other members ih =>
      unfold insertMember
      split
      · rw [List.find?_cons_of_neg (by simpa using hName)]
      · split
        · next hSame =>
            rw [List.find?_cons_of_neg (by simpa using hName),
              List.find?_cons_of_neg (by simpa [← hSame] using hName)]
        · rw [List.find?_cons, List.find?_cons, ih]

theorem name_of_member?
    (h : directory.member? name = some member) :
    member.node.name = name := by
  simpa using List.find?_some h

/-
  Whether some labels were put over those of a node, while all
  else in a directory stayed as it was.
-/
structure Relabelled
    (before after : Directory)
    (name : String)
    (labels : Dictionary)
    (earlier later : Member) : Prop where
  was : before.member? name = some earlier
  is : after.member? name = some later
  same : later = earlier.withLabels later.node.labels
  written :
    ∀ key value,
      labels.find? key = some value →
        later.node.labels.find? key = some value
  kept :
    ∀ key,
      labels.find? key = none →
        later.node.labels.find? key = earlier.node.labels.find? key
  others :
    ∀ other,
      other ≠ name → after.member? other = before.member? other

/- What matters of a directory before are its members. -/
theorem Relabelled.of_members
    {before between after : Directory}
    {earlier later : Member}
    (hMembers : between.members = before.members)
    (h : Relabelled between after name labels earlier later) :
    Relabelled before after name labels earlier later := by
  have hMember :
      ∀ other, before.member? other = between.member? other := by
    intro other
    rw [member?, member?, hMembers]
  refine ⟨?_, h.is, h.same, h.written, h.kept, ?_⟩
  · rw [hMember]
    exact h.was
  · intro other hOther
    rw [hMember]
    exact h.others other hOther

/- Labels that are put in a directory are put over others. -/
theorem relabelled_of_put
    (hDistinct : (labels.map Prod.fst).Nodup)
    (hMember : directory.member? name = some member) :
    Relabelled directory
      (directory.put
        (member.withLabels (member.node.labels.merge labels)))
      name labels member
      (member.withLabels (member.node.labels.merge labels)) := by
  have hName := name_of_member? hMember
  have hMerge :=
    Dictionary.find?_merge hDistinct member.node.labels
  refine ⟨hMember, ?_, rfl, ?_, ?_, ?_⟩
  · refine member?_put_self ?_ directory
    exact hName
  · intro key value hKey
    rw [Member.withLabels_labels, hMerge, hKey, Option.some_or]
  · intro key hKey
    rw [Member.withLabels_labels, hMerge, hKey, Option.none_or]
  · intro other hOther
    refine member?_put_of_ne ?_ directory
    rw [Member.withLabels_name, hName]
    exact Ne.symm hOther

/-
  What a request to put labels on a node does. It fails, and
  no node is changed, or there is such a node.
-/
theorem relabelled_of_answer
    {reply : Except Cluster.Error Unit}
    {after : Directory}
    (hDistinct : (labels.map Prod.fst).Nodup)
    (hAnswer :
      directory.answer (.patchLabels name labels) = (reply, after)) :
    match reply with
    | .ok () =>
        ∃ earlier later,
          Relabelled directory after name labels earlier later
    | .error _ => after.members = directory.members := by
  unfold answer at hAnswer
  dsimp only at hAnswer
  split at hAnswer
  · cases hAnswer
    rfl
  · change patch _ name labels = _ at hAnswer
    unfold patch at hAnswer
    split at hAnswer
    · cases hAnswer
      rfl
    · next member hMember =>
        cases hAnswer
        have hPut := relabelled_of_put hDistinct hMember
        refine ⟨member,
          member.withLabels (member.node.labels.merge labels), ?_⟩
        refine hPut.of_members ?_
        rfl

end Directory

end Memory

------------------------------------------------------------
-- Labels of an Instance
------------------------------------------------------------

/- The prefix of disk types keeps their labels apart. -/
theorem Cluster.diskTypeKey_ne
    {key : String}
    (hKey : key.toList.head? = some 't')
    (diskType : String) :
    diskTypeKey diskType ≠ key := by
  have hFirst :
      ("disk.blockdisk.csi.io/" ++ diskType).toList.head? =
        some 'd' := by
    rw [String.toList_append]
    simp
  intro hSame
  unfold diskTypeKey at hSame
  rw [← hSame, hFirst] at hKey
  exact absurd hKey (by decide)

namespace Service.Registration

variable {info : Backend.InstanceInfo}

/-
  What holds of the labels of the place, and holds when a disk
  type is added, holds of all labels.
-/
theorem labels_induction
    {motive : Dictionary → Prop}
    (info : Backend.InstanceInfo)
    (hPlace :
      motive
        [(Cluster.regionKey, info.region),
          (Cluster.zoneKey, info.zone),
          (Cluster.instanceTypeKey, info.instanceType),
          (Cluster.volumeLimitKey, toString info.volumeLimit)])
    (hDiskType :
      ∀ entries diskType,
        motive entries →
          motive
            (entries.insert (Cluster.diskTypeKey diskType)
              "available")) :
    motive (labels info) :=
  List.foldlRecOn info.diskTypes _ hPlace
    fun entries h diskType _ => hDiskType entries diskType h

theorem nodup_keys_labels
    (info : Backend.InstanceInfo) :
    ((labels info).map Prod.fst).Nodup := by
  refine labels_induction
    (motive := fun entries => (entries.map Prod.fst).Nodup) info
    ?_ ?_
  · change
      [Cluster.regionKey, Cluster.zoneKey, Cluster.instanceTypeKey,
        Cluster.volumeLimitKey].Nodup
    decide
  · intro entries diskType hEntries
    exact Dictionary.nodup_keys_insert hEntries

/- Disk types change none of the other labels. -/
theorem find?_labels
    {key : String}
    (hKey : key.toList.head? = some 't')
    (info : Backend.InstanceInfo) :
    (labels info).find? key =
      Dictionary.find?
        [(Cluster.regionKey, info.region),
          (Cluster.zoneKey, info.zone),
          (Cluster.instanceTypeKey, info.instanceType),
          (Cluster.volumeLimitKey, toString info.volumeLimit)]
        key := by
  refine labels_induction
    (motive := fun entries => entries.find? key = _) info rfl ?_
  intro entries diskType hEntries
  have hOther := Ne.symm (Cluster.diskTypeKey_ne hKey diskType)
  rw [Dictionary.find?_insert_of_ne hOther, hEntries]

end Service.Registration

section Reading

variable {info : Backend.InstanceInfo}
variable {node : Cluster.Node}

/- A label that was written is read, unless it is empty. -/
theorem Cluster.Node.label?_of_labels
    {key value : String}
    (hWritten :
      ∀ key value,
        (Service.Registration.labels info).find? key = some value →
          node.labels.find? key = some value)
    (hKey : key.toList.head? = some 't')
    (hValue :
      Dictionary.find?
          [(regionKey, info.region), (zoneKey, info.zone),
            (instanceTypeKey, info.instanceType),
            (volumeLimitKey, toString info.volumeLimit)]
          key =
        some value) :
    node.label? key = (some value).filter (! ·.isEmpty) := by
  rw [← Service.Registration.find?_labels hKey info] at hValue
  rw [label?, hWritten key value hValue]

/-
  The labels of an instance say where it is. A region that is
  empty is read as one that is not there, and so stays empty.
-/
theorem Topology.ofLabels?_of_labels
    (hWritten :
      ∀ key value,
        (Service.Registration.labels info).find? key = some value →
          node.labels.find? key = some value)
    (hZone : info.zone ≠ "")
    (hLimit : info.volumeLimit < UInt64.size) :
    ofLabels? node = some (Service.Registration.topology info) := by
  have hZoneLabel : node.zone? = some info.zone := by
    refine (Cluster.Node.label?_of_labels hWritten (by decide)
      rfl).trans ?_
    simp [Option.filter, hZone]
  have hLimitLabel :
      node.label? Cluster.volumeLimitKey =
        some (toString info.volumeLimit) := by
    refine (Cluster.Node.label?_of_labels hWritten (by decide)
      rfl).trans ?_
    simp [Option.filter]
  have hRegionLabel :
      (node.label? Cluster.regionKey).getD "" = info.region := by
    rw [Cluster.Node.label?_of_labels hWritten (by decide) rfl]
    by_cases hRegion : info.region = ""
    · rw [hRegion]
      rfl
    · simp [Option.filter, hRegion]
  have hRead :
      Text.readNatural (UInt64.size - 1)
          (toString info.volumeLimit) =
        .ok info.volumeLimit :=
    Text.readNatural_toString (by omega)
  rw [ofLabels?, hZoneLabel, hLimitLabel, hRegionLabel]
  simp only [Option.bind_eq_bind, Option.bind_some, hRead,
    Service.Registration.topology]

end Reading

------------------------------------------------------------
-- Looking Up
------------------------------------------------------------

/- A lookup ends with the topology that is kept, if there is one. -/
theorem Service.Registration.run_lookup
    (settings : Settings)
    (replies : Host.Replies)
    (past : Host.Record) :
    replies.run (lookup settings) past =
      let kept := replies .knownTopology past
      let asked : Host.Record := ⟨.knownTopology, kept⟩ :: past
      match (kept : Option Topology) with
      | some topology => (.ok (some topology), asked)
      | none =>
          let get : Host.Request :=
            .cluster (.getNode settings.nodeName)
          let reply : Except Cluster.Error Cluster.Node :=
            replies get asked
          let answered : Host.Record := ⟨get, reply⟩ :: asked
          match reply with
          | .ok node =>
              match Topology.ofLabels? node with
              | some topology =>
                  (.ok (some topology),
                    ⟨.keepTopology topology, ()⟩ :: answered)
              | none => (.ok none, answered)
          | .error error =>
              (.error (.during "get node" settings.nodeName
                (.cluster error)), answered) := by
  cases hKept : (replies .knownTopology past : Option Topology) with
  | some topology => exact Host.Replies.run_ask hKept
  | none =>
      refine (Host.Replies.run_ask hKept).trans ?_
      dsimp only
      generalize hReply :
        replies (.cluster (.getNode settings.nodeName))
          (⟨.knownTopology, none⟩ :: past) = reply
      cases reply with
      | error error => exact Host.Replies.run_ask hReply
      | ok node =>
          refine (Host.Replies.run_ask hReply).trans ?_
          dsimp only [Program.done_bind]
          change replies.run (match Topology.ofLabels? node with
            | some topology => (Host.keepTopology topology).bind
                fun _ => .done (some topology)
            | none => .done none) _ = _
          cases Topology.ofLabels? node <;> rfl

end BlockVolumes
