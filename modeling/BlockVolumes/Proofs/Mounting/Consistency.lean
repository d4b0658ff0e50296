import BlockVolumes.Proofs.Csi.Reading
import BlockVolumes.Proofs.Mounting.Lookup
import BlockVolumes.Proofs.Mounting.Serving
import Mathlib.Logic.Relation

/-
  The mount table over whole runs of the node plugin. Calls
  that stage, unstage, publish and unpublish volumes follow
  one another, well or badly, and each of them leaves a table
  that is what the logged actions have made of an empty one.

  This rests on the entries being at directories of the tree:
  a target that has just been made can then have no entry, and
  one that is removed has none any more.

  Key definitions include:
    * `Mounting.Orderly`
    * `Mounting.Step`

  Key theorems include:
    * `Mounting.Orderly.mount`
    * `Mounting.Orderly.unmountIfMounted`
    * `Mounting.Orderly.step`
    * `Mounting.mount_table_consistent`
-/

namespace BlockVolumes

namespace Mounting

open Memory (Action Mounter World)
open Memory.World (Alike Yields)
open Mount (Point)
open Service (nodeAgent)

variable {settings : Settings}
variable {premium : Pattern}
variable {before : List Action}
variable {world after : World}
variable {operation asking ending volumeId : String}
variable {path : Path}

------------------------------------------------------------
-- Worlds in Order
------------------------------------------------------------

/-
  Whether the table of a world has its entries at directories
  and is what the actions after some others have made of an
  empty one.
-/
structure Orderly
    (before : List Action)
    (world : World) : Prop where
  rooted : Rooted world.tree world.mounter.table
  ledger :
    ∃ actions,
      world.mounter.log = before ++ actions ∧
        Ledger world.mounter.table actions

/- A quiet call of the mounter records no change of the table. -/
theorem changeOf?_of_quiet
    {mounter : Mounter}
    {tree : FileTree}
    {call : Mount.Call}
    {action : Action}
    (hQuiet : Mounter.IsQuiet call)
    (hAction : mounter.actionOf? tree call = some action)
    (path : Path) :
    changeOf? path action = none := by
  cases call with
  | mount => exact hQuiet.elim
  | unmount => exact hQuiet.elim
  | format =>
      cases hAction
      rfl
  | resize =>
      rw [Mounter.actionOf?] at hAction
      split at hAction
      · cases hAction
        rfl
      · simp at hAction
  | triggerDevices =>
      cases hAction
      rfl
  | _ => simp [Mounter.actionOf?] at hAction

namespace Orderly

theorem start
    (h : world.mounter.table = []) :
    Orderly world.mounter.log world := by
  refine ⟨?_, [], (List.append_nil _).symm, ?_⟩
  · rw [h]
    exact nofun
  · rw [h]
    exact .empty

theorem of_same
    (h : Orderly before world)
    (hTree : after.tree = world.tree)
    (hTable : after.mounter.table = world.mounter.table)
    (hLog : after.mounter.log = world.mounter.log) :
    Orderly before after := by
  constructor
  · rw [hTree, hTable]
    exact h.rooted
  · rw [hTable, hLog]
    exact h.ledger

theorem of_alike
    (h : Orderly before world)
    (hAlike : Alike world after) :
    Orderly before after :=
  h.of_same hAlike.tree (by rw [hAlike.mounter])
    (by rw [hAlike.mounter])

/- The order is kept by calls that have no part in it. -/
theorem answer
    {call : Mount.Call}
    {reply : call.Reply}
    (h : Orderly before world)
    (hQuiet : Mounter.IsQuiet call)
    (hTree : after.tree = world.tree)
    (hAnswer :
      world.mounter.answer world.tree call =
        (reply, after.mounter)) :
    Orderly before after := by
  have hMounter :
      (world.mounter.answer world.tree call).2 = after.mounter := by
    rw [hAnswer]
  have hTable : after.mounter.table = world.mounter.table := by
    rw [← hMounter]
    exact Mounter.table_of_call hQuiet
  have hLog :
      after.mounter.log =
        world.mounter.log ++
          (world.mounter.actionOf? world.tree call).toList := by
    rw [← hMounter]
    exact Mounter.log_of_call call
  rcases h.ledger with ⟨actions, hBefore, hLedger⟩
  constructor
  · rw [hTree, hTable]
    exact h.rooted
  · rw [hTable, hLog, hBefore]
    cases hAction : world.mounter.actionOf? world.tree call with
    | none => exact ⟨actions, by simp, hLedger⟩
    | some action =>
        exact ⟨actions ++ [action], by simp,
          hLedger.other (changeOf?_of_quiet hQuiet hAction)⟩

------------------------------------------------------------
-- Calls of the Mounter
------------------------------------------------------------

/- A quiet call, whatever it answers, leaves tree and order. -/
theorem quiet
    {call : Mount.Call}
    (h : Orderly before world)
    (hQuiet : Mounter.IsQuiet call) :
    Yields (Service.Mounting.call operation volumeId call) world
      (fun _ now => Orderly before now ∧ now.tree = world.tree)
      (Orderly before) := by
  refine Yields.mapError (.mounter ?_ ?_ ?_)
  · intro now hTree hSame
    exact h.of_alike ⟨hTree, hSame⟩
  · intro _ now hTree hAnswer
    exact ⟨h.answer hQuiet hTree hAnswer, hTree⟩
  · intro _ now hTree hAnswer
    exact h.answer hQuiet hTree hAnswer

/- Something is mounted at a directory that has no entry. -/
theorem mount
    {source : Path}
    {filesystem : String}
    {options sensitive : List String}
    (h : Orderly before world)
    (hPath : path.isAbsolute = true)
    (hThere : world.tree.isDirectory path = true)
    (hFree :
      ¬ Listed world.mounter.table (world.tree.canonicalOrSelf path)) :
    Yields
      (Service.Mounting.call operation volumeId
        (.mount (some source) path filesystem options sensitive))
      world (fun _ => Orderly before) (Orderly before) := by
  rcases FileTree.isDirectory_iff.mp hThere with ⟨place, hLeads⟩
  refine Yields.mapError (.mounter ?_ ?_ ?_)
  · intro now hTree hSame
    exact h.of_alike ⟨hTree, hSame⟩
  · intro _ now hTree hAnswer
    have hMounter := (Prod.mk.inj hAnswer).2
    let point : Point :=
      { device :=
          world.mounter.sourceDevice world.tree source options
        path := world.tree.canonicalOrSelf path
        filesystem := filesystem
        options := options ++ sensitive }
    have hTable :
        now.mounter.table = world.mounter.table ++ [point] := by
      rw [← hMounter]
      rfl
    have hLog :
        now.mounter.log =
          world.mounter.log ++
            [.mounted point.device point.path filesystem options] := by
      rw [← hMounter]
      rfl
    rcases h.ledger with ⟨actions, hBefore, hLedger⟩
    constructor
    · rw [hTree, hTable]
      exact h.rooted.mount hLeads.canonicalOrSelf
        (hLeads.stands hPath)
    · rw [hTable, hLog, hBefore, List.append_assoc]
      exact ⟨_, rfl, hLedger.mount hFree⟩
  · intro _ _ _ hAnswer
    simp [Mounter.answer, Mounter.mount] at hAnswer

/- A mount is ended where the mounter has seen one. -/
theorem unmount
    (h : Orderly before world)
    (hThere :
      ∃ point ∈ world.mounter.table,
        point.Matches (world.tree.canonicalOrSelf path)) :
    Yields
      (Service.Mounting.call operation volumeId
        (.unmount path none))
      world
      (fun _ now =>
        Orderly before now ∧ now.tree = world.tree ∧
          ¬ Listed now.mounter.table
            (world.tree.canonicalOrSelf path))
      (Orderly before) := by
  refine Yields.mapError (.mounter ?_ ?_ ?_)
  · intro now hTree hSame
    exact h.of_alike ⟨hTree, hSame⟩
  · intro _ now hTree hAnswer
    have hMounter := (Prod.mk.inj hAnswer).2
    rcases h.ledger with ⟨actions, hBefore, hLedger⟩
    refine ⟨⟨?_, ?_⟩, hTree, ?_⟩
    · rw [hTree, ← hMounter]
      exact h.rooted.unmount _
    · rw [← hMounter]
      exact ⟨_, by simp [Mounter.unmount, Mounter.record, hBefore],
        hLedger.unmount hThere⟩
    · rw [← hMounter]
      intro hListed
      exact ((listed_without hLedger.apart).mp hListed).2 (.refl _)
  · intro _ _ _ hAnswer
    simp [Mounter.answer] at hAnswer

/- A program goes on after it has looked for a mount. -/
theorem isMounted_bind
    {α : Type}
    {good : α → World → Prop}
    {next : Bool → Program Host Service.Error α}
    (h : Orderly before world)
    (hNext :
      ∀ mounted now, Orderly before now → now.tree = world.tree →
        now.mounter.isMounted now.tree path = .ok mounted →
          Yields (next mounted) now good (Orderly before)) :
    Yields
      ((Service.Mounting.isMounted operation volumeId path).bind next)
      world good (Orderly before) := by
  have hLook := isMounted_yields operation volumeId world path
  refine Yields.bind ⟨hLook.1, fun e now hRun => ?_⟩ ?_
  · exact h.of_alike (hLook.2 e now hRun)
  · rintro mounted now ⟨hAlike, hMounted⟩
    rw [← hAlike.tree, ← hAlike.mounter] at hMounted
    exact hNext mounted now (h.of_alike hAlike) hAlike.tree hMounted

------------------------------------------------------------
-- Ending Mounts
------------------------------------------------------------

/- Afterwards there is no entry for the path any more. -/
theorem unmountIfMounted
    (h : Orderly before world)
    (hPath : path.isAbsolute = true) :
    Yields
      (Service.Mounting.unmountIfMounted asking ending volumeId path)
      world
      (fun _ now =>
        Orderly before now ∧ now.tree = world.tree ∧
          ¬ Listed now.mounter.table
            (world.tree.canonicalOrSelf path))
      (Orderly before) := by
  refine h.isMounted_bind fun mounted now hNow hTree hMounted => ?_
  cases mounted with
  | true =>
      refine (hNow.unmount (matches_of_isMounted hPath hMounted)).mono
        ?_
      rw [hTree]
      exact fun _ _ hEnd => hEnd
  | false =>
      refine Yields.done ⟨hNow, hTree, ?_⟩
      rw [← hTree]
      exact free_of_isMounted hPath hMounted

/- Unstaging leaves the world in order. -/
theorem unstage
    {request : Csi.NodeUnstage.Request}
    (h : Orderly before world)
    (hPath : request.stagingPath.isAbsolute = true) :
    Yields (Service.Mounting.unstage request) world
      (fun _ => Orderly before) (Orderly before) :=
  Yields.exclusively
    (Yields.mapError
      ((h.unmountIfMounted hPath).mono fun _ _ hEnd => hEnd.1))

/- A target without an entry is removed. -/
theorem removeDirectory
    (h : Orderly before world)
    (hFree :
      ¬ Listed world.mounter.table (world.tree.canonicalOrSelf path)) :
    Orderly before (world.removeDirectory path).2 := by
  unfold World.removeDirectory
  cases hRemoved : world.tree.removeDirectory path with
  | error failure => exact h
  | ok tree =>
      rcases FileTree.removeDirectory_eq_ok hRemoved with
        ⟨front, last, rfl, hEmpty, hLeads⟩
      refine ⟨h.rooted.remove hEmpty fun hStands => ?_, h.ledger⟩
      have hShort := (hStands.names last (by simp)).2
      rw [← (hLeads hShort).canonicalOrSelf]
      exact hFree

/- Unpublishing leaves the world in order. -/
theorem unpublish
    {request : Csi.NodeUnpublish.Request}
    (h : Orderly before world)
    (hPath : request.targetPath.isAbsolute = true) :
    Yields (Service.Mounting.unpublish request) world
      (fun _ => Orderly before) (Orderly before) := by
  refine Yields.bind (Yields.mapError (h.unmountIfMounted hPath)) ?_
  rintro _ now ⟨hNow, hTree, hFree⟩
  rw [← hTree] at hFree
  exact Yields.perform (Yields.done (hNow.removeDirectory hFree))

------------------------------------------------------------
-- Staging
------------------------------------------------------------

/- Looking for a device does not concern the table. -/
theorem findDevice
    {settle : Duration}
    {device : Path}
    (h : Orderly before world) :
    Yields (Service.Mounting.findDevice settle volumeId device) world
      (fun _ now => Orderly before now ∧ now.tree = world.tree)
      (Orderly before) := by
  have hLook :
      ∀ {now : World}, Orderly before now →
        Yields (Service.Mounting.deviceExists volumeId device) now
          (fun _ later => Orderly before later ∧ later.tree = now.tree)
          (Orderly before) :=
    fun hNow => hNow.quiet trivial
  refine Yields.bind (hLook h) ?_
  rintro found now ⟨hNow, hTree⟩
  cases found with
  | true => exact Yields.done ⟨hNow, hTree⟩
  | false =>
      refine Yields.bind (hNow.quiet trivial) ?_
      rintro _ later ⟨hLater, hSame⟩
      refine Yields.perform ?_
      have hAwake :
          Orderly before
            { later with clock := later.clock + settle.pause } :=
        hLater.of_same rfl rfl rfl
      refine (hLook hAwake).mono ?_
      rintro _ last ⟨hLast, hEnd⟩
      exact ⟨hLast, hEnd.trans (hSame.trans hTree)⟩

/- Formatting a device does not concern the table. -/
theorem formatIfBlank
    {plan : Service.Mounting.StagePlan}
    (h : Orderly before world) :
    Yields (Service.Mounting.formatIfBlank volumeId plan) world
      (fun _ now => Orderly before now ∧ now.tree = world.tree)
      (Orderly before) := by
  unfold Service.Mounting.formatIfBlank
  split
  · exact Yields.done ⟨h, rfl⟩
  · refine Yields.bind (h.quiet trivial) ?_
    rintro formatted now ⟨hNow, hTree⟩
    cases formatted with
    | true => exact Yields.done ⟨hNow, hTree⟩
    | false =>
        have hFormat :
            Mounter.IsQuiet (.format plan.device plan.filesystem []) :=
          trivial
        refine (hNow.quiet hFormat).mono ?_
        rintro _ later ⟨hLater, hSame⟩
        exact ⟨hLater, hSame.trans hTree⟩

/- A device is mounted at a directory that has no entry. -/
theorem mountStage
    {plan : Service.Mounting.StagePlan}
    (h : Orderly before world)
    (hPath : path.isAbsolute = true)
    (hThere : world.tree.isDirectory path = true) :
    Yields (Service.Mounting.mountStage volumeId path plan) world
      (fun _ => Orderly before) (Orderly before) := by
  refine Yields.bind h.formatIfBlank ?_
  rintro _ now ⟨hNow, hTree⟩
  refine hNow.isMounted_bind
    fun mounted later hLater hSame hMounted => ?_
  cases mounted with
  | true => exact Yields.done hLater
  | false =>
      rw [← hTree, ← hSame] at hThere
      exact hLater.mount hPath hThere
        (free_of_isMounted hPath hMounted)

/- Staging leaves the world in order. -/
theorem stage
    {request : Csi.NodeStage.Request}
    (h : Orderly before world)
    (hPath : request.stagingPath.isAbsolute = true)
    (hThere : world.tree.isDirectory request.stagingPath = true) :
    Yields (Service.Mounting.stage settings premium request) world
      (fun _ => Orderly before) (Orderly before) := by
  refine Yields.checked h fun _ _ => ?_
  refine Yields.bind (Yields.mapError h.findDevice) ?_
  rintro found now ⟨hNow, hTree⟩
  rw [← hTree] at hThere
  cases found with
  | true =>
      exact Yields.exclusively
        (Yields.mapError (hNow.mountStage hPath hThere))
  | false => exact Yields.failed hNow

------------------------------------------------------------
-- Publishing
------------------------------------------------------------

/-
  A target is made that has no entry, and it has none then:
  it is found as it was before, or nothing stood there.
-/
theorem makeDirectories
    {parent : Path}
    (h : Orderly before world)
    (hPath : path.isAbsolute = true)
    (hParent : path.parent? = some parent)
    (hAbove : world.tree.isDirectory parent = true)
    (hFree :
      ¬ Listed world.mounter.table (world.tree.canonicalOrSelf path))
    (hMade : after = (world.makeDirectories path).2) :
    Orderly before after ∧
      ¬ Listed after.mounter.table
        (after.tree.canonicalOrSelf path) ∧
      ((world.makeDirectories path).1 = .ok () →
        after.tree.isDirectory path = true) := by
  rcases hTree : world.tree.makeDirectories path with ⟨made, tree⟩
  have hWorld :
      world.makeDirectories path =
        (made, { world with tree := tree }) := by
    unfold World.makeDirectories
    rw [hTree]
  rw [hWorld] at hMade ⊢
  subst hMade
  rcases FileTree.makeDirectories_cases hParent hAbove hTree with
    ⟨rfl, hThere⟩ | ⟨place, hNone, rfl, hLeads⟩
  · exact ⟨h, hFree, fun hOk =>
      FileTree.isDirectory_iff.mpr (hThere hOk)⟩
  · refine ⟨⟨h.rooted.grow (FileTree.grows_add _ _ _), h.ledger⟩,
      ?_, fun _ => FileTree.isDirectory_iff.mpr ⟨place, hLeads⟩⟩
    intro hListed
    rw [hLeads.canonicalOrSelf] at hListed
    have hNames := (hLeads.stands hPath).names
    have hOld :=
      h.rooted.stands_of_listed (fun name hMem => (hNames name hMem).1)
        hListed
    rw [hOld.entry] at hNone
    exact nomatch hNone

/- A volume is mounted at a target that has no entry. -/
theorem mountTarget
    {request : Csi.NodePublish.Request}
    {staging parent : Path}
    (h : Orderly before world)
    (hPath : request.targetPath.isAbsolute = true)
    (hParent : request.targetPath.parent? = some parent)
    (hAbove : world.tree.isDirectory parent = true) :
    Yields (Service.Mounting.mountTarget request staging) world
      (fun _ => Orderly before) (Orderly before) := by
  refine h.isMounted_bind fun mounted now hNow hTree hMounted => ?_
  cases mounted with
  | true => exact Yields.done hNow
  | false =>
      rw [← hTree] at hAbove
      rcases hNow.makeDirectories hPath hParent hAbove
        (free_of_isMounted hPath hMounted) rfl with
        ⟨hOrderly, hFree, hThere⟩
      exact makeDirectories_yields hOrderly fun hMade =>
        hOrderly.mount hPath (hThere hMade) hFree

/- Publishing leaves the world in order. -/
theorem publish
    {message : Csi.NodePublish.Message}
    {request : Csi.NodePublish.Request}
    (h : Orderly before world)
    (hRead : request.Reads world.tree.isDirectory message) :
    Yields (Service.Mounting.publish request) world
      (fun _ => Orderly before) (Orderly before) := by
  unfold Service.Mounting.publish
  cases hStaging : request.stagingPath with
  | none => exact Yields.failed h
  | some staging =>
      rcases hRead.above with ⟨parent, hParent, hAbove⟩
      refine Yields.checked h fun _ _ => ?_
      exact Yields.mapError
        (h.mountTarget hRead.absolute hParent hAbove)

end Orderly

------------------------------------------------------------
-- Runs of Calls
------------------------------------------------------------

/- Whether a message is about the mounts of a node. -/
def ConcernsMounts : Csi.Node.Message → Prop
  | .stage _ => True
  | .unstage _ => True
  | .publish _ => True
  | .unpublish _ => True
  | _ => False

/-
  A step of a run: a call that is about mounts, or a change of
  anything but the mounts and the tree, such as a device that
  shows up or a failure that lies ahead.
-/
inductive Step
    (settings : Settings)
    (premium : Pattern) : World → World → Prop where
  | call
      {world : World}
      (message : Csi.Node.Message)
      (hMessage : ConcernsMounts message) :
      Step settings premium world
        (served settings premium message world).2
  | drift
      {world after : World}
      (hTree : after.tree = world.tree)
      (hTable : after.mounter.table = world.mounter.table)
      (hLog : after.mounter.log = world.mounter.log) :
      Step settings premium world after

theorem Step.of_served
    {message : Csi.Node.Message}
    {answer : Except Rpc.Status Csi.Node.Answer}
    (h : served settings premium message world = (answer, after))
    (hMessage : ConcernsMounts message) :
    Step settings premium world after := by
  have hStep :
      Step settings premium world
        (served settings premium message world).2 :=
    .call message hMessage
  rw [h] at hStep
  exact hStep

/- Each call leaves the world in order. -/
theorem Orderly.served
    {message : Csi.Node.Message}
    (h : Orderly before world)
    (hMessage : ConcernsMounts message) :
    Orderly before (served settings premium message world).2 := by
  refine Yields.after ?_
  cases message with
  | stage message =>
      refine Yields.procedure h fun request hRead => ?_
      rcases Csi.NodeStage.Request.fields_of_ofMessage hRead with
        ⟨_, _, _, hPath, hThere⟩
      exact h.stage hPath hThere
  | unstage message =>
      exact Yields.procedure h fun request hRead =>
        h.unstage (Csi.NodeUnstage.Request.path_of_ofMessage hRead).2
  | publish message =>
      exact Yields.procedure h fun request hRead =>
        h.publish (Csi.NodePublish.Request.reads_of_ofMessage hRead)
  | unpublish message =>
      exact Yields.procedure h fun request hRead =>
        h.unpublish
          (Csi.NodeUnpublish.Request.path_of_ofMessage hRead).2
  | _ => exact hMessage.elim

theorem Orderly.step
    (h : Orderly before world)
    (hStep : Step settings premium world after) :
    Orderly before after := by
  cases hStep with
  | call message hMessage => exact h.served hMessage
  | drift hTree hTable hLog => exact h.of_same hTree hTable hLog

theorem Orderly.run
    (h : Orderly before world)
    (hRun :
      Relation.ReflTransGen (Step settings premium) world after) :
    Orderly before after := by
  induction hRun with
  | refl => exact h
  | tail _ hStep ih => exact ih.step hStep

/-
  A volume is published, and a path is unstaged that the table
  then seems to show: the mount at the target is followed by
  an unmount at that path.
-/
theorem publish_then_unstage
    {publish : Csi.NodePublish.Message}
    {unstage : Csi.NodeUnstage.Message}
    {published : Csi.NodePublish.Request}
    {unstaged : Csi.NodeUnstage.Request}
    {staging : Path}
    {place spot : FilePlace}
    (hMounter : world.mounter = {})
    (hScript : world.mounterFailures = [])
    (hPublish :
      Csi.NodePublish.Request.ofMessage world.tree.isDirectory
        publish = .ok published)
    (hStaging : published.stagingPath = some staging)
    (hCheck : published.capability.check = .ok ())
    (hTarget : world.tree.LeadsTo published.targetPath place)
    (hUnstage :
      Csi.NodeUnstage.Request.ofMessage unstage = .ok unstaged)
    (hPath : unstaged.stagingPath.isAbsolute = true)
    (hSpot : world.tree.LeadsTo unstaged.stagingPath spot)
    (hSeems :
      Path.Same (Path.ofNames place) (Path.ofNames spot) ∨
        Path.Same (Path.ofNames place)
          (Point.deletedPath (Path.ofNames spot))) :
    ∃ middle after,
      served settings premium (.publish publish) world =
          (.ok .published, middle) ∧
        served settings premium (.unstage unstage) middle =
          (.ok .unstaged, after) ∧
        after.mounter.log =
          [.mounted staging (Path.ofNames place) ""
              (Service.Mounting.publishOptions published),
            .unmounted (Path.ofNames spot)] := by
  have hFree :
      world.mounter.isMounted world.tree published.targetPath =
        .ok false := by
    rw [hMounter]
    exact Mounter.isMounted_of_empty rfl _ _
  let point : Point :=
    { device := staging
      path := Path.ofNames place
      filesystem := ""
      options := Service.Mounting.publishOptions published }
  let mounter : Mounter :=
    { table := [point]
      log :=
        [.mounted staging (Path.ofNames place) ""
          (Service.Mounting.publishOptions published)] }
  have hMount :
      (world.mounter.mount world.tree (some staging)
        published.targetPath ""
        (Service.Mounting.publishOptions published) []).2 =
        mounter := by
    simp [Mounter.mount, Mounter.sourceDevice, Mount.pointAt?,
      Mounter.record, hMounter, hTarget.canonicalOrSelf, mounter,
      point]
  have hFirst :
      served settings premium (.publish publish) world =
        (.ok .published, { world with mounter := mounter }) := by
    rw [← hMount]
    exact served_publish hScript hPublish hStaging hCheck hFree
      (hTarget.makeDirectoriesFrom _)
  have hMounted :
      mounter.isMounted world.tree unstaged.stagingPath =
        .ok true := by
    have hAny :
        (mounter.table.any fun point =>
          decide (point.Matches (Path.ofNames spot))) = true :=
      List.any_eq_true.mpr
        ⟨point, List.mem_singleton.mpr rfl, decide_eq_true hSeems⟩
    rw [isMounted_of_resolve hPath hSpot.resolve, hAny]
  have hSecond :
      served settings premium (.unstage unstage)
          { world with mounter := mounter } =
        (.ok .unstaged,
          { world with
            mounter :=
              mounter.unmount world.tree unstaged.stagingPath }) :=
    served_unstage hScript hUnstage hMounted
  refine ⟨_, _, hFirst, hSecond, ?_⟩
  simp [Mounter.unmount, Mounter.record, mounter,
    hSpot.canonicalOrSelf]

/-
  However calls follow one another from an empty table on, and
  whichever of them fail: the table has at most one entry for
  each path, and it has one if the last action logged for the
  path is a mount. Mounts and unmounts of a path alternate from
  a mount on, unless something was mounted at the path that
  the table shows for it when it is deleted.
-/
theorem mount_table_consistent
    {start : World}
    (hStart : start.mounter.table = [])
    (hRun :
      Relation.ReflTransGen (Step settings premium) start world) :
    ∃ actions,
      world.mounter.log = start.mounter.log ++ actions ∧
        Ledger world.mounter.table actions :=
  ((Orderly.start hStart).run hRun).ledger

/- A volume is published at a path that is unstaged afterwards. -/
theorem mount_table_consistent_one_path :
    let start : World :=
      { tree :=
          { entries :=
              [(["plain"], .directory), (["target"], .directory)] } }
    ∃ world actions,
      start.mounter.table = [] ∧
      Relation.ReflTransGen (Step {} (.sequence .atStart .atEnd))
        start world ∧
      world.mounter.log =
        [.mounted ⟨"/plain"⟩ ⟨"/target"⟩ "" ["bind"],
          .unmounted ⟨"/target"⟩] ∧
      world.mounter.log = start.mounter.log ++ actions ∧
      Ledger world.mounter.table actions := by
  intro start
  have hPlain : start.tree.LeadsTo ⟨"/plain"⟩ ["plain"] :=
    FileTree.leadsTo_of_name rfl rfl rfl (by decide) rfl
  have hTarget : start.tree.LeadsTo ⟨"/target"⟩ ["target"] :=
    FileTree.leadsTo_of_name rfl rfl rfl (by decide) rfl
  have hPublish :
      Csi.NodePublish.Request.ofMessage start.tree.isDirectory
        { volumeId := "vol-1"
          stagingPath := "/plain"
          targetPath := "/target"
          capability := some ⟨some 1, some (.mount "" [])⟩ } =
        .ok _ :=
    Csi.NodePublish.Request.ofMessage_eq_ok rfl rfl
      (FileTree.isDirectory_iff.mpr ⟨_, hPlain⟩) rfl rfl
      (FileTree.isDirectory_root _) fun _ => rfl
  have hUnstage :
      Csi.NodeUnstage.Request.ofMessage
        { volumeId := "vol-1", stagingPath := "/target" } =
        .ok _ := rfl
  rcases publish_then_unstage rfl rfl hPublish rfl rfl hTarget
      hUnstage rfl hTarget (.inl (.refl _)) with
    ⟨middle, world, hFirst, hSecond, hLog⟩
  have hOne : Step {} (.sequence .atStart .atEnd) start middle :=
    .of_served hFirst trivial
  have hTwo : Step {} (.sequence .atStart .atEnd) middle world :=
    .of_served hSecond trivial
  have hRun := Relation.ReflTransGen.tail (.single hOne) hTwo
  rcases mount_table_consistent rfl hRun with
    ⟨actions, hActions, hLedger⟩
  exact ⟨world, actions, rfl, hRun, hLog, hActions, hLedger⟩

/-
  Something is mounted through a link to a directory that has
  the name of a deleted one. The directory that would have had
  this name is then taken for a mount point: it is unmounted,
  though nothing was mounted there.
-/
theorem unmount_without_mount :
    let start : World :=
      { tree :=
          { entries :=
              [(["plain"], .directory), (["a"], .directory),
                (["a\\040(deleted)"], .directory),
                (["link"], .link "/a\\040(deleted)")] } }
    let publish : Csi.NodePublish.Message :=
      { volumeId := "vol-1"
        stagingPath := "/plain"
        targetPath := "/link"
        capability := some ⟨some 1, some (.mount "" [])⟩ }
    let unstage : Csi.NodeUnstage.Message :=
      { volumeId := "vol-1", stagingPath := "/a" }
    start.mounter.table = [] ∧
    (∀ text ∈
      [publish.stagingPath, publish.targetPath, unstage.stagingPath],
      ¬ "\\040(deleted)".toList <:+ text.toList) ∧
    ∃ middle after,
      served {} (.sequence .atStart .atEnd) (.publish publish) start =
        (.ok .published, middle) ∧
      served {} (.sequence .atStart .atEnd) (.unstage unstage) middle =
        (.ok .unstaged, after) ∧
      changesOn ⟨"/a"⟩ after.mounter.log = [.unmount] := by
  intro start publish unstage
  have hPlain : start.tree.LeadsTo ⟨"/plain"⟩ ["plain"] :=
    FileTree.leadsTo_of_name rfl rfl rfl (by decide) rfl
  have hLink :
      start.tree.LeadsTo ⟨"/link"⟩ ["a\\040(deleted)"] :=
    ⟨rfl, rfl, 39,
      .stay (.inl rfl)
        (.follow (by decide) rfl
          (.stay (.inl rfl) (.into (by decide) rfl .here)))⟩
  have hOther : start.tree.LeadsTo ⟨"/a"⟩ ["a"] :=
    FileTree.leadsTo_of_name rfl rfl rfl (by decide) rfl
  have hPublish :
      Csi.NodePublish.Request.ofMessage start.tree.isDirectory
        { volumeId := "vol-1"
          stagingPath := "/plain"
          targetPath := "/link"
          capability := some ⟨some 1, some (.mount "" [])⟩ } =
        .ok _ :=
    Csi.NodePublish.Request.ofMessage_eq_ok rfl rfl
      (FileTree.isDirectory_iff.mpr ⟨_, hPlain⟩) rfl rfl
      (FileTree.isDirectory_root _) fun _ => rfl
  have hUnstage :
      Csi.NodeUnstage.Request.ofMessage
        { volumeId := "vol-1", stagingPath := "/a" } =
        .ok _ := rfl
  rcases publish_then_unstage rfl rfl hPublish rfl rfl hLink
      hUnstage rfl hOther (.inr (by decide)) with
    ⟨middle, after, hFirst, hSecond, hLog⟩
  refine ⟨rfl, by decide, middle, after, hFirst, hSecond, ?_⟩
  rw [hLog]
  decide

end Mounting

end BlockVolumes
