import BlockVolumes.Proofs.Registration.Labels

/-
  A registration tries to write its labels until that succeeds,
  as often as the settings say. After that, and only then, it
  keeps the topology which its labels tell.

  Where the pause before a further attempt is no duration, the
  registration breaks down, however many attempts are left.

  Key definitions include:
    * `Host.patches`
    * `Service.Registration.Ended`
    * `Service.Registration.Attempted`
    * `Service.Registration.Writes`
    * `Service.Registration.Registers`

  Key theorems include:
    * `Service.Registration.attempted_patch`
    * `Service.Registration.registers`
    * `Service.Registration.registration_retries_and_decodes`
-/

namespace BlockVolumes

------------------------------------------------------------
-- Attempts on Record
------------------------------------------------------------

namespace Host

/- How labels were written, where an exchange is about that. -/
def Exchange.patch? :
    Exchange → Option (Except Cluster.Error Unit)
  | ⟨.cluster (.patchLabels _ _), reply⟩ => some reply
  | _ => none

/- The replies to all requests to write labels, the latest first. -/
def patches
    (past : Record) : List (Except Cluster.Error Unit) :=
  past.filterMap Exchange.patch?

theorem patches_append
    (later earlier : Record) :
    patches (later ++ earlier) =
      patches later ++ patches earlier :=
  List.filterMap_append

end Host

namespace Service

namespace Registration

open Host (Exchange Record Replies patches)

variable {backoff : Backoff}
variable {nodeName : String}
variable {attempt left : Nat}
variable {replies : Replies}

/-
  How the attempts to write labels end, by the replies to them,
  the latest first. All but the last have failed. There is one
  attempt and at most as many further ones as are left; no more
  of them are made only after a success or without a pause.
-/
inductive Ended
    (backoff : Backoff)
    (nodeName : String)
    (attempt left : Nat) :
    List (Except Cluster.Error Unit) → Except Error Unit → Prop where
  | written
      (failed : List Cluster.Error)
      (hLeft : failed.length ≤ left) :
      Ended backoff nodeName attempt left
        (.ok () :: failed.map .error) (.ok ())
  | givenUp
      (last : Cluster.Error)
      (failed : List Cluster.Error)
      (hLeft : failed.length = left) :
      Ended backoff nodeName attempt left
        (.error last :: failed.map .error)
        (.error (.during "patch labels of node" nodeName
          (.cluster last)))
  | brokenDown
      (last : Cluster.Error)
      (failed : List Cluster.Error)
      (hLeft : failed.length < left)
      (hPause : backoff.delay? (attempt + failed.length) = none) :
      Ended backoff nodeName attempt left
        (.error last :: failed.map .error)
        (.error .pauseTooLong)

/- One more attempt has failed before the others. -/
theorem Ended.after_failure
    {results : List (Except Cluster.Error Unit)}
    {result : Except Error Unit}
    (error : Cluster.Error)
    (h : Ended backoff nodeName (attempt + 1) left results result) :
    Ended backoff nodeName attempt (left + 1)
      (results ++ [.error error]) result := by
  have hFailed :
      ∀ failed : List Cluster.Error,
        failed.map (Except.error (α := Unit)) ++ [.error error] =
          (failed ++ [error]).map .error := by
    intro failed
    rw [List.map_append]
    rfl
  cases h with
  | written failed hLeft =>
      rw [List.cons_append, hFailed]
      refine .written _ ?_
      rw [List.length_append]
      exact Nat.succ_le_succ hLeft
  | givenUp last failed hLeft =>
      rw [List.cons_append, hFailed]
      refine .givenUp last _ ?_
      rw [List.length_append]
      exact congrArg Nat.succ hLeft
  | brokenDown last failed hLeft hPause =>
      rw [List.cons_append, hFailed]
      refine .brokenDown last _ ?_ ?_
      · rw [List.length_append]
        exact Nat.succ_lt_succ hLeft
      · rw [List.length_append, ← Nat.add_assoc,
          Nat.add_right_comm]
        exact hPause

/- There is an attempt, and no more than there may be. -/
theorem Ended.length_le
    {results : List (Except Cluster.Error Unit)}
    {result : Except Error Unit}
    (h : Ended backoff nodeName attempt left results result) :
    1 ≤ results.length ∧ results.length ≤ left + 1 := by
  cases h with
  | written failed hLeft =>
      rw [List.length_cons, List.length_map]
      omega
  | givenUp last failed hLeft =>
      rw [List.length_cons, List.length_map]
      omega
  | brokenDown last failed hLeft _ =>
      rw [List.length_cons, List.length_map]
      omega

/- The attempts end well if and only if one of them went well. -/
theorem Ended.isOk_iff
    {results : List (Except Cluster.Error Unit)}
    {result : Except Error Unit}
    (h : Ended backoff nodeName attempt left results result) :
    result = .ok () ↔ .ok () ∈ results := by
  cases h with
  | written failed _ => simp
  | givenUp last failed _ => simp
  | brokenDown last failed _ _ => simp

/-
  What is on record of the attempts to write some labels. They
  are the same labels each time, with pauses in between.
-/
structure Attempted
    (backoff : Backoff)
    (nodeName : String)
    (labels : Dictionary)
    (attempt left : Nat)
    (later : Record)
    (result : Except Error Unit) : Prop where
  only :
    ∀ exchange ∈ later,
      exchange.request =
          .cluster (.patchLabels nodeName labels) ∨
        ∃ ticks, exchange.request = .sleep ticks
  ended :
    Ended backoff nodeName attempt left (patches later) result

/- One attempt to write labels, as it is put on record. -/
def tried
    (nodeName : String)
    (labels : Dictionary)
    (reply : Except Cluster.Error Unit) : Exchange :=
  ⟨.cluster (.patchLabels nodeName labels), reply⟩

theorem attempted_once
    {labels : Dictionary}
    {reply : Except Cluster.Error Unit}
    {result : Except Error Unit}
    (hEnded : Ended backoff nodeName attempt left [reply] result) :
    Attempted backoff nodeName labels attempt left
      [tried nodeName labels reply] result := by
  refine ⟨?_, hEnded⟩
  intro exchange hMem
  rw [List.mem_singleton.mp hMem]
  exact .inl rfl

/- After a failure and a pause there are further attempts. -/
theorem Attempted.after_failure
    {labels : Dictionary}
    {later : Record}
    {result : Except Error Unit}
    (error : Cluster.Error)
    (ticks : Nat)
    (h :
      Attempted backoff nodeName labels (attempt + 1) left later
        result) :
    Attempted backoff nodeName labels attempt (left + 1)
      (later ++
        [⟨.sleep ticks, ()⟩, tried nodeName labels (.error error)])
      result := by
  constructor
  · intro exchange hMem
    rcases List.mem_append.mp hMem with hMem | hMem
    · exact h.only exchange hMem
    · rcases List.mem_cons.mp hMem with rfl | hMem
      · exact .inr ⟨ticks, rfl⟩
      · rw [List.mem_singleton.mp hMem]
        exact .inl rfl
  · rw [Host.patches_append]
    exact h.ended.after_failure error

/- Whatever the replies, labels are tried to be written so. -/
theorem attempted_patch
    (backoff : Backoff)
    (nodeName : String)
    (labels : Dictionary)
    (attempt left : Nat)
    (replies : Replies)
    (past : Record) :
    ∃ later result,
      replies.run (patch backoff nodeName labels attempt left)
          past =
        (result, later ++ past) ∧
      Attempted backoff nodeName labels attempt left later
        result := by
  induction left generalizing attempt past with
  | zero =>
      cases hReply :
          (replies (.cluster (.patchLabels nodeName labels)) past :
            Except Cluster.Error Unit) with
      | ok _ =>
          exact ⟨[tried nodeName labels (.ok ())], .ok (),
            Replies.run_ask hReply,
            attempted_once (.written [] (Nat.le_refl 0))⟩
      | error error =>
          exact ⟨[tried nodeName labels (.error error)], _,
            Replies.run_ask hReply,
            attempted_once (.givenUp error [] rfl)⟩
  | succ left ih =>
      cases hReply :
          (replies (.cluster (.patchLabels nodeName labels)) past :
            Except Cluster.Error Unit) with
      | ok _ =>
          exact ⟨[tried nodeName labels (.ok ())], .ok (),
            Replies.run_ask hReply,
            attempted_once (.written [] (Nat.zero_le _))⟩
      | error error =>
          -- The pause is not looked into, only whether it is one.
          rw [patch]
          generalize hPause : backoff.delay? attempt = pause
          cases pause with
          | none =>
              exact ⟨[tried nodeName labels (.error error)], _,
                Replies.run_ask hReply,
                attempted_once
                  (.brokenDown error [] (Nat.succ_pos left) hPause)⟩
          | some pause =>
              rcases ih (attempt + 1)
                  (⟨.sleep pause.pause, ()⟩ ::
                    tried nodeName labels (.error error) :: past)
                with ⟨later, result, hRun, hAttempted⟩
              refine ⟨_, result, ?_,
                hAttempted.after_failure error pause.pause⟩
              rw [List.append_assoc]
              exact (Replies.run_ask hReply).trans hRun

/- The instance cannot be described, and nothing is written. -/
theorem run_register_of_error
    {settings : Settings}
    {past : Record}
    {error : Backend.Error}
    (hDescribe :
      replies (.backend (.describe settings.nodeId)) past =
        .error error) :
    replies.run (register settings) past =
      (.error (.during "describe instance" settings.nodeId
          (.backend error)),
        ⟨.backend (.describe settings.nodeId), .error error⟩ ::
          past) :=
  Replies.run_ask hDescribe

/- The topology is kept after the labels are written. -/
theorem run_register_of_ok
    {settings : Settings}
    {past : Record}
    {info : Backend.InstanceInfo}
    (hDescribe :
      replies (.backend (.describe settings.nodeId)) past =
        .ok info) :
    ∃ later result,
      Attempted settings.registration settings.nodeName
          (labels info) 0 (settings.registration.steps - 1) later
          result ∧
        replies.run (register settings) past =
          let now :=
            later ++
              ⟨.backend (.describe settings.nodeId), .ok info⟩ ::
                past
          match result with
          | .ok () =>
              (.ok (topology info),
                ⟨.keepTopology (topology info), ()⟩ :: now)
          | .error error => (.error error, now) := by
  rcases attempted_patch settings.registration settings.nodeName
      (labels info) 0 (settings.registration.steps - 1) replies
      (⟨.backend (.describe settings.nodeId), .ok info⟩ :: past) with
    ⟨later, result, hRun, hAttempted⟩
  refine ⟨later, result, hAttempted, ?_⟩
  have hRegister :
      replies.run (register settings) past =
        replies.run
          ((patch settings.registration settings.nodeName
            (labels info) 0 (settings.registration.steps - 1)).bind
              fun _ =>
                (Host.keepTopology (topology info)).bind fun _ =>
                  .done (topology info))
          (⟨.backend (.describe settings.nodeId), .ok info⟩ ::
            past) :=
    Replies.run_ask hDescribe
  rw [hRegister]
  cases result with
  | ok _ => exact Replies.run_bind_of_ok hRun _
  | error error => exact Replies.run_bind_of_error hRun _

------------------------------------------------------------
-- Directories in Memory
------------------------------------------------------------

section Memory

open Memory (Directory World)
open Memory.Directory (Relabelled)

/-
  Whether labels are written in a world, if a program ends
  well, and no node is changed otherwise.
-/
def Writes
    (nodeName : String)
    (labels : Dictionary)
    (world after : World)
    (result : Except Error Unit) : Prop :=
  after.topology = world.topology ∧
    match result with
    | .ok () =>
        ∃ earlier later,
          Relabelled world.directory after.directory nodeName labels
            earlier later
    | .error _ => after.directory.members = world.directory.members

section Writing

variable {labels : Dictionary}
variable {world between after : World}
variable {result : Except Error Unit}

/-
  What comes after a failed attempt and a pause is as if it
  came first. The ticks are any number, which keeps the length
  of a pause from being computed.
-/
theorem Writes.after_failure
    {error : Error}
    {ticks : Nat}
    (hFailed : Writes nodeName labels world between (.error error))
    (h :
      Writes nodeName labels
        { between with clock := between.clock + ticks } after
        result) :
    Writes nodeName labels world after result := by
  refine ⟨h.1.trans hFailed.1, ?_⟩
  cases result with
  | ok _ =>
      rcases h.2 with ⟨earlier, later, hRelabelled⟩
      exact ⟨earlier, later, hRelabelled.of_members hFailed.2⟩
  | error error => exact h.2.trans hFailed.2

/- A single request writes the labels, or does nothing. -/
theorem writes_once
    {reply : Except Cluster.Error Unit}
    {directory : Directory}
    (hDistinct : (labels.map Prod.fst).Nodup)
    (hAnswer :
      world.directory.answer (.patchLabels nodeName labels) =
        (reply, directory))
    (f : Cluster.Error → Error) :
    Writes nodeName labels world
      (world.afterQuery (.patchLabels nodeName labels))
      (reply.mapError f) := by
  have hDirectory :
      (world.afterQuery
        (.patchLabels nodeName labels)).directory = directory :=
    congrArg Prod.snd hAnswer
  have hEffect := Memory.Directory.relabelled_of_answer hDistinct
    hAnswer
  refine ⟨rfl, ?_⟩
  rw [hDirectory]
  cases reply with
  | ok _ => exact hEffect
  | error error => exact hEffect

/- A pause changes nothing but the time. -/
theorem run_pauseFor_bind
    (pause : Duration)
    (next : Unit → Program Host Error Unit)
    (world : World) :
    World.run ((pauseFor (some pause)).bind next) world =
      World.run (next ())
        { world with clock := world.clock + pause.pause } := by
  have hSleep :
      ∀ ticks,
        World.run
            ((Host.sleepTicks ticks : Program Host Error Unit).bind
              next) world =
          World.run (next ())
            { world with clock := world.clock + ticks } :=
    fun _ => rfl
  exact hSleep pause.pause

theorem writes_patch
    (hDistinct : (labels.map Prod.fst).Nodup)
    (backoff : Backoff)
    (nodeName : String)
    (attempt left : Nat)
    (world : World) :
    Writes nodeName labels world
      (World.run (patch backoff nodeName labels attempt left)
        world).2
      (World.run (patch backoff nodeName labels attempt left)
        world).1 := by
  induction left generalizing attempt world with
  | zero =>
      rw [patch, World.run_during, World.run_cluster]
      exact writes_once hDistinct rfl _
  | succ left ih =>
      rcases hAnswer :
          world.directory.answer (.patchLabels nodeName labels) with
        ⟨reply, directory⟩
      have hOnce :=
        writes_once hDistinct hAnswer fun _ => .pauseTooLong
      rw [patch]
      generalize backoff.delay? attempt = pause
      rw [Program.bind_eq, World.run_askCluster_bind, hAnswer]
      cases reply with
      | ok _ => exact hOnce
      | error error =>
          cases pause with
          | none => exact hOnce
          | some pause =>
              dsimp only
              rw [Program.bind_eq, run_pauseFor_bind]
              exact hOnce.after_failure (ih (attempt + 1) _)

end Writing

/-
  What a registration that went well leaves behind. The node
  is found by its labels where the topology was, if it has a
  zone and its limit is a number of 64 bits, and so it is found
  by those who do not keep a topology yet.
-/
structure Registered
    (settings : Settings)
    (info : Backend.InstanceInfo)
    (world after : World) : Prop where
  described :
    (world.backend.answer (.describe settings.nodeId)).1 = .ok info
  kept : after.topology = some (topology info)
  written :
    ∃ earlier later,
      Relabelled world.directory after.directory
          settings.nodeName (labels info) earlier later ∧
        (info.zone ≠ "" → info.volumeLimit < UInt64.size →
          Topology.ofLabels? later.node = some (topology info) ∧
            ∀ (replies : Replies) (past : Record),
              replies .knownTopology past = none →
                replies (.cluster (.getNode settings.nodeName))
                    (⟨.knownTopology, none⟩ :: past) =
                  .ok later.node →
                (replies.run (lookup settings) past).1 =
                  .ok (some (topology info)))

/- What a registration leaves behind in a world. -/
def Registers
    (settings : Settings)
    (world after : World) : Except Error Topology → Prop
  | .ok told =>
      ∃ info,
        told = topology info ∧ Registered settings info world after
  | .error _ =>
      after.topology = world.topology ∧
        after.directory.members = world.directory.members

/- Labels that tell a topology are found by a later lookup. -/
theorem lookup_of_labels
    {settings : Settings}
    {past : Record}
    {node : Cluster.Node}
    {told : Topology}
    (hKept : replies .knownTopology past = none)
    (hNode :
      replies (.cluster (.getNode settings.nodeName))
          (⟨.knownTopology, none⟩ :: past) =
        .ok node)
    (hLabels : Topology.ofLabels? node = some told) :
    (replies.run (lookup settings) past).1 = .ok (some told) := by
  rw [run_lookup, hKept]
  dsimp only
  rw [hNode]
  dsimp only
  rw [hLabels]

theorem registers
    (settings : Settings)
    (world : World) :
    Registers settings world
      (World.run (register settings) world).2
      (World.run (register settings) world).1 := by
  rcases hDescribe :
      world.backend.answer (.describe settings.nodeId) with
    ⟨reply, backend⟩
  let described := world.afterCall (.describe settings.nodeId)
  have hDescribed :
      World.run
          (during .backend "describe instance" settings.nodeId
            (Host.backend (.describe settings.nodeId)))
          world =
        (reply.mapError fun error =>
            .during "describe instance" settings.nodeId
              (.backend error),
          described) := by
    rw [World.run_during, World.run_backend, hDescribe]
  rw [register, Program.bind_eq]
  cases reply with
  | error error =>
      rw [World.run_bind_of_error hDescribed]
      exact ⟨rfl, rfl⟩
  | ok info =>
      rw [World.run_bind_of_ok hDescribed]
      have hWrites :=
        writes_patch (nodup_keys_labels info) settings.registration
          settings.nodeName 0 (settings.registration.steps - 1)
          described
      rcases hRun :
          World.run
            (patch settings.registration settings.nodeName
              (labels info) 0 (settings.registration.steps - 1))
            described with
        ⟨error | _, after⟩
      · rw [hRun] at hWrites
        rw [Program.bind_eq, World.run_bind_of_error hRun]
        exact hWrites
      · rw [hRun] at hWrites
        rw [Program.bind_eq, World.run_bind_of_ok hRun]
        rcases hWrites.2 with ⟨earlier, later, hRelabelled⟩
        refine ⟨info, rfl, congrArg Prod.fst hDescribe, rfl,
          earlier, later, hRelabelled, ?_⟩
        intro hZone hLimit
        have hLabels :=
          Topology.ofLabels?_of_labels hRelabelled.written hZone
            hLimit
        exact ⟨hLabels, fun replies past hKept hNode =>
          lookup_of_labels hKept hNode hLabels⟩

/-
  A registration describes its instance and writes its labels,
  which it tries again after each failure, but at most as often
  as the settings say. It goes well if and only if one of the
  attempts does, unless there is no pause of the length that is
  due before a further one. Only then a topology is kept, and
  it is the one that the labels tell, which replace no others.
-/
theorem registration_retries_and_decodes
    (settings : Settings) :
    (∀ (replies : Replies) (past : Record),
      (∀ error,
        replies (.backend (.describe settings.nodeId)) past =
            .error error →
          replies.run (register settings) past =
            (.error (.during "describe instance" settings.nodeId
                (.backend error)),
              ⟨.backend (.describe settings.nodeId),
                .error error⟩ :: past)) ∧
      ∀ info,
        replies (.backend (.describe settings.nodeId)) past =
            .ok info →
          ∃ later result,
            Attempted settings.registration settings.nodeName
                (labels info) 0 (settings.registration.steps - 1)
                later result ∧
              (patches later).length ≤
                max settings.registration.steps 1 ∧
              (result = .ok () ↔ .ok () ∈ patches later) ∧
              replies.run (register settings) past =
                let now :=
                  later ++
                    ⟨.backend (.describe settings.nodeId),
                      .ok info⟩ :: past
                match result with
                | .ok () =>
                    (.ok (topology info),
                      ⟨.keepTopology (topology info), ()⟩ :: now)
                | .error error => (.error error, now)) ∧
    ∀ world : World,
      Registers settings world
        (World.run (register settings) world).2
        (World.run (register settings) world).1 := by
  refine ⟨?_, registers settings⟩
  intro replies past
  refine ⟨fun _ => run_register_of_error, ?_⟩
  intro info hDescribe
  rcases run_register_of_ok hDescribe with
    ⟨later, result, hAttempted, hRun⟩
  refine ⟨later, result, hAttempted, ?_,
    hAttempted.ended.isOk_iff, hRun⟩
  have hLength := hAttempted.ended.length_le.2
  omega

/-
  Where there is no pause at first and a large factor, a third
  failure ends the registration in place of a fourth attempt,
  which would go well. Nothing times a factor that is out of
  range is no duration.
-/
theorem registration_breaks_down_in_pause :
    let settings : Settings :=
      { nodeId := "i-1"
        nodeName := "node-a"
        registration :=
          { initial := .seconds 0, factor := 1e200, steps := 4 } }
    let info : Backend.InstanceInfo :=
      { region := ""
        zone := "zone-a"
        instanceType := "small"
        diskTypes := []
        volumeLimit := 4 }
    let replies : Replies := fun request past =>
      match request with
      | .backend (.describe _) => .ok info
      | .cluster (.patchLabels _ _) =>
          if (patches past).length < 3 then .error (.failed "away")
          else .ok ()
      | request => (World.answer request {}).1
    let run := replies.run (register settings) []
    settings.validate.isOk = true ∧
      run.1 = .error .pauseTooLong ∧
      patches run.2 =
        [.error (.failed "away"), .error (.failed "away"),
          .error (.failed "away")] ∧
      replies
          (.cluster (.patchLabels settings.nodeName (labels info)))
          run.2 =
        .ok () ∧
      (patches run.2).length < max settings.registration.steps 1 := by
  intro settings info replies run
  exact ⟨by decide +kernel, by decide +kernel, by decide +kernel,
    by decide +kernel, by decide +kernel⟩

end Memory

end Registration

end Service

end BlockVolumes
