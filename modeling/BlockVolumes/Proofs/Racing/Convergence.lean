import BlockVolumes.Proofs.Creation.Attempts
import BlockVolumes.Proofs.Creation.Repeated
import BlockVolumes.Proofs.Program.Group
import BlockVolumes.Proofs.Racing.Creators
import Mathlib.Data.Fintype.EquivFin

/-
  How a race of calls that create the same volume ends. Some
  copy is there as soon as one was created, and a further call
  that meets no failure leaves exactly one.

  Key definitions include:
    * `Racing.Calm`

  Key theorems include:
    * `Racing.resolve_succeeds`
    * `Racing.create_succeeds`
    * `Racing.race_converges`
-/

namespace BlockVolumes

namespace Racing

open Program (Succeeds)
open Service (Duplicates.Young Duplicates.without)

variable {settings : Settings}
variable {name : String}
variable {size : Nat}
variable {stock : Stock}

------------------------------------------------------------
-- Without Failures
------------------------------------------------------------

/-
  Whether a reply is no failure. Where the zone for a volume
  has to be found, there is a node in some zone.
-/
def Fine :
    (request : Host.Request) → Host.Reply request → Prop
  | .backend _, reply => ∃ result, reply = .ok result
  | .cluster (.listNodes _), reply =>
      ∃ nodes, reply = .ok nodes ∧ Service.Zones.ofNodes nodes ≠ []
  | .cluster _, reply => ∃ result, reply = .ok result
  | _, _ => True

/- The replies to requests of which none fails. -/
def Calm
    (settings : Settings)
    (request : Host.Request)
    (stock : Stock)
    (reply : Host.Reply request)
    (after : Stock) : Prop :=
  Answers settings request stock reply after ∧ Fine request reply

/- There is always an identifier and a time left. -/
theorem exists_new
    (stock : Stock) :
    ∃ id createdAt, stock.IsNew id createdAt := by
  rcases Infinite.exists_notMem_finset
    ((stock.disks ++ stock.created).map (·.id)).toFinset with
    ⟨id, hId⟩
  rcases Infinite.exists_notMem_finset
    (stock.created.map (·.createdAt)).toFinset with
    ⟨createdAt, hTime⟩
  rw [List.mem_toFinset, List.mem_map, not_exists] at hId hTime
  refine ⟨id, createdAt, fun disk hDisk hSame => ?_,
    fun disk hDisk => ⟨fun hSame => ?_, fun hSame => ?_⟩⟩
  · exact hId disk ⟨List.mem_append_left _ hDisk, hSame⟩
  · exact hId disk ⟨List.mem_append_right _ hDisk, hSame⟩
  · exact hTime disk ⟨hDisk, hSame⟩

/- There is a time at which all volumes are young. -/
theorem exists_clock
    (window : Duration)
    (disks : List Disk) :
    ∃ clock, ∀ disk ∈ disks, Duplicates.Young window clock disk := by
  induction disks with
  | nil => exact ⟨0, fun disk hDisk => nomatch hDisk⟩
  | cons first disks ih =>
      rcases ih with ⟨clock, hClock⟩
      refine ⟨min clock (first.createdAt - 1),
        fun disk hDisk => ?_⟩
      unfold Service.Duplicates.Young at hClock ⊢
      rcases List.mem_cons.mp hDisk with rfl | hMem
      · omega
      · have hBefore := hClock disk hMem
        omega

/- There are nodes in some zone. -/
theorem exists_nodes :
    ∃ nodes, Service.Zones.ofNodes nodes ≠ [] :=
  ⟨[⟨"node", none, [(Cluster.zoneKey, "zone")], true⟩],
    by decide⟩

------------------------------------------------------------
-- One Call Alone
------------------------------------------------------------

theorem find_succeeds
    (name : String) :
    Succeeds (Calm settings)
      (fun disks now =>
        now = stock ∧ disks.Perm (stock.named name))
      (Host.backend (.find name)) stock := by
  refine Succeeds.ask ?_ ?_
  · refine ⟨.ok (stock.named name), stock, ⟨rfl, ?_⟩, _, rfl⟩
    rintro disks ⟨⟩
    exact List.Perm.refl _
  · rintro reply after ⟨⟨rfl, hFound⟩, disks, rfl⟩
    exact Succeeds.done ⟨rfl, hFound disks rfl⟩

/- All volumes to be removed are gone. -/
theorem removeAll_succeeds
    (removed : List Disk) :
    Succeeds (Calm settings)
      (fun _ now =>
        now.disks = Duplicates.without removed stock.disks)
      (Service.Duplicates.removeAll removed) stock := by
  induction removed generalizing stock with
  | nil =>
      refine Succeeds.done ?_
      simp [Service.Duplicates.without]
  | cons disk removed ih =>
      refine Succeeds.ask ?_ ?_
      · exact ⟨.ok (), stock.remove disk.id, Or.inl rfl, _, rfl⟩
      · rintro reply after ⟨hAnswer, ⟨⟩, rfl⟩
        rcases hAnswer with rfl | ⟨_, hFailed⟩
        · rw [Service.Duplicates.without_cons]
          exact @ih (stock.remove disk.id)
        · exact absurd rfl hFailed

/- The oldest of several copies stays, and no other. -/
theorem resolve_succeeds
    (hSound : Sound settings name size stock)
    {disks : List Disk}
    (hPerm : disks.Perm (stock.named name))
    (hSome : disks ≠ []) :
    Succeeds (Calm settings)
      (fun keep now =>
        IsCopy settings name size keep ∧ now.named name = [keep])
      (Service.Duplicates.resolve settings name size disks)
      stock := by
  rcases found_of_sound hSound hPerm with ⟨hDisks, hNodup, _⟩
  refine Succeeds.ask ?_ ?_
  · rcases exists_clock settings.duplicateWindow stock.created with
      ⟨clock, hClock⟩
    exact ⟨clock, stock, ⟨rfl, hClock⟩, trivial⟩
  · rintro clock after ⟨⟨rfl, hClock⟩, _⟩
    rcases plan_of_copies hSound hDisks hNodup hSome hClock with
      ⟨plan, hPlan, _⟩
    have hParts := Service.Duplicates.perm_of_plan hPlan
    have hKeep : plan.keep ∈ disks :=
      hParts.mem_iff.mp (List.mem_cons_self ..)
    have hOnly :
        Service.Duplicates.without plan.remove
          (after.named name) = [plan.keep] :=
      Service.Duplicates.without_eq_singleton
        (hParts.trans hPerm) ((hPerm.map _).nodup_iff.mp hNodup)
    change Succeeds _ _
      (Program.bind (Program.ofExcept
        (Service.Duplicates.plan settings name size clock disks)) _)
      after
    rw [hPlan]
    dsimp only [Program.ofExcept_ok, Program.done_bind]
    refine Succeeds.bind (removeAll_succeeds plan.remove)
      fun _ now hNow => Succeeds.done ?_
    refine ⟨hSound.copies _ (hDisks _ hKeep), ?_⟩
    rw [← hOnly, Stock.named, hNow, Service.Duplicates.without,
      List.filter_comm]
    rfl

/- A copy is what a call takes for its own. -/
theorem accept_of_copy
    {disk : Disk}
    (h : IsCopy settings name size disk) :
    Service.Creation.accept name size disk = .ok disk := by
  refine Service.Creation.accept_eq_ok.mpr ⟨rfl, ?_, h.sized⟩
  rw [h.available]
  exact nofun

/- A copy is found, unless there is none. -/
theorem findExisting_succeeds
    (hSound : Sound settings name size stock) :
    Succeeds (Calm settings)
      (fun found now =>
        match found with
        | some disk => now.named name = [disk]
        | none => now = stock ∧ stock.named name = [])
      (Service.Creation.findExisting settings name size)
      stock := by
  unfold Service.Creation.findExisting
  refine Succeeds.bind
    (Succeeds.mapError (Succeeds.mapError (find_succeeds name)))
    fun disks now hFound => ?_
  rcases hFound with ⟨rfl, hPerm⟩
  rcases found_of_sound hSound hPerm with
    ⟨hDisks, hNodup, hAll⟩
  rw [hAll]
  split
  · exact Succeeds.done ⟨rfl, hPerm.nil_eq.symm⟩
  · next disk =>
      have hCopy :=
        hSound.copies disk (hDisks disk (List.mem_cons_self ..))
      rw [accept_of_copy hCopy]
      exact Succeeds.done hPerm.singleton_eq.symm
  · next hSome _ =>
      refine Succeeds.bind
        (Succeeds.mapError (resolve_succeeds hSound hPerm hSome))
        fun keep later hKeep => ?_
      rcases hKeep with ⟨hCopy, hOnly⟩
      rw [accept_of_copy hCopy]
      exact Succeeds.done hOnly

theorem next_succeeds
    (role storageClass : String) :
    Succeeds (Calm settings) (fun _ now => now = stock)
      (Service.Zones.next role storageClass) stock := by
  refine Succeeds.ask ?_ ?_
  · rcases exists_nodes with ⟨nodes, hNodes⟩
    exact ⟨.ok nodes, stock, rfl, nodes, rfl, hNodes⟩
  · rintro reply after ⟨rfl, nodes, rfl, hNodes⟩
    change Succeeds _ _
      (if (Service.Zones.ofNodes nodes).isEmpty then _ else _) _
    rw [if_neg (by simpa using hNodes)]
    refine Succeeds.ask ?_ ?_
    · exact ⟨(0 : UInt64), after, rfl, trivial⟩
    · rintro turn later ⟨rfl, _⟩
      exact Succeeds.done rfl

theorem choose_succeeds
    (role : String)
    (parameters : Parameters)
    (requirement : Option Csi.TopologyRequirement) :
    Succeeds (Calm settings) (fun _ now => now = stock)
      (Service.Zones.choose role parameters requirement) stock := by
  unfold Service.Zones.choose
  split
  · exact Succeeds.done rfl
  · exact Succeeds.done rfl
  · exact next_succeeds role parameters.classKey

/- The first type is created. -/
theorem tryTypes_succeeds
    (specOf : String → Backend.CreateSpec)
    (last : Backend.Error)
    {diskTypes : List String}
    (hTypes : diskTypes ≠ []) :
    Succeeds (Calm settings)
      (fun made now =>
        ∃ createdAt,
          now = stock.add (newDisk (specOf made.2) made.1 createdAt))
      (Service.Creation.tryTypes specOf last diskTypes) stock := by
  cases diskTypes with
  | nil => exact absurd rfl hTypes
  | cons diskType diskTypes =>
      refine Succeeds.ask ?_ ?_
      · rcases exists_new stock with ⟨id, createdAt, hNew⟩
        exact ⟨.ok id, _, ⟨id, createdAt, hNew, rfl, rfl⟩, id, rfl⟩
      · rintro reply after ⟨⟨id, createdAt, _, rfl, rfl⟩, _⟩
        exact Succeeds.done ⟨createdAt, rfl⟩

variable {order : Service.Creation.Order}

/- A new volume is the only one of its name. -/
theorem named_add
    {disk : Disk}
    (hName : disk.name = name)
    (hNone : stock.named name = []) :
    (stock.add disk).named name = [disk] := by
  have hSame : (disk.name == name) = true := by
    rw [hName]
    exact beq_self_eq_true name
  rw [Stock.named, Stock.add, List.filter_cons, if_pos hSame]
  exact congrArg _ hNone

theorem create_succeeds
    {request : Csi.CreateVolume.Request}
    (hSound : Sound settings name order.size stock)
    (hName : request.name = name)
    (hOrder :
      Service.Creation.readOrder settings request = .ok order) :
    Succeeds (Calm settings)
      (fun volume now =>
        ∃ disk,
          volume = Service.describeDisk settings disk ∧
            now.named name = [disk])
      (Service.Creation.create settings request) stock := by
  have hTypes :=
    Parameters.diskTypes_ne_nil_of_parse
      (Service.Creation.parse_of_readOrder hOrder)
  unfold Service.Creation.create
  rw [hOrder, hName]
  dsimp only [Service.checked, Program.bind_eq, Program.done_bind]
  refine Succeeds.bind (findExisting_succeeds hSound)
    fun found now hFound => ?_
  cases found with
  | some disk => exact Succeeds.done ⟨disk, rfl, hFound⟩
  | none =>
      rcases hFound with ⟨rfl, hNone⟩
      refine Succeeds.bind
        (Succeeds.mapError (choose_succeeds _ _ _))
        fun zone later hLater => ?_
      rw [hLater]
      refine Succeeds.bind
        (Succeeds.mapError (Succeeds.mapError
          (tryTypes_succeeds _ _ hTypes)))
        fun made last hMade => ?_
      rcases hMade with ⟨createdAt, rfl⟩
      exact Succeeds.done ⟨_, rfl, named_add rfl hNone⟩

------------------------------------------------------------
-- The Race
------------------------------------------------------------

/- Before the race there are no copies at all. -/
theorem sound_of_none
    {disks : List Disk}
    (hNone : ∀ disk ∈ disks, disk.name ≠ name)
    (hNodup : (disks.map (·.id)).Nodup) :
    Sound settings name size ⟨disks, []⟩ := by
  constructor
  · exact fun disk hDisk => nomatch hDisk
  · exact fun disk hDisk => nomatch hDisk
  · exact fun disk hDisk => nomatch hDisk
  · intro disk hDisk
    rcases List.mem_filter.mp hDisk with ⟨hMem, hName⟩
    exact absurd (by simpa using hName) (hNone disk hMem)
  · exact hNodup
  · exact fun disk hDisk => nomatch hDisk

theorem sound_of_race
    {messages : List Csi.CreateVolume.Message}
    {programs : List (Program Host Rpc.Status Csi.Controller.Answer)}
    {after : Stock}
    (hMessages :
      ∀ message ∈ messages, Orders settings name order message)
    (hSound : Sound settings name order.size stock)
    (hReach :
      Program.Group.Reaches (Answers settings)
        (messages.map fun message =>
          (Service.provisioner settings).serve (.create message),
          stock)
        (programs, after)) :
    Sound settings name order.size after := by
  have hKeeps :
      ∀ program ∈ messages.map fun message =>
          (Service.provisioner settings).serve (.create message),
        program.Keeps (around settings name order.size)
          (Allowed settings name order.size) (fun _ _ => True)
          stock := by
    intro program hProgram
    rcases List.mem_map.mp hProgram with ⟨message, hMessage, rfl⟩
    exact plays_serve (hMessages message hMessage) hSound
  have hKept :=
    Program.Group.keeps_of_reaches drifts_of_answer hKeeps hReach
  exact hKept.2.1 hSound

/-
  However the requests of calls for one volume interleave, a
  copy is there from the first creation on. A further call that
  meets no failure, once the others have ended or while they
  rest, leaves exactly the one volume that it answers with.
-/
theorem race_converges
    {messages : List Csi.CreateVolume.Message}
    {disks : List Disk}
    {programs : List (Program Host Rpc.Status Csi.Controller.Answer)}
    {after : Stock}
    (hMessages :
      ∀ message ∈ messages, Orders settings name order message)
    (hNone : ∀ disk ∈ disks, disk.name ≠ name)
    (hNodup : (disks.map (·.id)).Nodup)
    (hReach :
      Program.Group.Reaches (Answers settings)
        (messages.map fun message =>
          (Service.provisioner settings).serve (.create message),
          ⟨disks, []⟩)
        (programs, after)) :
    (after.created ≠ [] →
      ∃ disk ∈ after.disks, disk.name = name) ∧
    ∀ message, Orders settings name order message →
      Succeeds (Calm settings)
        (fun answer now =>
          ∃ disk,
            answer =
                .created
                  (Service.describeDisk settings disk).toMessage ∧
              now.named name = [disk])
        ((Service.provisioner settings).serve (.create message))
        after := by
  have hSound : Sound settings name order.size after :=
    sound_of_race hMessages (sound_of_none hNone hNodup) hReach
  refine ⟨hSound.exists_named, fun message hMessage => ?_⟩
  rcases hMessage with ⟨request, hRead, hName, hOrder⟩
  rw [Csi.Controller.serve, hRead]
  refine Succeeds.bind
    (Succeeds.mapError (create_succeeds hSound hName hOrder))
    fun volume now hVolume => ?_
  rcases hVolume with ⟨disk, rfl, hOnly⟩
  exact Succeeds.done ⟨disk, rfl, hOnly⟩

/-
  Two calls find no volume before either of them creates one,
  and a further call finds two.
-/
theorem race_converges_two_copies :
    let message : Csi.CreateVolume.Message :=
      { name := "pvc-1"
        range := some { required := 10 * Capacity.gib }
        capabilities := [⟨some 1, some (.mount "ext4" [])⟩]
        parameters := [("type", "cloud_ssd"), ("zone", "zone-a")] }
    let copy (id : String) (createdAt : Int) : Disk :=
      ⟨id, "pvc-1", 10, .available, "cloud_ssd", "zone-a", [],
        createdAt, [(Disk.creatorTag, ({} : Settings).name)]⟩
    let after : Stock :=
      ⟨[copy "vol-2" 3, copy "vol-1" 5],
        [copy "vol-2" 3, copy "vol-1" 5]⟩
    (∃ disk ∈ after.disks, disk.name = "pvc-1") ∧
      Succeeds (Calm {})
        (fun answer now =>
          ∃ disk,
            answer =
                .created (Service.describeDisk {} disk).toMessage ∧
              now.named "pvc-1" = [disk])
        ((Service.provisioner {}).serve (.create message)) after := by
  intro message copy after
  have hOrders : ∃ order, Orders {} "pvc-1" order message :=
    ⟨_, _, rfl, rfl, rfl⟩
  rcases hOrders with ⟨order, hMessage⟩
  have hMessages :
      ∀ other ∈ [message, message], Orders {} "pvc-1" order other := by
    intro other hOther
    have hSame : other = message := by simpa using hOther
    rw [hSame]
    exact hMessage
  have hReach :
      ∃ programs,
        Program.Group.Reaches (Answers {})
          ([message, message].map fun message =>
            (Service.provisioner {}).serve (.create message),
            ⟨[], []⟩)
          (programs, after) := by
    apply Exists.intro
    refine .head (.of_reply 0 (Except.ok []) rfl ⟨rfl, ?_⟩) ?_
    · rintro disks ⟨⟩
      exact List.Perm.refl _
    refine .head (.of_reply 1 (Except.ok []) rfl ⟨rfl, ?_⟩) ?_
    · rintro disks ⟨⟩
      exact List.Perm.refl _
    refine .head (.of_reply 0 (Except.ok "vol-1") rfl
      ⟨"vol-1", 5, ?_, rfl, rfl⟩) ?_
    · exact ⟨by decide, by decide⟩
    refine .head (.of_reply 1 (Except.ok "vol-2") rfl
      ⟨"vol-2", 3, ?_, rfl, rfl⟩) ?_
    · exact ⟨by decide, by decide⟩
    exact .refl
  rcases hReach with ⟨programs, hReach⟩
  rcases race_converges hMessages (by simp) (by simp) hReach with
    ⟨hThere, hFurther⟩
  exact ⟨hThere (List.cons_ne_nil _ _), hFurther message hMessage⟩

end Racing

end BlockVolumes
