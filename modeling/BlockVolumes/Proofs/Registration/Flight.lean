import BlockVolumes.Proofs.Registration.Site
import BlockVolumes.Proofs.Transitions.Record

/-
  At most one registration is under way at a time, and another
  one can be started after it has ended. Calls launch only what
  they have claimed, and a registration gives its claim back
  with its last request.

  Key definitions include:
    * `Service.Registration.Modest`
    * `Service.Registration.Releasing`
    * `Service.Registration.Consistent`

  Key theorems include:
    * `Service.Registration.modest_info`
    * `Service.Registration.releasing_task`
    * `Service.Registration.Consistent.step`
    * `Service.Registration.Consistent.reach`
    * `Service.Registration.registration_single_flight`
-/

namespace BlockVolumes

namespace Service

namespace Registration

variable {ε α β : Type}

------------------------------------------------------------
-- Calls
------------------------------------------------------------

/- Whether a request is a claim that is met. -/
def isMet :
    (request : Host.Request) → Host.Reply request → Bool
  | .claimRegistration, met => met
  | _, _ => false

theorem isMet_of_other
    {request : Host.Request}
    (h : request ≠ .claimRegistration)
    (reply : Host.Reply request) :
    isMet request reply = false := by
  cases request with
  | claimRegistration => exact absurd rfl h
  | _ => rfl

theorem launches_of_other
    {request : Host.Request}
    {next : Host.Reply request → Program Host ε α}
    (h : request ≠ .launchRegistration) :
    launches (.ask (I := Host) request next) = false := by
  cases request with
  | launchRegistration => exact absurd rfl h
  | _ => rfl

/-
  Whether a program launches a registration right after each
  claim that is met and at no other time, and never gives back
  a claim.
-/
def Modest :
    Program Host ε α → Prop
  | .done _ => True
  | .failed _ => True
  | .ask request next =>
      request ≠ .endRegistration ∧
        ∀ reply,
          launches (next reply) = isMet request reply ∧
            Modest (next reply)

/- A lookup that found nothing is followed by a claim. -/
theorem modest_afterLookup
    (settings : Settings)
    (found : Except Error (Option Topology)) :
    Modest (NodeAgent.afterLookup settings found) := by
  rcases found with error | _ | topology
  · trivial
  · refine ⟨nofun, fun met => ?_⟩
    cases met with
    | false => exact ⟨rfl, trivial⟩
    | true => exact ⟨rfl, nofun, fun _ => ⟨rfl, trivial⟩⟩
  · trivial

/- The labels of a node are kept, if they say where it is. -/
def keepLabelled :
    Option Topology → Program Host Error (Option Topology)
  | some topology => do
      Host.keepTopology topology
      return some topology
  | none => return none

/- A call looks up, keeps what it finds, and then maybe claims. -/
theorem modest_info
    (settings : Settings) :
    Modest (NodeAgent.info settings) := by
  rw [NodeAgent.info_eq]
  have hEnd := modest_afterLookup settings
  have hQuiet :
      ∀ found,
        launches (NodeAgent.afterLookup settings found) = false := by
    rintro (error | _ | topology) <;> rfl
  have hKept :
      ∀ labelled,
        let rest :=
          (keepLabelled labelled).attempt.bind
            (NodeAgent.afterLookup settings)
        launches rest = false ∧ Modest rest := by
    intro labelled
    cases labelled with
    | none => exact ⟨hQuiet _, hEnd _⟩
    | some topology => exact ⟨rfl, nofun, fun _ => ⟨rfl, trivial⟩⟩
  refine ⟨nofun, fun known => ?_⟩
  cases known with
  | some topology => exact ⟨hQuiet _, hEnd _⟩
  | none =>
      refine ⟨rfl, nofun, fun reply => ?_⟩
      cases reply with
      | error error => exact ⟨hQuiet _, hEnd _⟩
      | ok node => exact hKept (Topology.ofLabels? node)

------------------------------------------------------------
-- Registrations
------------------------------------------------------------

/- Whether a program has ended well. -/
def hasEnded :
    Program Host ε α → Bool
  | .done _ => true
  | _ => false

/- A program goes on, has ended well or has failed. -/
theorem one_progress
    (program : Program Host ε α) :
    (asks program).toNat + (hasFailed program).toNat +
        (hasEnded program).toNat =
      1 := by
  cases program <;> rfl

/-
  Whether a program claims nothing, and it ends well right
  after it has given a claim back and at no other time.
-/
def Releasing :
    Program Host ε α → Prop
  | .done _ => True
  | .failed _ => True
  | .ask request next =>
      request ≠ .claimRegistration ∧
        ∀ reply,
          (hasEnded (next reply) = true ↔
              request = .endRegistration) ∧
            Releasing (next reply)

/- A request that has nothing to do with claims. -/
def IsNeutral
    (request : Host.Request) : Prop :=
  request ≠ .claimRegistration ∧ request ≠ .endRegistration

/-
  What is only attempted may end in any way, if what follows
  gives the claim back.
-/
theorem releasing_attempt_bind
    {program : Program Host ε α}
    {next : Except ε α → Program Host Error Unit}
    {past : Host.Record}
    (hProgram :
      Host.Observes (fun request _ => IsNeutral request)
        (fun _ _ => True) program past)
    (hEnded : ∀ result, hasEnded (next result) = false)
    (hNext : ∀ result, Releasing (next result)) :
    Releasing (program.attempt.bind next) := by
  induction program generalizing past with
  | done a => exact hNext (.ok a)
  | failed e => exact hNext (.error e)
  | ask request rest ih =>
      rcases Host.Observes.ask_iff.mp hProgram with
        ⟨hNeutral, hRest⟩
      refine ⟨hNeutral.1, fun reply => ⟨?_, ih reply (hRest reply)⟩⟩
      have hGoesOn :
          hasEnded ((rest reply).attempt.bind next) = false := by
        cases rest reply with
        | done a => exact hEnded (.ok a)
        | failed e => exact hEnded (.error e)
        | ask request more => rfl
      rw [hGoesOn]
      exact ⟨nofun, fun hEnd => absurd hEnd hNeutral.2⟩

variable {past : Host.Record}

theorem pauseFor_observes
    (pause : Option Duration) :
    Host.Observes (fun request _ => IsNeutral request)
      (fun _ _ => True) (pauseFor pause) past := by
  cases pause with
  | none => exact Host.Observes.failed
  | some pause =>
      exact Host.Observes.ask_iff.mpr
        ⟨⟨nofun, nofun⟩, fun _ =>
          Host.Observes.done_iff.mpr trivial⟩

/- Writing labels has nothing to do with claims. -/
theorem patch_observes
    (backoff : Backoff)
    (nodeName : String)
    (labels : Dictionary)
    (attempt left : Nat) :
    Host.Observes (fun request _ => IsNeutral request)
      (fun _ _ => True)
      (patch backoff nodeName labels attempt left) past := by
  induction left generalizing attempt past with
  | zero =>
      refine Host.Observes.mapError (Host.Observes.ask_iff.mpr
        ⟨⟨nofun, nofun⟩, fun reply => ?_⟩)
      exact (Host.Observes.ofExcept reply).mono fun _ _ _ => trivial
  | succ left ih =>
      have hAsk :
          Host.Observes (fun request _ => IsNeutral request)
            (fun _ _ => True)
            (Host.askCluster (.patchLabels nodeName labels) :
              Program Host Error _)
            past :=
        Host.Observes.ask_iff.mpr
          ⟨⟨nofun, nofun⟩, fun _ => Host.Observes.done_iff.mpr trivial⟩
      rw [patch]
      refine hAsk.bind fun reply now _ => ?_
      cases reply with
      | ok _ => exact Host.Observes.done_iff.mpr trivial
      | error error =>
          exact (pauseFor_observes _).bind
            fun _ _ _ => ih (attempt + 1)

theorem register_observes
    (settings : Settings) :
    Host.Observes (fun request _ => IsNeutral request)
      (fun _ _ => True) (register settings) past := by
  have hDescribe :
      Host.Observes (fun request _ => IsNeutral request)
        (fun _ _ => True)
        (Host.backend (.describe settings.nodeId)) past := by
    refine Host.Observes.ask_iff.mpr
      ⟨⟨nofun, nofun⟩, fun reply => ?_⟩
    exact (Host.Observes.ofExcept reply).mono fun _ _ _ => trivial
  refine (Host.Observes.mapError hDescribe).bind
    fun info now _ => ?_
  refine (patch_observes _ _ _ _ _).bind fun _ now _ => ?_
  exact Host.Observes.ask_iff.mpr
    ⟨⟨nofun, nofun⟩, fun _ => Host.Observes.done_iff.mpr trivial⟩

/- A registration gives its claim back if it does not break down. -/
theorem releasing_task
    (settings : Settings) :
    Releasing (task settings) := by
  have hRegister :
      Host.Observes (fun request _ => IsNeutral request)
        (fun _ _ => True) (register settings) [] :=
    register_observes settings
  refine releasing_attempt_bind hRegister ?_ ?_
  · rintro (error | topology)
    · cases error <;> rfl
    · rfl
  · have hEnd :
        Releasing (Host.endRegistration : Program Host Error Unit) :=
      ⟨nofun, fun _ => ⟨⟨fun _ => rfl, fun _ => rfl⟩, trivial⟩⟩
    rintro (error | topology)
    · cases error <;> first | exact hEnd | trivial
    · exact hEnd

------------------------------------------------------------
-- Counting
------------------------------------------------------------

/- One entry is counted anew when it is replaced. -/
theorem countP_set
    {entries : List α}
    {index : Nat}
    {old : α}
    (p : α → Bool)
    (new : α)
    (hOld : entries[index]? = some old) :
    (entries.set index new).countP p + (p old).toNat =
      entries.countP p + (p new).toNat := by
  induction entries generalizing index with
  | nil => exact nomatch hOld
  | cons entry entries ih =>
      cases index with
      | zero =>
          have hSame : entry = old := Option.some.inj hOld
          subst hSame
          cases h : p entry <;> cases h' : p new <;>
            simp [h, h']
      | succ index =>
          have hRest := ih hOld
          rw [List.set_cons_succ, List.countP_cons, List.countP_cons]
          omega

------------------------------------------------------------
-- The Invariant
------------------------------------------------------------

/-
  What holds of a node at any time: all calls and registrations
  are as they should be, and there is a claim exactly while
  there is a registration for it, which is going to be launched,
  is running or has broken down.
-/
structure Consistent
    (site : Site) : Prop where
  modest : ∀ call ∈ site.calls, Modest call
  releasing : ∀ task ∈ site.tasks, Releasing task
  claimed :
    site.starting + site.running + site.broken =
      site.shared.registering.toNat

namespace Consistent

variable {settings : Settings}
variable {index : Nat}
variable {before after site : Site}

theorem start
    (topology : Option Topology) :
    Consistent (Site.start topology) :=
  ⟨nofun, nofun, rfl⟩

/-
  A claim is met where there was none, and then one more call
  is going to launch. No other turn of a call but a launch has
  to do with claims.
-/
theorem callReply
    {request : Host.Request}
    {next : Host.Reply request →
      Program Host Csi.NodeInfo.Error Csi.NodeInfo}
    {reply : Host.Reply request}
    {now : Shared}
    (h : Consistent site)
    (hTurn :
      site.calls[index]? = some (.ask (I := Host) request next))
    (hOther : request ≠ .launchRegistration)
    (hAnswer : Shared.Answers request site.shared reply now) :
    Consistent
      { site with
        calls := site.calls.set index (next reply)
        shared := now } := by
  have hModest : Modest (.ask (I := Host) request next) :=
    h.modest _ (List.mem_of_getElem? hTurn)
  rcases hModest with ⟨hEnd, hNext⟩
  rcases hNext reply with ⟨hLaunches, hRest⟩
  refine ⟨fun call hCall => ?_, h.releasing, ?_⟩
  · rcases List.mem_or_eq_of_mem_set hCall with hOld | rfl
    · exact h.modest call hOld
    · exact hRest
  · have hCount :
        (site.calls.set index (next reply)).countP launches =
          site.starting + (isMet request reply).toNat := by
      have hSet := countP_set launches (next reply) hTurn
      rw [launches_of_other hOther, hLaunches] at hSet
      exact hSet
    have hClaimed := h.claimed
    change
      (site.calls.set index (next reply)).countP launches +
          site.running + site.broken =
        now.registering.toNat
    rw [hCount]
    by_cases hClaim : request = .claimRegistration
    · subst hClaim
      rcases hAnswer with ⟨hMet, rfl⟩
      rw [isMet, hMet]
      cases hFlag : site.shared.registering with
      | false =>
          rw [hFlag] at hClaimed
          simp only [Bool.toNat_false, Bool.not_false,
            Bool.toNat_true] at *
          omega
      | true =>
          rw [hFlag] at hClaimed
          simp only [Bool.toNat_false, Bool.not_true,
            Bool.toNat_true] at *
          omega
    · rw [isMet_of_other hClaim,
        Shared.registering_of_answers hClaim hEnd hAnswer,
        ← hClaimed, Bool.toNat_false]
      omega

/- A launch turns a claim into a registration that is running. -/
theorem launch
    {next : Unit → Program Host Csi.NodeInfo.Error Csi.NodeInfo}
    (h : Consistent site)
    (hTurn :
      site.calls[index]? =
        some (.ask (I := Host) .launchRegistration next)) :
    Consistent
      { site with
        calls := site.calls.set index (next ())
        tasks := site.tasks ++ [task settings] } := by
  have hModest :
      Modest (.ask (I := Host) .launchRegistration next) :=
    h.modest _ (List.mem_of_getElem? hTurn)
  rcases hModest.2 () with ⟨hLaunches, hRest⟩
  refine ⟨fun call hCall => ?_, fun other hOther => ?_, ?_⟩
  · rcases List.mem_or_eq_of_mem_set hCall with hOld | rfl
    · exact h.modest call hOld
    · exact hRest
  · rcases List.mem_append.mp hOther with hOld | hNew
    · exact h.releasing other hOld
    · rw [List.mem_singleton.mp hNew]
      exact releasing_task settings
  · have hCount :
        (site.calls.set index (next ())).countP launches + 1 =
          site.starting := by
      have hSet := countP_set launches (next ()) hTurn
      rw [hLaunches] at hSet
      exact hSet
    have hRunning :
        (site.tasks ++ [task settings]).countP asks =
          site.running + 1 := by
      rw [List.countP_append]
      rfl
    have hBroken :
        (site.tasks ++ [task settings]).countP hasFailed =
          site.broken := by
      rw [List.countP_append]
      rfl
    have hClaimed := h.claimed
    change
      (site.calls.set index (next ())).countP launches +
          (site.tasks ++ [task settings]).countP asks +
          (site.tasks ++ [task settings]).countP hasFailed =
        site.shared.registering.toNat
    rw [hRunning, hBroken]
    omega

theorem callTurn
    (h : Consistent before)
    (hTurn : Site.CallTurn settings index before after) :
    Consistent after := by
  cases hTurn with
  | reply hTurn hOther hAnswer =>
      exact h.callReply hTurn hOther hAnswer
  | launch hTurn => exact h.launch hTurn

/-
  A registration that goes on keeps its claim, also when it
  breaks down. It gives the claim back when it ends well.
-/
theorem taskTurn
    (h : Consistent before)
    (hTurn : Site.TaskTurn index before after) :
    Consistent after := by
  rcases hTurn with @⟨request, next, reply, now, hTurn, hAnswer⟩
  have hReleasing : Releasing (.ask (I := Host) request next) :=
    h.releasing _ (List.mem_of_getElem? hTurn)
  rcases hReleasing with ⟨hClaim, hNext⟩
  rcases hNext reply with ⟨hEnded, hRest⟩
  refine ⟨h.modest, fun other hOther => ?_, ?_⟩
  · rcases List.mem_or_eq_of_mem_set hOther with hOld | rfl
    · exact h.releasing other hOld
    · exact hRest
  · have hRunning :
        (before.tasks.set index (next reply)).countP asks + 1 =
          before.running + (asks (next reply)).toNat :=
      countP_set asks (next reply) hTurn
    have hBroken :
        (before.tasks.set index (next reply)).countP hasFailed =
          before.broken + (hasFailed (next reply)).toNat :=
      countP_set hasFailed (next reply) hTurn
    have hOne := one_progress (next reply)
    have hClaimed := h.claimed
    change
      before.starting +
          (before.tasks.set index (next reply)).countP asks +
          (before.tasks.set index (next reply)).countP hasFailed =
        now.registering.toNat
    by_cases hEnd : request = .endRegistration
    · have hFree : now.registering = false := by
        subst hEnd
        have hAfter :
            now = { before.shared with registering := false } :=
          hAnswer
        rw [hAfter]
      have hAtMost := Bool.toNat_le before.shared.registering
      rw [hEnded.mpr hEnd, Bool.toNat_true] at hOne
      rw [hFree, Bool.toNat_false]
      omega
    · have hGoesOn : hasEnded (next reply) = false :=
        Bool.eq_false_iff.mpr fun hDone => hEnd (hEnded.mp hDone)
      rw [hGoesOn, Bool.toNat_false] at hOne
      rw [Shared.registering_of_answers hClaim hEnd hAnswer]
      omega

theorem step
    {places : Nat → Prop}
    (h : Consistent before)
    (hStep : Site.Step settings places before after) :
    Consistent after := by
  cases hStep with
  | arrive =>
      refine ⟨fun call hCall => ?_, h.releasing, ?_⟩
      · rcases List.mem_append.mp hCall with hOld | hNew
        · exact h.modest call hOld
        · rw [List.mem_singleton.mp hNew]
          exact modest_info settings
      · have hStarting :
            (before.calls ++ [NodeAgent.info settings]).countP
                launches =
              before.starting := by
          rw [List.countP_append]
          rfl
        have hClaimed := h.claimed
        change
          (before.calls ++ [NodeAgent.info settings]).countP
              launches +
            before.running + before.broken =
              before.shared.registering.toNat
        rw [hStarting]
        exact hClaimed
  | call index _ hTurn => exact h.callTurn hTurn
  | task index hTurn => exact h.taskTurn hTurn

theorem reach
    (h : Consistent before)
    (hReach : Site.Reaches settings before after) :
    Consistent after := by
  induction hReach with
  | refl => exact h
  | tail _ hStep ih => exact ih.step hStep

end Consistent

------------------------------------------------------------
-- One Registration at a Time
------------------------------------------------------------

variable {settings : Settings}
variable {index : Nat}

/-
  A call whose lookup found nothing has one possible turn: it
  puts a claim, which is met while there is none.
-/
theorem claimTurn_iff
    {site other : Site}
    (hCall :
      site.calls[index]? =
        some (NodeAgent.afterLookup settings (.ok none)))
    (hFree : site.shared.registering = false) :
    Site.CallTurn settings index site other ↔
      other =
        { site with
          calls := site.calls.set index
            (NodeAgent.launching settings)
          shared := { site.shared with registering := true } } := by
  rw [NodeAgent.afterLookup_none] at hCall
  rw [Site.callTurn_iff hCall nofun]
  constructor
  · rintro ⟨met, now, ⟨rfl, rfl⟩, rfl⟩
    rw [hFree]
    rfl
  · rintro rfl
    refine ⟨true, _, ⟨?_, rfl⟩, rfl⟩
    rw [hFree]
    rfl

/-
  While a call is going to launch, nothing else is under way,
  so that its registration is the only one.
-/
theorem running_of_launch
    {site : Site}
    (h : Consistent site)
    (hCall :
      site.calls[index]? = some (NodeAgent.launching settings)) :
    site.running = 0 := by
  have hStarting : 0 < site.starting :=
    List.countP_pos_iff.mpr
      ⟨_, List.mem_of_getElem? hCall, rfl⟩
  have hClaimed := h.claimed
  have hAtMost := Bool.toNat_le site.shared.registering
  omega

/-
  At any time at most one registration is running, and none
  while a call that has made a claim is about to launch one.
  There is a claim exactly while one of both is the case. So
  the claim is made exactly while a registration is running,
  but for the moment between claim and launch of one call, in
  which that call waits for nobody.

  Where nothing is under way, whatever has become of earlier
  registrations, the next call whose lookup finds nothing makes
  the claim, and launches a new registration whatever others do
  until then.

  A registration that breaks down in a pause keeps its claim,
  so none has to have done so.

  The registrations are what runs in the background, where
  nobody hears of their failures. A world in memory replies to
  every request as may be replied to it here.
-/
theorem registration_single_flight
    {topology : Option Topology}
    {site : Site}
    (hReach :
      Site.Reaches settings (Site.start topology) site)
    (hSound : site.broken = 0) :
    site.running ≤ 1 ∧
    (site.shared.registering = true ↔
      site.running + site.starting = 1) ∧
    (site.starting = 0 →
      (site.shared.registering = true ↔ site.running = 1)) ∧
    (∀ index,
      site.calls[index]? =
          some (NodeAgent.afterLookup settings (.ok none)) →
      site.running = 0 → site.starting = 0 →
      ∃ claimed,
        (∀ other,
          Site.CallTurn settings index site other ↔
            other = claimed) ∧
        ∀ later, Site.ReachesBeside settings index claimed later →
          ∃ launched,
            (∀ other,
              Site.CallTurn settings index later other ↔
                other = launched) ∧
            launched.tasks = later.tasks ++ [task settings] ∧
            launched.running = 1) ∧
    (∀ ε : Type,
      (background settings : Program Host ε Unit) =
        (task settings).attempt.bind fun _ => .done ()) ∧
    ∀ (request : Host.Request) (world : Memory.World),
      Shared.Answers request (.ofWorld world)
        (world.answer request).1
        (.ofWorld (world.answer request).2) := by
  have hConsistent : Consistent site :=
    (Consistent.start topology).reach hReach
  have hClaimed := hConsistent.claimed
  have hAtMost := Bool.toNat_le site.shared.registering
  have hFlag :
      site.shared.registering = true ↔
        site.running + site.starting = 1 := by
    cases hRegistering : site.shared.registering with
    | false =>
        rw [hRegistering, Bool.toNat_false] at hClaimed
        refine ⟨nofun, fun hOne => ?_⟩
        omega
    | true =>
        rw [hRegistering, Bool.toNat_true] at hClaimed
        refine ⟨fun _ => ?_, fun _ => rfl⟩
        omega
  refine ⟨by omega, hFlag, fun hStarting => ?_, ?_,
    fun _ => background_eq settings, Shared.answers_of_answer⟩
  · rw [hFlag, hStarting, Nat.add_zero]
  · intro index hCall hRunning hStarting
    have hFree : site.shared.registering = false := by
      rw [Bool.eq_false_iff, ne_eq, hFlag]
      omega
    refine ⟨_, fun other => claimTurn_iff hCall hFree,
      fun later hLater => ?_⟩
    have hPlace : index < site.calls.length :=
      (List.getElem?_eq_some_iff.mp hCall).1
    have hLaunching :
        later.calls[index]? =
          some (NodeAgent.launching settings) :=
      hLater.call_eq (List.getElem?_set_self hPlace)
    have hLaterConsistent : Consistent later :=
      (hConsistent.callTurn
        ((claimTurn_iff hCall hFree).mpr rfl)).reach hLater.reaches
    have hAlone : later.running = 0 :=
      running_of_launch hLaterConsistent hLaunching
    refine ⟨_, fun other => Site.launchTurn_iff hLaunching, rfl, ?_⟩
    change (later.tasks ++ [task settings]).countP asks = 1
    rw [List.countP_append]
    change later.running + 1 = 1
    rw [hAlone]

/-
  A first registration has failed since the backend was down.
  The second call finds nothing either and launches another
  registration, which is then the only one.
-/
theorem registration_single_flight_after_failure :
    let settings : Settings := {}
    let site : Site :=
      { calls :=
          [.done (NodeAgent.described settings
              (NodeAgent.configured settings)),
            NodeAgent.afterLookup settings (.ok none)]
        tasks := [.done ()]
        shared := {} }
    Site.Reaches settings (Site.start none) site ∧
      site.broken = 0 ∧ site.shared.registering = false ∧
      ∃ launched,
        Site.Reaches settings site launched ∧
          launched.tasks = [.done (), task settings] ∧
          launched.running = 1 := by
  intro settings site
  have hArrive :
      ∀ now : Site,
        Site.Step settings (fun _ => True) now
          { now with
            calls := now.calls ++
              [(lookup settings).attempt.bind
                (NodeAgent.afterLookup settings)] } := by
    intro now
    rw [← NodeAgent.info_eq]
    exact .arrive
  have hReach : Site.Reaches settings (Site.start none) site := by
    refine .head (hArrive _) ?_
    refine .head (.call 0 trivial
      (Site.CallTurn.of_reply .knownTopology none rfl nofun
        ⟨rfl, rfl⟩)) ?_
    refine .head (.call 0 trivial
      (Site.CallTurn.of_reply (.cluster (.getNode ""))
        (.ok ⟨"", none, [], true⟩) rfl nofun rfl)) ?_
    refine .head (.call 0 trivial
      (Site.CallTurn.of_reply .claimRegistration true rfl nofun
        ⟨rfl, rfl⟩)) ?_
    refine .head (.call 0 trivial (.launch rfl)) ?_
    refine .head (.task 0
      (Site.TaskTurn.of_reply (.backend (.describe ""))
        (.error (.failed "down")) rfl rfl)) ?_
    refine .head (.task 0
      (Site.TaskTurn.of_reply .endRegistration () rfl rfl)) ?_
    refine .head (hArrive _) ?_
    refine .head (.call 1 trivial
      (Site.CallTurn.of_reply .knownTopology none rfl nofun
        ⟨rfl, rfl⟩)) ?_
    refine .head (.call 1 trivial
      (Site.CallTurn.of_reply (.cluster (.getNode ""))
        (.ok ⟨"", none, [], true⟩) rfl nofun rfl)) ?_
    exact .refl
  have hSound : site.broken = 0 := rfl
  rcases registration_single_flight hReach hSound with
    ⟨_, _, _, hRetry, _⟩
  rcases hRetry 1 rfl rfl rfl with ⟨claimed, hClaim, hLaunch⟩
  rcases hLaunch claimed .refl with
    ⟨launched, hTurn, hTasks, hRunning⟩
  have hClaimTurn := (hClaim claimed).mpr rfl
  have hLaunchTurn := (hTurn launched).mpr rfl
  have hSame : claimed.tasks = site.tasks := by
    rw [(claimTurn_iff rfl rfl).mp hClaimTurn]
  refine ⟨hReach, hSound, rfl, launched, ?_, ?_, hRunning⟩
  · exact .head (.call 1 trivial hClaimTurn)
      (.head (.call 1 trivial hLaunchTurn) .refl)
  · rw [hTasks, hSame]
    rfl

end Registration

end Service

end BlockVolumes
