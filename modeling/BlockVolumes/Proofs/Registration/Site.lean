import BlockVolumes.Memory.World
import BlockVolumes.Service.NodeAgent
import Mathlib.Logic.Relation

/-
  A node over its lifetime: calls that ask about the node come
  at any time, and the registrations that they launch go on
  beside them. Any call or registration may put the next
  request, so that every interleaving at the granularity of
  single requests is a sequence of steps.

  The topology that is kept and the claim on the registration
  are shared. Nothing is known of other replies, such as what
  the labels of the node are.

  Key definitions include:
    * `Service.NodeAgent.afterLookup`
    * `Service.Registration.task`
    * `Service.Registration.Shared`
    * `Service.Registration.Site`
    * `Service.Registration.Site.CallTurn`
    * `Service.Registration.Site.TaskTurn`
    * `Service.Registration.Site.Reaches`

  Key theorems include:
    * `Service.NodeAgent.info_eq`
    * `Service.Registration.background_eq`
    * `Service.Registration.Shared.answers_of_answer`
-/

namespace BlockVolumes

namespace Program

variable {I : Interface}
variable {ε ε' ε'' α β : Type}

/- An attempt has no error of its own to be changed. -/
theorem mapError_attempt_bind
    (program : Program I ε α)
    (next : Except ε α → Program I ε' β)
    (f : ε' → ε'') :
    ((program.attempt : Program I ε' (Except ε α)).bind
        next).mapError f =
      (program.attempt : Program I ε'' (Except ε α)).bind
        fun result => (next result).mapError f := by
  induction program with
  | done a => rfl
  | failed e => rfl
  | ask request rest ih =>
      simp only [attempt, ask_bind, mapError_ask, ih]

/- An attempt that is followed by more is attempted in parts. -/
theorem attempt_attempt_bind
    (program : Program I ε α)
    (next : Except ε α → Program I ε' β) :
    ((program.attempt : Program I ε' (Except ε α)).bind
        next).attempt =
      (program.attempt : Program I ε'' (Except ε α)).bind
        fun result => (next result).attempt := by
  induction program with
  | done a => rfl
  | failed e => rfl
  | ask request rest ih =>
      simp only [attempt, ask_bind, ih]

end Program

namespace Service

------------------------------------------------------------
-- Calls
------------------------------------------------------------

namespace NodeAgent

open Registration (lookup start)

/- What a call reports of a node at a place. -/
def described
    (settings : Settings)
    (topology : Topology) : Csi.NodeInfo :=
  { nodeId := settings.nodeId
    volumeLimit := Csi.nonzero topology.volumeLimit
    topology := some topology.segments }

/-
  How a call goes on after its lookup. A registration is begun
  only where the lookup was successful and found nothing.
-/
def afterLookup
    (settings : Settings) :
    Except Error (Option Topology) →
      Program Host Csi.NodeInfo.Error Csi.NodeInfo
  | .ok (some topology) => .done (described settings topology)
  | .ok none =>
      (within start).bind fun _ =>
        .done (described settings (configured settings))
  | .error _ => .done (described settings (configured settings))

/- A call that is going to launch a registration. -/
def launching
    (settings : Settings) :
    Program Host Csi.NodeInfo.Error Csi.NodeInfo :=
  .ask (I := Host) .launchRegistration fun _ =>
    .done (described settings (configured settings))

/- A lookup that found nothing is followed by a claim. -/
theorem afterLookup_none
    (settings : Settings) :
    afterLookup settings (.ok none) =
      .ask (I := Host) .claimRegistration fun met =>
        if met then launching settings
        else .done (described settings (configured settings)) := by
  refine congrArg (Program.ask (I := Host) .claimRegistration)
    (funext fun met => ?_)
  cases met <;> rfl

/- A call looks the topology up first. -/
theorem info_eq
    (settings : Settings) :
    info settings =
      (lookup settings).attempt.bind (afterLookup settings) := by
  have hNext :
      afterLookup settings = fun found =>
        (Program.mapError raise
          (match found with
          | .ok (some topology) => .done topology
          | .ok none =>
              start.bind fun _ => .done (configured settings)
          | .error _ => .done (configured settings))).bind
            fun topology => .done (described settings topology) := by
    funext found
    rcases found with error | _ | topology
    · rfl
    · refine congrArg (Program.ask (I := Host) .claimRegistration)
        (funext fun met => ?_)
      cases met <;> rfl
    · rfl
  rw [hNext, ← Program.bind_bind,
    ← Program.mapError_attempt_bind]
  rfl

end NodeAgent

------------------------------------------------------------
-- Registrations
------------------------------------------------------------

namespace Registration

/-
  A launched registration. It gives its claim back whether it
  went well or not, but it fails if it breaks down in a pause.
-/
def task
    (settings : Settings) : Program Host Error Unit :=
  (register settings).attempt.bind fun result =>
    match result with
    | .error .pauseTooLong => .failed .pauseTooLong
    | _ => Host.endRegistration

/- Nobody hears of a registration that has broken down. -/
theorem background_eq
    {ε : Type}
    (settings : Settings) :
    (background settings : Program Host ε Unit) =
      (task settings).attempt.bind fun _ => .done () := by
  rw [task, Program.attempt_attempt_bind, Program.bind_bind]
  refine congrArg (Program.bind _) (funext fun result => ?_)
  rcases result with error | topology
  · cases error <;> rfl
  · rfl

------------------------------------------------------------
-- What Is Shared
------------------------------------------------------------

/- The topology that is kept, and whether there is a claim. -/
structure Shared where
  topology : Option Topology := none
  registering : Bool := false
  deriving DecidableEq, Repr

namespace Shared

/-
  Which reply a request may get, and what it changes. Only
  requests for what is shared have a certain reply.
-/
def Answers :
    (request : Host.Request) →
      Shared → Host.Reply request → Shared → Prop
  | .knownTopology, before, known, after =>
      known = before.topology ∧ after = before
  | .keepTopology topology, before, _, after =>
      after = { before with topology := some topology }
  | .claimRegistration, before, met, after =>
      met = !before.registering ∧
        after = { before with registering := true }
  | .endRegistration, before, _, after =>
      after = { before with registering := false }
  | _, before, _, after => after = before

/- What is shared in a world in memory. -/
def ofWorld
    (world : Memory.World) : Shared :=
  ⟨world.topology, world.registering⟩

/- A world in memory answers in one of the ways. -/
theorem answers_of_answer
    (request : Host.Request)
    (world : Memory.World) :
    Answers request (ofWorld world)
      (Memory.World.answer request world).1
      (ofWorld (Memory.World.answer request world).2) := by
  cases request with
  | knownTopology => exact ⟨rfl, rfl⟩
  | claimRegistration => exact ⟨rfl, rfl⟩
  | mounter call =>
      change ofWorld (world.callMounter call).2 = ofWorld world
      unfold Memory.World.callMounter
      dsimp only
      split <;> rfl
  | removeDirectory path =>
      change ofWorld (world.removeDirectory path).2 = ofWorld world
      unfold Memory.World.removeDirectory
      split <;> rfl
  | _ => rfl

variable {request : Host.Request}
variable {reply : Host.Reply request}
variable {before after : Shared}

/- Only claims and their ends change whether there is one. -/
theorem registering_of_answers
    (hClaim : request ≠ .claimRegistration)
    (hEnd : request ≠ .endRegistration)
    (hAnswer : Answers request before reply after) :
    after.registering = before.registering := by
  cases request with
  | claimRegistration => exact absurd rfl hClaim
  | endRegistration => exact absurd rfl hEnd
  | knownTopology => rw [hAnswer.2]
  | _ =>
      have hAfter : after = _ := hAnswer
      rw [hAfter]

end Shared

------------------------------------------------------------
-- Sites
------------------------------------------------------------

/- Whether a program has a request to put. -/
def asks
    {ε α : Type} :
    Program Host ε α → Bool
  | .ask _ _ => true
  | _ => false

/- Whether a program is going to launch a registration next. -/
def launches
    {ε α : Type} :
    Program Host ε α → Bool
  | .ask .launchRegistration _ => true
  | _ => false

/- Whether a program has ended by an error. -/
def hasFailed
    {ε α : Type} :
    Program Host ε α → Bool
  | .failed _ => true
  | _ => false

/-
  The calls so far, the registrations that they launched, each
  as far as it has got, and what all of them share.
-/
structure Site where
  calls : List (Program Host Csi.NodeInfo.Error Csi.NodeInfo)
  tasks : List (Program Host Error Unit)
  shared : Shared

namespace Site

/- A node that nobody has asked about yet. -/
def start
    (topology : Option Topology) : Site :=
  ⟨[], [], { topology := topology }⟩

/- The number of registrations that have not ended. -/
def running
    (site : Site) : Nat :=
  site.tasks.countP asks

/- The number of calls with a claim and no registration yet. -/
def starting
    (site : Site) : Nat :=
  site.calls.countP launches

/- The number of registrations that have broken down. -/
def broken
    (site : Site) : Nat :=
  site.tasks.countP hasFailed

variable (settings : Settings)

/- The call at a place has its turn. -/
inductive CallTurn
    (index : Nat) : Site → Site → Prop where
  | reply
      {site : Site}
      {request : Host.Request}
      {next : Host.Reply request →
        Program Host Csi.NodeInfo.Error Csi.NodeInfo}
      {reply : Host.Reply request}
      {after : Shared}
      (hTurn :
        site.calls[index]? = some (.ask (I := Host) request next))
      (hOther : request ≠ .launchRegistration)
      (hAnswer : Shared.Answers request site.shared reply after) :
      CallTurn index site
        { site with
          calls := site.calls.set index (next reply)
          shared := after }
  | launch
      {site : Site}
      {next : Unit →
        Program Host Csi.NodeInfo.Error Csi.NodeInfo}
      (hTurn :
        site.calls[index]? =
          some (.ask (I := Host) .launchRegistration next)) :
      CallTurn index site
        { site with
          calls := site.calls.set index (next ())
          tasks := site.tasks ++ [task settings] }

/- The registration at a place has its turn. -/
inductive TaskTurn
    (index : Nat) : Site → Site → Prop where
  | reply
      {site : Site}
      {request : Host.Request}
      {next : Host.Reply request → Program Host Error Unit}
      {reply : Host.Reply request}
      {after : Shared}
      (hTurn :
        site.tasks[index]? = some (.ask (I := Host) request next))
      (hAnswer : Shared.Answers request site.shared reply after) :
      TaskTurn index site
        { site with
          tasks := site.tasks.set index (next reply)
          shared := after }

/-
  A call comes, or a call or a registration has its turn. Only
  the calls at some places may have one.
-/
inductive Step
    (places : Nat → Prop) : Site → Site → Prop where
  | arrive
      {site : Site} :
      Step places site
        { site with calls := site.calls ++ [NodeAgent.info settings] }
  | call
      {before after : Site}
      (index : Nat)
      (hPlace : places index)
      (h : CallTurn settings index before after) :
      Step places before after
  | task
      {before after : Site}
      (index : Nat)
      (h : TaskTurn index before after) :
      Step places before after

/- What becomes of a node in some steps. -/
def Reaches : Site → Site → Prop :=
  Relation.ReflTransGen (Step settings fun _ => True)

/- What others do while the call at a place does nothing. -/
def ReachesBeside
    (index : Nat) : Site → Site → Prop :=
  Relation.ReflTransGen (Step settings fun other => other ≠ index)

variable {settings : Settings}
variable {index : Nat}
variable {before after : Site}

variable {request : Host.Request}
variable {next : Host.Reply request →
  Program Host Csi.NodeInfo.Error Csi.NodeInfo}

/- The call at a place puts its request and gets a reply. -/
theorem CallTurn.of_reply
    {site : Site}
    (request : Host.Request)
    {next : Host.Reply request →
      Program Host Csi.NodeInfo.Error Csi.NodeInfo}
    (reply : Host.Reply request)
    (hTurn :
      site.calls[index]? = some (.ask (I := Host) request next))
    (hOther : request ≠ .launchRegistration)
    {now : Shared}
    (hAnswer : Shared.Answers request site.shared reply now) :
    CallTurn settings index site
      { site with
        calls := site.calls.set index (next reply)
        shared := now } :=
  .reply hTurn hOther hAnswer

/- The registration at a place puts its request. -/
theorem TaskTurn.of_reply
    {site : Site}
    (request : Host.Request)
    {next : Host.Reply request → Program Host Error Unit}
    (reply : Host.Reply request)
    (hTurn :
      site.tasks[index]? = some (.ask (I := Host) request next))
    {now : Shared}
    (hAnswer : Shared.Answers request site.shared reply now) :
    TaskTurn index site
      { site with
        tasks := site.tasks.set index (next reply)
        shared := now } :=
  .reply hTurn hAnswer

/- A call can put only the request at which it stands. -/
theorem callTurn_iff
    {site other : Site}
    (hCall :
      site.calls[index]? = some (.ask (I := Host) request next))
    (hOther : request ≠ .launchRegistration) :
    CallTurn settings index site other ↔
      ∃ reply now,
        Shared.Answers request site.shared reply now ∧
          other =
            { site with
              calls := site.calls.set index (next reply)
              shared := now } := by
  constructor
  · intro h
    cases h with
    | reply hTurn _ hAnswer =>
        cases Option.some.inj (hTurn.symm.trans hCall)
        exact ⟨_, _, hAnswer, rfl⟩
    | launch hTurn =>
        cases Option.some.inj (hTurn.symm.trans hCall)
        exact absurd rfl hOther
  · rintro ⟨reply, now, hAnswer, rfl⟩
    exact .reply hCall hOther hAnswer

theorem launchTurn_iff
    {next : Unit → Program Host Csi.NodeInfo.Error Csi.NodeInfo}
    {site other : Site}
    (hCall :
      site.calls[index]? =
        some (.ask (I := Host) .launchRegistration next)) :
    CallTurn settings index site other ↔
      other =
        { site with
          calls := site.calls.set index (next ())
          tasks := site.tasks ++ [task settings] } := by
  constructor
  · intro h
    cases h with
    | reply hTurn hOther _ =>
        cases Option.some.inj (hTurn.symm.trans hCall)
        exact absurd rfl hOther
    | launch hTurn =>
        cases Option.some.inj (hTurn.symm.trans hCall)
        rfl
  · rintro rfl
    exact .launch hCall

theorem Step.anywhere
    {places : Nat → Prop}
    (h : Step settings places before after) :
    Step settings (fun _ => True) before after := by
  cases h with
  | arrive => exact .arrive
  | call index _ hTurn => exact .call index trivial hTurn
  | task index hTurn => exact .task index hTurn

theorem ReachesBeside.reaches
    (h : ReachesBeside settings index before after) :
    Reaches settings before after := by
  induction h with
  | refl => exact .refl
  | tail _ hStep ih => exact ih.tail hStep.anywhere

/- A call stays as it is until it has its turn. -/
theorem Step.call_eq
    {call : Program Host Csi.NodeInfo.Error Csi.NodeInfo}
    (h : Step settings (fun other => other ≠ index) before after)
    (hCall : before.calls[index]? = some call) :
    after.calls[index]? = some call := by
  cases h with
  | arrive =>
      have hPlace : index < before.calls.length :=
        (List.getElem?_eq_some_iff.mp hCall).1
      exact (List.getElem?_append_left hPlace).trans hCall
  | call other hOther hTurn =>
      cases hTurn with
      | reply _ _ _ =>
          exact (List.getElem?_set_ne hOther).trans hCall
      | launch _ =>
          exact (List.getElem?_set_ne hOther).trans hCall
  | task place hTurn =>
      cases hTurn with
      | reply _ _ => exact hCall

theorem ReachesBeside.call_eq
    {call : Program Host Csi.NodeInfo.Error Csi.NodeInfo}
    (h : ReachesBeside settings index before after)
    (hCall : before.calls[index]? = some call) :
    after.calls[index]? = some call := by
  induction h with
  | refl => exact hCall
  | tail _ hStep ih => exact hStep.call_eq ih

end Site

end Registration

end Service

end BlockVolumes
