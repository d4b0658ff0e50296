import BlockVolumes.Csi.Procedure
import BlockVolumes.Memory.World
import BlockVolumes.Service.Error

/-
  Runs of programs alone in a world in memory: what the parts
  of a program do, and when a run goes well.

  Key definitions include:
    * `Memory.World.afterCall`
    * `Memory.World.afterQuery`
    * `Memory.World.Ends`

  Key theorems include:
    * `Memory.World.run_bind_of_ok`
    * `Memory.World.run_bind_eq_ok`
    * `Memory.World.run_procedure_eq_ok`
    * `Memory.World.Ends.bind`
-/

namespace BlockVolumes

namespace Memory

namespace World

open Service

variable {ε ε' α β : Type}

------------------------------------------------------------
-- Parts of Programs
------------------------------------------------------------

theorem run_bind_of_ok
    {program : Program Host ε α}
    {world after : World}
    {a : α}
    (h : run program world = (.ok a, after))
    (next : α → Program Host ε β) :
    run (program.bind next) world = run (next a) after :=
  Program.run_bind_of_ok h next

theorem run_bind_of_error
    {program : Program Host ε α}
    {world after : World}
    {e : ε}
    (h : run program world = (.error e, after))
    (next : α → Program Host ε β) :
    run (program.bind next) world = (.error e, after) :=
  Program.run_bind_of_error h next

@[simp] theorem run_done
    (a : α)
    (world : World) :
    run (.done a : Program Host ε α) world = (.ok a, world) :=
  rfl

@[simp] theorem run_failed
    (e : ε)
    (world : World) :
    run (.failed e : Program Host ε α) world =
      (.error e, world) :=
  rfl

theorem run_ofExcept
    (result : Except ε α)
    (world : World) :
    run (Program.ofExcept result) world = (result, world) :=
  Program.run_ofExcept (I := Host) answer result world

theorem run_mapError
    (f : ε → ε')
    (program : Program Host ε α)
    (world : World) :
    run (program.mapError f) world =
      ((run program world).1.mapError f,
        (run program world).2) :=
  Program.run_mapError (I := Host) answer f program world

theorem run_within
    [RpcError ε]
    (program : Program Host Error α)
    (world : World) :
    run (within program : Program Host ε α) world =
      ((run program world).1.mapError raise,
        (run program world).2) :=
  run_mapError raise program world

theorem run_during
    (cause : ε → Cause)
    (operation subject : String)
    (program : Program Host ε α)
    (world : World) :
    run (during cause operation subject program) world =
      ((run program world).1.mapError
          fun e => .during operation subject (cause e),
        (run program world).2) :=
  run_mapError _ program world

------------------------------------------------------------
-- Calls
------------------------------------------------------------

/- The world after a call of the backend. -/
def afterCall
    (world : World)
    (call : BlockVolumes.Backend.Call) : World :=
  { world with
    backend := (world.backend.answer call).2 }.record (.backend call)

@[simp] theorem afterCall_backend
    (world : World)
    (call : BlockVolumes.Backend.Call) :
    (world.afterCall call).backend =
      (world.backend.answer call).2 :=
  rfl

/- What follows a call goes on with the reply of the backend. -/
theorem run_askBackend_bind
    (call : BlockVolumes.Backend.Call)
    (next : call.Reply → Program Host ε α)
    (world : World) :
    run ((Host.askBackend call).bind next) world =
      run (next (world.backend.answer call).1)
        (world.afterCall call) :=
  rfl

theorem run_backend
    (call : BlockVolumes.Backend.Call)
    (world : World) :
    run (Host.backend call) world =
      ((world.backend.answer call).1, world.afterCall call) :=
  run_ofExcept _ _

/- The world after a query of the directory. -/
def afterQuery
    (world : World)
    (call : Cluster.Call) : World :=
  { world with
    directory := (world.directory.answer call).2 }.record
      (.cluster call)

theorem run_askCluster_bind
    (call : Cluster.Call)
    (next : call.Reply → Program Host ε α)
    (world : World) :
    run ((Host.askCluster call).bind next) world =
      run (next (world.directory.answer call).1)
        (world.afterQuery call) :=
  rfl

theorem run_cluster
    (call : Cluster.Call)
    (world : World) :
    run (Host.cluster call) world =
      ((world.directory.answer call).1, world.afterQuery call) :=
  run_ofExcept _ _

------------------------------------------------------------
-- Runs That Go Well
------------------------------------------------------------

theorem run_bind_eq_ok
    {program : Program Host ε α}
    {next : α → Program Host ε β}
    {world after : World}
    {b : β} :
    run (program.bind next) world = (.ok b, after) ↔
      ∃ a between,
        run program world = (.ok a, between) ∧
          run (next a) between = (.ok b, after) :=
  Program.run_bind_eq_ok

theorem run_mapError_eq_ok
    {f : ε → ε'}
    {program : Program Host ε α}
    {world after : World}
    {a : α} :
    run (program.mapError f) world = (.ok a, after) ↔
      run program world = (.ok a, after) := by
  rw [run_mapError]
  rcases run program world with ⟨e | b, between⟩
  · exact ⟨nofun, nofun⟩
  · have hOk : (Except.ok b : Except ε α).mapError f = .ok b := rfl
    rw [hOk]
    simp

theorem run_ofExcept_eq_ok
    {result : Except ε α}
    {world after : World}
    {a : α} :
    run (Program.ofExcept result) world = (.ok a, after) ↔
      result = .ok a ∧ after = world := by
  rw [run_ofExcept, Prod.mk.injEq, eq_comm (a := world)]

theorem run_checked_eq_ok
    [RpcError ε]
    {result : Except Rpc.Status α}
    {world after : World}
    {a : α} :
    run (checked result : Program Host ε α) world =
        (.ok a, after) ↔
      result = .ok a ∧ after = world := by
  cases result with
  | error status => simp [checked]
  | ok b =>
      simp only [checked, run_done, Prod.mk.injEq, Except.ok.injEq]
      rw [eq_comm (a := world)]

/-
  A procedure answers well if its message can be read and its
  handler ends well.
-/
theorem run_procedure_eq_ok
    {ρ : Type}
    {name : String}
    {status : ε → Rpc.Status}
    {write : α → β}
    {handle : ρ → Program Host ε α}
    {request : Except Rpc.Status ρ}
    {world after : World}
    {answer : β} :
    run (Csi.procedure name status write (some handle) request)
        world = (.ok answer, after) ↔
      ∃ r a, request = .ok r ∧
        run (handle r) world = (.ok a, after) ∧
          write a = answer := by
  cases request with
  | error refusal => simp [Csi.procedure]
  | ok r =>
      simp only [Csi.procedure, Program.bind_eq, Program.pure_eq]
      rw [run_bind_eq_ok]
      simp only [run_mapError_eq_ok, run_done, Prod.mk.injEq,
        Except.ok.injEq]
      constructor
      · rintro ⟨a, between, hRun, hWrite, rfl⟩
        exact ⟨r, a, rfl, hRun, hWrite⟩
      · rintro ⟨_, a, rfl, hRun, hWrite⟩
        exact ⟨a, after, hRun, hWrite, rfl⟩

------------------------------------------------------------
-- What a Run Leaves in the Backend
------------------------------------------------------------

/- How a program ends, and the backend that it leaves. -/
def Ends
    (program : Program Host ε α)
    (world : World)
    (result : Except ε α)
    (backend : Backend) : Prop :=
  (run program world).1 = result ∧
    (run program world).2.backend = backend

namespace Ends

variable {world : World}
variable {backend between : Backend}
variable {program : Program Host ε α}

theorem done
    {a : α}
    (h : world.backend = backend) :
    Ends (.done a : Program Host ε α) world (.ok a) backend :=
  ⟨rfl, h⟩

theorem failed
    {e : ε}
    (h : world.backend = backend) :
    Ends (.failed e : Program Host ε α) world (.error e)
      backend :=
  ⟨rfl, h⟩

/- What follows a call goes on with the reply to it. -/
theorem ask
    {call : BlockVolumes.Backend.Call}
    {next : call.Reply → Program Host ε α}
    {reply : call.Reply}
    {result : Except ε α}
    (hAnswer : world.backend.answer call = (reply, between))
    (hNext :
      ∀ after : World, after.backend = between →
        Ends (next reply) after result backend) :
    Ends (.ask (I := Host) (.backend call) next) world result
      backend := by
  have hAfter : (world.afterCall call).backend = between := by
    rw [afterCall_backend, hAnswer]
  have hRest := hNext (world.afterCall call) hAfter
  have hReply : (world.backend.answer call).1 = reply := by
    rw [hAnswer]
  rw [← hReply] at hRest
  exact hRest

/- The backend is not changed while a program sleeps. -/
theorem sleep
    {ticks : Nat}
    {next : Unit → Program Host ε α}
    {result : Except ε α}
    (hNext :
      ∀ after : World, after.backend = world.backend →
        Ends (next ()) after result backend) :
    Ends (.ask (I := Host) (.sleep ticks) next) world result
      backend :=
  hNext { world with clock := world.clock + ticks } rfl

theorem bind
    {next : α → Program Host ε β}
    {a : α}
    {result : Except ε β}
    (hFirst : Ends program world (.ok a) between)
    (hNext :
      ∀ after : World, after.backend = between →
        Ends (next a) after result backend) :
    Ends (program.bind next) world result backend := by
  rcases hRun : run program world with ⟨outcome, after⟩
  rw [Ends, hRun] at hFirst
  rcases hFirst with ⟨hOutcome, hBackend⟩
  dsimp only at hOutcome
  subst hOutcome
  rw [Ends, run_bind_of_ok hRun]
  exact hNext after hBackend

theorem bind_error
    {next : α → Program Host ε β}
    {e : ε}
    (hFirst : Ends program world (.error e) backend) :
    Ends (program.bind next) world (.error e) backend := by
  rcases hRun : run program world with ⟨outcome, after⟩
  rw [Ends, hRun] at hFirst
  rcases hFirst with ⟨hOutcome, hBackend⟩
  dsimp only at hOutcome
  subst hOutcome
  rw [Ends, run_bind_of_error hRun]
  exact ⟨rfl, hBackend⟩

theorem mapError
    {f : ε → ε'}
    {result : Except ε α}
    (h : Ends program world result backend) :
    Ends (program.mapError f) world (result.mapError f)
      backend := by
  rw [Ends, run_mapError]
  exact ⟨congrArg (Except.mapError f) h.1, h.2⟩

theorem ofExcept
    (result : Except ε α)
    (h : world.backend = backend) :
    Ends (Program.ofExcept result : Program Host ε α) world
      result backend := by
  rw [Ends, run_ofExcept]
  exact ⟨rfl, h⟩

/- A call of the backend ends as the backend answers it. -/
theorem call
    {call : BlockVolumes.Backend.Call}
    {reply : call.Reply}
    (hAnswer : world.backend.answer call = (reply, backend)) :
    Ends (Host.backend call) world reply backend :=
  ask hAnswer fun _ hAfter => ofExcept reply hAfter

/- A procedure ends as its handler does. -/
theorem procedure
    {ρ : Type}
    {name : String}
    {status : ε → Rpc.Status}
    {write : α → β}
    {handle : ρ → Program Host ε α}
    {request : ρ}
    {result : Except ε α}
    (h : Ends (handle request) world result backend) :
    Ends
      (Csi.procedure name status write (some handle)
        (.ok request))
      world ((result.mapError status).map write) backend := by
  cases result with
  | error e => exact bind_error h.mapError
  | ok a => exact h.mapError.bind fun _ hAfter => done hAfter

end Ends

end World

end Memory

end BlockVolumes
