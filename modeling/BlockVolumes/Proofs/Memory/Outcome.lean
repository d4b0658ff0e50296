import BlockVolumes.Proofs.Memory.Mounter
import BlockVolumes.Proofs.Memory.World

/-
  How programs that run alone end, well or badly, and in which
  world. The mounter may fail by script at each of its calls.

  Key definitions include:
    * `Memory.World.Alike`
    * `Memory.World.Yields`

  Key theorems include:
    * `Memory.World.run_exclusively`
    * `Memory.World.Yields.bind`
    * `Memory.World.Yields.mounter`
    * `Memory.World.Yields.procedure`
-/

namespace BlockVolumes

namespace Memory

namespace World

variable {ε ε' α β : Type}

------------------------------------------------------------
-- Requests and the Lock
------------------------------------------------------------

theorem run_perform_bind
    {request : Host.Request}
    {reply : Host.Reply request}
    {world after : World}
    (h : answer request world = (reply, after))
    (next : Host.Reply request → Program Host ε α) :
    run ((Program.perform (I := Host) request).bind next) world =
      run (next reply) after := by
  change run (next (answer request world).1) (answer request world).2 =
    _
  rw [h]

theorem run_attempt
    (program : Program Host ε α)
    (world : World) :
    run (program.attempt : Program Host ε' (Except ε α)) world =
      (.ok (run program world).1, (run program world).2) :=
  Program.run_attempt (I := Host) answer program world

/- The lock makes no difference to a program that runs alone. -/
theorem run_exclusively
    (program : Program Host ε α)
    (world : World) :
    run (Host.exclusively program) world = run program world := by
  change
    run (program.attempt.bind fun result =>
      .ask (I := Host) .release fun _ => .ofExcept result) world = _
  rw [run_bind_of_ok (run_attempt program world)]
  exact run_ofExcept _ _

------------------------------------------------------------
-- Ends of Programs
------------------------------------------------------------

/- Whether files and mounts are as they were. -/
structure Alike
    (world after : World) : Prop where
  tree : after.tree = world.tree
  mounter : after.mounter = world.mounter

/-
  Whether a program ends with a result in a world that is good
  for it, or with an error in a world that may be left so.
-/
def Yields
    (program : Program Host ε α)
    (world : World)
    (good : α → World → Prop)
    (bad : World → Prop) : Prop :=
  (∀ a after, run program world = (.ok a, after) → good a after) ∧
    ∀ e after, run program world = (.error e, after) → bad after

namespace Yields

variable {program : Program Host ε α}
variable {world : World}
variable {good good' : α → World → Prop}
variable {bad : World → Prop}

theorem of_ok
    {a : α}
    {after : World}
    (hRun : run program world = (.ok a, after))
    (h : good a after) :
    Yields program world good bad := by
  rw [Yields, hRun]
  refine ⟨fun b later hSame => ?_, fun e later hSame => ?_⟩
  · rw [Prod.mk.injEq, Except.ok.injEq] at hSame
    rcases hSame with ⟨rfl, rfl⟩
    exact h
  · rw [Prod.mk.injEq] at hSame
    exact nomatch hSame.1

theorem of_error
    {e : ε}
    {after : World}
    (hRun : run program world = (.error e, after))
    (h : bad after) :
    Yields program world good bad := by
  rw [Yields, hRun]
  refine ⟨fun b later hSame => ?_, fun e later hSame => ?_⟩
  · rw [Prod.mk.injEq] at hSame
    exact nomatch hSame.1
  · rw [Prod.mk.injEq] at hSame
    rw [← hSame.2]
    exact h

theorem done
    {a : α}
    (h : good a world) :
    Yields (.done a : Program Host ε α) world good bad :=
  of_ok (run_done a world) h

theorem failed
    {e : ε}
    (h : bad world) :
    Yields (.failed e : Program Host ε α) world good bad :=
  of_error (run_failed e world) h

/- A program goes on after the answer to its request. -/
theorem perform
    {request : Host.Request}
    {next : Host.Reply request → Program Host ε α}
    (h :
      Yields (next (answer request world).1)
        (answer request world).2 good bad) :
    Yields ((Program.perform (I := Host) request).bind next) world
      good bad :=
  h

theorem mono
    (h : Yields program world good bad)
    (hGood : ∀ a after, good a after → good' a after) :
    Yields program world good' bad :=
  ⟨fun a after hRun => hGood a after (h.1 a after hRun), h.2⟩

theorem bind
    {between : α → World → Prop}
    {next : α → Program Host ε β}
    {good : β → World → Prop}
    (hFirst : Yields program world between bad)
    (hNext :
      ∀ a after, between a after →
        Yields (next a) after good bad) :
    Yields (program.bind next) world good bad := by
  rcases hRun : run program world with ⟨e | a, after⟩
  · exact of_error (run_bind_of_error hRun next)
      (hFirst.2 e after hRun)
  · have hRest := hNext a after (hFirst.1 a after hRun)
    rw [Yields, run_bind_of_ok hRun]
    exact hRest

theorem mapError
    {f : ε → ε'}
    (h : Yields program world good bad) :
    Yields (program.mapError f) world good bad := by
  have hMapped := run_mapError f program world
  rcases hRun : run program world with ⟨e | a, after⟩
  · rw [hRun] at hMapped
    exact of_error hMapped (h.2 e after hRun)
  · rw [hRun] at hMapped
    exact of_ok hMapped (h.1 a after hRun)

theorem ofExcept
    {result : Except ε α}
    (hOk : ∀ a, result = .ok a → good a world)
    (hError : ∀ e, result = .error e → bad world) :
    Yields (Program.ofExcept result : Program Host ε α) world good
      bad := by
  cases result with
  | ok a => exact done (hOk a rfl)
  | error e => exact failed (hError e rfl)

/- A program goes on after a check that has nothing against it. -/
theorem checked
    [Service.RpcError ε]
    {result : Except Rpc.Status α}
    {next : α → Program Host ε β}
    {good : β → World → Prop}
    (hError : bad world)
    (hOk :
      ∀ a, result = .ok a → Yields (next a) world good bad) :
    Yields ((Service.checked result).bind next) world good bad := by
  cases result with
  | ok a => exact hOk a rfl
  | error status => exact failed hError

theorem exclusively
    (h : Yields program world good bad) :
    Yields (Host.exclusively program) world good bad := by
  rw [Yields, run_exclusively]
  exact h

/-
  A call of the mounter fails by script, which is no end of
  the mounter's own, or it is answered by the mounter.
-/
theorem mounter
    {call : Mount.Call}
    {good : call.Result → World → Prop}
    (hScript :
      ∀ after, after.tree = world.tree →
        after.mounter = world.mounter → bad after)
    (hOk :
      ∀ a after, after.tree = world.tree →
        world.mounter.answer world.tree call =
          (.ok a, after.mounter) → good a after)
    (hError :
      ∀ e after, after.tree = world.tree →
        world.mounter.answer world.tree call =
          (.error e, after.mounter) → bad after) :
    Yields (Host.mounter call) world good bad := by
  refine perform ?_
  change Yields (Program.ofExcept (world.callMounter call).1)
    (world.callMounter call).2 good bad
  rcases hCall : world.callMounter call with ⟨reply, after⟩
  rcases callMounter_cases hCall with
    ⟨hTree, ⟨error, rfl, hSame⟩ | hAnswer⟩
  · exact failed (hScript after hTree hSame)
  · refine ofExcept (fun a hReply => ?_) (fun e hReply => ?_)
    · subst hReply
      exact hOk a after hTree hAnswer
    · subst hReply
      exact hError e after hTree hAnswer

/- A question that does not change the mounter. -/
theorem question
    {call : Mount.Call}
    {reply : call.Reply}
    (h :
      world.mounter.answer world.tree call = (reply, world.mounter)) :
    Yields (Host.mounter call) world
      (fun a after => Alike world after ∧ reply = .ok a)
      (Alike world) := by
  refine mounter (fun after hTree hSame => ⟨hTree, hSame⟩) ?_ ?_
  · intro a after hTree hAnswer
    rw [h, Prod.mk.injEq] at hAnswer
    exact ⟨⟨hTree, hAnswer.2.symm⟩, hAnswer.1⟩
  · intro e after hTree hAnswer
    rw [h, Prod.mk.injEq] at hAnswer
    exact ⟨hTree, hAnswer.2.symm⟩

/- A procedure refuses a message or ends as its handler does. -/
theorem procedure
    {ρ : Type}
    {name : String}
    {status : ε → Rpc.Status}
    {write : α → β}
    {handle : ρ → Program Host ε α}
    {request : Except Rpc.Status ρ}
    {good : World → Prop}
    (hRefused : bad world)
    (h :
      ∀ r, request = .ok r →
        Yields (handle r) world (fun _ => good) bad) :
    Yields (Csi.procedure name status write (some handle) request)
      world (fun _ => good) bad := by
  cases request with
  | error refusal => exact failed hRefused
  | ok r =>
      exact (h r rfl).mapError.bind fun _ _ hGood => done hGood

/- What holds in either case holds after the run. -/
theorem after
    {good : World → Prop}
    (h : Yields program world (fun _ => good) good) :
    good (run program world).2 := by
  rcases hRun : run program world with ⟨e | a, later⟩
  · exact h.2 e later hRun
  · exact h.1 a later hRun

end Yields

end World

end Memory

end BlockVolumes
