import BlockVolumes.Program
import Mathlib.Logic.Relation

/-
  What holds of a program whatever its surroundings reply. The
  surroundings have a state, and others may change it between
  two requests of the program.

  Key definitions include:
    * `Surroundings`
    * `Program.Keeps`
    * `Program.Succeeds`
    * `Program.Step`
    * `Program.Reaches`

  Key theorems include:
    * `Program.Keeps.remember`
    * `Program.Keeps.andThen`
    * `Program.Succeeds.bind`
    * `Program.Keeps.of_reaches`
-/

namespace BlockVolumes

------------------------------------------------------------
-- Surroundings
------------------------------------------------------------

/-
  Surroundings with a state: which reply a request may get in
  a state, together with the state afterwards, and how others
  may change the state while the program does nothing.
-/
structure Surroundings
    (I : Interface)
    (σ : Type) where
  Answers :
    (request : I.Request) → σ → I.Reply request → σ → Prop
  Drifts : σ → σ → Prop
  refl : ∀ state, Drifts state state
  trans :
    ∀ {first second third},
      Drifts first second → Drifts second third →
        Drifts first third

namespace Surroundings

variable {I : Interface}
variable {σ : Type}

/- Surroundings in which nobody else does anything. -/
def alone
    (Answers :
      (request : I.Request) → σ → I.Reply request → σ → Prop) :
    Surroundings I σ :=
  { Answers := Answers
    Drifts := Eq
    refl := fun _ => rfl
    trans := Eq.trans }

end Surroundings

namespace Program

variable {I : Interface}
variable {ε ε' α β σ : Type}

------------------------------------------------------------
-- Keeping to a Contract
------------------------------------------------------------

/-
  Whether a program, from a state on, puts only requests that
  are allowed when they are put, and ends as wanted. This is
  one condition for each path through the tree of replies.
-/
def Keeps
    (around : Surroundings I σ)
    (allowed : I.Request → σ → Prop)
    (wanted : Except ε α → σ → Prop) :
    Program I ε α → σ → Prop
  | done a, state =>
      ∀ now, around.Drifts state now → wanted (.ok a) now
  | failed e, state =>
      ∀ now, around.Drifts state now → wanted (.error e) now
  | ask request next, state =>
      ∀ now, around.Drifts state now →
        allowed request now ∧
          ∀ reply after,
            around.Answers request now reply after →
              (next reply).Keeps around allowed wanted after

/-
  Whether a program that runs alone gets an answer to each of
  its requests and ends with a wanted result, whichever replies
  are chosen.
-/
def Succeeds
    (Answers :
      (request : I.Request) → σ → I.Reply request → σ → Prop)
    (wanted : α → σ → Prop)
    (program : Program I ε α)
    (state : σ) : Prop :=
  program.Keeps (.alone Answers)
    (fun request now => ∃ reply after, Answers request now reply after)
    (fun result now => ∃ a, result = .ok a ∧ wanted a now)
    state

namespace Keeps

variable {around : Surroundings I σ}
variable {allowed : I.Request → σ → Prop}
variable {wanted wanted' : Except ε α → σ → Prop}
variable {program : Program I ε α}
variable {state now : σ}

/- A contract is not broken by what others do meanwhile. -/
theorem drift
    (h : program.Keeps around allowed wanted state)
    (hDrift : around.Drifts state now) :
    program.Keeps around allowed wanted now := by
  cases program with
  | done a =>
      exact fun later hLater => h later (around.trans hDrift hLater)
  | failed e =>
      exact fun later hLater => h later (around.trans hDrift hLater)
  | ask request next =>
      exact fun later hLater => h later (around.trans hDrift hLater)

/- The contract may ask less of the end. -/
theorem mono
    (h : program.Keeps around allowed wanted state)
    (hWanted :
      ∀ result now, wanted result now → wanted' result now) :
    program.Keeps around allowed wanted' state := by
  induction program generalizing state with
  | done a =>
      exact fun now hNow => hWanted _ _ (h now hNow)
  | failed e =>
      exact fun now hNow => hWanted _ _ (h now hNow)
  | ask request next ih =>
      intro now hNow
      rcases h now hNow with ⟨hAllowed, hNext⟩
      refine ⟨hAllowed, fun reply after hAnswer => ?_⟩
      exact ih reply (hNext reply after hAnswer)

/-
  What neither the others nor allowed requests end still holds
  at the end.
-/
theorem remember
    {invariant : σ → Prop}
    (hDrift :
      ∀ {before after},
        around.Drifts before after →
          invariant before → invariant after)
    (hAnswer :
      ∀ {request before reply after},
        allowed request before →
          around.Answers request before reply after →
            invariant before → invariant after)
    (h : program.Keeps around allowed wanted state)
    (hState : invariant state) :
    program.Keeps around allowed
      (fun result now => wanted result now ∧ invariant now)
      state := by
  induction program generalizing state with
  | done a =>
      exact fun now hNow => ⟨h now hNow, hDrift hNow hState⟩
  | failed e =>
      exact fun now hNow => ⟨h now hNow, hDrift hNow hState⟩
  | ask request next ih =>
      intro now hNow
      rcases h now hNow with ⟨hAllowed, hNext⟩
      refine ⟨hAllowed, fun reply after hReply => ?_⟩
      exact ih reply (hNext reply after hReply)
        (hAnswer hAllowed hReply (hDrift hNow hState))

/-
  One program after another: the first one has to end where
  the second one can keep to the contract.
-/
theorem andThen
    {next : α → Program I ε β}
    {wanted : Except ε β → σ → Prop}
    {middle : α → σ → Prop}
    (hFirst :
      program.Keeps around allowed
        (fun result now =>
          match result with
          | .ok a => middle a now
          | .error e => wanted (.error e) now)
        state)
    (hNext :
      ∀ a now, middle a now →
        (next a).Keeps around allowed wanted now) :
    (program.bind next).Keeps around allowed wanted state := by
  induction program generalizing state with
  | done a => exact hNext a state (hFirst state (around.refl state))
  | failed e => exact hFirst
  | ask request rest ih =>
      intro now hNow
      rcases hFirst now hNow with ⟨hAllowed, hRest⟩
      refine ⟨hAllowed, fun reply after hAnswer => ?_⟩
      exact ih reply (hRest reply after hAnswer)

theorem mapError
    {f : ε → ε'}
    {wanted : Except ε' α → σ → Prop}
    (h :
      program.Keeps around allowed
        (fun result now => wanted (result.mapError f) now) state) :
    (program.mapError f).Keeps around allowed wanted state := by
  induction program generalizing state with
  | done a => exact h
  | failed e => exact h
  | ask request next ih =>
      intro now hNow
      rcases h now hNow with ⟨hAllowed, hNext⟩
      refine ⟨hAllowed, fun reply after hAnswer => ?_⟩
      exact ih reply (hNext reply after hAnswer)

theorem attempt
    {wanted : Except ε' (Except ε α) → σ → Prop}
    (h :
      program.Keeps around allowed
        (fun result now => wanted (.ok result) now) state) :
    (program.attempt : Program I ε' (Except ε α)).Keeps
      around allowed wanted state := by
  induction program generalizing state with
  | done a => exact h
  | failed e => exact h
  | ask request next ih =>
      intro now hNow
      rcases h now hNow with ⟨hAllowed, hNext⟩
      refine ⟨hAllowed, fun reply after hAnswer => ?_⟩
      exact ih reply (hNext reply after hAnswer)

theorem ofExcept
    {result : Except ε α}
    (h : ∀ now, around.Drifts state now → wanted result now) :
    (Program.ofExcept result).Keeps around allowed wanted
      state := by
  cases result <;> exact h

/- Where nobody else does anything, nothing drifts. -/
@[simp] theorem alone_done
    {Answers :
      (request : I.Request) → σ → I.Reply request → σ → Prop}
    {a : α} :
    (done a : Program I ε α).Keeps (.alone Answers) allowed wanted
        state ↔
      wanted (.ok a) state := by
  constructor
  · intro h
    exact h state rfl
  · rintro h now rfl
    exact h

@[simp] theorem alone_failed
    {Answers :
      (request : I.Request) → σ → I.Reply request → σ → Prop}
    {e : ε} :
    (failed e : Program I ε α).Keeps (.alone Answers) allowed
        wanted state ↔
      wanted (.error e) state := by
  constructor
  · intro h
    exact h state rfl
  · rintro h now rfl
    exact h

@[simp] theorem alone_ask
    {Answers :
      (request : I.Request) → σ → I.Reply request → σ → Prop}
    {request : I.Request}
    {next : I.Reply request → Program I ε α} :
    (ask request next).Keeps (.alone Answers) allowed wanted
        state ↔
      allowed request state ∧
        ∀ reply after, Answers request state reply after →
          (next reply).Keeps (.alone Answers) allowed wanted
            after := by
  constructor
  · intro h
    exact h state rfl
  · rintro h now rfl
    exact h

end Keeps

namespace Succeeds

variable {Answers :
  (request : I.Request) → σ → I.Reply request → σ → Prop}
variable {wanted middle : α → σ → Prop}
variable {program : Program I ε α}
variable {state : σ}

theorem done
    {a : α}
    (h : wanted a state) :
    Succeeds Answers wanted (.done a : Program I ε α) state :=
  Keeps.alone_done.mpr ⟨a, rfl, h⟩

/- A request that gets a reply, and only replies to go on with. -/
theorem ask
    {request : I.Request}
    {next : I.Reply request → Program I ε α}
    (hSome : ∃ reply after, Answers request state reply after)
    (hNext :
      ∀ reply after, Answers request state reply after →
        Succeeds Answers wanted (next reply) after) :
    Succeeds Answers wanted (.ask request next) state :=
  Keeps.alone_ask.mpr ⟨hSome, hNext⟩

theorem bind
    {next : α → Program I ε β}
    {wanted : β → σ → Prop}
    (hFirst : Succeeds Answers middle program state)
    (hNext :
      ∀ a now, middle a now →
        Succeeds Answers wanted (next a) now) :
    Succeeds Answers wanted (program.bind next) state := by
  refine Keeps.andThen (Keeps.mono hFirst ?_) hNext
  rintro _ now ⟨a, rfl, hMiddle⟩
  exact hMiddle

theorem mapError
    {f : ε → ε'}
    (h : Succeeds Answers wanted program state) :
    Succeeds Answers wanted (program.mapError f) state := by
  refine Keeps.mapError (Keeps.mono h ?_)
  rintro _ now ⟨a, rfl, hWanted⟩
  exact ⟨a, rfl, hWanted⟩

end Succeeds

------------------------------------------------------------
-- Steps
------------------------------------------------------------

/- A program goes on, or others change the state. -/
inductive Step
    (around : Surroundings I σ) :
    Program I ε α × σ → Program I ε α × σ → Prop where
  | reply
      {request : I.Request}
      {next : I.Reply request → Program I ε α}
      {state after : σ}
      {reply : I.Reply request}
      (h : around.Answers request state reply after) :
      Step around (ask request next, state) (next reply, after)
  | drift
      {program : Program I ε α}
      {state now : σ}
      (h : around.Drifts state now) :
      Step around (program, state) (program, now)

/- What becomes of a program and the state in some steps. -/
def Reaches
    (around : Surroundings I σ) :
    Program I ε α × σ → Program I ε α × σ → Prop :=
  Relation.ReflTransGen (Step around)

variable {around : Surroundings I σ}
variable {allowed : I.Request → σ → Prop}
variable {wanted : Except ε α → σ → Prop}

theorem Keeps.of_step
    {before after : Program I ε α × σ}
    (h : before.1.Keeps around allowed wanted before.2)
    (hStep : Step around before after) :
    after.1.Keeps around allowed wanted after.2 := by
  cases hStep with
  | reply hAnswer =>
      exact (h _ (around.refl _)).2 _ _ hAnswer
  | drift hDrift => exact h.drift hDrift

/- A contract is kept on the whole way. -/
theorem Keeps.of_reaches
    {before after : Program I ε α × σ}
    (h : before.1.Keeps around allowed wanted before.2)
    (hReach : Reaches around before after) :
    after.1.Keeps around allowed wanted after.2 := by
  induction hReach with
  | refl => exact h
  | tail _ hStep ih => exact ih.of_step hStep

/- Every request on the way is allowed when it is put. -/
theorem Keeps.allowed_of_reaches
    {program : Program I ε α}
    {state now : σ}
    {request : I.Request}
    {next : I.Reply request → Program I ε α}
    (h : program.Keeps around allowed wanted state)
    (hReach :
      Reaches around (program, state) (ask request next, now)) :
    allowed request now :=
  ((Keeps.of_reaches h hReach) now (around.refl now)).1

end Program

end BlockVolumes
