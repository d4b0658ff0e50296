import BlockVolumes.Proofs.Program.Behaviour

/-
  By which errors a program fails, whatever its surroundings
  reply, and which of them it raises before it has asked for
  anything.

  Key definitions include:
    * `Program.FailsBy`
    * `Program.RefusesAtOnce`

  Key theorems include:
    * `Program.FailsBy.attempt_bind`
    * `Program.FailsBy.keeps`
    * `Program.RefusesAtOnce.bind`
    * `Program.RefusesAtOnce.state_of_run`
-/

namespace BlockVolumes

namespace Program

variable {I : Interface}
variable {ε ε' α β σ : Type}

------------------------------------------------------------
-- Kinds of Errors
------------------------------------------------------------

/- Whether a program fails by errors of a kind only. -/
def FailsBy
    (kind : ε → Prop) :
    Program I ε α → Prop
  | done _ => True
  | failed e => kind e
  | ask _ next => ∀ reply, (next reply).FailsBy kind

/-
  Whether a program raises the errors of a kind before its
  first request or not at all.
-/
def RefusesAtOnce
    (kind : ε → Prop) :
    Program I ε α → Prop
  | done _ => True
  | failed _ => True
  | ask _ next => ∀ reply, (next reply).FailsBy fun e => ¬ kind e

namespace FailsBy

variable {kind : ε → Prop}
variable {program : Program I ε α}

@[simp] theorem done
    {a : α} :
    (done a : Program I ε α).FailsBy kind :=
  trivial

@[simp] theorem failed_iff
    {e : ε} :
    (failed e : Program I ε α).FailsBy kind ↔ kind e :=
  Iff.rfl

@[simp] theorem ask_iff
    {request : I.Request}
    {next : I.Reply request → Program I ε α} :
    (ask request next).FailsBy kind ↔
      ∀ reply, (next reply).FailsBy kind :=
  Iff.rfl

theorem mono
    {kind' : ε → Prop}
    (h : program.FailsBy kind)
    (hKind : ∀ e, kind e → kind' e) :
    program.FailsBy kind' := by
  induction program with
  | done a => trivial
  | failed e => exact hKind e h
  | ask request next ih =>
      exact fun reply => ih reply (h reply)

theorem bind
    {next : α → Program I ε β}
    (hFirst : program.FailsBy kind)
    (hNext : ∀ a, (next a).FailsBy kind) :
    (program.bind next).FailsBy kind := by
  induction program with
  | done a => exact hNext a
  | failed e => exact hFirst
  | ask request rest ih =>
      exact fun reply => ih reply (hFirst reply)

theorem mapError
    {f : ε' → ε}
    {program : Program I ε' α}
    (h : program.FailsBy fun e => kind (f e)) :
    (program.mapError f).FailsBy kind := by
  induction program with
  | done a => trivial
  | failed e => exact h
  | ask request next ih =>
      exact fun reply => ih reply (h reply)

/-
  An attempt does not fail, so what follows it has to deal
  with the errors of what was attempted.
-/
theorem attempt_bind
    {kind' : ε' → Prop}
    {next : Except ε α → Program I ε' β}
    (h : program.FailsBy kind)
    (hOk : ∀ a, (next (.ok a)).FailsBy kind')
    (hError : ∀ e, kind e → (next (.error e)).FailsBy kind') :
    (program.attempt.bind next).FailsBy kind' := by
  induction program with
  | done a => exact hOk a
  | failed e => exact hError e h
  | ask request rest ih =>
      exact fun reply => ih reply (h reply)

theorem ofExcept
    {result : Except ε α}
    (h : ∀ e, result = .error e → kind e) :
    (Program.ofExcept result : Program I ε α).FailsBy kind := by
  cases result with
  | ok a => trivial
  | error e => exact h e rfl

/- Every program fails by some error. -/
theorem any
    (program : Program I ε α) :
    program.FailsBy fun _ => True := by
  induction program with
  | done a => trivial
  | failed e => trivial
  | ask request next ih => exact ih

/- What holds whatever the replies holds in any surroundings. -/
theorem keeps
    {around : Surroundings I σ}
    {state : σ}
    (h : program.FailsBy kind) :
    program.Keeps around (fun _ _ => True)
      (fun result _ => ∀ e, result = .error e → kind e) state := by
  induction program generalizing state with
  | done a => exact fun _ _ => nofun
  | failed e =>
      rintro now hNow _ ⟨⟩
      exact h
  | ask request next ih =>
      exact fun now _ =>
        ⟨trivial, fun reply _ _ => ih reply (h reply)⟩

theorem of_run
    {answer : (request : I.Request) → σ → I.Reply request × σ}
    {state after : σ}
    {e : ε}
    (h : program.FailsBy kind)
    (hRun : program.run answer state = (.error e, after)) :
    kind e := by
  induction program generalizing state with
  | done a => exact nomatch hRun
  | failed e =>
      cases hRun
      exact h
  | ask request next ih => exact ih _ (h _) hRun

end FailsBy

------------------------------------------------------------
-- Before the First Request
------------------------------------------------------------

namespace RefusesAtOnce

variable {kind : ε → Prop}
variable {program : Program I ε α}

@[simp] theorem done
    {a : α} :
    (done a : Program I ε α).RefusesAtOnce kind :=
  trivial

@[simp] theorem failed
    {e : ε} :
    (failed e : Program I ε α).RefusesAtOnce kind :=
  trivial

/- An error that is never raised is not raised too late. -/
theorem of_failsBy
    (h : program.FailsBy fun e => ¬ kind e) :
    program.RefusesAtOnce kind := by
  cases program with
  | done a => trivial
  | failed e => trivial
  | ask request next => exact h

theorem bind
    {next : α → Program I ε β}
    (hFirst : program.RefusesAtOnce kind)
    (hNext : ∀ a, (next a).FailsBy fun e => ¬ kind e) :
    (program.bind next).RefusesAtOnce kind := by
  cases program with
  | done a => exact of_failsBy (hNext a)
  | failed e => trivial
  | ask request rest => exact fun reply => (hFirst reply).bind hNext

theorem mapError
    {f : ε' → ε}
    {program : Program I ε' α}
    (h : program.RefusesAtOnce fun e => kind (f e)) :
    (program.mapError f).RefusesAtOnce kind := by
  cases program with
  | done a => trivial
  | failed e => trivial
  | ask request next =>
      intro reply
      refine FailsBy.mapError ?_
      exact h reply

/- Once there was a request, no error of the kind follows. -/
theorem keeps
    {around : Surroundings I σ}
    {first state : σ}
    (h : program.RefusesAtOnce kind)
    (hState : around.Drifts first state) :
    program.Keeps around (fun _ _ => True)
      (fun result now =>
        ∀ e, result = .error e → kind e →
          around.Drifts first now)
      state := by
  cases program with
  | done a => exact fun _ _ => nofun
  | failed e =>
      exact fun now hNow _ _ _ => around.trans hState hNow
  | ask request next =>
      refine fun now _ => ⟨trivial, fun reply after _ => ?_⟩
      refine (h reply).keeps.mono fun result now hKind e hError hOf => ?_
      exact absurd hOf (hKind e hError)

/- A run that ends by such an error has changed nothing. -/
theorem state_of_run
    {answer : (request : I.Request) → σ → I.Reply request × σ}
    {state after : σ}
    {e : ε}
    (h : program.RefusesAtOnce kind)
    (hRun : program.run answer state = (.error e, after))
    (hKind : kind e) :
    after = state := by
  cases program with
  | done a => exact nomatch hRun
  | failed e =>
      cases hRun
      rfl
  | ask request next =>
      exact absurd hKind ((h _).of_run hRun)

end RefusesAtOnce

end Program

end BlockVolumes
