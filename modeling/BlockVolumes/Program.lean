/-
  Programs that put requests to their surroundings. A program
  is the tree of what it does after each possible reply, so
  that a statement about all replies is one about all paths.

  Key definitions include:
    * `Interface`
    * `Program`
    * `Program.bind`
    * `Program.attempt`
    * `Program.run`
-/

namespace BlockVolumes

------------------------------------------------------------
-- Programs
------------------------------------------------------------

/- The requests that can be put, and the replies to each. -/
structure Interface where
  Request : Type
  Reply : Request → Type

/-
  A program that ends with a result or an error after finitely
  many requests.
-/
inductive Program
    (I : Interface)
    (ε α : Type) where
  | done (result : α)
  | failed (error : ε)
  | ask
      (request : I.Request)
      (next : I.Reply request → Program I ε α)

namespace Program

variable {I : Interface}
variable {ε ε' α β γ σ : Type}

/- A single request. -/
def perform
    (request : I.Request) :
    Program I ε (I.Reply request) :=
  ask request done

/- Goes on with the result of a program. -/
def bind
    (program : Program I ε α)
    (next : α → Program I ε β) : Program I ε β :=
  match program with
  | done a => next a
  | failed e => failed e
  | ask request rest =>
      ask request fun reply => (rest reply).bind next

/- Changes the error of a program. -/
def mapError
    (f : ε → ε') :
    Program I ε α → Program I ε' α
  | done a => done a
  | failed e => failed (f e)
  | ask request next =>
      ask request fun reply => (next reply).mapError f

/- Turns the error of a program into a result. -/
def attempt :
    Program I ε α → Program I ε' (Except ε α)
  | done a => done (.ok a)
  | failed e => done (.error e)
  | ask request next =>
      ask request fun reply => (next reply).attempt

/- A program that puts no request. -/
def ofExcept : Except ε α → Program I ε α
  | .ok a => done a
  | .error e => failed e

instance : Monad (Program I ε) where
  pure := done
  bind := bind

instance : MonadExceptOf ε (Program I ε) where
  throw := failed
  tryCatch program handler := do
    match ← attempt program with
    | .ok a => done a
    | .error e => handler e

------------------------------------------------------------
-- Laws
------------------------------------------------------------

@[simp] theorem done_bind
    (a : α)
    (next : α → Program I ε β) :
    (done a : Program I ε α).bind next = next a :=
  rfl

@[simp] theorem failed_bind
    (e : ε)
    (next : α → Program I ε β) :
    (failed e : Program I ε α).bind next = failed e :=
  rfl

@[simp] theorem ask_bind
    (request : I.Request)
    (rest : I.Reply request → Program I ε α)
    (next : α → Program I ε β) :
    (ask request rest).bind next =
      ask request fun reply => (rest reply).bind next :=
  rfl

theorem bind_done
    (program : Program I ε α) :
    program.bind done = program := by
  induction program with
  | done a => rfl
  | failed e => rfl
  | ask request rest ih =>
      simp only [ask_bind, ih]

theorem bind_bind
    (program : Program I ε α)
    (f : α → Program I ε β)
    (g : β → Program I ε γ) :
    (program.bind f).bind g =
      program.bind fun a => (f a).bind g := by
  induction program with
  | done a => rfl
  | failed e => rfl
  | ask request rest ih =>
      simp only [ask_bind, ih]

@[simp] theorem bind_eq
    (program : Program I ε α)
    (next : α → Program I ε β) :
    program >>= next = program.bind next :=
  rfl

@[simp] theorem pure_eq
    (a : α) :
    (pure a : Program I ε α) = done a :=
  rfl

@[simp] theorem throw_eq
    (e : ε) :
    (throw e : Program I ε α) = failed e :=
  rfl

@[simp] theorem map_eq
    (f : α → β)
    (program : Program I ε α) :
    f <$> program = program.bind fun a => done (f a) :=
  rfl

@[simp] theorem ofExcept_ok
    (a : α) :
    (ofExcept (.ok a) : Program I ε α) = done a :=
  rfl

@[simp] theorem ofExcept_error
    (e : ε) :
    (ofExcept (.error e) : Program I ε α) = failed e :=
  rfl

@[simp] theorem mapError_done
    (f : ε → ε')
    (a : α) :
    (done a : Program I ε α).mapError f = done a :=
  rfl

@[simp] theorem mapError_failed
    (f : ε → ε')
    (e : ε) :
    (failed e : Program I ε α).mapError f = failed (f e) :=
  rfl

@[simp] theorem mapError_ask
    (f : ε → ε')
    (request : I.Request)
    (next : I.Reply request → Program I ε α) :
    (ask request next).mapError f =
      ask request fun reply => (next reply).mapError f :=
  rfl

@[simp] theorem perform_bind
    (request : I.Request)
    (next : I.Reply request → Program I ε α) :
    (perform request : Program I ε _).bind next =
      ask request next :=
  rfl

------------------------------------------------------------
-- Running
------------------------------------------------------------

/-
  Runs a program alone in surroundings that answer each
  request at once and may change by it.
-/
def run
    (answer : (request : I.Request) → σ → I.Reply request × σ) :
    Program I ε α → σ → Except ε α × σ
  | done a, state => (.ok a, state)
  | failed e, state => (.error e, state)
  | ask request next, state =>
      let (reply, state) := answer request state
      (next reply).run answer state

theorem run_bind
    (answer : (request : I.Request) → σ → I.Reply request × σ)
    (program : Program I ε α)
    (next : α → Program I ε β)
    (state : σ) :
    (program.bind next).run answer state =
      match program.run answer state with
      | (.ok a, state) => (next a).run answer state
      | (.error e, state) => (.error e, state) := by
  induction program generalizing state with
  | done a => rfl
  | failed e => rfl
  | ask request rest ih =>
      simp only [ask_bind, run, ih]

theorem run_bind_of_ok
    {answer : (request : I.Request) → σ → I.Reply request × σ}
    {program : Program I ε α}
    {state after : σ}
    {a : α}
    (h : program.run answer state = (.ok a, after))
    (next : α → Program I ε β) :
    (program.bind next).run answer state =
      (next a).run answer after := by
  rw [run_bind, h]

theorem run_bind_of_error
    {answer : (request : I.Request) → σ → I.Reply request × σ}
    {program : Program I ε α}
    {state after : σ}
    {e : ε}
    (h : program.run answer state = (.error e, after))
    (next : α → Program I ε β) :
    (program.bind next).run answer state = (.error e, after) := by
  rw [run_bind, h]

/- A run that goes well goes well in both of its parts. -/
theorem run_bind_eq_ok
    {answer : (request : I.Request) → σ → I.Reply request × σ}
    {program : Program I ε α}
    {next : α → Program I ε β}
    {state after : σ}
    {b : β} :
    (program.bind next).run answer state = (.ok b, after) ↔
      ∃ a between,
        program.run answer state = (.ok a, between) ∧
          (next a).run answer between = (.ok b, after) := by
  rw [run_bind]
  rcases program.run answer state with ⟨e | a, between⟩
  · simp
  · constructor
    · intro h
      exact ⟨a, between, rfl, h⟩
    · rintro ⟨_, _, ⟨⟩, h⟩
      exact h

theorem run_mapError
    (answer : (request : I.Request) → σ → I.Reply request × σ)
    (f : ε → ε')
    (program : Program I ε α)
    (state : σ) :
    (program.mapError f).run answer state =
      ((program.run answer state).1.mapError f,
        (program.run answer state).2) := by
  induction program generalizing state with
  | done a => rfl
  | failed e => rfl
  | ask request rest ih =>
      simp only [mapError, run, ih]

/- An attempt runs the program and does not fail with it. -/
theorem run_attempt
    (answer : (request : I.Request) → σ → I.Reply request × σ)
    (program : Program I ε α)
    (state : σ) :
    (program.attempt : Program I ε' (Except ε α)).run answer state =
      (.ok (program.run answer state).1,
        (program.run answer state).2) := by
  induction program generalizing state with
  | done a => rfl
  | failed e => rfl
  | ask request rest ih => exact ih _ _

theorem run_ofExcept
    (answer : (request : I.Request) → σ → I.Reply request × σ)
    (result : Except ε α)
    (state : σ) :
    (ofExcept result).run answer state = (result, state) := by
  cases result <;> rfl

end Program

end BlockVolumes
