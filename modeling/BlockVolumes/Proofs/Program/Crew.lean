import BlockVolumes.Host
import BlockVolumes.Program.Descent
import BlockVolumes.Proofs.Program.Behaviour

/-
  Programs side by side that share a state and one lock. Any
  of them may put the next request, wait for the lock, or be
  dropped between two of its requests; with a dropped program
  the lock is given back. So every interleaving of calls at
  the granularity of single requests is a sequence of steps.

  What a program can rely on depends on whether it holds the
  lock. All programs keep to their contracts on the whole way
  if each of them makes only quiet changes without the lock.

  Key definitions include:
    * `Host.Crew`
    * `Host.Crew.Turn`
    * `Host.Crew.Step`
    * `Host.Crew.Reaches`
    * `Host.Guard`
    * `Host.Guard.seen`
    * `Host.Guard.Within`
    * `Host.Guard.Outside`

  Key theorems include:
    * `Host.Guard.Within.exclusively`
    * `Host.Crew.keep_of_turn`
    * `Host.Crew.keep_of_reaches`
    * `Host.Crew.loud_of_reaches`
-/

namespace BlockVolumes

namespace Host

open Program (Rest)

------------------------------------------------------------
-- Crews
------------------------------------------------------------

/- Whether a request is one for the lock itself. -/
def Request.IsOfLock : Request → Prop
  | .acquire => True
  | .release => True
  | _ => False

/-
  What is left of programs that run side by side, the place of
  the one that holds the lock, and the state that they share.
-/
structure Crew
    (ε α σ : Type) where
  rests : List (Rest Host ε α)
  holder : Option Nat
  state : σ

namespace Crew

variable {ε α σ : Type}

/- Programs of which none has begun. -/
def start
    (programs : List (Program Host ε α))
    (state : σ) : Crew ε α σ :=
  ⟨programs.map some, none, state⟩

/- Whether the program at a place has a request to put next. -/
def Asks
    (crew : Crew ε α σ)
    (index : Nat)
    (request : Request) : Prop :=
  ∃ next,
    crew.rests[index]? =
      some (some (.ask (I := Host) request next))

/- Whether the program at a place has ended with a result. -/
def Ended
    (crew : Crew ε α σ)
    (index : Nat)
    (a : α) : Prop :=
  crew.rests[index]? = some (some (.done a))

/- The crew after a program has gone on. -/
def advance
    (crew : Crew ε α σ)
    (index : Nat)
    (rest : Rest Host ε α) : Crew ε α σ :=
  { crew with rests := crew.rests.set index rest }

/- The holder of the lock once a program does not want it. -/
def holderWithout
    (crew : Crew ε α σ)
    (index : Nat) : Option Nat :=
  crew.holder.filter fun holder => holder != index

/-
  The program at a place has its turn. It gets the lock only
  while nobody holds it. A program that has put a request may
  be dropped.
-/
inductive Turn
    (Answers :
      (request : Request) → σ → Reply request → σ → Prop)
    (index : Nat) :
    Crew ε α σ → Crew ε α σ → Prop where
  | reply
      {crew : Crew ε α σ}
      {request : Request}
      {next : Reply request → Program Host ε α}
      {reply : Reply request}
      {after : σ}
      (hTurn :
        crew.rests[index]? =
          some (some (.ask (I := Host) request next)))
      (hOpen : ¬ request.IsOfLock)
      (hAnswer : Answers request crew.state reply after) :
      Turn Answers index crew
        { crew.advance index (some (next reply)) with
          state := after }
  | acquire
      {crew : Crew ε α σ}
      {next : Unit → Program Host ε α}
      (hTurn :
        crew.rests[index]? =
          some (some (.ask (I := Host) .acquire next)))
      (hFree : crew.holder = none) :
      Turn Answers index crew
        { crew.advance index (some (next ())) with
          holder := some index }
  | release
      {crew : Crew ε α σ}
      {next : Unit → Program Host ε α}
      (hTurn :
        crew.rests[index]? =
          some (some (.ask (I := Host) .release next))) :
      Turn Answers index crew
        { crew.advance index (some (next ())) with
          holder := crew.holderWithout index }
  | drop
      {crew : Crew ε α σ}
      {request : Request}
      {next : Reply request → Program Host ε α}
      (hTurn :
        crew.rests[index]? =
          some (some (.ask (I := Host) request next))) :
      Turn Answers index crew
        { crew.advance index none with
          holder := crew.holderWithout index }

/- A program has its turn, or others change the state. -/
inductive Step
    (around : Surroundings Host σ) :
    Crew ε α σ → Crew ε α σ → Prop where
  | turn
      {before after : Crew ε α σ}
      (index : Nat)
      (h : Turn around.Answers index before after) :
      Step around before after
  | drift
      {crew : Crew ε α σ}
      {now : σ}
      (h : around.Drifts crew.state now) :
      Step around crew { crew with state := now }

/- The program at a place puts its request and gets a reply. -/
theorem Step.of_reply
    {around : Surroundings Host σ}
    {crew : Crew ε α σ}
    {request : Request}
    {next : Reply request → Program Host ε α}
    {after : σ}
    (index : Nat)
    (reply : Reply request)
    (hTurn :
      crew.rests[index]? =
        some (some (.ask (I := Host) request next)))
    (hOpen : ¬ request.IsOfLock)
    (hAnswer : around.Answers request crew.state reply after) :
    Step around crew
      { crew.advance index (some (next reply)) with
        state := after } :=
  .turn index (.reply hTurn hOpen hAnswer)

/- What becomes of a crew in some steps. -/
def Reaches
    (around : Surroundings Host σ) :
    Crew ε α σ → Crew ε α σ → Prop :=
  Relation.ReflTransGen (Step around)

end Crew

------------------------------------------------------------
-- Guards
------------------------------------------------------------

variable {ε α σ : Type}

/-
  What a lock guards: which changes of the state nobody needs
  the lock for, and which ones happen at all.
-/
structure Guard
    (σ : Type) where
  Quiet : σ → σ → Prop
  Loud : σ → σ → Prop
  quiet_refl : ∀ state, Quiet state state
  quiet_trans :
    ∀ {first second third},
      Quiet first second → Quiet second third →
        Quiet first third
  loud_trans :
    ∀ {first second third},
      Loud first second → Loud second third → Loud first third
  loud_of_quiet :
    ∀ {first second}, Quiet first second → Loud first second

namespace Guard

variable {guard : Guard σ}
variable {Answers :
  (request : Request) → σ → Reply request → σ → Prop}
variable {before now : σ}

/- The changes that others make while one holds the lock or not. -/
def Others
    (guard : Guard σ) : Bool → σ → σ → Prop
  | true => guard.Quiet
  | false => guard.Loud

/- Quiet changes may happen at any time. -/
theorem others_of_quiet
    (h : guard.Quiet before now)
    (held : Bool) :
    guard.Others held before now := by
  cases held with
  | true => exact h
  | false => exact guard.loud_of_quiet h

/- The state, and whether the program itself holds the lock. -/
abbrev View
    (σ : Type) :=
  σ × Bool

/- The surroundings of one program among others. -/
def seen
    (guard : Guard σ)
    (Answers :
      (request : Request) → σ → Reply request → σ → Prop) :
    Surroundings Host (View σ) :=
  { Answers := fun request before reply after =>
      match request with
      | .acquire => after = (before.1, true)
      | .release => after = (before.1, false)
      | request =>
          Answers request before.1 reply after.1 ∧
            after.2 = before.2
    Drifts := fun before now =>
      now.2 = before.2 ∧ guard.Others before.2 before.1 now.1
    refl := fun view =>
      ⟨rfl, others_of_quiet (guard.quiet_refl view.1) view.2⟩
    trans := by
      rintro ⟨first, held⟩ ⟨second, _⟩ ⟨third, _⟩
        ⟨hHeld, hFirst⟩ ⟨hStill, hSecond⟩
      dsimp only at *
      rw [hHeld] at hStill hSecond
      refine ⟨hStill, ?_⟩
      cases held with
      | true => exact guard.quiet_trans hFirst hSecond
      | false => exact guard.loud_trans hFirst hSecond }

/- A request that is not for the lock leaves the lock alone. -/
theorem seen_of_answer
    {request : Request}
    {reply : Reply request}
    {after : σ}
    (hOpen : ¬ request.IsOfLock)
    (hAnswer : Answers request before reply after)
    (held : Bool) :
    (guard.seen Answers).Answers request (before, held) reply
      (after, held) := by
  cases request with
  | acquire => exact absurd trivial hOpen
  | release => exact absurd trivial hOpen
  | _ => exact ⟨hAnswer, rfl⟩

/-
  Whether allowed requests make no change without the lock for
  which others need it.
-/
def Holds
    (guard : Guard σ)
    (Answers :
      (request : Request) → σ → Reply request → σ → Prop)
    (allowed : Request → View σ → Prop) : Prop :=
  ∀ {request state held reply after},
    ¬ request.IsOfLock →
      allowed request (state, held) →
        Answers request state reply after →
          guard.Others (!held) state after

end Guard

------------------------------------------------------------
-- Sections
------------------------------------------------------------

namespace Guard

variable {ε' β : Type}
variable {guard : Guard σ}
variable {Answers :
  (request : Request) → σ → Reply request → σ → Prop}
variable {allowed : Request → View σ → Prop}
variable {middle : α → σ → Prop}
variable {program : Program Host ε α}
variable {state : σ}

/-
  Whether a program that holds the lock puts only allowed
  requests, and its result agrees with the state at its end,
  where it still holds the lock.
-/
def Within
    (guard : Guard σ)
    (Answers :
      (request : Request) → σ → Reply request → σ → Prop)
    (allowed : Request → View σ → Prop)
    (middle : α → σ → Prop)
    (program : Program Host ε α)
    (state : σ) : Prop :=
  program.Keeps (guard.seen Answers) allowed
    (fun result now =>
      now.2 = true ∧ ∀ a, result = .ok a → middle a now.1)
    (state, true)

namespace Within

theorem done
    {a : α}
    (h : ∀ now, guard.Quiet state now → middle a now) :
    Within guard Answers allowed middle
      (.done a : Program Host ε α) state := by
  rintro ⟨now, held⟩ ⟨hHeld, hQuiet⟩
  refine ⟨hHeld, fun b hDone => ?_⟩
  have hEq : a = b := Except.ok.inj hDone
  rw [← hEq]
  exact h now hQuiet

theorem failed
    {e : ε} :
    Within guard Answers allowed middle
      (.failed e : Program Host ε α) state := by
  rintro ⟨now, held⟩ ⟨hHeld, _⟩
  exact ⟨hHeld, fun _ hDone => nomatch hDone⟩

/- A failure that is worded in one of two ways. -/
theorem failedEither
    {p : Prop}
    [Decidable p]
    {e e' : ε} :
    Within guard Answers allowed middle
      (if p then .failed e else .failed e' : Program Host ε α)
      state := by
  split
  · exact failed
  · exact failed

theorem ask
    {request : Request}
    {next : Reply request → Program Host ε α}
    (hOpen : ¬ request.IsOfLock)
    (h :
      ∀ now, guard.Quiet state now →
        allowed request (now, true) ∧
          ∀ reply after, Answers request now reply after →
            Within guard Answers allowed middle (next reply)
              after) :
    Within guard Answers allowed middle
      (.ask (I := Host) request next) state := by
  rintro ⟨now, held⟩ ⟨hHeld, hQuiet⟩
  dsimp only at hHeld hQuiet
  subst hHeld
  rcases h now hQuiet with ⟨hAllowed, hNext⟩
  refine ⟨hAllowed, ?_⟩
  rintro reply ⟨after, held⟩ hAnswer
  cases request with
  | acquire => exact absurd trivial hOpen
  | release => exact absurd trivial hOpen
  | _ =>
      rcases hAnswer with ⟨hAnswer, hHeld⟩
      dsimp only at hHeld hAnswer
      subst hHeld
      exact hNext reply after hAnswer

theorem bind
    {next : α → Program Host ε β}
    {wanted : β → σ → Prop}
    (hFirst : Within guard Answers allowed middle program state)
    (hNext :
      ∀ a now, middle a now →
        Within guard Answers allowed wanted (next a) now) :
    Within guard Answers allowed wanted (program.bind next)
      state := by
  have hRest :
      ∀ a (now : View σ),
        (now.2 = true ∧ middle a now.1) →
          (next a).Keeps (guard.seen Answers) allowed
            (fun result now =>
              now.2 = true ∧ ∀ b, result = .ok b → wanted b now.1)
            now := by
    rintro a ⟨now, held⟩ ⟨hHeld, hMiddle⟩
    dsimp only at hHeld hMiddle
    subst hHeld
    exact hNext a now hMiddle
  refine Program.Keeps.andThen (Program.Keeps.mono hFirst ?_) hRest
  rintro result now ⟨hHeld, hResult⟩
  cases result with
  | ok a => exact ⟨hHeld, hResult a rfl⟩
  | error e => exact ⟨hHeld, fun _ hDone => nomatch hDone⟩

theorem mapError
    {f : ε → ε'}
    (h : Within guard Answers allowed middle program state) :
    Within guard Answers allowed middle (program.mapError f)
      state := by
  refine Program.Keeps.mapError (Program.Keeps.mono h ?_)
  rintro result now ⟨hHeld, hResult⟩
  refine ⟨hHeld, fun a hDone => ?_⟩
  cases result with
  | ok b =>
      have hEq : b = a := Except.ok.inj hDone
      exact hResult a (congrArg Except.ok hEq)
  | error e => exact nomatch hDone

theorem ofExcept
    {result : Except ε α}
    (h :
      ∀ a, result = .ok a →
        ∀ now, guard.Quiet state now → middle a now) :
    Within guard Answers allowed middle
      (Program.ofExcept result) state := by
  cases result with
  | ok a => exact done (h a rfl)
  | error e => exact failed

/-
  A program that takes the lock for all that it does keeps to
  a contract that asks nothing of failures.
-/
theorem exclusively
    {wanted : Except ε α → View σ → Prop}
    (hAcquire : ∀ now, allowed .acquire (now, false))
    (hSection :
      ∀ now, Within guard Answers allowed middle program now)
    (hRelease : ∀ now, allowed .release (now, true))
    (hOk :
      ∀ a before now,
        middle a before → guard.Loud before now →
          wanted (.ok a) (now, false))
    (hFailed : ∀ e now, wanted (.error e) (now, false)) :
    (Host.exclusively program).Keeps (guard.seen Answers) allowed
      wanted (state, false) := by
  rintro ⟨now, held⟩ ⟨hHeld, _⟩
  dsimp only at hHeld
  subst hHeld
  refine ⟨hAcquire now, ?_⟩
  rintro _ view hView
  have hEq : view = (now, true) := hView
  rw [hEq]
  have hAttempt :
      (program.attempt : Program Host ε (Except ε α)).Keeps
        (guard.seen Answers) allowed
        (fun outcome now =>
          ∃ result, outcome = .ok result ∧ now.2 = true ∧
            ∀ a, result = .ok a → middle a now.1)
        (now, true) :=
    Program.Keeps.attempt
      (Program.Keeps.mono (hSection now)
        fun result _ hResult => ⟨result, rfl, hResult⟩)
  have hLeave :
      ∀ (result : Except ε α) (view : View σ),
        (view.2 = true ∧ ∀ a, result = .ok a → middle a view.1) →
          (Program.ask (I := Host) Request.release fun _ =>
            Program.ofExcept result).Keeps
              (guard.seen Answers) allowed wanted view := by
    rintro result ⟨last, held⟩ ⟨hHeld, hResult⟩
    dsimp only at hHeld hResult
    subst hHeld
    rintro ⟨still, held⟩ ⟨hHeld, hQuiet⟩
    dsimp only at hHeld hQuiet
    subst hHeld
    refine ⟨hRelease still, ?_⟩
    rintro _ view hView
    have hEq : view = (still, false) := hView
    rw [hEq]
    refine Program.Keeps.ofExcept ?_
    rintro ⟨later, held⟩ ⟨hHeld, hLoud⟩
    dsimp only at hHeld hLoud
    subst hHeld
    cases result with
    | ok a =>
        have hChange : guard.Loud last later :=
          guard.loud_trans (guard.loud_of_quiet hQuiet) hLoud
        exact hOk a last later (hResult a rfl) hChange
    | error e => exact hFailed e _
  change (Program.bind program.attempt _).Keeps _ _ _ _
  refine Program.Keeps.andThen (Program.Keeps.mono hAttempt ?_)
    hLeave
  rintro _ now ⟨result, rfl, hResult⟩
  exact hResult

end Within

end Guard

------------------------------------------------------------
-- Outside of Sections
------------------------------------------------------------

namespace Guard

variable {ε' β : Type}
variable {guard : Guard σ}
variable {Answers :
  (request : Request) → σ → Reply request → σ → Prop}
variable {allowed : Request → View σ → Prop}
variable {program : Program Host ε α}
variable {state : σ}

/-
  Whether a program that does not hold the lock puts only
  allowed requests and does not hold the lock at its end.
-/
def Outside
    (guard : Guard σ)
    (Answers :
      (request : Request) → σ → Reply request → σ → Prop)
    (allowed : Request → View σ → Prop)
    (program : Program Host ε α)
    (state : σ) : Prop :=
  program.Keeps (guard.seen Answers) allowed
    (fun _ now => now.2 = false) (state, false)

namespace Outside

theorem done
    {a : α} :
    Outside guard Answers allowed
      (.done a : Program Host ε α) state :=
  fun _ hNow => hNow.1

theorem failed
    {e : ε} :
    Outside guard Answers allowed
      (.failed e : Program Host ε α) state :=
  fun _ hNow => hNow.1

theorem ask
    {request : Request}
    {next : Reply request → Program Host ε α}
    (hOpen : ¬ request.IsOfLock)
    (hAllowed : ∀ now, allowed request (now, false))
    (hNext :
      ∀ reply after,
        Outside guard Answers allowed (next reply) after) :
    Outside guard Answers allowed
      (.ask (I := Host) request next) state := by
  rintro ⟨now, held⟩ ⟨hHeld, _⟩
  dsimp only at hHeld
  subst hHeld
  refine ⟨hAllowed now, ?_⟩
  rintro reply ⟨after, held⟩ hAnswer
  cases request with
  | acquire => exact absurd trivial hOpen
  | release => exact absurd trivial hOpen
  | _ =>
      rcases hAnswer with ⟨_, hHeld⟩
      dsimp only at hHeld
      subst hHeld
      exact hNext reply after

theorem bind
    {next : α → Program Host ε β}
    (hFirst : Outside guard Answers allowed program state)
    (hNext :
      ∀ a now, Outside guard Answers allowed (next a) now) :
    Outside guard Answers allowed (program.bind next) state := by
  have hRest :
      ∀ a (now : View σ),
        now.2 = false →
          (next a).Keeps (guard.seen Answers) allowed
            (fun _ now => now.2 = false) now := by
    rintro a ⟨now, held⟩ hHeld
    dsimp only at hHeld
    subst hHeld
    exact hNext a now
  refine Program.Keeps.andThen (Program.Keeps.mono hFirst ?_) hRest
  intro result now hHeld
  cases result with
  | ok a => exact hHeld
  | error e => exact hHeld

theorem mapError
    {f : ε → ε'}
    (h : Outside guard Answers allowed program state) :
    Outside guard Answers allowed (program.mapError f) state :=
  Program.Keeps.mapError h

theorem ofExcept
    {result : Except ε α} :
    Outside guard Answers allowed (Program.ofExcept result)
      state := by
  cases result with
  | ok a => exact done
  | error e => exact failed

/- A section between its two requests for the lock. -/
theorem exclusively
    {middle : α → σ → Prop}
    (hAcquire : ∀ now, allowed .acquire (now, false))
    (hSection :
      ∀ now, Within guard Answers allowed middle program now)
    (hRelease : ∀ now, allowed .release (now, true)) :
    Outside guard Answers allowed (Host.exclusively program)
      state :=
  Within.exclusively hAcquire hSection hRelease
    (fun _ _ _ _ _ => rfl) (fun _ _ => rfl)

end Outside

end Guard

------------------------------------------------------------
-- Contracts in Crews
------------------------------------------------------------

namespace Crew

variable {guard : Guard σ}
variable {around : Surroundings Host σ}
variable {allowed : Nat → Request → Guard.View σ → Prop}
variable {wanted : Nat → Except ε α → Guard.View σ → Prop}
variable {crew before after : Crew ε α σ}
variable {index other : Nat}

/- The state as the program at a place sees it. -/
def view
    (crew : Crew ε α σ)
    (index : Nat) : Guard.View σ :=
  (crew.state, crew.holder == some index)

/- Whether what is left of each program keeps to its contract. -/
def Keep
    (guard : Guard σ)
    (Answers :
      (request : Request) → σ → Reply request → σ → Prop)
    (allowed : Nat → Request → Guard.View σ → Prop)
    (wanted : Nat → Except ε α → Guard.View σ → Prop)
    (crew : Crew ε α σ) : Prop :=
  ∀ (index : Nat) (program : Program Host ε α),
    crew.rests[index]? = some (some program) →
      program.Keeps (guard.seen Answers) (allowed index)
        (wanted index) (crew.view index)

/- Nobody holds the lock before any program has begun. -/
theorem keep_start
    {programs : List (Program Host ε α)}
    {state : σ}
    (h :
      ∀ (index : Nat) (program : Program Host ε α),
        programs[index]? = some program →
          program.Keeps (guard.seen around.Answers)
            (allowed index) (wanted index) (state, false)) :
    Keep guard around.Answers allowed wanted
      (start programs state) := by
  intro index program hProgram
  refine h index program ?_
  rw [start, List.getElem?_map] at hProgram
  cases hGet : programs[index]? with
  | none => simp [hGet] at hProgram
  | some first => simpa [hGet] using hProgram

/- A program in a crew after another one has gone on. -/
theorem rest_of_advance
    {rest : Rest Host ε α}
    {program : Program Host ε α}
    (hOther : other ≠ index)
    (hProgram :
      (crew.advance index rest).rests[other]? =
        some (some program)) :
    crew.rests[other]? = some (some program) := by
  rw [advance, List.getElem?_set_ne hOther.symm] at hProgram
  exact hProgram

/- The program that has gone on. -/
theorem eq_of_advance
    {rest : Rest Host ε α}
    {program : Program Host ε α}
    (hProgram :
      (crew.advance index rest).rests[index]? =
        some (some program)) :
    rest = some program := by
  rw [advance, List.getElem?_set] at hProgram
  split at hProgram
  · split at hProgram
    · exact Option.some.inj hProgram
    · exact nomatch hProgram
  · exact absurd rfl ‹_›

/- Another holder of the lock still holds it. -/
theorem holderWithout_eq
    (hOther : other ≠ index) :
    (crew.holderWithout index == some other) =
      (crew.holder == some other) := by
  unfold holderWithout
  cases crew.holder with
  | none => rfl
  | some holder =>
      by_cases hHolder : holder = index
      · simp [Option.filter, hHolder, hOther.symm]
      · simp [Option.filter, hHolder]

theorem holderWithout_self :
    (crew.holderWithout index == some index) = false := by
  unfold holderWithout
  cases crew.holder with
  | none => rfl
  | some holder =>
      by_cases hHolder : holder = index
      · simp [Option.filter, hHolder]
      · simp [Option.filter, hHolder]

/- What one program does is a drift for the others. -/
theorem drifts_of_answer
    {request : Request}
    {reply : Reply request}
    {now : σ}
    (hHolds : guard.Holds around.Answers (allowed index))
    (hOpen : ¬ request.IsOfLock)
    (hAllowed : allowed index request (crew.view index))
    (hAnswer : around.Answers request crew.state reply now)
    (hOther : other ≠ index) :
    guard.Others (crew.holder == some other) crew.state now := by
  have hChange := hHolds hOpen hAllowed hAnswer
  cases hHeld : crew.holder == some other with
  | true =>
      have hNot : (crew.holder == some index) = false := by
        rw [beq_iff_eq.mp hHeld]
        simp [hOther]
      rw [hNot] at hChange
      exact hChange
  | false =>
      cases hMine : crew.holder == some index with
      | true =>
          rw [hMine] at hChange
          exact hChange
      | false =>
          rw [hMine] at hChange
          exact guard.loud_of_quiet hChange

/- All programs keep to their contracts in a turn of one. -/
theorem keep_of_turn
    (hHolds : guard.Holds around.Answers (allowed index))
    (hKeep : Keep guard around.Answers allowed wanted before)
    (hTurn : Turn around.Answers index before after) :
    Keep guard around.Answers allowed wanted after := by
  intro other program hProgram
  cases hTurn with
  | @reply request next reply now hTurn hOpen hAnswer =>
      rcases hKeep index _ hTurn _ ((guard.seen _).refl _) with
        ⟨hAllowed, hNext⟩
      by_cases hOther : other = index
      · subst hOther
        cases eq_of_advance hProgram
        exact hNext reply _
          (Guard.seen_of_answer hOpen hAnswer _)
      · have hKept := hKeep other program
          (rest_of_advance hOther hProgram)
        exact hKept.drift ⟨rfl,
          drifts_of_answer hHolds hOpen hAllowed hAnswer hOther⟩
  | @acquire next hTurn hFree =>
      rcases hKeep index _ hTurn _ ((guard.seen _).refl _) with
        ⟨_, hNext⟩
      by_cases hOther : other = index
      · subst hOther
        cases eq_of_advance hProgram
        have hMine := hNext () (before.state, true) rfl
        simpa [view, advance] using hMine
      · have hKept := hKeep other program
          (rest_of_advance hOther hProgram)
        have hSame : (some index == some other) = false := by
          simpa using fun h => hOther h.symm
        simpa [view, advance, hFree, hSame] using hKept
  | @release next hTurn =>
      rcases hKeep index _ hTurn _ ((guard.seen _).refl _) with
        ⟨_, hNext⟩
      by_cases hOther : other = index
      · subst hOther
        cases eq_of_advance hProgram
        have hMine := hNext () (before.state, false) rfl
        simpa [view, holderWithout_self, advance] using hMine
      · have hKept := hKeep other program
          (rest_of_advance hOther hProgram)
        simpa [view, holderWithout_eq hOther, advance] using hKept
  | drop hTurn =>
      by_cases hOther : other = index
      · subst hOther
        exact nomatch eq_of_advance hProgram
      · have hKept := hKeep other program
          (rest_of_advance hOther hProgram)
        simpa [view, holderWithout_eq hOther, advance] using hKept

/- No more than a loud change is made in a turn. -/
theorem loud_of_turn
    (hHolds : guard.Holds around.Answers (allowed index))
    (hKeep : Keep guard around.Answers allowed wanted before)
    (hTurn : Turn around.Answers index before after) :
    guard.Loud before.state after.state := by
  cases hTurn with
  | reply hTurn hOpen hAnswer =>
      have hChange := hHolds hOpen
        (hKeep index _ hTurn _ ((guard.seen _).refl _)).1 hAnswer
      cases hMine : before.holder == some index with
      | true =>
          rw [hMine] at hChange
          exact hChange
      | false =>
          rw [hMine] at hChange
          exact guard.loud_of_quiet hChange
  | _ => exact guard.loud_of_quiet (guard.quiet_refl before.state)

/-
  All programs keep to their contracts on the whole way, if no
  more than quiet changes come from outside.
-/
theorem keep_of_reaches
    (hHolds :
      ∀ index, guard.Holds around.Answers (allowed index))
    (hOutside :
      ∀ {state now},
        around.Drifts state now → guard.Quiet state now)
    (hKeep : Keep guard around.Answers allowed wanted before)
    (hReach : Reaches around before after) :
    Keep guard around.Answers allowed wanted after := by
  induction hReach with
  | refl => exact hKeep
  | tail _ hStep ih =>
      cases hStep with
      | turn index hTurn =>
          exact keep_of_turn (hHolds index) ih hTurn
      | drift hDrift =>
          intro index program hProgram
          exact (ih index program hProgram).drift
            ⟨rfl, Guard.others_of_quiet (hOutside hDrift) _⟩

/- No more than loud changes are made on the whole way. -/
theorem loud_of_reaches
    (hHolds :
      ∀ index, guard.Holds around.Answers (allowed index))
    (hOutside :
      ∀ {state now},
        around.Drifts state now → guard.Quiet state now)
    (hKeep : Keep guard around.Answers allowed wanted before)
    (hReach : Reaches around before after) :
    guard.Loud before.state after.state := by
  induction hReach with
  | refl => exact guard.loud_of_quiet (guard.quiet_refl _)
  | tail hSome hStep ih =>
      refine guard.loud_trans ih ?_
      cases hStep with
      | turn index hTurn =>
          have hKept :=
            keep_of_reaches hHolds hOutside hKeep hSome
          exact loud_of_turn (hHolds index) hKept hTurn
      | drift hDrift =>
          exact guard.loud_of_quiet (hOutside hDrift)

variable {Answers :
  (request : Request) → σ → Reply request → σ → Prop}

/- A request is allowed when it is put. -/
theorem Keep.allowed_of_asks
    (hKeep : Keep guard Answers allowed wanted crew)
    {request : Request}
    (hAsks : crew.Asks index request) :
    allowed index request (crew.view index) := by
  rcases hAsks with ⟨next, hTurn⟩
  exact (hKeep index _ hTurn _ ((guard.seen _).refl _)).1

/- A program that has ended has done so as wanted. -/
theorem Keep.wanted_of_ended
    (hKeep : Keep guard Answers allowed wanted crew)
    {a : α}
    (hEnded : crew.Ended index a) :
    wanted index (.ok a) (crew.view index) :=
  hKeep index _ hEnded _ ((guard.seen _).refl _)

end Crew

end Host

end BlockVolumes
