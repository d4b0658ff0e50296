import BlockVolumes.Proofs.Program.Behaviour

/-
  What programs ask of any surroundings, and how these reply:
  the record of a run, and what holds of it whatever the
  replies are.

  Key definitions include:
    * `Interface.Exchange`
    * `Interface.recorded`
    * `Interface.Replies.run`
    * `Interface.Orderly`
    * `Program.AsksOnly`

  Key theorems include:
    * `Program.Keeps.of_run`
    * `Program.Keeps.orderly_run`
    * `Program.AsksOnly.of_mem_run`
-/

namespace BlockVolumes

------------------------------------------------------------
-- Records
------------------------------------------------------------

namespace Interface

/- A request and the reply that it got. -/
structure Exchange
    (I : Interface) where
  request : I.Request
  reply : I.Reply request

/- The exchanges of a program, the latest one first. -/
abbrev Record
    (I : Interface) : Type :=
  List (Exchange I)

/- Surroundings that give any reply and keep the record. -/
def recorded
    (I : Interface) : Surroundings I (Record I) :=
  .alone fun request past reply now =>
    now = ⟨request, reply⟩ :: past

/-
  Replies of surroundings that behave in any way they like,
  also by what they were asked before and how they replied.
-/
abbrev Replies
    (I : Interface) : Type :=
  (request : I.Request) → Record I → I.Reply request

/-
  Whether each request on record was allowed by what had been
  put on record before it.
-/
def Orderly
    {I : Interface}
    (allowed : I.Request → Record I → Prop) : Record I → Prop
  | [] => True
  | exchange :: past =>
      allowed exchange.request past ∧ Orderly allowed past

variable {I : Interface}
variable {ε ε' α β : Type}
variable {allowed : I.Request → Record I → Prop}
variable {past earlier later : Record I}

/- Each single request on record was allowed at its time. -/
theorem Orderly.of_split
    {exchange : Exchange I}
    (h : Orderly allowed (later ++ exchange :: earlier)) :
    allowed exchange.request earlier := by
  induction later with
  | nil => exact h.1
  | cons latest later ih => exact ih h.2

namespace Replies

/- The reply to a request, which is put on record. -/
def answer
    (replies : Replies I)
    (request : I.Request)
    (past : Record I) : I.Reply request × Record I :=
  (replies request past, ⟨request, replies request past⟩ :: past)

/- Runs a program to its end and keeps the record. -/
def run
    (replies : Replies I)
    (program : Program I ε α)
    (past : Record I) : Except ε α × Record I :=
  program.run replies.answer past

variable {replies : Replies I}
variable {program : Program I ε α}
variable {now : Record I}

theorem run_bind_of_ok
    {a : α}
    (h : replies.run program past = (.ok a, now))
    (next : α → Program I ε β) :
    replies.run (program.bind next) past =
      replies.run (next a) now :=
  Program.run_bind_of_ok h next

theorem run_bind_of_error
    {e : ε}
    (h : replies.run program past = (.error e, now))
    (next : α → Program I ε β) :
    replies.run (program.bind next) past = (.error e, now) :=
  Program.run_bind_of_error h next

theorem run_mapError
    (replies : Replies I)
    (f : ε → ε')
    (program : Program I ε α)
    (past : Record I) :
    replies.run (program.mapError f) past =
      ((replies.run program past).1.mapError f,
        (replies.run program past).2) :=
  Program.run_mapError replies.answer f program past

theorem run_attempt
    (replies : Replies I)
    (program : Program I ε α)
    (past : Record I) :
    replies.run
        (program.attempt : Program I ε' (Except ε α)) past =
      (.ok (replies.run program past).1,
        (replies.run program past).2) :=
  Program.run_attempt replies.answer program past

/- A request is put on record with the reply that it gets. -/
theorem run_ask
    {request : I.Request}
    {reply : I.Reply request}
    {next : I.Reply request → Program I ε α}
    (h : replies request past = reply) :
    replies.run (.ask request next) past =
      replies.run (next reply) (⟨request, reply⟩ :: past) := by
  subst h
  rfl

end Replies

end Interface

namespace Program

open Interface (Orderly Record Replies recorded)

variable {I : Interface}
variable {ε ε' α β σ : Type}

------------------------------------------------------------
-- Runs
------------------------------------------------------------

/- A run in surroundings that may answer so ends as wanted. -/
theorem Keeps.of_run
    {around : Surroundings I σ}
    {allowed : I.Request → σ → Prop}
    {wanted : Except ε α → σ → Prop}
    {program : Program I ε α}
    {state : σ}
    (answer : (request : I.Request) → σ → I.Reply request × σ)
    (h : program.Keeps around allowed wanted state)
    (hAnswer :
      ∀ request state,
        around.Answers request state (answer request state).1
          (answer request state).2) :
    wanted (program.run answer state).1
      (program.run answer state).2 := by
  induction program generalizing state with
  | done a => exact h state (around.refl state)
  | failed e => exact h state (around.refl state)
  | ask request next ih =>
      exact ih _ ((h state (around.refl state)).2 _ _
        (hAnswer request state))

/- A run that keeps to rules leaves such a record. -/
theorem Keeps.orderly_run
    {allowed : I.Request → Record I → Prop}
    {wanted : Except ε α → Record I → Prop}
    {program : Program I ε α}
    {past : Record I}
    (h : program.Keeps (recorded I) allowed wanted past)
    (hPast : Orderly allowed past)
    (replies : Replies I) :
    Orderly allowed (replies.run program past).2 := by
  have hKept :
      program.Keeps (recorded I) allowed
        (fun result now => wanted result now ∧ Orderly allowed now)
        past := by
    refine h.remember ?_ ?_ hPast
    · rintro before after rfl hBefore
      exact hBefore
    · rintro request before reply after hAllowed rfl hBefore
      exact ⟨hAllowed, hBefore⟩
  exact (Keeps.of_run replies.answer hKept fun _ _ => rfl).2

------------------------------------------------------------
-- Requests without Regard to the Past
------------------------------------------------------------

/- Whether a program puts only some requests, at any time. -/
def AsksOnly
    (allowed : I.Request → Prop) :
    Program I ε α → Prop
  | done _ => True
  | failed _ => True
  | ask request next =>
      allowed request ∧ ∀ reply, (next reply).AsksOnly allowed

namespace AsksOnly

variable {allowed : I.Request → Prop}
variable {program : Program I ε α}

@[simp] theorem done
    {a : α} :
    (done a : Program I ε α).AsksOnly allowed :=
  trivial

@[simp] theorem failed
    {e : ε} :
    (failed e : Program I ε α).AsksOnly allowed :=
  trivial

theorem bind
    {next : α → Program I ε β}
    (hFirst : program.AsksOnly allowed)
    (hNext : ∀ a, (next a).AsksOnly allowed) :
    (program.bind next).AsksOnly allowed := by
  induction program with
  | done a => exact hNext a
  | failed e => trivial
  | ask request rest ih =>
      exact ⟨hFirst.1, fun reply => ih reply (hFirst.2 reply)⟩

theorem mapError
    {f : ε → ε'}
    (h : program.AsksOnly allowed) :
    (program.mapError f).AsksOnly allowed := by
  induction program with
  | done a => trivial
  | failed e => trivial
  | ask request next ih =>
      exact ⟨h.1, fun reply => ih reply (h.2 reply)⟩

theorem attempt
    (h : program.AsksOnly allowed) :
    (program.attempt : Program I ε' (Except ε α)).AsksOnly
      allowed := by
  induction program with
  | done a => trivial
  | failed e => trivial
  | ask request next ih =>
      exact ⟨h.1, fun reply => ih reply (h.2 reply)⟩

theorem ofExcept
    {result : Except ε α} :
    (Program.ofExcept result : Program I ε α).AsksOnly allowed := by
  cases result
  · exact failed
  · exact done

/- What a run puts on record is what the program may ask. -/
theorem of_mem_run
    {past : Record I}
    {exchange : Interface.Exchange I}
    (h : program.AsksOnly allowed)
    (replies : Replies I)
    (hMem : exchange ∈ (replies.run program past).2) :
    exchange ∈ past ∨ allowed exchange.request := by
  induction program generalizing past with
  | done a => exact .inl hMem
  | failed e => exact .inl hMem
  | ask request next ih =>
      rcases ih _ (h.2 _) hMem with hPast | hAllowed
      · rcases List.mem_cons.mp hPast with rfl | hEarlier
        · exact .inr h.1
        · exact .inl hEarlier
      · exact .inr hAllowed

end AsksOnly

end Program

end BlockVolumes
