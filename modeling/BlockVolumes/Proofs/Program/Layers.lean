import BlockVolumes.Proofs.Program.Exchanges

/-
  Programs on top of others: each request of the upper program
  is answered by a program that puts requests of its own. What
  the upper one keeps to carries over to the lower requests.

  Key definitions include:
    * `Program.through`

  Key theorems include:
    * `Program.AsksOnly.keeps`
    * `Program.Keeps.through`
-/

namespace BlockVolumes

namespace Program

variable {I J : Interface}
variable {ε α σ τ : Type}

/- Answers each request of a program by a program below. -/
def through
    (handle :
      (request : I.Request) → Program J ε (I.Reply request)) :
    Program I ε α → Program J ε α
  | done a => done a
  | failed e => failed e
  | ask request next =>
      (handle request).bind
        fun reply => (next reply).through handle

/- A program that may always ask what it asks keeps to that. -/
theorem AsksOnly.keeps
    {around : Surroundings I σ}
    {asked : I.Request → Prop}
    {allowed : I.Request → σ → Prop}
    {program : Program I ε α}
    {state : σ}
    (h : program.AsksOnly asked)
    (hAllowed : ∀ request now, asked request → allowed request now) :
    program.Keeps around allowed (fun _ _ => True) state := by
  induction program generalizing state with
  | done a => exact fun _ _ => trivial
  | failed e => exact fun _ _ => trivial
  | ask request next ih =>
      intro now _
      exact ⟨hAllowed _ _ h.1, fun reply _ _ => ih reply (h.2 reply)⟩

/-
  A contract of the upper program is one of the lower one if
  each answer, from related states on, keeps to the lower one
  and leads to related states again.
-/
theorem Keeps.through
    {Answers :
      (request : I.Request) → σ → I.Reply request → σ → Prop}
    {Answers' :
      (request : J.Request) → τ → J.Reply request → τ → Prop}
    {allowed : I.Request → σ → Prop}
    {allowed' : J.Request → τ → Prop}
    {wanted : Except ε α → σ → Prop}
    {relates : σ → τ → Prop}
    {handle :
      (request : I.Request) → Program J ε (I.Reply request)}
    {program : Program I ε α}
    {state : σ}
    {below : τ}
    (hHandle :
      ∀ request state below,
        allowed request state → relates state below →
          (handle request).Keeps (.alone Answers') allowed'
            (fun result now =>
              ∃ reply after,
                result = .ok reply ∧
                  Answers request state reply after ∧
                    relates after now)
            below)
    (h : program.Keeps (.alone Answers) allowed wanted state)
    (hRelates : relates state below) :
    (program.through handle).Keeps (.alone Answers') allowed'
      (fun result now =>
        ∃ after, wanted result after ∧ relates after now)
      below := by
  induction program generalizing state below with
  | done a =>
      exact alone_done.mpr ⟨state, alone_done.mp h, hRelates⟩
  | failed e =>
      exact alone_failed.mpr ⟨state, alone_failed.mp h, hRelates⟩
  | ask request next ih =>
      rcases alone_ask.mp h with ⟨hAllowed, hNext⟩
      have hRest :
          ∀ reply now,
            (∃ after,
              Answers request state reply after ∧
                relates after now) →
              ((next reply).through handle).Keeps (.alone Answers')
                allowed'
                (fun result now =>
                  ∃ after, wanted result after ∧ relates after now)
                now := by
        rintro reply now ⟨after, hAnswer, hAfter⟩
        exact ih reply (hNext reply after hAnswer) hAfter
      refine Keeps.andThen
        ((hHandle request state below hAllowed hRelates).mono ?_)
        hRest
      rintro _ now ⟨reply, after, rfl, hAnswer, hAfter⟩
      exact ⟨after, hAnswer, hAfter⟩

end Program

end BlockVolumes
