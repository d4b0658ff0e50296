import BlockVolumes.Proofs.Program.Behaviour

/-
  Programs side by side in the same surroundings. Any of them
  may put the next request, so that every interleaving at the
  granularity of single requests is a sequence of turns.

  Key definitions include:
    * `Program.Group`
    * `Program.Group.Turn`
    * `Program.Group.Reaches`

  Key theorems include:
    * `Program.Group.keeps_of_reaches`
-/

namespace BlockVolumes

namespace Program

/- Programs that run side by side, and the state they share. -/
abbrev Group
    (I : Interface)
    (ε α σ : Type) :=
  List (Program I ε α) × σ

namespace Group

variable {I : Interface}
variable {ε α σ : Type}

/- One of the programs puts its request and gets a reply. -/
inductive Turn
    (Answers :
      (request : I.Request) → σ → I.Reply request → σ → Prop) :
    Group I ε α σ → Group I ε α σ → Prop where
  | reply
      {programs : List (Program I ε α)}
      {index : Nat}
      {request : I.Request}
      {next : I.Reply request → Program I ε α}
      {state after : σ}
      {reply : I.Reply request}
      (hTurn : programs[index]? = some (ask request next))
      (hAnswer : Answers request state reply after) :
      Turn Answers (programs, state)
        (programs.set index (next reply), after)

theorem Turn.of_reply
    {Answers :
      (request : I.Request) → σ → I.Reply request → σ → Prop}
    {programs : List (Program I ε α)}
    (index : Nat)
    {request : I.Request}
    {next : I.Reply request → Program I ε α}
    {state after : σ}
    (reply : I.Reply request)
    (hTurn : programs[index]? = some (ask request next))
    (hAnswer : Answers request state reply after) :
    Turn Answers (programs, state)
      (programs.set index (next reply), after) :=
  .reply hTurn hAnswer

/- What becomes of programs and their state in some turns. -/
def Reaches
    (Answers :
      (request : I.Request) → σ → I.Reply request → σ → Prop) :
    Group I ε α σ → Group I ε α σ → Prop :=
  Relation.ReflTransGen (Turn Answers)

variable {around : Surroundings I σ}
variable {allowed : I.Request → σ → Prop}
variable {wanted : Except ε α → σ → Prop}
variable {before after : Group I ε α σ}

/-
  A turn of one program is a drift for the others, so that all
  of them keep to their contract.
-/
theorem keeps_of_turn
    (hDrift :
      ∀ {request state reply after},
        allowed request state →
        around.Answers request state reply after →
          around.Drifts state after)
    (hKeeps :
      ∀ program ∈ before.1,
        program.Keeps around allowed wanted before.2)
    (hTurn : Turn around.Answers before after) :
    (∀ program ∈ after.1,
      program.Keeps around allowed wanted after.2) ∧
        around.Drifts before.2 after.2 := by
  rcases hTurn with @⟨programs, index, request, next, state, now,
    reply, hTurn, hAnswer⟩
  have hMine :
      (ask request next).Keeps around allowed wanted state :=
    hKeeps _ (List.mem_of_getElem? hTurn)
  rcases hMine state (around.refl state) with ⟨hAllowed, hNext⟩
  have hOthers : around.Drifts state now :=
    hDrift hAllowed hAnswer
  refine ⟨fun program hProgram => ?_, hOthers⟩
  rcases List.mem_or_eq_of_mem_set hProgram with hOld | rfl
  · exact (hKeeps program hOld).drift hOthers
  · exact hNext reply now hAnswer

/- All programs keep to their contract on the whole way. -/
theorem keeps_of_reaches
    (hDrift :
      ∀ {request state reply after},
        allowed request state →
        around.Answers request state reply after →
          around.Drifts state after)
    (hKeeps :
      ∀ program ∈ before.1,
        program.Keeps around allowed wanted before.2)
    (hReach : Reaches around.Answers before after) :
    (∀ program ∈ after.1,
      program.Keeps around allowed wanted after.2) ∧
        around.Drifts before.2 after.2 := by
  induction hReach with
  | refl => exact ⟨hKeeps, around.refl _⟩
  | tail _ hTurn ih =>
      rcases ih with ⟨hKept, hDrifted⟩
      rcases keeps_of_turn hDrift hKept hTurn with
        ⟨hStill, hMore⟩
      exact ⟨hStill, around.trans hDrifted hMore⟩

end Group

end Program

end BlockVolumes
