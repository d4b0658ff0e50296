import BlockVolumes.Program

/-
  What is left of programs that go on one at a time becomes
  less and less, so that all of them come to an end.

  Key definitions include:
    * `Program.After`
    * `Program.Rest`
    * `Lowered`

  Key theorems include:
    * `Program.Rest.less_wf`
    * `Lowered.wf`
-/

namespace BlockVolumes

------------------------------------------------------------
-- One Program
------------------------------------------------------------

namespace Program

variable {I : Interface}
variable {ε α : Type}

/-
  A program is after another one if it is what the other one
  becomes by some replies.
-/
inductive After :
    Program I ε α → Program I ε α → Prop where
  | reply
      (request : I.Request)
      (next : I.Reply request → Program I ε α)
      (reply : I.Reply request) :
      After (next reply) (ask request next)
  | later
      {program : Program I ε α}
      (request : I.Request)
      (next : I.Reply request → Program I ε α)
      (reply : I.Reply request)
      (h : After program (next reply)) :
      After program (ask request next)

theorem acc_after
    (program : Program I ε α) :
    Acc After program := by
  induction program with
  | done a => exact ⟨_, fun _ h => nomatch h⟩
  | failed e => exact ⟨_, fun _ h => nomatch h⟩
  | ask request next ih =>
      refine ⟨_, fun p h => ?_⟩
      cases h with
      | reply _ _ reply => exact ih reply
      | later _ _ reply h => exact (ih reply).inv h

/- What is left of a program that may have ended. -/
abbrev Rest
    (I : Interface)
    (ε α : Type) :=
  Option (Program I ε α)

namespace Rest

/- Less is left after some replies, and nothing at the end. -/
inductive Less :
    Rest I ε α → Rest I ε α → Prop where
  | ended
      (program : Program I ε α) :
      Less none (some program)
  | after
      {p q : Program I ε α}
      (h : After p q) :
      Less (some p) (some q)

theorem acc_none :
    Acc Less (none : Rest I ε α) :=
  ⟨_, fun _ h => nomatch h⟩

theorem acc_some
    (program : Program I ε α) :
    Acc Less (some program) := by
  induction acc_after program with
  | intro program _ ih =>
      refine ⟨_, fun rest h => ?_⟩
      cases h with
      | ended => exact acc_none
      | after h => exact ih _ h

theorem less_wf :
    WellFounded (Less (I := I) (ε := ε) (α := α)) :=
  ⟨fun rest =>
    match rest with
    | none => acc_none
    | some program => acc_some program⟩

/- What is less than the next program is less than the first. -/
theorem Less.of_next
    {rest : Rest I ε α}
    {request : I.Request}
    {next : I.Reply request → Program I ε α}
    {reply : I.Reply request}
    (h : Less rest (some (next reply))) :
    Less rest (some (ask request next)) := by
  cases h with
  | ended => exact .ended _
  | after h => exact .after (.later request next reply h)

/- The next program is less than the first one. -/
theorem less_next
    (request : I.Request)
    (next : I.Reply request → Program I ε α)
    (reply : I.Reply request) :
    Less (some (next reply)) (some (ask request next)) :=
  .after (.reply request next reply)

end Rest

end Program

------------------------------------------------------------
-- Lists
------------------------------------------------------------

/- A list is lower than another one if one place is lower. -/
inductive Lowered
    {α : Type}
    (r : α → α → Prop) :
    List α → List α → Prop where
  | head
      {a b : α}
      (h : r a b)
      (rest : List α) :
      Lowered r (a :: rest) (b :: rest)
  | tail
      (a : α)
      {l m : List α}
      (h : Lowered r l m) :
      Lowered r (a :: l) (a :: m)

namespace Lowered

variable {α : Type}
variable {r : α → α → Prop}

theorem acc_cons
    {a : α}
    {l : List α}
    (ha : Acc r a)
    (hl : Acc (Lowered r) l) :
    Acc (Lowered r) (a :: l) := by
  induction ha generalizing l with
  | intro a _ iha =>
      induction hl with
      | intro l hl ihl =>
          refine ⟨_, fun m hm => ?_⟩
          cases hm with
          | head h => exact iha _ h ⟨l, hl⟩
          | tail _ h => exact ihl _ h

theorem wf
    (hr : WellFounded r) :
    WellFounded (Lowered r) := by
  refine ⟨fun l => ?_⟩
  induction l with
  | nil => exact ⟨_, fun _ h => nomatch h⟩
  | cons a l ih => exact acc_cons (hr.apply a) ih

/- Setting a place to something lower makes the list lower. -/
theorem of_set
    {l : List α}
    {i : Nat}
    {a b : α}
    (hb : l[i]? = some b)
    (h : r a b) :
    Lowered r (l.set i a) l := by
  induction l generalizing i with
  | nil => simp at hb
  | cons c l ih =>
      cases i with
      | zero =>
          simp only [List.getElem?_cons_zero, Option.some.injEq] at hb
          subst hb
          exact .head h l
      | succ i =>
          simp only [List.getElem?_cons_succ] at hb
          exact .tail c (ih hb)

end Lowered

end BlockVolumes
