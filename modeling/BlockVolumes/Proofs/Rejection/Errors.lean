import BlockVolumes.Csi.Procedure
import BlockVolumes.Proofs.Program.Failing
import BlockVolumes.Proofs.Transitions.Record
import BlockVolumes.Service.Error

/-
  Rejections: the statuses by which a call is turned down for
  its arguments. Errors about the state of volumes, nodes and
  mounts are answered by other codes.

  Key definitions include:
    * `Rpc.Status.IsRejection`
    * `Service.Rejection.Accepting`
    * `Service.Rejection.Prompt`

  Key theorems include:
    * `Service.Rejection.during_accepting`
    * `Service.Rejection.within_accepting`
    * `Service.Rejection.procedure_prompt`
-/

namespace BlockVolumes

------------------------------------------------------------
-- Statuses
------------------------------------------------------------

/- The codes by which a call is turned down for its arguments. -/
def Rpc.Code.isRejection : Rpc.Code → Bool
  | .invalidArgument => true
  | .outOfRange => true
  | .unimplemented => true
  | _ => false

/- Whether a call is turned down for its arguments. -/
def Rpc.Status.IsRejection
    (status : Rpc.Status) : Prop :=
  status.code.isRejection = true

namespace Service

namespace Rejection

open Rpc (Status)

variable {ε α β : Type}

------------------------------------------------------------
-- After the Arguments Are Accepted
------------------------------------------------------------

/-
  Whether a program fails by no rejection. Its errors are read
  as the statuses with which they are answered.
-/
abbrev Accepting
    (status : ε → Status)
    (program : Program Host ε α) : Prop :=
  program.FailsBy fun e => ¬ (status e).IsRejection

/-
  Whether a program that rejects its arguments does so before
  its first request.
-/
abbrev Prompt
    (status : ε → Status)
    (program : Program Host ε α) : Prop :=
  program.RefusesAtOnce fun e => (status e).IsRejection

theorem not_isRejection_of_code
    {status : Status}
    (h : status.code.isRejection = false) :
    ¬ status.IsRejection := by
  rw [Status.IsRejection, h]
  exact Bool.false_ne_true

/- Whether an error is about what a request says. -/
def concernsArguments : Error → Bool
  | .parameters _ => true
  | .capacity _ => true
  | _ => false

theorem code_of_state
    {error : Error}
    (h : concernsArguments error = false) :
    error.code = .failedPrecondition ∨ error.code = .notFound ∨
      error.code = .internal := by
  cases error with
  | parameters fault => exact nomatch h
  | capacity refusal => exact nomatch h
  | refused id status action => exact .inl rfl
  | during operation subject cause =>
      have hCode :
          (Error.during operation subject cause).code =
            if cause.isNotFound then .notFound else .internal :=
        rfl
      rw [hCode]
      refine .inr ?_
      split
      · exact .inl rfl
      · exact .inr rfl
  | timeout id expected elapsed => exact .inr (.inr rfl)
  | duplicates name count => exact .inr (.inr rfl)
  | inconsistent id reason => exact .inr (.inr rfl)
  | noZone storageClass => exact .inr (.inr rfl)
  | pauseTooLong => exact .inr (.inr rfl)

theorem not_isRejection_error
    {error : Error}
    (h : concernsArguments error = false) :
    ¬ error.status.IsRejection := by
  apply not_isRejection_of_code
  rcases code_of_state h with hCode | hCode | hCode
  all_goals
    rw [Error.status, hCode]
    rfl

/- A failure of what a service works with is no rejection. -/
theorem during_accepting
    (cause : ε → Cause)
    (operation subject : String)
    (program : Program Host ε α) :
    Accepting Error.status
      (during cause operation subject program) :=
  Program.FailsBy.mapError
    ((Program.FailsBy.any program).mono fun _ _ =>
      not_isRejection_error rfl)

/- Errors of the services keep their statuses in procedures. -/
theorem within_accepting
    [RpcError ε]
    {status : ε → Status}
    {program : Program Host Error α}
    (hStatus : ∀ s, status (RpcError.ofStatus s) = s)
    (h : Accepting Error.status program) :
    Accepting status (within program) := by
  refine Program.FailsBy.mapError (h.mono fun error hError => ?_)
  rw [raise, hStatus]
  exact hError

theorem reported_accepting
    {ε' : Type}
    [RpcError ε]
    {status : ε → Status}
    {cause : ε' → Cause}
    {operation subject : String}
    {program : Program Host ε' α}
    (hStatus : ∀ s, status (RpcError.ofStatus s) = s) :
    Accepting status
      (within (during cause operation subject program)) :=
  within_accepting hStatus
    (during_accepting cause operation subject program)

theorem raise_not_isRejection
    [RpcError ε]
    {status : ε → Status}
    (hStatus : ∀ s, status (RpcError.ofStatus s) = s)
    {error : Error}
    (h : concernsArguments error = false) :
    ¬ (status (raise error)).IsRejection := by
  rw [raise, hStatus]
  exact not_isRejection_error h

/- The lock changes nothing about how a program fails. -/
theorem exclusively_accepting
    {status : ε → Status}
    {program : Program Host ε α}
    (h : Accepting status program) :
    Accepting status (Host.exclusively program) := by
  refine fun _ => h.attempt_bind (fun a => ?_) fun e hError => ?_
  · exact fun _ => trivial
  · exact fun _ => hError

------------------------------------------------------------
-- Procedures
------------------------------------------------------------

/- A message is read, and maybe refused, before it is handled. -/
theorem procedure_prompt
    {ρ : Type}
    {status : ε → Status}
    (name : String)
    (write : α → β)
    {handle : ρ → Program Host ε α}
    (request : Except Status ρ)
    (h : ∀ read, Prompt status (handle read)) :
    Prompt id
      (Csi.procedure name status write (some handle) request) := by
  cases request with
  | error refusal => trivial
  | ok read =>
      refine Program.RefusesAtOnce.bind ?_ fun _ => trivial
      exact Program.RefusesAtOnce.mapError (h read)

/- A rejected call has an empty record, whatever was replied. -/
theorem past_of_prompt
    {program : Program Host Status α}
    {status : Status}
    {past : Host.Record}
    (h : Prompt id program)
    (hReach :
      Program.Reaches Host.recorded (program, [])
        (.failed status, past))
    (hRejected : status.IsRejection) :
    past = [] := by
  have hKeeps :
      program.Keeps Host.recorded (fun _ _ => True)
        (fun result now =>
          ∀ e, result = .error e → (id e : Status).IsRejection →
            [] = now)
        [] :=
    h.keeps rfl
  exact (hKeeps.of_reaches hReach past rfl status rfl
    hRejected).symm

end Rejection

end Service

end BlockVolumes
