import BlockVolumes.Csi.Procedure
import BlockVolumes.Proofs.Transitions.Record
import BlockVolumes.Service.Attaching

/-
  What the record of a finished run tells: how a volume looked
  each time it was got, what the backend was asked to change,
  and that each request was allowed by what came before it.

  Key definitions include:
    * `Backend.Call.changes`
    * `Host.looks`
    * `Host.changes`
    * `Host.Orderly`

  Key theorems include:
    * `Host.Replies.suffix_run`
    * `Host.Replies.run_procedure`
    * `Host.Observes.orderly_run`
    * `Host.Observes.of_run`
    * `Service.Attaching.getVolume_reads`
-/

namespace BlockVolumes

/- Whether a request asks the backend for a change. -/
def Backend.Call.changes : Backend.Call → Bool
  | create _ => true
  | delete _ => true
  | expand _ _ => true
  | attach _ _ => true
  | detach _ _ => true
  | _ => false

namespace Host

------------------------------------------------------------
-- Looks and Changes
------------------------------------------------------------

/- How a volume looked, where an exchange is about getting it. -/
def Exchange.look?
    (id : String) : Exchange → Option (Except Backend.Error Disk)
  | ⟨.backend (.get asked), reply⟩ =>
      if asked = id then some reply else none
  | _ => none

/- The request for a change in an exchange, if it is one. -/
def Request.change? : Request → Option Backend.Call
  | .backend call => if call.changes then some call else none
  | _ => none

/-
  The replies to all requests for a volume, the latest one
  first.
-/
def looks
    (id : String)
    (past : Record) : List (Except Backend.Error Disk) :=
  past.filterMap fun exchange => exchange.look? id

/- The requests for changes, the latest one first. -/
def changes
    (past : Record) : List Backend.Call :=
  past.filterMap fun exchange => exchange.request.change?

variable {past later earlier : Record}
variable {id : String}

@[simp] theorem looks_nil :
    looks id [] = [] :=
  rfl

@[simp] theorem changes_nil :
    changes [] = [] :=
  rfl

@[simp] theorem looks_get
    {reply : Except Backend.Error Disk} :
    looks id (⟨.backend (.get id), reply⟩ :: past) =
      reply :: looks id past := by
  simp [looks, Exchange.look?]

theorem looks_append :
    looks id (later ++ past) = looks id later ++ looks id past :=
  List.filterMap_append

theorem changes_append :
    changes (later ++ past) = changes later ++ changes past :=
  List.filterMap_append

theorem looks_of_blind
    {exchange : Exchange}
    (h : exchange.look? id = none) :
    looks id (exchange :: past) = looks id past := by
  simp only [looks, List.filterMap_cons, h]

theorem changes_of_harmless
    {exchange : Exchange}
    (h : exchange.request.change? = none) :
    changes (exchange :: past) = changes past := by
  simp only [changes, List.filterMap_cons, h]

theorem changes_of_change
    {exchange : Exchange}
    {call : Backend.Call}
    (h : exchange.request.change? = some call) :
    changes (exchange :: past) = call :: changes past := by
  simp only [changes, List.filterMap_cons, h]

/- A look is the reply to a request for the volume. -/
theorem mem_looks_iff
    {reply : Except Backend.Error Disk} :
    reply ∈ looks id past ↔
      (⟨.backend (.get id), reply⟩ : Exchange) ∈ past := by
  constructor
  · intro h
    rcases List.mem_filterMap.mp h with
      ⟨⟨request, answer⟩, hMem, hLook⟩
    unfold Exchange.look? at hLook
    split at hLook
    · next asked reply' hExchange =>
        split at hLook
        · next hAsked =>
            cases hExchange
            cases hLook
            cases hAsked
            exact hMem
        · exact nomatch hLook
    · exact nomatch hLook
  · intro h
    exact List.mem_filterMap.mpr ⟨_, h, by simp [Exchange.look?]⟩

/- The first look at a volume that was not got before. -/
theorem getLast?_looks
    {reply : Except Backend.Error Disk}
    (hBlind : looks id earlier = [])
    (h :
      (⟨.backend (.get id), reply⟩ : Exchange) :: earlier <:+
        past) :
    (looks id past).getLast? = some reply := by
  rcases h with ⟨later, rfl⟩
  rw [looks_append, looks_get, hBlind]
  exact List.getLast?_concat

------------------------------------------------------------
-- Records That Runs Leave
------------------------------------------------------------

variable {ε ε' α β : Type}
variable {allowed : Request → Record → Prop}
variable {program : Program Host ε α}
variable {middle : α → Record → Prop}

namespace Replies

variable {replies : Replies}

theorem run_bind_of_ok
    {a : α}
    {now : Record}
    (h : replies.run program past = (.ok a, now))
    (next : α → Program Host ε β) :
    replies.run (program.bind next) past =
      replies.run (next a) now :=
  Program.run_bind_of_ok h next

theorem run_bind_of_error
    {e : ε}
    {now : Record}
    (h : replies.run program past = (.error e, now))
    (next : α → Program Host ε β) :
    replies.run (program.bind next) past = (.error e, now) :=
  Program.run_bind_of_error h next

/- A run adds to the record, and removes nothing from it. -/
theorem suffix_run
    (replies : Replies)
    (program : Program Host ε α)
    (past : Record) :
    past <:+ (replies.run program past).2 := by
  induction program generalizing past with
  | done a => exact List.suffix_rfl
  | failed e => exact List.suffix_rfl
  | ask request next ih =>
      exact (List.suffix_cons _ past).trans (ih _ _)

/- What a first part has put on record is kept by the second. -/
theorem suffix_run_bind
    (replies : Replies)
    (program : Program Host ε α)
    (next : α → Program Host ε β)
    (past : Record) :
    (replies.run program past).2 <:+
      (replies.run (program.bind next) past).2 := by
  rcases hRun : replies.run program past with ⟨e | a, now⟩
  · simp only [run_bind_of_error hRun next, List.suffix_rfl]
  · rw [run_bind_of_ok hRun]
    exact suffix_run replies (next a) now

theorem run_mapError_of_ok
    {a : α}
    {now : Record}
    (h : replies.run program past = (.ok a, now))
    (f : ε → ε') :
    replies.run (program.mapError f) past = (.ok a, now) := by
  rw [run_mapError, h]
  rfl

theorem run_mapError_of_error
    {e : ε}
    {now : Record}
    (h : replies.run program past = (.error e, now))
    (f : ε → ε') :
    replies.run (program.mapError f) past =
      (.error (f e), now) := by
  rw [run_mapError, h]
  rfl

/- A program is attempted by running it. -/
theorem run_attempt
    (replies : Replies)
    (program : Program Host ε α)
    (past : Record) :
    replies.run
        (program.attempt : Program Host ε' (Except ε α)) past =
      (.ok (replies.run program past).1,
        (replies.run program past).2) :=
  Program.run_attempt (I := Host) replies.answer program past

/- A part of a procedure ends as the part does by itself. -/
theorem run_within_of_ok
    [Service.RpcError ε]
    {program : Program Host Service.Error α}
    {a : α}
    {now : Record}
    (h : replies.run program past = (.ok a, now)) :
    replies.run (Service.within program : Program Host ε α) past =
      (.ok a, now) :=
  run_mapError_of_ok h Service.raise

theorem run_within_of_error
    [Service.RpcError ε]
    {program : Program Host Service.Error α}
    {error : Service.Error}
    {now : Record}
    (h : replies.run program past = (.error error, now)) :
    replies.run (Service.within program : Program Host ε α) past =
      (.error (Service.raise error), now) :=
  run_mapError_of_error h Service.raise

/- A request is put on record with the reply that it gets. -/
theorem run_ask
    {request : Request}
    {reply : Reply request}
    {next : Reply request → Program Host ε α}
    (h : replies request past = reply) :
    replies.run (.ask (I := Host) request next) past =
      replies.run (next reply) (⟨request, reply⟩ :: past) := by
  subst h
  rfl

/- Where no call fails, each call of the backend goes well. -/
theorem ok_of_unfailed
    {call : Backend.Call}
    {next : call.Reply → Program Host ε α}
    (h :
      ∀ exchange ∈
          (replies.run (.ask (I := Host) (.backend call) next)
            past).2,
        exchange.failed = false) :
    ∃ result, replies (.backend call) past = .ok result := by
  have hMem :=
    (suffix_run replies (next (replies (.backend call) past))
      (⟨.backend call, replies (.backend call) past⟩ ::
        past)).subset List.mem_cons_self
  have hUnfailed := h _ hMem
  cases hReply : replies (.backend call) past with
  | ok result => exact ⟨result, rfl⟩
  | error error =>
      rw [hReply] at hUnfailed
      exact nomatch hUnfailed

/- A procedure whose message is read ends as its handler does. -/
theorem run_procedure
    {ρ : Type}
    {reading : Except Rpc.Status ρ}
    {request : ρ}
    {name : String}
    {status : ε → Rpc.Status}
    {write : α → β}
    {handle : ρ → Program Host ε α}
    (h : reading = .ok request) :
    replies.run
        (Csi.procedure name status write (some handle) reading)
        past =
      (((replies.run (handle request) past).1.mapError
          status).map write,
        (replies.run (handle request) past).2) := by
  subst h
  rcases hRun : replies.run (handle request) past with ⟨e | a, now⟩
  · exact run_bind_of_error (run_mapError_of_error hRun status) _
  · exact run_bind_of_ok (run_mapError_of_ok hRun status) _

/- A message that is not read leaves the record as it was. -/
theorem run_procedure_refused
    {ρ : Type}
    {reading : Except Rpc.Status ρ}
    {refusal : Rpc.Status}
    {name : String}
    {status : ε → Rpc.Status}
    {write : α → β}
    {handle : Option (ρ → Program Host ε α)}
    (h : reading = .error refusal) :
    replies.run (Csi.procedure name status write handle reading)
        past =
      (.error refusal, past) := by
  subst h
  rfl

end Replies

------------------------------------------------------------
-- Allowed Requests
------------------------------------------------------------

/-
  Whether each request on record was allowed by what had been
  put on record before it.
-/
def Orderly
    (allowed : Request → Record → Prop) : Record → Prop
  | [] => True
  | exchange :: past =>
      allowed exchange.request past ∧ Orderly allowed past

/- Each single request on record was allowed at its time. -/
theorem Orderly.of_split
    {exchange : Exchange}
    (h : Orderly allowed (later ++ exchange :: earlier)) :
    allowed exchange.request earlier := by
  induction later with
  | nil => exact h.1
  | cons latest later ih => exact ih h.2

namespace Observes

/- A call of the backend that goes well adds one exchange. -/
theorem backend
    {call : Backend.Call}
    (hAllowed : allowed (.backend call) past) :
    Observes allowed
      (fun result now =>
        now = ⟨.backend call, .ok result⟩ :: past)
      (Host.backend call) past := by
  refine ask_iff.mpr ⟨hAllowed, fun reply => ?_⟩
  refine (ofExcept reply).mono fun result now h => ?_
  rcases h with ⟨rfl, rfl⟩
  rfl

/- A check that has nothing against it adds nothing. -/
theorem checked
    [Service.RpcError ε]
    (outcome : Except Rpc.Status α) :
    Observes allowed (fun a now => outcome = .ok a ∧ now = past)
      (Service.checked outcome : Program Host ε α) past := by
  cases outcome with
  | ok a => exact done_iff.mpr ⟨rfl, rfl⟩
  | error status => exact failed

/- A run of a program that observes rules leaves such a record. -/
theorem orderly_run
    (replies : Replies)
    (h : Observes allowed middle program past)
    (hPast : Orderly allowed past) :
    Orderly allowed (replies.run program past).2 := by
  induction program generalizing past with
  | done a => exact hPast
  | failed e => exact hPast
  | ask request next ih =>
      rw [ask_iff] at h
      exact ih _ (h.2 _) ⟨h.1, hPast⟩

/- A run that goes well ends as is observed. -/
theorem of_run
    {replies : Replies}
    {a : α}
    (h : Observes allowed middle program past)
    (hRun : (replies.run program past).1 = .ok a) :
    middle a (replies.run program past).2 := by
  induction program generalizing past with
  | done b =>
      cases hRun
      exact done_iff.mp h
  | failed e => exact nomatch hRun
  | ask request next ih =>
      rw [ask_iff] at h
      exact ih _ (h.2 _) hRun

end Observes

end Host

------------------------------------------------------------
-- What the Controller Looks At
------------------------------------------------------------

namespace Service

namespace Attaching

open Host (Observes Record Replies changes)

variable {ε : Type}
variable [RpcError ε]
variable {allowed : Host.Request → Record → Prop}
variable {replies : Replies}
variable {volumeId nodeId diskType : String}
variable {disk : Disk}
variable {past : Record}

/- A volume that is got is put on record, and handed on. -/
theorem getVolume_reads
    (missing : String → ε)
    (hGet : allowed (.backend (.get volumeId)) past) :
    Observes allowed
      (fun disk now =>
        now = ⟨.backend (.get volumeId), .ok disk⟩ :: past)
      (getVolume missing volumeId) past := by
  refine Observes.ask_iff.mpr ⟨hGet, fun reply => ?_⟩
  cases reply with
  | ok disk => exact Observes.done_iff.mpr rfl
  | error error => exact Observes.failedEither

theorem run_getVolume_of_ok
    (missing : String → ε)
    (h : replies (.backend (.get volumeId)) past = .ok disk) :
    replies.run (getVolume missing volumeId) past =
      (.ok disk, ⟨.backend (.get volumeId), .ok disk⟩ :: past) :=
  Replies.run_ask h

/- A failure to get it is put on record as well. -/
theorem run_getVolume_of_error
    {error : Backend.Error}
    (missing : String → ε)
    (h : replies (.backend (.get volumeId)) past = .error error) :
    ∃ e,
      replies.run (getVolume missing volumeId) past =
        (.error e,
          ⟨.backend (.get volumeId), .error error⟩ :: past) := by
  have hAsk :
      replies.run (getVolume missing volumeId) past = _ :=
    Replies.run_ask h
  rw [hAsk]
  dsimp only [Program.done_bind]
  split
  · exact ⟨_, rfl⟩
  · exact ⟨_, rfl⟩

/- The exchanges that tell the limits of a node. -/
def told
    (nodeId diskType : String)
    (limits : Limits) : Record :=
  [⟨.backend (.attachedVolumes nodeId), .ok limits.attached⟩,
    ⟨.backend (.checkAttach nodeId diskType), .ok limits.check⟩]

theorem changes_told
    {limits : Limits} :
    changes (told nodeId diskType limits ++ past) =
      changes past := by
  rw [told, Host.changes_append, Host.changes_of_harmless rfl,
    Host.changes_of_harmless rfl]
  rfl

theorem getLimits_reads
    (hCheck : allowed (.backend (.checkAttach nodeId diskType)) past)
    (hAttached :
      ∀ now, allowed (.backend (.attachedVolumes nodeId)) now) :
    Observes allowed
      (fun limits now => now = told nodeId diskType limits ++ past)
      (getLimits nodeId diskType) past := by
  refine Observes.ask_iff.mpr ⟨hCheck, fun reply => ?_⟩
  cases reply with
  | error error => exact Observes.failedEither
  | ok check =>
      refine Observes.ask_iff.mpr ⟨hAttached _, fun reply => ?_⟩
      cases reply with
      | error error => exact Observes.failedEither
      | ok attached => exact Observes.done_iff.mpr rfl

end Attaching

end Service

end BlockVolumes
