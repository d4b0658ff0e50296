import BlockVolumes.Host
import BlockVolumes.Proofs.Program.Behaviour

/-
  What a program has asked so far and how it was answered. A
  record says which volumes the program has seen, and which of
  them it has tried to change.

  Key definitions include:
    * `Host.Exchange`
    * `Host.recorded`
    * `Host.latest`
    * `Host.performed`
    * `Host.Observes`
    * `Host.Replies.run`

  Key theorems include:
    * `Host.Observes.bind`
-/

namespace BlockVolumes

------------------------------------------------------------
-- Actions
------------------------------------------------------------

namespace Backend.Call

/- What a request does to which existing volume, if anything. -/
def action? : Call → Option (Disk.Action × String)
  | attach id _ => some (.attach, id)
  | detach id _ => some (.detach, id)
  | expand id _ => some (.expand, id)
  | delete id => some (.delete, id)
  | _ => none

end Backend.Call

namespace Host

/- Only requests of the backend act on volumes. -/
def Request.action? : Request → Option (Disk.Action × String)
  | .backend call => call.action?
  | _ => none

------------------------------------------------------------
-- Records
------------------------------------------------------------

/- A request and the reply that it got. -/
structure Exchange where
  request : Request
  reply : Reply request

/- The exchanges of a program, the latest one first. -/
abbrev Record := List Exchange

/- Surroundings that give any reply and keep the record. -/
def recorded : Surroundings Host Record :=
  .alone fun request past reply now =>
    now = ⟨request, reply⟩ :: past

/-
  The volume with the identifier as an exchange shows it. A
  list of volumes may be answered with several of them.
-/
def Exchange.shows
    (id : String) : Exchange → List Disk
  | ⟨.backend (.get asked), .ok disk⟩ =>
      if asked = id then [disk] else []
  | ⟨.backend (.find _), .ok disks⟩ =>
      disks.filter fun disk => disk.id = id
  | _ => []

/- The volume as the last exchange that shows it does. -/
def latest
    (id : String) : Record → List Disk
  | [] => []
  | exchange :: past =>
      if (exchange.shows id).isEmpty then latest id past
      else exchange.shows id

/- The actions that were tried, whatever came of them. -/
def performed
    (past : Record) : List (Disk.Action × String) :=
  past.filterMap fun exchange => exchange.request.action?

/- Whatever the reply, it is put on record. -/
theorem step_reply
    {ε α : Type}
    {request : Request}
    {next : Reply request → Program Host ε α}
    {past : Record}
    (reply : Reply request) :
    Program.Step recorded (.ask (I := Host) request next, past)
      (next reply, ⟨request, reply⟩ :: past) :=
  .reply rfl

variable {past : Record}
variable {id : String}

/- What shows nothing of a volume leaves the last sight of it. -/
theorem latest_cons_of_blind
    {exchange : Exchange}
    (h : exchange.shows id = []) :
    latest id (exchange :: past) = latest id past := by
  simp [latest, h]

@[simp] theorem latest_get
    {disk : Disk} :
    latest id (⟨.backend (.get id), .ok disk⟩ :: past) =
      [disk] := by
  simp [latest, Exchange.shows]

theorem mem_latest_find
    {name : String}
    {disks : List Disk}
    {disk : Disk}
    (h : disk ∈ disks) :
    disk ∈
      latest disk.id
        (⟨.backend (.find name), .ok disks⟩ :: past) := by
  have hShown :
      disk ∈ disks.filter fun other => other.id = disk.id := by
    simp [h]
  have hSome :
      (disks.filter fun other => other.id = disk.id).isEmpty =
        false := by
    rw [List.isEmpty_eq_false_iff]
    exact List.ne_nil_of_mem hShown
  rw [latest, Exchange.shows, hSome]
  exact hShown

/- An exchange adds its action, if it has one. -/
theorem performed_cons
    (exchange : Exchange) :
    performed (exchange :: past) =
      exchange.request.action?.toList ++ performed past := by
  unfold performed
  rw [List.filterMap_cons]
  cases exchange.request.action? <;> rfl

theorem performed_append
    (later : Record) :
    performed (later ++ past) = performed later ++ performed past :=
  List.filterMap_append

/- What acts on no volume leaves the actions as they are. -/
theorem performed_of_harmless
    {exchange : Exchange}
    (h : exchange.request.action? = none) :
    performed (exchange :: past) = performed past := by
  rw [performed_cons, h]
  rfl

theorem action?_eq_delete_iff
    {request : Request} :
    request.action? = some (.delete, id) ↔
      request = .backend (.delete id) := by
  cases request with
  | backend call =>
      cases call <;>
        simp [Request.action?, Backend.Call.action?]
  | _ => simp [Request.action?]

theorem mem_performed_delete_iff :
    (.delete, id) ∈ performed past ↔
      ∃ exchange ∈ past,
        exchange.request = .backend (.delete id) := by
  simp only [performed, List.mem_filterMap, action?_eq_delete_iff]

------------------------------------------------------------
-- Programs and Their Records
------------------------------------------------------------

variable {ε ε' α β : Type}
variable {allowed : Request → Record → Prop}
variable {program : Program Host ε α}
variable {middle : α → Record → Prop}

/-
  Whether a program puts only requests that are allowed by its
  record, and its result agrees with the record at its end.
-/
def Observes
    (allowed : Request → Record → Prop)
    (middle : α → Record → Prop)
    (program : Program Host ε α)
    (past : Record) : Prop :=
  program.Keeps recorded allowed
    (fun result now => ∀ a, result = .ok a → middle a now) past

namespace Observes

@[simp] theorem done_iff
    {a : α} :
    Observes allowed middle (.done a : Program Host ε α) past ↔
      middle a past := by
  simp [Observes, recorded]

@[simp] theorem failed
    {e : ε} :
    Observes allowed middle (.failed e : Program Host ε α)
      past := by
  simp [Observes, recorded]

/- A failure that is worded in one of two ways. -/
theorem failedEither
    {p : Prop}
    [Decidable p]
    {e e' : ε} :
    Observes allowed middle
      (if p then .failed e else .failed e' : Program Host ε α)
      past := by
  split
  · exact failed
  · exact failed

@[simp] theorem ask_iff
    {request : Request}
    {next : Reply request → Program Host ε α} :
    Observes allowed middle
        (.ask (I := Host) request next) past ↔
      allowed request past ∧
        ∀ reply,
          Observes allowed middle (next reply)
            (⟨request, reply⟩ :: past) := by
  simp only [Observes, recorded, Program.Keeps.alone_ask,
    forall_eq]

/- Any program may put some requests and end in some way. -/
theorem any
    (program : Program Host ε α)
    (past : Record) :
    Observes (fun _ _ => True) (fun _ _ => True) program past := by
  induction program generalizing past with
  | done a => exact done_iff.mpr trivial
  | failed e => exact failed
  | ask request next ih =>
      exact ask_iff.mpr ⟨trivial, fun reply => ih reply _⟩

/- What is known after the first program serves the second. -/
theorem bind
    {next : α → Program Host ε β}
    {wanted : β → Record → Prop}
    (hFirst : Observes allowed middle program past)
    (hNext :
      ∀ a now, middle a now →
        Observes allowed wanted (next a) now) :
    Observes allowed wanted (program.bind next) past := by
  refine Program.Keeps.andThen (Program.Keeps.mono hFirst ?_) hNext
  intro result now hResult
  cases result with
  | ok a => exact hResult a rfl
  | error e => exact nofun

theorem mapError
    {f : ε → ε'}
    (h : Observes allowed middle program past) :
    Observes allowed middle (program.mapError f) past := by
  refine Program.Keeps.mapError (Program.Keeps.mono h ?_)
  intro result now hResult a hDone
  cases result with
  | ok b =>
      have hEq : b = a := Except.ok.inj hDone
      exact hResult a (congrArg Except.ok hEq)
  | error e => exact nomatch hDone

theorem ofExcept
    (result : Except ε α) :
    Observes allowed
      (fun a now => result = .ok a ∧ now = past)
      (Program.ofExcept result) past := by
  cases result with
  | ok a => exact done_iff.mpr ⟨rfl, rfl⟩
  | error e => exact failed

theorem mono
    {wanted : α → Record → Prop}
    (h : Observes allowed middle program past)
    (hWanted : ∀ a now, middle a now → wanted a now) :
    Observes allowed wanted program past :=
  Program.Keeps.mono h
    fun _ now hResult a hDone => hWanted a now (hResult a hDone)

/- A program that may do more observes what it did before. -/
theorem relax
    {allowed' : Request → Record → Prop}
    (h : Observes allowed middle program past)
    (hAllowed :
      ∀ {request now}, allowed request now → allowed' request now) :
    Observes allowed' middle program past := by
  induction program generalizing past with
  | done a => exact done_iff.mpr (done_iff.mp h)
  | failed e => exact failed
  | ask request next ih =>
      rw [ask_iff] at h ⊢
      exact ⟨hAllowed h.1, fun reply => ih reply (h.2 reply)⟩

/-
  A program that holds the lock observes what it does between
  getting the lock and giving it back.
-/
theorem exclusively
    {wanted : α → Record → Prop}
    (h :
      Observes allowed middle program (⟨.acquire, ()⟩ :: past))
    (hAcquire : allowed .acquire past)
    (hRelease : ∀ now, allowed .release now)
    (hWanted :
      ∀ a now, middle a now → wanted a (⟨.release, ()⟩ :: now)) :
    Observes allowed wanted (Host.exclusively program) past := by
  refine ask_iff.mpr ⟨hAcquire, fun _ => ?_⟩
  have hAttempt :
      Observes allowed
        (fun result now => ∀ a, result = .ok a → middle a now)
        (program.attempt : Program Host ε (Except ε α))
        (⟨.acquire, ()⟩ :: past) := by
    refine Program.Keeps.attempt (Program.Keeps.mono h ?_)
    intro result now hResult attempted hAttempted
    cases hAttempted
    exact hResult
  refine hAttempt.bind fun result now hResult => ?_
  refine ask_iff.mpr ⟨hRelease now, fun _ => ?_⟩
  refine (ofExcept result).mono fun a later h => ?_
  rcases h with ⟨hDone, rfl⟩
  exact hWanted a now (hResult a hDone)

end Observes

------------------------------------------------------------
-- Runs on Record
------------------------------------------------------------

/-
  Replies of surroundings that behave in any way they like,
  also by what they were asked before and how they replied.
-/
abbrev Replies :=
  (request : Request) → Record → Reply request

namespace Replies

/- The reply to a request, which is put on record. -/
def answer
    (replies : Replies)
    (request : Request)
    (past : Record) : Reply request × Record :=
  (replies request past, ⟨request, replies request past⟩ :: past)

/- Runs a program to its end and keeps the record. -/
def run
    (replies : Replies)
    (program : Program Host ε α)
    (past : Record) : Except ε α × Record :=
  program.run replies.answer past

theorem run_mapError
    (replies : Replies)
    (f : ε → ε')
    (program : Program Host ε α)
    (past : Record) :
    replies.run (program.mapError f) past =
      ((replies.run program past).1.mapError f,
        (replies.run program past).2) :=
  Program.run_mapError (I := Host) replies.answer f program past

end Replies

/- Programs that act on no volume. -/
abbrev Quiet
    (program : Program Host ε α)
    (past : Record) : Prop :=
  Observes (fun request _ => request.action? = none)
    (fun _ _ => True) program past

/- In a run of such a program no action is added. -/
theorem Quiet.performed_run
    {replies : Replies}
    (h : Quiet program past) :
    performed (replies.run program past).2 = performed past := by
  induction program generalizing past with
  | done a => rfl
  | failed e => rfl
  | ask request next ih =>
      rw [Quiet, Observes.ask_iff] at h
      calc performed (replies.run (.ask request next) past).2
          = performed
              (⟨request, replies request past⟩ :: past) :=
            ih _ (h.2 _)
        _ = performed past := performed_of_harmless h.1

/- Whether an exchange is a call that failed. -/
def Exchange.failed : Exchange → Bool
  | ⟨.backend _, .error _⟩ => true
  | ⟨.cluster _, .error _⟩ => true
  | _ => false

/- Whether a deletion failed, and not for want of the volume. -/
def Exchange.failedDeletion : Exchange → Bool
  | ⟨.backend (.delete _), .error error⟩ => !error.isNotFound
  | _ => false

theorem Exchange.failedDeletion_of_failed
    {exchange : Exchange}
    (h : exchange.failed = false) :
    exchange.failedDeletion = false := by
  rcases exchange with ⟨request, reply⟩
  cases request with
  | backend call =>
      cases call with
      | delete id =>
          cases reply with
          | ok _ => rfl
          | error error => exact nomatch h
      | _ => rfl
  | _ => rfl

end Host

end BlockVolumes
