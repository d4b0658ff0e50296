import BlockVolumes.Text.Quoted

/-
  How a process ended, as the word in which the system
  reports it.

  Key definitions include:
    * `Mount.ExitStatus`
    * `Mount.ExitStatus.code?`
    * `Mount.ExitStatus.signal?`
    * `Mount.ExitStatus.describe`
-/

namespace BlockVolumes

namespace Mount

/- The word of the system. -/
structure ExitStatus where
  word : UInt32
  deriving DecidableEq, Repr

namespace ExitStatus

/- The status of a process that ended with a code. -/
def ofCode
    (code : UInt8) : ExitStatus :=
  ⟨code.toUInt32 <<< 8⟩

/- The status of a process that died from a signal. -/
def ofSignal
    (signal : UInt32) : ExitStatus :=
  ⟨signal &&& 0x7f⟩

/- Whether a process ended as it should. -/
def isSuccess
    (status : ExitStatus) : Bool :=
  status.word == 0

/- The byte above the lowest one. -/
def upper
    (status : ExitStatus) : Nat :=
  ((status.word >>> 8) &&& 0xff).toNat

/- The seven lowest bits. -/
def lower
    (status : ExitStatus) : Nat :=
  (status.word &&& 0x7f).toNat

/- The code with which a process ended on its own. -/
def code?
    (status : ExitStatus) : Option Nat :=
  if status.lower = 0 then some status.upper else none

/- The signal from which a process died. -/
def signal?
    (status : ExitStatus) : Option Nat :=
  if status.lower = 0 ∨ status.lower = 0x7f then none
  else some status.lower

/- The signal that stopped a process. -/
def stopSignal?
    (status : ExitStatus) : Option Nat :=
  if status.word &&& 0xff = 0x7f then some status.upper else none

/- Whether the memory of a process was written to a file. -/
def dumpedCore
    (status : ExitStatus) : Bool :=
  status.word &&& 0x80 != 0

/- The names of the signals, from the first one on. -/
def signalNames : List String :=
  ["SIGHUP", "SIGINT", "SIGQUIT", "SIGILL", "SIGTRAP", "SIGABRT",
    "SIGBUS", "SIGFPE", "SIGKILL", "SIGUSR1", "SIGSEGV", "SIGUSR2",
    "SIGPIPE", "SIGALRM", "SIGTERM", "SIGSTKFLT", "SIGCHLD",
    "SIGCONT", "SIGSTOP", "SIGTSTP", "SIGTTIN", "SIGTTOU", "SIGURG",
    "SIGXCPU", "SIGXFSZ", "SIGVTALRM", "SIGPROF", "SIGWINCH",
    "SIGIO", "SIGPWR", "SIGSYS"]

/- A signal by its number and, if it has one, its name. -/
def describeSignal
    (signal : Nat) : String :=
  toString signal ++
    (match signal with
    | 0 => ""
    | n + 1 =>
        match signalNames[n]? with
        | some name => " (" ++ name ++ ")"
        | none => "")

/- The status as reports show it. -/
def describe
    (status : ExitStatus) : String :=
  match status.code?, status.signal?, status.stopSignal? with
  | some code, _, _ => "exit status: " ++ toString code
  | none, some signal, _ =>
      "signal: " ++ describeSignal signal ++
        (if status.dumpedCore then " (core dumped)" else "")
  | none, none, some signal =>
      "stopped (not terminated) by signal: " ++
        describeSignal signal
  | none, none, none =>
      if status.word = 0xffff then "continued (WIFCONTINUED)"
      else
        "unrecognised wait status: " ++
          toString (Int.bmod status.word.toNat UInt32.size) ++ " 0x" ++
          Text.hexadecimal status.word.toNat

end ExitStatus

end Mount

end BlockVolumes
