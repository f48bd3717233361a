/-!
# Commands

Running a program: what is run, how it ends, and why it may not start.
-/

namespace UpgradeDrill

/-- A program with its arguments, and the directory to run it in if not the current one. -/
structure Command where
  program : String
  arguments : List String
  directory : Option String
  deriving DecidableEq, Repr

def Command.line (command : Command) : String :=
  " ".intercalate (command.program :: command.arguments)

inductive ExitStatus where
  | exited (code : Nat)
  | signalled (signal : Nat)
  deriving DecidableEq, Repr

namespace ExitStatus

def success : ExitStatus → Bool
  | exited code => code == 0
  | signalled _ => false

/-- The names of the signals from the first on. -/
def signalNames : List String :=
  ["SIGHUP", "SIGINT", "SIGQUIT", "SIGILL", "SIGTRAP", "SIGABRT", "SIGBUS", "SIGFPE", "SIGKILL",
    "SIGUSR1", "SIGSEGV", "SIGUSR2", "SIGPIPE", "SIGALRM", "SIGTERM", "SIGSTKFLT", "SIGCHLD",
    "SIGCONT", "SIGSTOP", "SIGTSTP", "SIGTTIN", "SIGTTOU", "SIGURG", "SIGXCPU", "SIGXFSZ",
    "SIGVTALRM", "SIGPROF", "SIGWINCH", "SIGIO", "SIGPWR", "SIGSYS"]

def message : ExitStatus → String
  | exited code => s!"exit status: {code}"
  | signalled signal =>
    match if signal = 0 then none else signalNames[signal - 1]? with
    | some name => s!"signal: {signal} ({name})"
    | none => s!"signal: {signal}"

end ExitStatus

/-- What a program left behind. -/
structure CommandOutput where
  status : ExitStatus
  stdout : List UInt8
  stderr : List UInt8

/-- Why a file could not be opened or a program not started. -/
inductive SystemError where
  | notFound
  | permissionDenied
  | notDirectory
  | nameTooLong
  | nulByte
  deriving DecidableEq, Repr

def SystemError.message : SystemError → String
  | notFound => "No such file or directory (os error 2)"
  | permissionDenied => "Permission denied (os error 13)"
  | notDirectory => "Not a directory (os error 20)"
  | nameTooLong => "File name too long (os error 36)"
  | nulByte => "nul byte found in provided data"

end UpgradeDrill
