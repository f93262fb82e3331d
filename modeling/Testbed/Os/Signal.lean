/-!
# Signals

The signals of the system, by number, with their names.
-/

namespace Testbed.Os

/-- A signal, by number. -/
structure Signal where
  /-- The number. -/
  number : Nat
  deriving DecidableEq, Repr

namespace Signal

/-- The interrupt key. -/
def int : Signal := ⟨2⟩

/-- Ends a process at once; it cannot be caught. -/
def kill : Signal := ⟨9⟩

/-- The quit key. -/
def quit : Signal := ⟨3⟩

/-- Asks a process to end. -/
def term : Signal := ⟨15⟩

/-- The names of the signals 1 to 31, in order. -/
def names : List String := [
  "SIGHUP", "SIGINT", "SIGQUIT", "SIGILL", "SIGTRAP", "SIGABRT", "SIGBUS", "SIGFPE",
  "SIGKILL", "SIGUSR1", "SIGSEGV", "SIGUSR2", "SIGPIPE", "SIGALRM", "SIGTERM", "SIGSTKFLT",
  "SIGCHLD", "SIGCONT", "SIGSTOP", "SIGTSTP", "SIGTTIN", "SIGTTOU", "SIGURG", "SIGXCPU",
  "SIGXFSZ", "SIGVTALRM", "SIGPROF", "SIGWINCH", "SIGIO", "SIGPWR", "SIGSYS"]

/-- The name of a signal. A real-time signal has none. -/
def name? (s : Signal) : Option String := if s.number = 0 then none else names[s.number - 1]?

/-- The signal of a name. -/
def ofName? (name : String) : Option Signal := (names.idxOf? name).map fun i => ⟨i + 1⟩

/-- The number of a signal with its name in parentheses. -/
def text (s : Signal) : String :=
  match s.name? with
  | some name => toString s.number ++ " (" ++ name ++ ")"
  | none => toString s.number

end Signal

end Testbed.Os
