import Testbed.Daemon.Run

/-!
# The daemon as a command

How a run of the daemon looks from outside its process: by its exit code, and by what it
writes to the standard error stream besides the log.
-/

namespace Testbed.Daemon

/-- The name of the command. -/
def commandName : String := "tetherd"

/-- What is complained of at the end of a run. -/
def complaint? : Except RunError Unit → Option String
  | .ok () => none
  | .error e => some (commandName ++ ": " ++ e.message)

/-- The exit code of a run. -/
def exitCode : Except RunError Unit → Nat
  | .ok () => 0
  | .error _ => 1

end Testbed.Daemon
