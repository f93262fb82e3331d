import Testbed.Service.Launch
import Testbed.Os.Errno

/-!
# Failures of service control

Why a service could not be started or stopped.
-/

namespace Testbed.Service

open Os

/-- Why a service could not be started or stopped. -/
inductive Error
  /-- A process of the service is running. -/
  | alreadyRunning (service : String) (pid : Nat)
  /-- No process of the service is tracked. -/
  | notRunning (service : String)
  /-- No service is started any more. -/
  | shuttingDown (service : String)
  /-- The probe did not succeed in time. -/
  | startupTimeout (service : String) (timeout : Span)
  /-- The program could not be run. -/
  | spawnFailed (service program : String) (cause : Trouble)
  /-- The process ended before it was ready. -/
  | exitedDuringStartup (service : String) (status : ExitStatus)
  /-- A signal could not be sent. -/
  | signal (service : String) (pid : Nat) (signal : String) (cause : Trouble)
  /-- The process could not be waited for. -/
  | wait (service : String) (cause : Trouble)
  /-- The clock stood still for longer than the time allowed has nanoseconds. -/
  | stalled (service : String)
  deriving DecidableEq, Repr

namespace Error

/-- The service that could not be started or stopped. -/
def service : Error → String
  | alreadyRunning s _ | notRunning s | shuttingDown s | startupTimeout s _ | spawnFailed s _ _
  | exitedDuringStartup s _ | signal s _ _ _ | wait s _ | stalled s => s

/-- The wording of a failure. -/
def message : Error → String
  | alreadyRunning s pid => "service '" ++ s ++ "' is already running (pid " ++ toString pid ++ ")"
  | notRunning s => "service '" ++ s ++ "' is not running"
  | shuttingDown s => "cannot start service '" ++ s ++ "': the supervisor is shutting down"
  | startupTimeout s timeout =>
    "service '" ++ s ++ "' did not become ready within " ++ timeout.text
  | spawnFailed s program cause =>
    "failed to spawn '" ++ program ++ "' for service '" ++ s ++ "': " ++ cause.text
  | exitedDuringStartup s status =>
    "service '" ++ s ++ "' exited during startup (" ++ status.text ++ ")"
  | signal s pid name cause =>
    "failed to send " ++ name ++ " to service '" ++ s ++ "' (pid " ++ toString pid ++ "): "
      ++ cause.text
  | wait s cause => "failed to reap service '" ++ s ++ "': " ++ cause.text
  | stalled s => "the clock stood still while waiting for service '" ++ s ++ "'"

/-- The failure of the system that a failure of service control goes back to. -/
def cause? : Error → Option Trouble
  | spawnFailed _ _ cause | signal _ _ _ cause | wait _ cause => some cause
  | _ => none

end Error

end Testbed.Service
