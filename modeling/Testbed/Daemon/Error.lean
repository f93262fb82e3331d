import Testbed.Config.Load
import Testbed.Listener.Error
import Testbed.Log.Filter

/-!
# Failures of the daemon

Why the daemon cannot be assembled, cannot serve, or does not end in order.
-/

namespace Testbed.Daemon

open Os

/-- Why the daemon cannot be assembled. Two reasons are left out: that something else in the
    process has taken over its log records already, which nothing in the daemon does, and that the
    method table cannot be installed, which happens only where one was installed before. -/
inductive BootstrapError
  /-- There is no configuration. -/
  | configuration (failure : Config.LoadFailure)
  /-- The log filter of the configuration means nothing. -/
  | telemetry (filter : String) (cause : Log.FilterError)
  deriving DecidableEq, Repr

/-- The wording of a failure. -/
def BootstrapError.message : BootstrapError → String
  | configuration failure => "failed to load configuration: " ++ failure.message
  | telemetry filter cause =>
    "failed to initialise telemetry: invalid log filter '" ++ filter ++ "': " ++ cause.message

/-- Why a run of the daemon fails. -/
inductive RunError
  /-- The daemon cannot be assembled. -/
  | bootstrap (cause : BootstrapError)
  /-- The daemon cannot listen, or does not stop listening in order. -/
  | listener (cause : Listener.Error)
  /-- The daemon cannot wait for the signal that ends it. -/
  | shutdown (cause : Trouble)
  deriving DecidableEq, Repr

/-- The wording of a failure. -/
def RunError.message : RunError → String
  | bootstrap cause => "daemon bootstrap failed: " ++ cause.message
  | listener cause => "driver listener failed: " ++ cause.message
  | shutdown cause =>
    "failed to await shutdown signal: failed to install signal handlers: " ++ cause.text

end Testbed.Daemon
