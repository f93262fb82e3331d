import Testbed.Log.Record
import Testbed.Service.Error

/-!
# Health

What an operator wants to hear of: the daemon coming up or failing to, and services
starting, becoming ready, failing and stopping. Each event is also told as a log
record (`Event.record`).
-/

namespace Testbed.Health

open Service Log

/-- An event of the daemon's life. -/
inductive Event
  /-- The daemon begins to load its configuration. -/
  | bootstrapStarting
  /-- The daemon is assembled, with this endpoint, log filter and log format. -/
  | bootstrapSucceeded (listen filter format : String)
  /-- The daemon could not be assembled. -/
  | bootstrapFailed (message : String)
  /-- A service is about to be started. -/
  | serviceStarting (launch : Launch)
  /-- A service became ready. -/
  | serviceReady (info : ProcessInfo)
  /-- A service failed to start. -/
  | serviceFailed (error : Service.Error)
  /-- A service was stopped. -/
  | serviceStopped (report : StopReport)
  deriving DecidableEq, Repr

/-- The name of an event. -/
def Event.name : Event → String
  | bootstrapStarting => "bootstrap_starting"
  | bootstrapSucceeded _ _ _ => "bootstrap_succeeded"
  | bootstrapFailed _ => "bootstrap_failed"
  | serviceStarting _ => "service_starting"
  | serviceReady _ => "service_ready"
  | serviceFailed _ => "service_failed"
  | serviceStopped _ => "service_stopped"

/-- How much an event matters: failures are errors. -/
def Event.level : Event → Level
  | bootstrapFailed _ | serviceFailed _ => .error
  | _ => .info

/-- What an event says. -/
def Event.message : Event → String
  | bootstrapStarting => "starting daemon bootstrap"
  | bootstrapSucceeded _ _ _ => "daemon bootstrap completed"
  | bootstrapFailed _ => "daemon bootstrap failed"
  | serviceStarting _ => "starting service"
  | serviceReady _ => "service ready"
  | serviceFailed _ => "service failed to start"
  | serviceStopped _ => "service stopped"

/-- What an event tells beside its name. -/
def Event.details : Event → List (String × Field)
  | bootstrapStarting => []
  | bootstrapSucceeded listen filter format =>
    [("listen", .shown listen), ("log_filter", .shown filter), ("log_format", .shown format)]
  | bootstrapFailed message => [("error", .shown message)]
  | serviceStarting launch =>
    [("service", .text launch.service), ("program", .shown launch.program),
      ("probe", .shown launch.probe.text)]
  | serviceReady info => [("service", .text info.service), ("pid", .number info.pid)]
  | serviceFailed error => [("service", .text error.service), ("error", .shown error.message)]
  | serviceStopped report =>
    [("service", .text report.service), ("pid", .number report.pid),
      ("forced", .flag report.forced), ("status", .shown report.status.text)]

/-- An event as a log record. -/
def Event.record (e : Event) : Record :=
  ⟨e.level, healthTarget, e.message, ("event", .text e.name) :: e.details⟩

end Testbed.Health
