import Testbed.Service.Probe
import Testbed.Os.ExitStatus

/-!
# Launching services

What is needed to start a service, what is known of one that became ready, and what
is reported of one that was stopped.
-/

namespace Testbed.Service

open Os

/-- What is needed to start a service. -/
structure Launch where
  /-- The name under which the service is known. -/
  service : String
  /-- The program to run. -/
  program : String
  /-- The arguments given to the program. -/
  arguments : List String := []
  /-- What decides that the service is ready. -/
  probe : Probe := .immediate
  /-- How long the service may take to become ready. -/
  timeout : Span := .ofSeconds 60
  deriving DecidableEq, Repr

/-- A service that became ready. -/
structure ProcessInfo where
  /-- The name of the service. -/
  service : String
  /-- The process. -/
  pid : Nat
  /-- The probe that found it ready. -/
  probe : Probe
  deriving DecidableEq, Repr

/-- A service that was stopped. -/
structure StopReport where
  /-- The name of the service. -/
  service : String
  /-- The process. -/
  pid : Nat
  /-- Whether the grace period ran out and the process was killed. -/
  forced : Bool
  /-- How the process ended. -/
  status : ExitStatus
  deriving DecidableEq, Repr

/-- Where a service stands. -/
inductive Phase
  /-- Never started. -/
  | absent
  /-- Running, and not yet ready. -/
  | starting
  /-- Running and ready. -/
  | ready
  /-- Being stopped. -/
  | stopping
  /-- Exited, stopped, or failed to start. -/
  | stopped
  deriving DecidableEq, Repr

/-- The wording of a phase. -/
def Phase.text : Phase → String
  | absent => "absent"
  | starting => "starting"
  | ready => "ready"
  | stopping => "stopping"
  | stopped => "stopped"

/-- A service that is starting, ready or stopping is active. -/
def Phase.isActive : Phase → Bool
  | starting | ready | stopping => true
  | absent | stopped => false

end Testbed.Service
