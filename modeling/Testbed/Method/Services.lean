import Testbed.Config.Basic
import Testbed.Method.Basic
import Testbed.Service.Supervisor

/-!
# Methods of services

The methods by which a driver starts and stops the services that a test needs: the sync
gateway and the database server. What is run and when it counts as ready is told by the
configuration; a service is ready once its port on the machine itself takes
connections.

The state of the feature is the supervisor at work in its environment. A method that
asks the supervisor for something carries out one procedure (`supervise`), and what the
supervisor tells on the way is told in the journal of the daemon.
-/

namespace Testbed.Method.Services

open Argument Protocol Service

/-- The service name of the sync gateway. -/
def syncGateway : String := "sync_gateway"

/-- The service name of the database server. -/
def cbServer : String := "cb_server"

/-- What is needed to start a service, apart from its arguments: ready is who takes
    connections at the port. -/
def launchOf (service program : String) (port : UInt16) (timeout : Span) : Launch where
  service := service
  program := program
  probe := .connect ⟨.loopback, port⟩
  timeout := timeout

/-- What is needed to start the sync gateway. -/
def syncGatewayLaunch (config : Config) (timeout : Span) : Launch :=
  launchOf syncGateway config.syncGatewayBinary config.syncGatewayProbePort timeout

/-- What is needed to start the database server. -/
def cbServerLaunch (config : Config) (timeout : Span) : Launch :=
  launchOf cbServer config.cbServerBinary config.cbServerProbePort timeout

/-- How the supervisor of a configuration waits. -/
def policyOf (config : Config) : Policy := { grace := config.stopGrace }

variable {ω α : Type}

/-- Tells several things in order. -/
def tellEach : List Entry → Action (Supervision ω) Unit
  | [] => pure ()
  | e :: r => do
    Action.tell e
    tellEach r

/-- Carries out a procedure of the supervisor, and tells what it told. -/
def supervise (os : OperatingSystem ω) (p : Procedure α) : Action (Supervision ω) α := do
  let before ← Action.state
  let (a, after) := Supervision.run os p before
  tellEach after.journal.toList
  Action.setState { after with journal := #[] }
  pure a

/-- The time that a start may take: as told in milliseconds, or as configured. -/
def timeoutOf (config : Config) (arguments : Arguments) : Except Argument.Error Span := do
  let told ← arguments.natural? "timeout_ms"
  pure ((told.map Span.ofMillis).getD config.startupTimeout)

/-- What a driver is told of a started service. -/
def started (info : ProcessInfo) : Outcome :=
  .value (.object [("service", .string info.service), ("pid", .ofNat info.pid)])

/-- Starts a service. -/
def startWith (os : OperatingSystem ω) (config : Config) (l : Launch) :
    Action (Supervision ω) (Except Failure Outcome) := do
  match ← supervise os ((policyOf config).start l) with
  | .error e => pure (.error (.service e))
  | .ok info => pure (.ok (started info))

/-- Starts the sync gateway, with the text `config` as its argument if there is one. -/
def startSyncGateway (os : OperatingSystem ω) (config : Config) : Handler (Supervision ω) :=
  fun arguments =>
    match timeoutOf config arguments with
    | .error e => pure (.error (.argument e))
    | .ok timeout =>
      match arguments.string? "config" with
      | .error e => pure (.error (.argument e))
      | .ok told =>
        startWith os config { syncGatewayLaunch config timeout with arguments := told.toList }

/-- Starts the database server. -/
def startCbServer (os : OperatingSystem ω) (config : Config) : Handler (Supervision ω) :=
  fun arguments =>
    match timeoutOf config arguments with
    | .error e => pure (.error (.argument e))
    | .ok timeout => startWith os config (cbServerLaunch config timeout)

/-- Stops a service. -/
def stopService (os : OperatingSystem ω) (config : Config) (service : String) :
    Handler (Supervision ω) := fun _ => do
  match ← supervise os ((policyOf config).stop service) with
  | .error e => pure (.error (.service e))
  | .ok _ => pure (.ok .void)

/-- Yields where a service stands. -/
def serviceStatus (os : OperatingSystem ω) : Handler (Supervision ω) := fun arguments =>
  match arguments.string "name" with
  | .error e => pure (.error (.argument e))
  | .ok name => do
    let phase ← supervise os (Policy.status name)
    pure (.ok (.value (.string phase.text)))

/-- The time a start may take, in milliseconds. -/
def timeoutParam : Param := ⟨"timeout_ms", .integer, false⟩

/-- The methods of services. -/
def table (os : OperatingSystem ω) (config : Config) : Table (Supervision ω) := [
  ⟨"start_sync_gateway", [⟨"config", .string, false⟩, timeoutParam], startSyncGateway os config⟩,
  ⟨"kill_sync_gateway", [], stopService os config syncGateway⟩,
  ⟨"start_cb_server", [timeoutParam], startCbServer os config⟩,
  ⟨"stop_cb_server", [], stopService os config cbServer⟩,
  ⟨"service_status", [⟨"name", .string, true⟩], serviceStatus os⟩]

/-- The feature. -/
def feature (os : OperatingSystem ω) (config : Config) : Feature (Supervision ω) :=
  ⟨"orchestration", table os config⟩

end Testbed.Method.Services
