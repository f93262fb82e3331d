import Testbed.Connection.Peer
import Testbed.Connection.Serve
import Testbed.Daemon.Error
import Testbed.Daemon.Transcript
import Testbed.Method.Collections
import Testbed.Method.Services
import Testbed.Listener.Basic

/-!
# The daemon

The daemon is assembled from a configuration: telemetry is installed, the supervisor set
up and the methods of every feature installed. It then listens, and serves each driver
that connects. When it is shut down it stops listening, stops every service and forgets
every object; a listener that does not end in order keeps it from nothing of this.

The environment in which all this happens belongs to the supervisor at work, and the
listener changes it there.
-/

namespace Testbed

open Listener Service

/-- An environment of the daemon, by how it answers. -/
structure Platform (ω : Type) where
  /-- How it answers the supervisor. -/
  os : OperatingSystem ω
  /-- How it answers the listener. -/
  sockets : Sockets ω

/-- An assembled daemon. -/
structure Daemon (ω : Type) where
  /-- Its configuration. -/
  config : Config
  /-- How what it tells is written. -/
  telemetry : Daemon.Telemetry
  /-- What serves requests. -/
  dispatcher : Dispatcher (Supervision ω)
  /-- What it listens at, while it does. -/
  listener : Option Bound := none
  /-- The address it listens at, unless that is in the file system. -/
  address : Option Net.SocketAddress := none
  /-- How many drivers the accept loop has taken. -/
  connections : Nat := 0
  /-- What its threads told. -/
  transcript : Daemon.Transcript

namespace Daemon

variable {ω α : Type}

/-! ## Assembly -/

/-- A log record of the daemon as a whole. -/
def record (target message : String) (fields : List (String × Log.Field)) : Entry :=
  .record ⟨.info, target, message, fields⟩

/-- The event of a bootstrap that succeeded. -/
def succeeded (c : Config) : Health.Event :=
  .bootstrapSucceeded c.listen.text c.logFilter c.logFormat.text

/-- What the dispatcher told is told by a thread. -/
def relay (thread : Thread) (d : Daemon ω) : Daemon ω :=
  let world := d.dispatcher.world
  { d with
    transcript := d.transcript.tellAll thread world.journal.toList
    dispatcher := { d.dispatcher with world := { world with journal := #[] } } }

/-- The main thread tells something. -/
def tell (e : Entry) (d : Daemon ω) : Daemon ω :=
  { d with transcript := d.transcript.tell .main e }

/-- The features of every daemon. -/
def features (p : Platform ω) (c : Config) : List (Method.Feature (Supervision ω)) :=
  [Method.Collections.feature, Method.Services.feature p.os c]

/-- A daemon of a configuration, with telemetry installed. -/
def assemble (p : Platform ω) (c : Config) (telemetry : Telemetry) (environment : ω)
    (t : Transcript) : Daemon ω :=
  relay .main
    { config := c
      telemetry
      dispatcher := Dispatcher.build (features p c) { state := { environment } }
      transcript := t }

/-- What keeps a daemon from being assembled is told before it is reported. -/
def failed (e : BootstrapError) (t : Transcript) :
    Except (BootstrapError × Transcript) (Daemon ω) :=
  .error (e, t.tell .main (.event (.bootstrapFailed e.message)))

/-- Assembles a daemon, given what loading the configuration came to. -/
def bootstrap (p : Platform ω) (loaded : Except Config.LoadFailure Config) (environment : ω)
    (t : Transcript) : Except (BootstrapError × Transcript) (Daemon ω) :=
  let t := t.tell .main (.event .bootstrapStarting)
  match loaded with
  | .error failure => failed (.configuration failure) t
  | .ok c =>
    match t.install c with
    | .error cause => failed (.telemetry c.logFilter cause) t
    | .ok (telemetry, t) =>
      .ok ((assemble p c telemetry environment t).tell (.event (succeeded c)))

/-! ## Listening -/

/-- The environment. -/
def environment (d : Daemon ω) : ω := d.dispatcher.world.state.environment

/-- The daemon in another environment. -/
def withEnvironment (environment : ω) (d : Daemon ω) : Daemon ω :=
  let world := d.dispatcher.world
  { d with
    dispatcher := { d.dispatcher with
      world := { world with state := { world.state with environment } } } }

/-- Carries out an action of the listener. -/
def onSockets (p : Platform ω) (a : SocketAction α) (d : Daemon ω) : α × Daemon ω :=
  let (result, environment) := a.run p.sockets d.environment
  (result, d.withEnvironment environment)

/-- Whether the daemon listens. -/
def isListening (d : Daemon ω) : Bool := d.listener.isSome

/-- Starts the accept loop of a bound socket. -/
def startBound (p : Platform ω) (b : Bound) (d : Daemon ω) :
    Except Listener.Error Unit × Daemon ω :=
  let ((result, told), d) := d.onSockets p (Listener.start b)
  match result with
  | .error e => (.error e, { d with transcript := d.transcript.tellAll .main told })
  | .ok () =>
    (.ok (), { d with
      listener := some b
      address := b.address
      connections := 0
      transcript := d.transcript.tellAll .accept told })

/-- Starts to listen at the configured endpoint, unless the daemon does already. -/
def startListener (p : Platform ω) (d : Daemon ω) : Except Listener.Error Unit × Daemon ω :=
  if d.isListening then (.ok (), d)
  else
    match d.onSockets p (Listener.bind d.config.listen) with
    | (.error e, d) => (.error e, d)
    | (.ok b, d) => d.startBound p b

/-- A driver that connects. -/
structure Visit where
  /-- Where it comes from. -/
  peer : Connection.Peer := .unix
  /-- What it sends. -/
  source : Connection.Source
  /-- How writing to it turns out. -/
  sink : Connection.Sink := none

/-- Serves a driver on a thread: the lines it is answered. -/
def serve (thread : Thread) (v : Visit) (d : Daemon ω) : List Bytes × Daemon ω :=
  let (replies, dispatcher) := Connection.serve v.source v.sink d.dispatcher
  (replies, relay thread { d with dispatcher })

/-- Serves a driver that the accept loop takes, on a thread of its own. A daemon that does
    not listen serves nobody. -/
def accept (v : Visit) (d : Daemon ω) : List Bytes × Daemon ω :=
  if !d.isListening then ([], d)
  else
    let number := d.connections + 1
    let transcript := d.transcript.tell .accept (Listener.accepted number v.peer.text)
    let (replies, d) := serve (.connection number) v { d with transcript, connections := number }
    let transcript := d.transcript.tell (.connection number) (Listener.closed number)
    (replies, { d with transcript })

/-- Serves drivers in turn. -/
def acceptAll : List Visit → Daemon ω → List (List Bytes) × Daemon ω
  | [], d => ([], d)
  | v :: rest, d =>
    let (replies, d) := d.accept v
    let (others, d) := acceptAll rest d
    (replies :: others, d)

/-- The services that are starting, ready or stopping. -/
def activeServices (d : Daemon ω) : List String := d.dispatcher.world.state.supervisor.active

/-- The names of the methods that it serves. -/
def methods (d : Daemon ω) : List String := d.dispatcher.router.names

/-! ## Shutdown -/

/-- What a shutdown ended. -/
structure Summary where
  /-- The services that were stopped. -/
  services : List String := []
  /-- How many objects were forgotten. -/
  handles : Nat := 0
  deriving DecidableEq, Repr

/-- What is told of a shutdown. -/
def released (s : Summary) : Entry :=
  record Log.bootstrapTarget "daemon resources released"
    [("services", .number s.services.length), ("handles", .number s.handles)]

/-- Stops listening, if the daemon does. -/
def stopListener (p : Platform ω) (d : Daemon ω) : Except Listener.Error Unit × Daemon ω :=
  match d.listener with
  | none => (.ok (), d)
  | some b =>
    let ((result, told), d) := d.onSockets p (Listener.stop b)
    (result, { d with listener := none, transcript := d.transcript.tellAll .accept told })

/-- Stops every service, and names those that were stopped. -/
def stopServices (p : Platform ω) (d : Daemon ω) : List String × Daemon ω :=
  let policy := Method.Services.policyOf d.config
  let (reports, world) :=
    (Method.Services.supervise p.os policy.shutdownAll).run d.dispatcher.world
  (reports.map StopReport.service,
    relay .main { d with dispatcher := { d.dispatcher with world } })

/-- Forgets every object, and tells how many there were. -/
def releaseHandles (d : Daemon ω) : Nat × Daemon ω :=
  let (handles, dispatcher) := d.dispatcher.releaseAll
  (handles, relay .main { d with dispatcher })

/-- Ends what the daemon started. -/
def shutdown (p : Platform ω) (d : Daemon ω) : Except Listener.Error Summary × Daemon ω :=
  let (listener, d) := d.stopListener p
  let (services, d) := d.stopServices p
  let (handles, d) := d.releaseHandles
  let summary : Summary := { services, handles }
  (listener.map fun () => summary, d.tell (released summary))

end Daemon

end Testbed
