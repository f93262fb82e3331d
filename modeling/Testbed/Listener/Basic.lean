import Testbed.Endpoint.Basic
import Testbed.Journal
import Testbed.Listener.Error
import Testbed.Listener.Socket
import Testbed.Os.Path

/-!
# The listener

To listen at a path is to make the directory of the socket, to clear away a socket that
nobody serves any more, and to bind a new one. Whatever else is at the path is left
alone: a socket that is served belongs to another process, and anything that is no
socket is not the daemon's to remove. When the daemon stops listening it removes the
file of its socket.
-/

namespace Testbed.Listener

open Net Os

/-- A socket bound to an endpoint. -/
structure Bound where
  /-- The endpoint. -/
  endpoint : Endpoint
  /-- The socket. -/
  socket : Nat
  /-- The address that was bound, unless the endpoint is in the file system. -/
  address : Option SocketAddress := none
  deriving DecidableEq, Repr

/-- Makes the directory that holds the socket of an endpoint. -/
def prepare (e : Endpoint) : SocketAction (Except Error Unit) :=
  match e with
  | .tcp _ _ => pure (.ok ())
  | .unix path =>
    match Path.parent? path with
    | none => pure (.error (.missingParent path))
    | some parent =>
      if parent.isEmpty then pure (.error (.missingParent path))
      else do
        match ← SocketAction.makeDirectories parent with
        | .error cause => pure (.error (.createDirectory parent cause))
        | .ok () => pure (.ok ())

/-- A failure to connect that tells of a socket that nobody serves. -/
def isDead : Trouble → Bool
  | .system e => e = .connectionRefused || e = .noEntry
  | .other _ => false

/-- Removes a socket that nobody serves. -/
def clearStale (path : String) : SocketAction (Except Error Unit) := do
  match ← SocketAction.inspect path with
  | .error cause =>
    if cause = .system .noEntry then pure (.ok ()) else pure (.error (.stale path cause))
  | .ok .other => pure (.error (.notSocket path))
  | .ok .socket =>
    match ← SocketAction.connect path with
    | .ok () => pure (.error (.inUse path))
    | .error cause =>
      if isDead cause then do
        match ← SocketAction.remove path with
        | .error cause => pure (.error (.stale path cause))
        | .ok () => pure (.ok ())
      else pure (.error (.stale path cause))

/-- Binds a socket to a path. -/
def bindPath (path : String) : SocketAction (Except Error Bound) := do
  match ← clearStale path with
  | .error e => pure (.error e)
  | .ok () =>
    match ← SocketAction.bindUnix path with
    | .error cause => pure (.error (.bindUnix path cause))
    | .ok socket => pure (.ok { endpoint := .unix path, socket })

/-- Binds a socket to a port of a host. -/
def bindHost (host : String) (port : UInt16) : SocketAction (Except Error Bound) := do
  match ← SocketAction.resolve host port with
  | .error cause => pure (.error (.resolve host port cause))
  | .ok none => pure (.error (.noAddress host port))
  | .ok (some address) =>
    match ← SocketAction.bindTcp address with
    | .error cause => pure (.error (.bindTcp address cause))
    | .ok (socket, address) =>
      pure (.ok { endpoint := .tcp host port, socket, address := some address })

/-- Binds a socket to an endpoint. -/
def bind (e : Endpoint) : SocketAction (Except Error Bound) := do
  match ← prepare e with
  | .error e => pure (.error e)
  | .ok () =>
    match e with
    | .tcp host port => bindHost host port
    | .unix path => bindPath path

/-- A log record of the listener. -/
def record (level : Log.Level) (message : String) (fields : List (String × Log.Field)) : Entry :=
  .record ⟨level, Log.transportTarget, message, fields⟩

/-- What is told when the accept loop starts. -/
def accepting (e : Endpoint) : Entry :=
  record .info "accepting driver connections" [("endpoint", .shown e.text)]

/-- What is told when the accept loop ends. -/
def stopped (e : Endpoint) : Entry :=
  record .info "listener stopped" [("endpoint", .shown e.text)]

/-- What is told of a new connection. -/
def accepted (connection : Nat) (peer : String) : Entry :=
  record .debug "connection accepted" [("connection", .number connection), ("peer", .text peer)]

/-- What is told at the end of a connection. -/
def closed (connection : Nat) : Entry :=
  record .debug "connection closed" [("connection", .number connection)]

/-- What is told of a socket file that cannot be removed. -/
def unremoved (path : String) (cause : Trouble) : Entry :=
  record .warn "failed to remove unix socket file"
    [("error", .shown cause.text), ("path", .shown path)]

/-- Removes the file of an endpoint's socket, with what is told of it. A file that is gone
    is as good as removed. -/
def removeFile (e : Endpoint) : SocketAction (List Entry) :=
  match e with
  | .tcp _ _ => pure []
  | .unix path => do
    match ← SocketAction.remove path with
    | .ok () => pure []
    | .error cause =>
      if cause = .system .noEntry then pure [] else pure [unremoved path cause]

/-- Starts the accept loop of a bound socket, with what is told besides. -/
def start (b : Bound) : SocketAction (Except Error Unit × List Entry) := do
  match ← SocketAction.unblock b.socket with
  | .error cause => do
    let told ← removeFile b.endpoint
    SocketAction.close b.socket
    pure (.error (.nonBlocking cause), told)
  | .ok () =>
    match ← SocketAction.spawn b.socket with
    | .error cause => do
      SocketAction.close b.socket
      pure (.error (.spawn cause), [])
    | .ok () => pure (.ok (), [accepting b.endpoint])

/-- Ends the accept loop, with what it tells at its end. One that breaks down tells nothing
    and leaves the file. -/
def stop (b : Bound) : SocketAction (Except Error Unit × List Entry) := do
  if ← SocketAction.finish b.socket then do
    let told ← removeFile b.endpoint
    pure (.ok (), stopped b.endpoint :: told)
  else pure (.error .panicked, [])

end Testbed.Listener
