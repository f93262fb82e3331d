import Testbed.Daemon.Basic
import Testbed.Host.Programs
import Testbed.Listener.Socket

/-!
# Sockets of the machine

How the machine binds sockets and connects to them.

* `Machine.sockets`: how it answers the listener;
* `Machine.platform`: the machine as an environment of the daemon.
-/

namespace Testbed.Host.Machine

open Net Os Listener

/-- The address that a host name stands for. -/
def hostAddress? (host : String) : Option IpAddress :=
  if host = "localhost" then some .loopback else IpAddress.parse? host.toList

/-- The complaint about a host that nobody knows. -/
def unknownHost : Trouble :=
  .other "failed to lookup address information: Name or service not known"

/-- The address of a host. -/
def resolve (host : String) (port : UInt16) : Except Trouble (Option SocketAddress) :=
  if hasZero host then .error FileTree.embeddedZero
  else
    match hostAddress? host with
    | some ip => .ok (some ⟨ip, port⟩)
    | none => .error unknownHost

/-- Whether an address is one of the machine's. -/
def isOwn : IpAddress → Bool
  | .v4 a b c d => a = 127 || (a, b, c, d) = (0, 0, 0, 0)
  | .v6 groups _ => groups.all (· = 0)

/-- How many octets a socket's path may have, and one for its end. -/
def longestSocketPath : Nat := 108

/-- The complaint about a path that is too long for a socket. -/
def socketPathTooLong : Trouble := .other "path must be shorter than SUN_LEN"

/-- Connects to a socket in the file system: its number. -/
def connectUnix (m : Machine) (path : String) : Except Trouble Nat :=
  if longestSocketPath ≤ path.utf8ByteSize then .error socketPathTooLong
  else
    match m.files.find m.current path with
    | .error cause => .error cause
    | .ok (.stream socket) =>
      if m.served.contains socket then .ok socket else .error (.system .connectionRefused)
    | .ok .datagram => .error (.system .wrongSocketType)
    | .ok _ => .error (.system .connectionRefused)

/-- Connects to an address. -/
def connectTcp (m : Machine) (a : SocketAddress) : Except Trouble Unit :=
  if !m.loopback then .error (.system .networkUnreachable)
  else if m.takesConnections a then .ok ()
  else .error (.system .connectionRefused)

/-- Binds a socket to a path, and listens. -/
def bindUnix (m : Machine) (path : String) : Except Trouble Nat × Machine :=
  if longestSocketPath ≤ path.utf8ByteSize then (.error socketPathTooLong, m)
  else
    match m.files.place m.current path (.stream m.nextSocket) with
    | .error cause =>
      (.error (if cause = .system .entryExists then .system .addressInUse else cause), m)
    | .ok files =>
      (.ok m.nextSocket,
        { m with files, served := m.nextSocket :: m.served, nextSocket := m.nextSocket + 1 })

/-- The address that is bound: a port of zero leaves the choice to the machine. -/
def chosen (m : Machine) (a : SocketAddress) : SocketAddress :=
  if a.port = 0 then { a with port := UInt16.ofNat m.nextPort } else a

/-- Binds a socket to an address, and listens. -/
def bindTcp (m : Machine) (a : SocketAddress) :
    Except Trouble (Nat × SocketAddress) × Machine :=
  if !isOwn a.ip then (.error (.system .addressNotAvailable), m)
  else if m.addresses.any fun e => e.2.port == a.port && m.served.contains e.1 then
    (.error (.system .addressInUse), m)
  else
    let address := m.chosen a
    (.ok (m.nextSocket, address),
      { m with
        addresses := Entries.put m.nextSocket address m.addresses
        served := m.nextSocket :: m.served
        nextSocket := m.nextSocket + 1
        nextPort := m.nextPort + 1 })

/-- Closes a socket. Its file stays. -/
def closeSocket (m : Machine) (socket : Nat) : Machine :=
  { m with served := m.served.filter (· ≠ socket) }

/-- Binds a socket to a path and closes it, which leaves its file. -/
def leaveSocket (path : String) (m : Machine) : Machine :=
  match m.bindUnix path with
  | (.ok socket, m) => m.closeSocket socket
  | (.error _, m) => m

/-- What is found at a path. -/
def kindOf : Node → FileKind
  | .stream _ | .datagram => .socket
  | _ => .other

/-- How the machine answers the listener. -/
def sockets : Sockets Machine
  | .makeDirectories path, m =>
    match m.files.makeDirectories m.current Node.ownerMode path with
    | .ok files => (.ok (), { m with files })
    | .error cause => (.error cause, m)
  | .inspect path, m => ((m.files.look m.current path).map kindOf, m)
  | .connect path, m => ((m.connectUnix path).map fun _ => (), m)
  | .remove path, m =>
    match m.files.remove m.current path with
    | .ok files => (.ok (), { m with files })
    | .error cause => (.error cause, m)
  | .bindUnix path, m => m.bindUnix path
  | .resolve host port, m => (resolve host port, m)
  | .bindTcp a, m => m.bindTcp a
  | .unblock _, m => (.ok (), m)
  | .spawn _, m => (.ok (), m)
  | .finish socket, m => (true, m.closeSocket socket)
  | .close socket, m => ((), m.closeSocket socket)

/-- The machine as an environment of the daemon. -/
def platform : Platform Machine := ⟨os, sockets⟩

end Testbed.Host.Machine
