import Testbed.Net.Address
import Testbed.Os.Errno
import Testbed.Program

/-!
# Sockets and their files

What the listener asks of the operating system. As for the supervisor, what it does is
a program of such commands (`SocketAction`), so it can be run against any behaviour of
the file system and the network.
-/

namespace Testbed.Listener

open Net Os

/-- What is found at a path, links not followed. -/
inductive FileKind
  | socket
  | other
  deriving DecidableEq, Repr

/-- What the listener asks of the operating system. -/
inductive SocketCommand
  /-- Make a directory, and those above it, for the owner alone. -/
  | makeDirectories (path : String)
  /-- Look at a path. -/
  | inspect (path : String)
  /-- Connect to a socket in the file system, and hang up. -/
  | connect (path : String)
  /-- Remove the entry of a path. -/
  | remove (path : String)
  /-- Bind a socket to a path; the answer names the socket. -/
  | bindUnix (path : String)
  /-- Find out the address of a host. -/
  | resolve (host : String) (port : UInt16)
  /-- Bind a socket to an address; the answer names the socket and its address. -/
  | bindTcp (address : SocketAddress)
  /-- Ask for connections to a socket without waiting for them. -/
  | unblock (socket : Nat)
  /-- Start the accept loop of a socket. -/
  | spawn (socket : Nat)
  /-- End the accept loop of a socket and wait for it: whether it ended in order. -/
  | finish (socket : Nat)
  /-- Close a socket without a loop. -/
  | close (socket : Nat)

/-- What the operating system answers. -/
def SocketCommand.Answer : SocketCommand → Type
  | makeDirectories _ => Except Trouble Unit
  | inspect _ => Except Trouble FileKind
  | connect _ => Except Trouble Unit
  | remove _ => Except Trouble Unit
  | bindUnix _ => Except Trouble Nat
  | resolve _ _ => Except Trouble (Option SocketAddress)
  | bindTcp _ => Except Trouble (Nat × SocketAddress)
  | unblock _ => Except Trouble Unit
  | spawn _ => Except Trouble Unit
  | finish _ => Bool
  | close _ => Unit

/-- What the listener does. -/
abbrev SocketAction (α : Type) := Program SocketCommand SocketCommand.Answer α

/-- A system of sockets, by how it answers. -/
abbrev Sockets (ω : Type) := (c : SocketCommand) → ω → c.Answer × ω

namespace SocketAction

/-- Makes a directory, and those above it. -/
def makeDirectories (path : String) : SocketAction (Except Trouble Unit) :=
  Program.issue (SocketCommand.makeDirectories path)

/-- Looks at a path. -/
def inspect (path : String) : SocketAction (Except Trouble FileKind) :=
  Program.issue (SocketCommand.inspect path)

/-- Connects to a socket, and hangs up. -/
def connect (path : String) : SocketAction (Except Trouble Unit) :=
  Program.issue (SocketCommand.connect path)

/-- Removes the entry of a path. -/
def remove (path : String) : SocketAction (Except Trouble Unit) :=
  Program.issue (SocketCommand.remove path)

/-- Binds a socket to a path. -/
def bindUnix (path : String) : SocketAction (Except Trouble Nat) :=
  Program.issue (SocketCommand.bindUnix path)

/-- Finds out the address of a host. -/
def resolve (host : String) (port : UInt16) :
    SocketAction (Except Trouble (Option SocketAddress)) :=
  Program.issue (SocketCommand.resolve host port)

/-- Binds a socket to an address. -/
def bindTcp (address : SocketAddress) : SocketAction (Except Trouble (Nat × SocketAddress)) :=
  Program.issue (SocketCommand.bindTcp address)

/-- Asks for connections without waiting for them. -/
def unblock (socket : Nat) : SocketAction (Except Trouble Unit) :=
  Program.issue (SocketCommand.unblock socket)

/-- Starts the accept loop. -/
def spawn (socket : Nat) : SocketAction (Except Trouble Unit) :=
  Program.issue (SocketCommand.spawn socket)

/-- Ends the accept loop. -/
def finish (socket : Nat) : SocketAction Bool := Program.issue (SocketCommand.finish socket)

/-- Closes a socket without a loop. -/
def close (socket : Nat) : SocketAction Unit := Program.issue (SocketCommand.close socket)

end SocketAction

end Testbed.Listener
