import Testbed.Net.Address
import Testbed.Os.Errno

/-!
# Failures of the listener

Why the daemon cannot listen at its endpoint, or could not stop listening in order.
-/

namespace Testbed.Listener

open Net Os

/-- Why the daemon cannot listen. -/
inductive Error
  /-- The path of the socket names no directory to put it in. -/
  | missingParent (path : String)
  /-- The directory of the socket cannot be made. -/
  | createDirectory (path : String) (cause : Trouble)
  /-- The address of the host cannot be found out. -/
  | resolve (host : String) (port : UInt16) (cause : Trouble)
  /-- The host has no address. -/
  | noAddress (host : String) (port : UInt16)
  /-- The address cannot be bound. -/
  | bindTcp (address : SocketAddress) (cause : Trouble)
  /-- The path cannot be bound. -/
  | bindUnix (path : String) (cause : Trouble)
  /-- Somebody serves at the path. -/
  | inUse (path : String)
  /-- What is at the path is no socket. -/
  | notSocket (path : String)
  /-- A socket left behind at the path cannot be looked at or removed. -/
  | stale (path : String) (cause : Trouble)
  /-- The socket cannot be asked for connections without waiting for them. -/
  | nonBlocking (cause : Trouble)
  /-- The accept loop cannot be started. -/
  | spawn (cause : Trouble)
  /-- The accept loop broke down. -/
  | panicked
  deriving DecidableEq, Repr

/-- The wording of a failure. -/
def Error.message : Error → String
  | missingParent path => "socket path '" ++ path ++ "' has no parent directory"
  | createDirectory path cause =>
    "failed to create socket directory '" ++ path ++ "': " ++ cause.text
  | resolve host port cause =>
    "failed to resolve " ++ host ++ ":" ++ toString port.toNat ++ ": " ++ cause.text
  | noAddress host port => host ++ ":" ++ toString port.toNat ++ " resolved to no addresses"
  | bindTcp address cause => "failed to bind " ++ address.text ++ ": " ++ cause.text
  | bindUnix path cause => "failed to bind " ++ path ++ ": " ++ cause.text
  | inUse path => path ++ " is served by another process"
  | notSocket path => path ++ " exists and is not a socket"
  | stale path cause => "failed to clear stale socket " ++ path ++ ": " ++ cause.text
  | nonBlocking cause => "failed to make the listener non-blocking: " ++ cause.text
  | spawn cause => "failed to spawn the accept thread: " ++ cause.text
  | panicked => "listener thread panicked"

end Testbed.Listener
