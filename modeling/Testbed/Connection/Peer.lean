import Testbed.Net.Address

/-!
# Peers

Who is at the other end of a connection.
-/

namespace Testbed.Connection

open Net

/-- The other end of a connection. -/
inductive Peer
  /-- A process of the same machine. -/
  | unix
  /-- An address, where it is known. -/
  | tcp (address : Option SocketAddress)
  deriving DecidableEq, Repr

/-- The wording of a peer. -/
def Peer.text : Peer → String
  | unix => "unix"
  | tcp (some address) => address.text
  | tcp none => "tcp:unknown"

end Testbed.Connection
