import Testbed.Net.Ipv6

/-!
# Socket addresses

An address of the internet and a port. An IPv4 address is written as four decimal
numbers, an IPv6 address in brackets; the last two groups of an IPv6 address that stands
for an IPv4 address are written in decimal.

* `SocketAddress.parse?` reads an address, `SocketAddress.text` writes it in its one
  printed form.
-/

namespace Testbed.Net

/-- An address of the internet. -/
inductive IpAddress
  /-- Four octets. -/
  | v4 (a b c d : UInt8)
  /-- Eight groups, and the zone in which they are meant if it is not zero. -/
  | v6 (groups : List Nat) (zone : Nat)
  deriving DecidableEq, Repr

namespace IpAddress

/-- The machine itself. -/
def loopback : IpAddress := .v4 127 0 0 1

/-- Four octets in decimal. -/
def dotted (a b c d : UInt8) : String :=
  toString a.toNat ++ "." ++ toString b.toNat ++ "." ++ toString c.toNat ++ "." ++ toString d.toNat

/-- Eight groups in their printed form. -/
def groupsText : List Nat → String
  | [0, 0, 0, 0, 0, 0xffff, g, h] =>
    "::ffff:"
      ++ dotted (UInt8.ofNat (g / 256)) (UInt8.ofNat g) (UInt8.ofNat (h / 256)) (UInt8.ofNat h)
  | groups => String.ofList (Ipv6.render groups)

/-- The printed form of an address. -/
def text : IpAddress → String
  | v4 a b c d => dotted a b c d
  | v6 groups 0 => groupsText groups
  | v6 groups zone => groupsText groups ++ "%" ++ toString zone

/-- The address that four decimal numbers stand for. -/
def ofDotted? (s : List Char) : Option IpAddress :=
  match Ipv6.dotted s with
  | some [g, h] =>
    some (.v4 (UInt8.ofNat (g / 256)) (UInt8.ofNat g) (UInt8.ofNat (h / 256)) (UInt8.ofNat h))
  | _ => none

/-- The address that eight groups stand for. -/
def ofGroups? (s : List Char) : Option IpAddress := (Ipv6.parse s).map fun g => .v6 g 0

/-- The address that a text stands for. -/
def parse? (s : List Char) : Option IpAddress := (ofDotted? s).or (ofGroups? s)

end IpAddress

/-- A number below `limit` in decimal digits. -/
def decimal? (limit : Nat) (s : List Char) : Option Nat :=
  if s.isEmpty || !s.all Char.isDigit then none
  else
    let n := s.foldl (fun n c => n * 10 + (c.toNat - 48)) 0
    if n < limit then some n else none

/-- An address and a port. -/
structure SocketAddress where
  /-- The address. -/
  ip : IpAddress
  /-- The port. -/
  port : UInt16
  deriving DecidableEq, Repr

namespace SocketAddress

/-- The printed form of an address and a port. -/
def text (a : SocketAddress) : String :=
  match a.ip with
  | .v4 _ _ _ _ => a.ip.text ++ ":" ++ toString a.port.toNat
  | .v6 _ _ => "[" ++ a.ip.text ++ "]:" ++ toString a.port.toNat

/-- What stands before and after the last colon. -/
def splitPort (s : List Char) : Option (List Char × List Char) :=
  match s.reverse.dropWhile (· ≠ ':') with
  | [] => none
  | _ :: host => some (host.reverse, (s.reverse.takeWhile (· ≠ ':')).reverse)

/-- The address within brackets: eight groups, and a zone after a percent sign. -/
def bracketed? (s : List Char) : Option IpAddress := do
  let '[' :: r := s | none
  let ']' :: back := r.reverse | none
  let inner := back.reverse
  let groups ← Ipv6.parse (inner.takeWhile (· ≠ '%'))
  match inner.dropWhile (· ≠ '%') with
  | [] => some (.v6 groups 0)
  | _ :: zone => do
    let zone ← decimal? UInt32.size zone
    some (.v6 groups zone)

/-- The address and port that a text stands for. -/
def parse? (s : String) : Option SocketAddress := do
  let (host, port) ← splitPort s.toList
  let port ← decimal? UInt16.size port
  let ip ← (IpAddress.ofDotted? host).or (bracketed? host)
  some ⟨ip, UInt16.ofNat port⟩

end SocketAddress

end Testbed.Net
