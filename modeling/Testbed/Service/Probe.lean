import Testbed.Net.Address
import Testbed.Span

/-!
# Readiness probes

What decides that a started service is ready to serve. The first two kinds need no
more than the clock; the last two knock at an address, and what they find is the
outside world's answer.
-/

namespace Testbed.Service

open Net

/-- A readiness probe. -/
inductive Probe
  /-- Ready as soon as the process runs. -/
  | immediate
  /-- Ready once the span has passed since the start. -/
  | delay (span : Span)
  /-- Ready once a connection to the address succeeds. -/
  | connect (address : SocketAddress)
  /-- Ready once the address answers a request for the path with success. -/
  | get (address : SocketAddress) (path : String)
  deriving DecidableEq, Repr

namespace Probe

/-- A single attempt takes at most this long. -/
def longestAttempt : Span := .ofSeconds 1

/-- An attempt is given at least this long. -/
def shortestAttempt : Span := .ofMillis 10

/-- The time given to an attempt of a start that has `budget` left. -/
def attemptTime (budget : Span) : Span :=
  ⟨max shortestAttempt.nanos (min budget.nanos longestAttempt.nanos)⟩

/-- What the clock alone tells of a service: whether it is ready, or nothing when the
    probe has to knock at an address. -/
def verdict? (elapsed : Span) : Probe → Option Bool
  | immediate => some true
  | delay span => some (span.nanos ≤ elapsed.nanos)
  | connect _ | get _ _ => none

/-- Whether a probe finds the service ready, where `knock` tells whether the address
    answers within the given time. -/
def check (knock : Probe → Span → Bool) (elapsed budget : Span) (probe : Probe) : Bool :=
  match probe.verdict? elapsed with
  | some ready => ready
  | none => knock probe (attemptTime budget)

/-- The wording of a probe. -/
def text : Probe → String
  | immediate => "immediate"
  | delay span => "delay " ++ span.text
  | connect address => "tcp " ++ address.text
  | get address path => "http://" ++ address.text ++ path

end Probe

end Testbed.Service
