/-!
# Spans of time

A span is a whole number of nanoseconds. It prints in the largest unit of seconds,
milliseconds, microseconds and nanoseconds that makes the whole part non-zero, with
the fraction that is left and without trailing zeros: `0ns`, `1.5µs`, `300ms`,
`1.000000001s`.

Spans have no bound, nor have the times reckoned with them. A clock of the system holds some
`2 ^ 63` seconds and fails on a deadline beyond; such spans lie outside of what is described
here.
-/

namespace Testbed

/-- A span of time, however long. -/
structure Span where
  /-- Its length in nanoseconds. -/
  nanos : Nat
  deriving DecidableEq, Repr, Inhabited

namespace Span

/-- So many milliseconds. -/
def ofMillis (n : Nat) : Span := ⟨n * 1000000⟩

/-- So many seconds. -/
def ofSeconds (n : Nat) : Span := ⟨n * 1000000000⟩

/-- The whole milliseconds of a span. -/
def millis (s : Span) : Nat := s.nanos / 1000000

/-- A natural number in decimal, filled with zeros on the left to `width` digits. -/
def padded (width n : Nat) : List Char :=
  let digits := Nat.toDigits 10 n
  List.replicate (width - digits.length) '0' ++ digits

/-- A number of nanoseconds in a unit of `10 ^ places` nanoseconds. -/
def inUnit (nanos places : Nat) (unit : String) : String :=
  let fraction := nanos % Nat.pow 10 places
  let digits := ((padded places fraction).reverse.dropWhile (· == '0')).reverse
  let whole := toString (nanos / Nat.pow 10 places)
  if digits.isEmpty then whole ++ unit else whole ++ "." ++ String.ofList digits ++ unit

/-- The wording of a span. -/
def text (s : Span) : String :=
  if Nat.pow 10 9 ≤ s.nanos then inUnit s.nanos 9 "s"
  else if Nat.pow 10 6 ≤ s.nanos then inUnit s.nanos 6 "ms"
  else if Nat.pow 10 3 ≤ s.nanos then inUnit s.nanos 3 "µs"
  else toString s.nanos ++ "ns"

end Span

end Testbed
