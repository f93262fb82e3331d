import Testbed.Os.Signal

/-!
# Exit statuses

How a child process ended, as the system reports it to the one who waits for the
child. `ExitStatus.ofRaw` reads the packed status word: a zero low septet means an
exit, with the code in the second octet; `7f` in the low octet means that the
process was stopped; any other low septet is the signal that ended it, with the
eighth bit telling of a core dump.
-/

namespace Testbed.Os

/-- How a child process ended. -/
inductive ExitStatus
  /-- It exited with a code. -/
  | exited (code : Nat)
  /-- A signal ended it. -/
  | signaled (signal : Signal) (coreDumped : Bool)
  /-- A signal stopped it. -/
  | stopped (signal : Signal)
  /-- It was resumed. -/
  | continued
  /-- The status word has no meaning. -/
  | unrecognised (raw : Int)
  deriving DecidableEq, Repr

namespace ExitStatus

/-- Hexadecimal digits of a status word. -/
def hex (n : Nat) : String := String.ofList (Nat.toDigits 16 n)

/-- The status that a 32-bit status word stands for. -/
def ofRaw (raw : Int) : ExitStatus :=
  let word := (raw % 4294967296).toNat
  let low := word % 128
  let second := word / 256 % 256
  if low = 0 then .exited second
  else if low ≠ 127 then .signaled ⟨low⟩ (word / 128 % 2 = 1)
  else if word % 256 = 127 then .stopped ⟨second⟩
  else if word = 0xFFFF then .continued
  else .unrecognised raw

/-- The wording of a status. -/
def text : ExitStatus → String
  | exited code => "exit status: " ++ toString code
  | signaled signal false => "signal: " ++ signal.text
  | signaled signal true => "signal: " ++ signal.text ++ " (core dumped)"
  | stopped signal => "stopped (not terminated) by signal: " ++ signal.text
  | continued => "continued (WIFCONTINUED)"
  | unrecognised raw =>
    "unrecognised wait status: " ++ toString raw ++ " 0x" ++ hex (raw % 4294967296).toNat

end ExitStatus

end Testbed.Os
