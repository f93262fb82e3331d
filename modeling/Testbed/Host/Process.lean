import Testbed.Bytes
import Testbed.Entries
import Testbed.Host.Shell
import Testbed.Os.ExitStatus

/-!
# Processes

A process of the machine: a shell with what is left of its script, or a program that
does nothing for a while. A process acts at its `wake` time and then again a step later,
until nothing is left for it to do; then it exits with its status.
-/

namespace Testbed.Host

open Os Shell

/-- What is left for a shell to do. -/
inductive Task
  /-- A command. -/
  | command (c : Command)
  /-- The decision of a loop, once its condition has run. -/
  | repetition (wanted : Bool) (condition body : Command)
  /-- The decision between two commands. -/
  | branch (yes no : Command)
  /-- A command that depends on what became of the last one. -/
  | link (wanted : Bool) (second : Command)
  /-- Wait for a child. -/
  | join (child : Nat)
  /-- Wait for all children. -/
  | joinAll
  deriving Repr

/-- A process. -/
structure Process where
  /-- The process that made it. -/
  parent : Nat
  /-- The group it belongs to. -/
  group : Nat
  /-- What is left for it to do. -/
  todo : List Task := []
  /-- The status of its last command. -/
  status : Nat := 0
  /-- The last process it put into the background. -/
  background : Option Nat := none
  /-- What it does on a signal. -/
  traps : Entries Nat Command := []
  /-- The signals it ignores. -/
  ignored : List Nat := []
  /-- When it acts next; never, if it does nothing for ever. -/
  wake : Option Nat
  /-- How it ended. -/
  ended : Option ExitStatus := none
  /-- Whether somebody else has waited for it. -/
  stolen : Bool := false

namespace Process

/-- A process that has not ended. -/
def isLive (p : Process) : Bool := p.ended.isNone

/-- What a word says to a process. -/
def expandPiece (pid : Nat) (p : Process) : Piece → List Char
  | .text s => s
  | .self => (toString pid).toList
  | .background => ((p.background.map fun n => (toString n).toList).getD [])
  | .status => (toString p.status).toList

/-- What a word says to a process. -/
def expand (pid : Nat) (p : Process) (w : Word) : String :=
  String.ofList (w.pieces.flatMap (expandPiece pid p))

/-- The words of a command as said to a process; a word that is empty and not quoted is
    none. -/
def expandAll (pid : Nat) (p : Process) (words : List Word) : List String :=
  words.filterMap fun w =>
    let s := expand pid p w
    if s.isEmpty && !w.quoted then none else some s

end Process

/-! ## Operands -/

/-- A number in decimal digits. -/
def number? (s : List Char) : Option Nat :=
  if s.isEmpty || !s.all Char.isDigit then none
  else some (s.foldl (fun n c => n * 10 + (c.toNat - 48)) 0)

/-- The nanoseconds of a unit of time. -/
def unit? : List Char → Option Nat
  | [] => some 1000000000
  | ['s'] => some 1000000000
  | ['m'] => some (60 * 1000000000)
  | ['h'] => some (3600 * 1000000000)
  | ['d'] => some (86400 * 1000000000)
  | _ => none

/-- An integer that may have a sign, and what follows it. -/
def signed? (s : List Char) : Option (Int × List Char) :=
  let (sign, digits) :=
    match s with
    | '-' :: r => (-1, r)
    | '+' :: r => (1, r)
    | r => (1, r)
  (number? (digits.takeWhile Char.isDigit)).map fun n => (sign * n, digits.dropWhile Char.isDigit)

/-- The exponent that a number may end with, and what follows it. -/
def exponent (s : List Char) : Int × List Char :=
  match s with
  | c :: r => if c = 'e' ∨ c = 'E' then (signed? r).getD (0, s) else (0, s)
  | [] => (0, s)

/-- The greatest exponent, up or down, that makes a difference to a time. -/
def farthest : Int := 30

/-- A natural number times a power of ten, rounded down. -/
def scale (n : Nat) (e : Int) : Nat :=
  if 0 ≤ e then n * Nat.pow 10 e.toNat else n / Nat.pow 10 (-e).toNat

/-- The nanoseconds of an operand such as `30`, `0.02`, `1e3` or `1.5m`. -/
def duration? (operand : String) : Option Nat := do
  let s := operand.toList.dropWhile fun c => c.isWhitespace
  let s := if s.head? = some '+' then s.tail else s
  let whole := s.takeWhile Char.isDigit
  let rest := s.dropWhile Char.isDigit
  let (fraction, rest) :=
    match rest with
    | '.' :: r => (r.takeWhile Char.isDigit, r.dropWhile Char.isDigit)
    | r => ([], r)
  let n ← number? (whole ++ fraction)
  let (e, tail) := exponent rest
  let unit ← unit? tail
  some (scale (n * unit) (max (-farthest) (min e farthest) - fraction.length))

/-- The nanoseconds that a `sleep` with these operands lasts; nothing stands for operands
    that mean no time. -/
def sleepTime? (operands : List String) : Option Nat :=
  if operands.isEmpty then none else (operands.mapM duration?).map fun l => l.foldl (· + ·) 0

/-- The signal of a name with or without `SIG`, or of a number. -/
def signal? (name : String) : Option Signal :=
  match number? name.toList with
  | some n => if n < 65 then some ⟨n⟩ else none
  | none => (Signal.ofName? name).or (Signal.ofName? ("SIG" ++ name))

/-- The signals that a process which does not mind them survives. -/
def harmless : List String := ["SIGCHLD", "SIGCONT", "SIGURG", "SIGWINCH"]

/-- The signals that would only hold a process up. -/
def holding : List String := ["SIGSTOP", "SIGTSTP", "SIGTTIN", "SIGTTOU"]

/-- Whether a signal ends a process that does not mind it. -/
def isFatal (s : Signal) : Bool :=
  s.number ≠ 0 &&
    match s.name? with
    | some name => !(harmless ++ holding).contains name
    | none => true

end Testbed.Host
