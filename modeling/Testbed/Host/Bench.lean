import Testbed.Host.Programs

/-!
# The bench

The supervisor at work on a machine for somebody who watches it: procedures are carried
out in the foreground, and at most one goes on in the background meanwhile. The two take
turns where one of them sleeps. A service belongs to the procedure that is at work on it,
so a foreground procedure that wants the slot of the background's service waits until the
background is done.
-/

namespace Testbed.Host

open Service

/-- How far a procedure has got. -/
inductive Progress (α : Type)
  /-- It is done. -/
  | done (a : α)
  /-- It sleeps until a time. -/
  | asleep (wake : Nat) (rest : Procedure α)

/-- A procedure in the background. -/
structure Background (α : Type) where
  /-- The service that it is at work on. -/
  service : String
  /-- How far it has got. -/
  progress : Progress α

/-- The supervisor at work on a machine, with results `α` in the background. -/
structure Bench (α : Type) where
  /-- The supervisor at work. -/
  supervision : Supervision Machine
  /-- What goes on in the background. -/
  background : Option (Background α) := none

namespace Bench

variable {α β : Type}

/-- The machine. -/
def machine (b : Bench α) : Machine := b.supervision.environment

/-- The bench with another machine. -/
def withMachine (m : Machine) (b : Bench α) : Bench α :=
  { b with supervision := { b.supervision with environment := m } }

/-- Carries a procedure on until it is done or sleeps. -/
def advance : Procedure α → Supervision Machine → Progress α × Supervision Machine
  | .done a, s => (.done a, s)
  | .step (.os (.sleep span)) next, s =>
    (.asleep (s.environment.clock + span.nanos) (next ()), s)
  | .step c next, s =>
    let (answer, s) := Supervision.perform Machine.os c s
    advance (next answer) s

/-- Lets time pass on the machine until a time. -/
def passMachine (time : Nat) (b : Bench α) : Bench α :=
  b.withMachine (b.machine.pass ⟨time - b.machine.clock⟩)

/-- Lets time pass until `target`; the background goes on meanwhile, in at most `fuel`
    turns. -/
def passUntil (target : Nat) : (fuel : Nat) → Bench α → Bench α
  | 0, b => b.passMachine target
  | fuel + 1, b =>
    match b.background with
    | some ⟨service, .asleep wake rest⟩ =>
      if target < wake then b.passMachine target
      else
        let b := b.passMachine wake
        let (progress, supervision) := advance rest b.supervision
        passUntil target fuel { supervision, background := some ⟨service, progress⟩ }
    | _ => b.passMachine target

/-- Lets a span pass. -/
def pass (span : Span) (b : Bench α) : Bench α :=
  b.passUntil (b.machine.clock + span.nanos) (span.nanos + 2)

/-- Waits until the background is done: its result, if there is a background. -/
def join (b : Bench α) : Option α × Bench α :=
  match b.background with
  | none => (none, b)
  | some ⟨_, .done a⟩ => (some a, { b with background := none })
  | some ⟨_, .asleep wake rest⟩ =>
    let (a, supervision) := Supervision.run Machine.os rest (b.passMachine wake).supervision
    (some a, { supervision })

/-- Waits until the background is done if it is at work on a service. -/
def await (service : String) (b : Bench α) : Bench α :=
  match b.background with
  | some ⟨owner, .asleep _ _⟩ =>
    if owner = service then
      match b.join with
      | (some a, b) => { b with background := some ⟨owner, .done a⟩ }
      | (none, b) => b
    else b
  | _ => b

/-- How a foreground procedure is answered. -/
def perform : (c : SupervisorCommand) → Bench α → c.Answer × Bench α
  | .os (.sleep span), b => ((), b.pass span)
  | c, b =>
    let b := match c with
      | .enter service | .enterExisting service => b.await service
      | _ => b
    let (answer, supervision) := Supervision.perform Machine.os c b.supervision
    (answer, { b with supervision })

/-- Carries out a procedure in the foreground. -/
def run (p : Procedure β) (b : Bench α) : β × Bench α := Program.run perform p b

/-- Starts a procedure in the background, at work on a service, once an earlier one is
    done. -/
def start (service : String) (p : Procedure α) (b : Bench α) : Bench α :=
  let b := b.join.2
  let (progress, supervision) := advance p b.supervision
  { supervision, background := some ⟨service, progress⟩ }

/-- The time between two looks at something that is waited for. -/
def lookInterval : Span := .ofMillis 1

/-- Waits until something holds, at most `looks` looks: whether it does. -/
def waitFor (holds : Bench α → Bool × Bench α) : (looks : Nat) → Bench α → Bool × Bench α
  | 0, b => holds b
  | looks + 1, b =>
    match holds b with
    | (true, b) => (true, b)
    | (false, b) => waitFor holds looks (b.pass lookInterval)

/-- Where a service stands. -/
def status (service : String) (b : Bench α) : Phase × Bench α := b.run (Policy.status service)

/-- Waits up to three seconds until a service stands somewhere: where it stands then. -/
def awaitPhase (service phase : String) (b : Bench α) : Phase × Bench α :=
  let reached (b : Bench α) : Bool × Bench α :=
    let (seen, b) := b.status service
    (seen.text == phase, b)
  (waitFor reached 3000 b).2.status service

/-- Waits up to three seconds until a file ends with a line feed: whether it does. -/
def awaitFile (path : String) (b : Bench α) : Bool × Bench α :=
  let complete (b : Bench α) : Bool × Bench α :=
    (((b.machine.file? path).bind List.getLast?) == some Bytes.lineFeed, b)
  waitFor complete 3000 b

/-- Whether the process is gone whose number is in a file. -/
def isGone (path : String) (b : Bench α) : Bool :=
  match (b.machine.file? path).bind Bytes.toString? with
  | none => true
  | some text =>
    match number? (text.toList.filter Char.isDigit) with
    | none => true
    | some pid =>
      match Entries.get? pid b.machine.processes with
      | none => true
      | some p => !p.isLive

/-- Waits up to two seconds until the process is gone whose number is in a file. -/
def awaitGone (path : String) (b : Bench α) : Bool × Bench α :=
  waitFor (fun b => (b.isGone path, b)) 2000 b

end Bench

end Testbed.Host
