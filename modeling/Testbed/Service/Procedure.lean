import Testbed.Journal
import Testbed.Program

/-!
# Procedures of the supervisor

What the supervisor does is a program (`Procedure`) of commands to the operating system
and to its own notes, so it can be run against any behaviour of processes, probes and
the clock. The notes hold a slot for each service.
-/

namespace Testbed.Service

open Os

/-- What the supervisor knows of a service. -/
structure Slot where
  /-- Where the service stands. -/
  phase : Phase := .absent
  /-- The process that is tracked. -/
  process : Option ProcessInfo := none
  deriving DecidableEq, Repr

/-- What the supervisor asks of the operating system. -/
inductive OsCommand
  /-- Run a program in a process group of its own. -/
  | spawn (launch : Launch)
  /-- Whether a child has ended, and how. -/
  | poll (pid : Nat)
  /-- Wait until a child has ended, and how. -/
  | await (pid : Nat)
  /-- Send a signal to a process group. -/
  | signal (pid : Nat) (signal : Signal)
  /-- Read the clock, in nanoseconds. -/
  | now
  /-- Do nothing for a while. -/
  | sleep (span : Span)
  /-- Knock at the address of a probe. -/
  | knock (probe : Probe) (time : Span)

/-- What the operating system answers. -/
def OsCommand.Answer : OsCommand → Type
  | spawn _ => Except Trouble Nat
  | poll _ => Except Trouble (Option ExitStatus)
  | await _ => Except Trouble ExitStatus
  | signal _ _ => Except Errno Unit
  | now => Nat
  | sleep _ => Unit
  | knock _ _ => Bool

/-- What a procedure of the supervisor asks for. -/
inductive SupervisorCommand
  /-- Something of the operating system. -/
  | os (c : OsCommand)
  /-- The slot of a service, once no other procedure is at work on it; a service without a
      slot gets one. -/
  | enter (service : String)
  /-- The slot of a service, once no other procedure is at work on it, if it has one. -/
  | enterExisting (service : String)
  /-- The slot of a service as it stands, if it has one. -/
  | peek (service : String)
  /-- Replace a slot. -/
  | update (service : String) (slot : Slot)
  /-- The services that have slots. -/
  | services
  /-- Whether services are still started. -/
  | isClosed
  /-- Start no more services. -/
  | close
  /-- Tell something. -/
  | tell (entry : Entry)

/-- What a procedure of the supervisor is answered. -/
def SupervisorCommand.Answer : SupervisorCommand → Type
  | os c => c.Answer
  | enter _ => Slot
  | enterExisting _ => Option Slot
  | peek _ => Option Slot
  | update _ _ => Unit
  | services => List String
  | isClosed => Bool
  | close => Unit
  | tell _ => Unit

/-- What the supervisor does. -/
abbrev Procedure (α : Type) := Program SupervisorCommand SupervisorCommand.Answer α

namespace Procedure

/-- Runs a program in a process group of its own. -/
def spawn (launch : Launch) : Procedure (Except Trouble Nat) :=
  Program.issue (SupervisorCommand.os (.spawn launch))

/-- Whether a child has ended, and how. -/
def poll (pid : Nat) : Procedure (Except Trouble (Option ExitStatus)) :=
  Program.issue (SupervisorCommand.os (.poll pid))

/-- Waits until a child has ended. -/
def await (pid : Nat) : Procedure (Except Trouble ExitStatus) :=
  Program.issue (SupervisorCommand.os (.await pid))

/-- Sends a signal to a process group. -/
def signal (pid : Nat) (s : Signal) : Procedure (Except Errno Unit) :=
  Program.issue (SupervisorCommand.os (.signal pid s))

/-- Reads the clock. -/
def now : Procedure Nat := Program.issue (SupervisorCommand.os .now)

/-- Does nothing for a while. -/
def sleep (span : Span) : Procedure Unit := Program.issue (SupervisorCommand.os (.sleep span))

/-- Knocks at the address of a probe. -/
def knock (probe : Probe) (time : Span) : Procedure Bool :=
  Program.issue (SupervisorCommand.os (.knock probe time))

/-- The slot of a service, made if it has none. -/
def enter (service : String) : Procedure Slot := Program.issue (SupervisorCommand.enter service)

/-- The slot of a service, if it has one. -/
def enterExisting (service : String) : Procedure (Option Slot) :=
  Program.issue (SupervisorCommand.enterExisting service)

/-- The slot of a service as it stands. -/
def peek (service : String) : Procedure (Option Slot) :=
  Program.issue (SupervisorCommand.peek service)

/-- Replaces a slot. -/
def update (service : String) (slot : Slot) : Procedure Unit :=
  Program.issue (SupervisorCommand.update service slot)

/-- The services that have slots. -/
def services : Procedure (List String) := Program.issue SupervisorCommand.services

/-- Whether services are still started. -/
def isClosed : Procedure Bool := Program.issue SupervisorCommand.isClosed

/-- Starts no more services. -/
def close : Procedure Unit := Program.issue SupervisorCommand.close

/-- Tells something. -/
def tell (entry : Entry) : Procedure Unit := Program.issue (SupervisorCommand.tell entry)

/-- Tells a log record. -/
def log (level : Log.Level) (message : String) (fields : List (String × Log.Field)) :
    Procedure Unit :=
  tell (.record ⟨level, Log.supervisorTarget, message, fields⟩)

end Procedure

end Testbed.Service
