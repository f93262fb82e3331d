import Testbed.Service.Policy

/-!
# The supervisor

The supervisor tracks at most one process for each service. At work in an environment it
carries out one procedure after another: commands to the operating system go to the
environment, and those to its notes change the notes.

* `Supervision.run`: what a procedure comes to, and the notes and the environment after it.
-/

namespace Testbed.Service

open Os

/-- The supervisor's notes. -/
structure Supervisor where
  /-- The slots, by service. -/
  slots : Entries String Slot := []
  /-- Whether services are no longer started. -/
  closed : Bool := false
  deriving DecidableEq, Repr

namespace Supervisor

/-- The slot of a service; one that was never started has an empty one. -/
def slot (service : String) (s : Supervisor) : Slot := (Entries.get? service s.slots).getD {}

/-- The services that are starting, ready or stopping, in the order of their octets. -/
def active (s : Supervisor) : List String :=
  ((s.slots.filter fun e => e.2.phase.isActive).map Prod.fst).mergeSort fun a b =>
    Bytes.le (Bytes.ofString a) (Bytes.ofString b)

end Supervisor

/-- An operating system, by how it answers. -/
abbrev OperatingSystem (ω : Type) := (c : OsCommand) → ω → c.Answer × ω

/-- The supervisor at work in an environment. -/
structure Supervision (ω : Type) where
  /-- Its notes. -/
  supervisor : Supervisor := {}
  /-- The environment. -/
  environment : ω
  /-- What has been told so far. -/
  journal : Journal := #[]

namespace Supervision

variable {ω : Type}

/-- Carries out a command. -/
def perform (os : OperatingSystem ω) :
    (c : SupervisorCommand) → Supervision ω → c.Answer × Supervision ω
  | .os c, s =>
    let (answer, environment) := os c s.environment
    (answer, { s with environment })
  | .enter service, s =>
    let slot := s.supervisor.slot service
    (slot, { s with
      supervisor := { s.supervisor with slots := Entries.put service slot s.supervisor.slots } })
  | .enterExisting service, s => (Entries.get? service s.supervisor.slots, s)
  | .peek service, s => (Entries.get? service s.supervisor.slots, s)
  | .update service slot, s =>
    ((), { s with
      supervisor := { s.supervisor with slots := Entries.put service slot s.supervisor.slots } })
  | .services, s => (Entries.keys s.supervisor.slots, s)
  | .isClosed, s => (s.supervisor.closed, s)
  | .close, s => ((), { s with supervisor := { s.supervisor with closed := true } })
  | .tell entry, s => ((), { s with journal := s.journal.push entry })

/-- Carries out a procedure. -/
def run {α : Type} (os : OperatingSystem ω) (p : Procedure α) (s : Supervision ω) :
    α × Supervision ω :=
  Program.run (perform os) p s

end Supervision

end Testbed.Service
