import Testbed.Config.Basic
import Testbed.Journal
import Testbed.Log.Filter

/-!
# The transcript

What the threads of the daemon tell, in order, and what of it is written. Nothing is
written until telemetry is installed, which happens once in the life of a process: a
later configuration changes neither the filter nor the format.

* `Transcript.written`: the log records that are written.
-/

namespace Testbed.Daemon

/-- A thread of the daemon. -/
inductive Thread
  /-- The one that assembles the daemon and waits for its end. -/
  | main
  /-- The accept loop. -/
  | accept
  /-- The one that serves a connection. -/
  | connection (number : Nat)
  deriving DecidableEq, Repr

/-- The name of a thread. -/
def Thread.name : Thread → String
  | main => "main"
  | accept => "tetherd-accept"
  | connection number => "tetherd-conn-" ++ toString number

/-- Something told by a thread. -/
structure Told where
  /-- Who tells it. -/
  thread : Thread
  /-- What is told. -/
  entry : Entry
  deriving DecidableEq, Repr

/-- How what is told is written. -/
structure Telemetry where
  /-- What is written. -/
  filter : Log.Filter
  /-- The form in which it is written. -/
  format : LogFormat
  deriving DecidableEq, Repr

/-- What the threads of a process tell. -/
structure Transcript where
  /-- The telemetry, and how much was told before it was installed. -/
  installed : Option (Telemetry × Nat) := none
  /-- What was told. -/
  told : Array Told := #[]
  deriving DecidableEq, Repr

namespace Transcript

/-- A thread tells something. -/
def tell (thread : Thread) (e : Entry) (t : Transcript) : Transcript :=
  { t with told := t.told.push ⟨thread, e⟩ }

/-- A thread tells several things in order. -/
def tellAll (thread : Thread) (entries : List Entry) (t : Transcript) : Transcript :=
  entries.foldl (fun t e => t.tell thread e) t

/-- Installs the telemetry of a configuration, unless there is one, which then stays. -/
def install (config : Config) (t : Transcript) : Except Log.FilterError (Telemetry × Transcript) :=
  match t.installed with
  | some (telemetry, _) => .ok (telemetry, t)
  | none => do
    let filter ← Log.Filter.parse config.logFilter
    let telemetry : Telemetry := ⟨filter, config.logFormat⟩
    .ok (telemetry, { t with installed := some (telemetry, t.told.size) })

/-- The log records that are written, with who tells them. -/
def written (t : Transcript) : List (Thread × Log.Record) :=
  match t.installed with
  | none => []
  | some (telemetry, silent) =>
    ((t.told.toList.drop silent).map fun x => (x.thread, x.entry.asRecord)).filter
      fun x => telemetry.filter.passes x.2

/-- What was told, as a journal. -/
def journal (t : Transcript) : Journal := t.told.map Told.entry

end Transcript

end Testbed.Daemon
