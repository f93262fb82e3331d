import Testbed.Daemon.Command
import Testbed.Host.Gate
import Testbed.Os.ExitStatus

/-!
# Runs on a machine

The daemon run as a process of a machine: it loads its configuration from the files
there, serves who calls over its socket, and ends by a signal. A signal that the daemon
does not mind ends the process at once, and nothing is put in order any more.
-/

namespace Testbed.Host

open Os

/-- A run of the daemon on a machine. -/
structure Run where
  /-- What is asked of the configuration on the command line. -/
  arguments : List String := []
  /-- What is asked of it in the environment. -/
  vars : List Config.Environment.Variable := []
  /-- Who calls, once the daemon listens. -/
  callers : List Caller := []

/-- How a run went. -/
structure Report where
  /-- What the callers were answered. -/
  replies : List (Except Trouble (List Bytes)) := []
  /-- What is left of the daemon. -/
  remains : Daemon.Remains Machine
  /-- The machine after the run. -/
  machine : Machine

/-- Calls the daemon over its socket. -/
def call (c : Caller) (d : Daemon Machine) : Except Trouble (List Bytes) × Daemon Machine :=
  match d.environment.connectUnix c.path with
  | .error cause => (.error cause, d)
  | .ok _ =>
    let (replies, d) := d.accept c.visit
    (.ok replies, d)

/-- Calls the daemon over its socket, one caller after the other. -/
def callAll : List Caller → Daemon Machine →
    List (Except Trouble (List Bytes)) × Daemon Machine
  | [], d => ([], d)
  | c :: rest, d =>
    let (reply, d) := call c d
    let (others, d) := callAll rest d
    (reply :: others, d)

namespace Run

/-- Runs the daemon; after the calls, `finish` tells what becomes of it. -/
def go (r : Run) (finish : Daemon Machine → Daemon.Remains Machine) (m : Machine)
    (t : Daemon.Transcript) : Report :=
  let report (replies : List (Except Trouble (List Bytes))) (remains : Daemon.Remains Machine) :
      Report :=
    { replies, remains, machine := (remains.daemon?.map Daemon.environment).getD m }
  match Daemon.launch Machine.platform (m.loadConfig r.arguments r.vars) m t with
  | .error remains => report [] remains
  | .ok d =>
    let (replies, d) := callAll r.callers d
    report replies (finish d)

/-- Runs the daemon until its wait for the end is over. -/
def toEnd (r : Run) (waited : Daemon.Waited) (m : Machine) (t : Daemon.Transcript) : Report :=
  r.go (Daemon.conclude Machine.platform waited) m t

/-- Runs the daemon in a process of its own until a signal arrives, or it ends by itself:
    how the process ends. -/
def signaled (r : Run) (s : Signal) (m : Machine) : ExitStatus × Report :=
  if Daemon.endingSignals.contains s then
    let report := r.toEnd (.ok (some s)) m {}
    (.exited (Daemon.exitCode report.remains.result), report)
  else
    let report := r.go (Daemon.remains (.ok ())) m {}
    match report.remains.result with
    | .ok () => (.signaled s false, report)
    | .error e => (.exited (Daemon.exitCode (.error e)), report)

end Run

end Testbed.Host
