import Testbed.Daemon.Basic
import Testbed.Text.Quoted

/-!
# A run of the daemon

A run assembles the daemon, listens, serves whoever connects until a signal arrives, and
shuts the daemon down. Once the daemon is assembled, no way out of a run leaves a service
or an object behind (`Daemon.run`).
-/

namespace Testbed.Daemon

open Os

variable {ω : Type}

/-- The signals that end the daemon in order: hang-up, the interrupt and quit keys, and the
    request to end. -/
def endingSignals : List Signal := [⟨1⟩, .int, .quit, .term]

/-- What waiting for the end came to: the signal that arrived, if one did, or why nobody
    can wait. -/
abbrev Waited := Except Trouble (Option Signal)

/-- An address that may be missing, as told in a log record. -/
def addressText : Option Net.SocketAddress → String
  | none => "None"
  | some a => "Some(" ++ a.text ++ ")"

/-- Names as told in a log record. -/
def namesText (names : List String) : String :=
  "[" ++ ", ".intercalate (names.map Text.quote) ++ "]"

/-- What is told when the daemon listens. -/
def listening (d : Daemon ω) : Entry :=
  record Log.processTarget "daemon listening"
    [("listen", .shown d.config.listen.text), ("local_addr", .shown (addressText d.address))]

/-- What is told of the signal that ends the daemon. -/
def signalReceived (s : Signal) : Entry :=
  record Log.processTarget "shutdown signal received" [("signal", .number s.number)]

/-- What is told at the end of a run. -/
def ended (s : Summary) : Entry :=
  record Log.processTarget "daemon stopped"
    [("stopped_services", .shown (namesText s.services)), ("released_handles", .number s.handles)]

/-- What is left when a run of the daemon is over. -/
structure Remains (ω : Type) where
  /-- How the run went. -/
  result : Except RunError Unit
  /-- What its threads told. -/
  transcript : Transcript
  /-- The daemon, unless none was assembled. -/
  daemon? : Option (Daemon ω) := none

/-- What is left of a daemon. -/
def remains (result : Except RunError Unit) (d : Daemon ω) : Remains ω :=
  { result, transcript := d.transcript, daemon? := some d }

/-- Assembles the daemon and listens; a daemon that cannot listen is shut down. -/
def launch (p : Platform ω) (loaded : Except Config.LoadFailure Config) (environment : ω)
    (t : Transcript) : Except (Remains ω) (Daemon ω) :=
  match bootstrap p loaded environment t with
  | .error (e, transcript) => .error { result := .error (.bootstrap e), transcript }
  | .ok d =>
    match d.startListener p with
    | (.ok (), d) => .ok (d.tell (listening d))
    | (.error e, d) =>
      match d.shutdown p with
      | (.error later, d) => .error (remains (.error (.listener later)) d)
      | (.ok _, d) => .error (remains (.error (.listener e)) d)

/-- The main thread tells of the signal that it waited for. -/
def tellSignal (waited : Waited) (d : Daemon ω) : Daemon ω :=
  match waited with
  | .ok (some s) => d.tell (signalReceived s)
  | _ => d

/-- Shuts the daemon down after the wait. A listener that did not end in order counts for
    more than a failure to wait. -/
def conclude (p : Platform ω) (waited : Waited) (d : Daemon ω) : Remains ω :=
  match (tellSignal waited d).shutdown p with
  | (.error e, d) => remains (.error (.listener e)) d
  | (.ok summary, d) =>
    let d := d.tell (ended summary)
    match waited with
    | .error cause => remains (.error (.shutdown cause)) d
    | .ok _ => remains (.ok ()) d

/-- Runs the daemon: what the drivers are answered that connect before the end, and what is
    left. -/
def run (p : Platform ω) (loaded : Except Config.LoadFailure Config) (visits : List Visit)
    (waited : Waited) (environment : ω) (t : Transcript) : List (List Bytes) × Remains ω :=
  match launch p loaded environment t with
  | .error remains => ([], remains)
  | .ok d =>
    let (replies, d) := d.acceptAll visits
    (replies, d.conclude p waited)

end Testbed.Daemon
