import Std.Time.Format
import Testbed.Daemon.Command
import Testbed.Host.Network
import Testbed.Log.Line

/-!
# The command

The daemon at a terminal. Its configuration comes from the command line, the environment
of the process and the file system. Its one driver is at the standard streams: the
requests are what the standard input brings, and the end of the input ends the daemon.
Services and sockets live on a machine in memory. The log goes to the standard error
stream.
-/

namespace Testbed.Command

open Daemon Host

/-- Runs a program in the world outside. -/
def perform {Cmd : Type} {Ans : Cmd → Type} {α : Type} (answer : (c : Cmd) → IO (Ans c)) :
    Program Cmd Ans α → IO α
  | .done a => pure a
  | .step c next => do perform answer (next (← answer c))

/-- What is in a file of the file system. -/
def fileContent (r : Config.ReadFile) : IO Config.FileContent := do
  try
    match String.fromUTF8? (← IO.FS.readBinFile r.path) with
    | some s => pure (.text s)
    | none => pure (.unreadable "stream did not contain valid UTF-8")
  catch
    | .noFileOrDirectory .. => pure .missing
    | e => pure (.unreadable (toString e))

/-- The environment of the process. -/
def environment : IO (List Config.Environment.Variable) := do
  match ← fileContent ⟨"/proc/self/environ"⟩ with
  | .text s => pure (Config.Environment.ofBlock s)
  | _ => pure []

/-- What a stream brings until its end. -/
partial def drain (stream : IO.FS.Stream) (read : List Bytes) : IO (List Bytes) := do
  let chunk ← stream.read 65536
  if chunk.isEmpty then pure read.reverse else drain stream (chunk.data.toList :: read)

/-- The driver at the standard streams, who is only waited for with a configuration. -/
def visits (loaded : Except Config.LoadFailure Config) : IO (List Visit) := do
  match loaded with
  | .error _ => pure []
  | .ok _ =>
    let chunks ← drain (← IO.getStdin) []
    pure [{ source := { chunks } }]

/-- The time of day. -/
def now : IO String := do
  let t ← Std.Time.Timestamp.now
  pure ((Std.Time.DateTime.ofTimestamp t .UTC).format "uuuu-MM-dd'T'HH:mm:ss.SSSSSSSSS'Z'")

/-- Writes the log. -/
def writeLog (t : Transcript) : IO Unit := do
  match t.installed with
  | none => pure ()
  | some (telemetry, _) =>
    for (thread, r) in t.written do
      IO.eprintln (r.line telemetry.format (← now) thread.name)

/-- Writes what the driver is answered. -/
def writeReplies (replies : List Bytes) : IO Unit := do
  let out ← IO.getStdout
  for line in replies do
    out.write ⟨line.toArray⟩
  out.flush

end Testbed.Command

open Testbed in
/-- Runs the daemon. -/
def main (arguments : List String) : IO UInt32 := do
  let loaded ← Command.perform Command.fileContent
    (Config.load arguments (← Command.environment))
  let visits ← Command.visits loaded
  let (replies, remains) :=
    Daemon.run Host.Machine.platform loaded visits (.ok none) Host.Machine.fresh {}
  Command.writeReplies replies.flatten
  Command.writeLog remains.transcript
  match Daemon.complaint? remains.result with
  | some complaint => IO.eprintln complaint
  | none => pure ()
  pure (UInt32.ofNat (Daemon.exitCode remains.result))
