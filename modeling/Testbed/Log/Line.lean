import Testbed.Config.Basic
import Testbed.Log.Record
import Testbed.Text.Quoted

/-!
# Log lines

How a record is written: as a JSON object, or as a line for people. Both name the time
and the thread.
-/

namespace Testbed.Log

/-- A record as a JSON object: when, how much it matters, what happened, and who says so. -/
def Record.jsonLine (time thread : String) (r : Record) : String :=
  (Json.Value.object (
    [("timestamp", .string time), ("level", .string r.level.text), ("message", .string r.message)]
      ++ r.fields.map (fun f => (f.1, f.2.json))
      ++ [("target", .string r.target), ("threadName", .string thread)])).text

/-- The value of a field for people: texts stand in quotes. -/
def Field.forPeople : Field → String
  | text s => Text.quote s
  | shown s => s
  | number n => toString n
  | flag b => if b then "true" else "false"

/-- A level in five places. -/
def Level.column (l : Level) : String :=
  String.ofList (List.replicate (5 - l.text.length) ' ') ++ l.text

/-- A record as a line for people, without the time. -/
def Record.compact (thread : String) (r : Record) : String :=
  " ".intercalate ([r.level.column, thread, r.target ++ ":", r.message]
    ++ r.fields.map fun f => f.1 ++ "=" ++ f.2.forPeople)

/-- A record in a format. -/
def Record.line (format : LogFormat) (time thread : String) (r : Record) : String :=
  match format with
  | .json => r.jsonLine time thread
  | .compact => time ++ " " ++ r.compact thread

end Testbed.Log
