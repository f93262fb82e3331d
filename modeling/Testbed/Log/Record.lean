import Testbed.Json.Printer

/-!
# Log records

What the daemon tells about its work. A record has a level, a target naming the part
of the daemon that speaks, a message and named fields in the order in which they are
told.
-/

namespace Testbed.Log

/-- How much a record matters, from the least. -/
inductive Level
  | trace
  | debug
  | info
  | warn
  | error
  deriving DecidableEq, Repr

/-- The wording of a level. -/
def Level.text : Level → String
  | trace => "TRACE"
  | debug => "DEBUG"
  | info => "INFO"
  | warn => "WARN"
  | error => "ERROR"

/-- The rank of a level; a greater rank matters more. -/
def Level.rank : Level → Nat
  | trace => 1
  | debug => 2
  | info => 3
  | warn => 4
  | error => 5

/-- The value of a field. -/
inductive Field
  /-- A text told as a text. -/
  | text (s : String)
  /-- The wording of some other value. -/
  | shown (s : String)
  /-- A whole number. -/
  | number (n : Int)
  /-- A truth value. -/
  | flag (b : Bool)
  deriving DecidableEq, Repr

/-- A field as a JSON value. -/
def Field.json : Field → Json.Value
  | text s | shown s => .string s
  | number n => .number (.ofInt n)
  | flag b => .boolean b

/-- A log record. -/
structure Record where
  /-- How much it matters. -/
  level : Level
  /-- The part of the daemon that speaks. -/
  target : String
  /-- What happened. -/
  message : String
  /-- To what, and how. -/
  fields : List (String × Field) := []
  deriving DecidableEq, Repr

/-- The fields of a record as a JSON object. -/
def Record.fieldsJson (r : Record) : Json.Value := .object (r.fields.map fun f => (f.1, f.2.json))

/-- The parts of the daemon that speak. -/
def handlesTarget : String := "tetherd::handles"

@[inherit_doc handlesTarget]
def dispatchTarget : String := "tetherd::dispatch"

@[inherit_doc handlesTarget]
def supervisorTarget : String := "tetherd::supervisor"

@[inherit_doc handlesTarget]
def transportTarget : String := "tetherd::transport"

@[inherit_doc handlesTarget]
def bootstrapTarget : String := "tetherd::bootstrap"

@[inherit_doc handlesTarget]
def processTarget : String := "tetherd::process"

@[inherit_doc handlesTarget]
def healthTarget : String := "tetherd::health"

end Testbed.Log
