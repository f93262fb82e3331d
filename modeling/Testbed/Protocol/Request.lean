import Testbed.Argument.Resolve
import Testbed.Protocol.Failure
import Testbed.Json.Reader
import Testbed.Json.Unexpected
import Testbed.Text.Blank

/-!
# Requests

A request is a line with a JSON object: the name of the method under `method`, and
under `args`, unless there are none, an object of named arguments. Other keys mean
nothing. Whitespace at the end of the line and around the method's name is ignored.
-/

namespace Testbed.Protocol

open Json

/-- A request. -/
structure Request where
  /-- The name of the method as given. -/
  name : String
  /-- The arguments. -/
  arguments : Argument.Bag

namespace Request

/-- The first entry of a request object that is of the wrong type: the method's name must
    be a text, the arguments an object. -/
def complaint? : Json.Object → Option String
  | [] => none
  | (key, v) :: r =>
    match key, v with
    | "method", .string _ => complaint? r
    | "method", v => some (Unexpected.complaint v "a string")
    | "args", .object _ => complaint? r
    | "args", v => some (Unexpected.complaint v "a map")
    | _, _ => complaint? r

/-- The request that a JSON object stands for. -/
def ofObject (entries : Json.Object) : Except Failure Request :=
  match complaint? entries with
  | some message => .error (.invalid message)
  | none =>
    match Entries.get? "method" entries, Entries.get? "args" entries with
    | some (.string name), some (.object bag) => .ok ⟨name, bag⟩
    | some (.string name), _ => .ok ⟨name, []⟩
    | _, _ => .error (.invalid (Unexpected.missingField "method"))

/-- The request that a line stands for. -/
def parse (line : Bytes) : Except Failure Request :=
  let text := Bytes.trimEnd line
  if text.isEmpty then .error (.malformed "empty request line")
  else
    match Value.read text with
    | .error fault => .error (.malformedJson fault)
    | .ok (.object entries) => ofObject entries
    | .ok _ => .error (.invalid "request must be a JSON object")

/-- The name of the method, without the whitespace around it. -/
def method (r : Request) : String := Text.Blank.trim r.name

/-- Refuses a request that names no method. -/
def validate (r : Request) : Except Failure Unit :=
  if r.method.isEmpty then .error (.invalid "method field is empty") else .ok ()

end Request

end Testbed.Protocol
