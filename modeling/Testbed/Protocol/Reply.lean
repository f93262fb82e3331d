import Testbed.Protocol.Failure
import Testbed.Json.Printer
import Testbed.Object

/-!
# Replies

What a method yields (`Outcome`), what becomes of it once an object has been
registered (`Reply`), and the line that tells the driver (`Message`). Every line is
one JSON object: `ok` with a type and at most one of a value and a handle, or `error`
with a code and a message.
-/

namespace Testbed.Protocol

open Json

/-- What a method yields. -/
inductive Outcome
  /-- Nothing. -/
  | void
  /-- A value. -/
  | value (v : Value)
  /-- An object, to be kept for the driver. -/
  | object (o : Object)
  deriving Inhabited

/-- What the driver is told of a served request. -/
inductive Reply
  /-- There is no result. -/
  | void
  /-- The result is a value. -/
  | value (v : Value)
  /-- The result is an object, named by the handle. -/
  | handle (handle : Handle) (tag : Tag)

/-- The type of a value as told to drivers. -/
def valueType : Value → String
  | .null => "null"
  | .boolean _ => "boolean"
  | .number _ => "number"
  | .string _ => "string"
  | .array _ => "array"
  | .object _ => "map"

/-- The type of a reply as told to drivers; of an object, its tag. -/
def Reply.type : Reply → String
  | void => "void"
  | value v => valueType v
  | handle _ tag => tag.name

/-- What a driver is told of a request: the reply, or the failure. -/
abbrev Response := Except Failure Reply

namespace Response

/-- The response as a JSON object. -/
def json : Response → Value
  | .ok (.void) => .object [("kind", .string "ok"), ("type", .string "void")]
  | .ok (.value v) =>
    .object [("kind", .string "ok"), ("type", .string (valueType v)), ("value", v)]
  | .ok (.handle handle tag) =>
    .object [("kind", .string "ok"), ("type", .string tag.name),
      ("handle", .string handle.marker)]
  | .error e =>
    .object [("kind", .string "error"), ("code", .string e.code.text),
      ("message", .string e.message)]

/-- The line that tells the response, its line feed included. -/
def line (r : Response) : Bytes := (json r).print ++ [Bytes.lineFeed]

end Response

end Testbed.Protocol
