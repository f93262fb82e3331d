import Testbed.Connection.Line
import Testbed.Dispatcher
import Testbed.Protocol.Request

/-!
# Serving a connection

Every request line is answered by one response line, in order, before the next one is
read. A blank line is no request. A line that is too long is answered and ends the
connection, because what follows it cannot be told apart from it; so does a response
that cannot be written.
-/

namespace Testbed.Connection

open Protocol Os

variable {σ : Type}

/-- What is told of a served request. -/
def served (method : String) (r : Reply) : Entry :=
  .record ⟨.debug, Log.dispatchTarget, "request served",
    [("method", .text method), ("reply_type", .text r.type)]⟩

/-- What is told of a request that failed. -/
def failedRequest (method : String) (e : Failure) : Entry :=
  .record ⟨.debug, Log.dispatchTarget, "request failed",
    [("method", .text method), ("code", .shown e.code.text), ("error", .shown e.message)]⟩

/-- What is told of a dispatched request. -/
def summary (method : String) : Response → Entry
  | .ok r => served method r
  | .error e => failedRequest method e

/-- Serves a request line. -/
def serveLine (line : Bytes) (d : Dispatcher σ) : Response × Dispatcher σ :=
  match Request.parse line with
  | .error e => (.error e, d)
  | .ok request =>
    match request.validate with
    | .error e => (.error e, d)
    | .ok () =>
      let (response, d) := d.dispatch request.method request.arguments
      (response, { d with world := d.world.tell (summary request.method response) })

/-- How writing to a connection turns out: it works, or it fails for a reason. -/
abbrev Sink := Option Trouble

/-- What is told of the end of a connection. -/
def warning (message : String) (error : String) : Entry :=
  .record ⟨.warn, Log.dispatchTarget, message, [("error", .shown error)]⟩

/-- The failure to write a response. -/
def unwritten (cause : Trouble) : Failure := .unwritable cause.text

/-- What is told of an oversized line whose answer could not be written. -/
def unreported (cause : Trouble) : Entry :=
  .record ⟨.debug, Log.dispatchTarget, "failed to report oversized request",
    [("error", .shown (unwritten cause).message)]⟩

/-- Serves lines in order: the response lines written, and the dispatcher afterwards. -/
def serveLines (sink : Sink) : List LineRead → Dispatcher σ → List Bytes × Dispatcher σ
  | [], d => ([], d)
  | .finished :: _, d => ([], d)
  | .failed cause :: _, d =>
    ([], { d with world := d.world.tell (warning "failed to read request" cause.text) })
  | .tooLarge beginning :: _, d =>
    let e : Failure := .tooLarge beginning.length lineLimit
    let world := d.world.tell (warning "closing connection" e.message)
    match sink with
    | none => ([Response.line (.error e)], { d with world })
    | some cause => ([], { d with world := world.tell (unreported cause) })
  | .complete line :: rest, d =>
    if Bytes.isBlank line then serveLines sink rest d
    else
      let (response, d) := serveLine line d
      match sink with
      | some cause =>
        ([], { d with
          world := d.world.tell (warning "failed to write response" (unwritten cause).message) })
      | none =>
        let (replies, d) := serveLines sink rest d
        (Response.line response :: replies, d)

/-- Serves a connection. -/
def serve (source : Source) (sink : Sink) (d : Dispatcher σ) : List Bytes × Dispatcher σ :=
  serveLines sink source.lines d

end Testbed.Connection
