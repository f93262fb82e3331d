import Testbed.Argument.Error
import Testbed.Json.Fault
import Testbed.Service.Error

/-!
# Failures of requests

Why a request could not be served. Each failure has a stable code, by which drivers
tell failures apart, and a message for people. Failures of arguments, handles and
services keep their own wording.
-/

namespace Testbed.Protocol

open Os

/-- The stable code of a failure. -/
inductive Code
  | malformedRequest
  | invalidRequest
  | requestTooLarge
  | methodNotFound
  | missingArgument
  | unknownHandle
  | typeMismatch
  | alreadyRunning
  | notRunning
  | shuttingDown
  | startupTimeout
  | spawnFailed
  | exitedDuringStartup
  | processControl
  | handlerFailure
  | io
  | internal
  deriving DecidableEq, Repr

/-- The wording of a code on the wire. -/
def Code.text : Code → String
  | malformedRequest => "malformed_request"
  | invalidRequest => "invalid_request"
  | requestTooLarge => "request_too_large"
  | methodNotFound => "method_not_found"
  | missingArgument => "missing_argument"
  | unknownHandle => "unknown_handle"
  | typeMismatch => "type_mismatch"
  | alreadyRunning => "already_running"
  | notRunning => "not_running"
  | shuttingDown => "shutting_down"
  | startupTimeout => "startup_timeout"
  | spawnFailed => "spawn_failed"
  | exitedDuringStartup => "exited_during_startup"
  | processControl => "process_control"
  | handlerFailure => "handler_failure"
  | io => "io"
  | internal => "internal"

/-- Why a request could not be served. -/
inductive Failure
  /-- The request is no JSON text. -/
  | malformedJson (fault : Json.Located)
  /-- The request is no JSON text, for the reason given. -/
  | malformed (message : String)
  /-- The request is JSON of another shape. -/
  | invalid (message : String)
  /-- The request is longer than a line may be. -/
  | tooLarge (size limit : Nat)
  /-- No method has the name. -/
  | methodNotFound (method : String)
  /-- The arguments do not serve the method. -/
  | argument (error : Argument.Error)
  /-- A handle that the method looked up leads to no object. -/
  | handle (error : HandleError)
  /-- A service could not be controlled. -/
  | service (error : Service.Error)
  /-- The method failed, because of another error if there is one. -/
  | handler (message : String) (cause : Option String)
  /-- Reading or writing failed. -/
  | io (cause : Trouble)
  /-- The reply could not be written down. -/
  | unwritable (cause : String)
  /-- The daemon failed. -/
  | internal (message : String)
  deriving DecidableEq, Repr

namespace Failure

/-- The code of a failure of an argument. -/
def argumentCode : Argument.Error → Code
  | .missing _ => .missingArgument
  | .unknownHandle _ _ => .unknownHandle
  | .typeMismatch _ _ _ => .typeMismatch

/-- The code of a failure of a handle. -/
def handleCode : HandleError → Code
  | .unknown _ => .unknownHandle
  | .typeMismatch _ _ _ => .typeMismatch
  | .malformed _ => .typeMismatch

/-- The code of a failure of service control. -/
def serviceCode : Service.Error → Code
  | .alreadyRunning _ _ => .alreadyRunning
  | .notRunning _ => .notRunning
  | .shuttingDown _ => .shuttingDown
  | .startupTimeout _ _ => .startupTimeout
  | .spawnFailed _ _ _ => .spawnFailed
  | .exitedDuringStartup _ _ => .exitedDuringStartup
  | .signal _ _ _ _ => .processControl
  | .wait _ _ => .processControl
  | .stalled _ => .processControl

/-- The code of a failure. -/
def code : Failure → Code
  | malformedJson _ | malformed _ => .malformedRequest
  | invalid _ => .invalidRequest
  | tooLarge _ _ => .requestTooLarge
  | methodNotFound _ => .methodNotFound
  | argument e => argumentCode e
  | handle e => handleCode e
  | service e => serviceCode e
  | handler _ _ => .handlerFailure
  | io _ => .io
  | unwritable _ | internal _ => .internal

/-- The wording of a failure. -/
def message : Failure → String
  | malformedJson fault => "malformed request: " ++ fault.text
  | malformed message => "malformed request: " ++ message
  | invalid message => "invalid request: " ++ message
  | tooLarge size limit =>
    "request too large: " ++ toString size ++ " bytes exceeds " ++ toString limit ++ " byte limit"
  | methodNotFound method => "method not found: " ++ method
  | argument e => e.message
  | handle e => e.message
  | service e => e.message
  | handler message _ => message
  | io cause => "IO error: " ++ cause.text
  | unwritable cause => "failed to serialize response: " ++ cause
  | internal message => "internal error: " ++ message

/-- The wording of the error that a failure goes back to, if there is one. -/
def cause? : Failure → Option String
  | malformedJson fault => some fault.text
  | handler _ cause => cause
  | service e => e.cause?.map Trouble.text
  | io cause => some cause.text
  | unwritable cause => some cause
  | _ => none

end Failure

end Testbed.Protocol
