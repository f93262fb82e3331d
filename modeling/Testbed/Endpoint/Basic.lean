import Testbed.Endpoint.Url
import Testbed.Json.Value

/-!
# Endpoints

Where the daemon listens for drivers: at a host and port, or at a socket in the file
system. An endpoint is written as a URL, `tcp://host:port` or `unix:///path`.
-/

namespace Testbed

/-- Where the daemon listens. -/
inductive Endpoint
  /-- At a port of a host; port zero leaves the choice to the system. -/
  | tcp (host : String) (port : UInt16)
  /-- At a socket in the file system. -/
  | unix (path : String)
  deriving DecidableEq, Repr

namespace Endpoint

/-- Why a text names no endpoint. -/
inductive ParseError
  /-- The scheme is neither `tcp` nor `unix`. -/
  | unsupportedScheme (scheme : String)
  /-- There is no host. -/
  | missingHost (text : String)
  /-- There is no port. -/
  | missingPort (text : String)
  /-- There is no path. -/
  | missingPath (text : String)
  /-- The text is no URL. -/
  | url (error : UrlError)
  deriving DecidableEq, Repr

/-- The wording of a parse error. -/
def ParseError.message : ParseError → String
  | unsupportedScheme scheme => "unsupported endpoint scheme '" ++ scheme ++ "'"
  | missingHost text => "missing TCP host in '" ++ text ++ "'"
  | missingPort text => "missing TCP port in '" ++ text ++ "'"
  | missingPath text => "missing Unix socket path in '" ++ text ++ "'"
  | url e => e.message

/-- An endpoint as a URL. -/
def text : Endpoint → String
  | tcp host port => "tcp://" ++ host ++ ":" ++ toString port.toNat
  | unix path => "unix://" ++ path

/-- The endpoint that a text names. -/
def parse (text : String) : Except ParseError Endpoint :=
  match Url.parse text with
  | .error e => .error (.url e)
  | .ok url =>
    if url.scheme = "tcp" then
      match url.host, url.port with
      | none, _ => .error (.missingHost text)
      | some _, none => .error (.missingPort text)
      | some host, some port => .ok (.tcp host (UInt16.ofNat port))
    else if url.scheme = "unix" then
      if url.path.isEmpty then .error (.missingPath text) else .ok (.unix url.path)
    else .error (.unsupportedScheme url.scheme)

/-- The path of the socket, if the endpoint is one in the file system. -/
def unixPath? : Endpoint → Option String
  | unix path => some path
  | tcp _ _ => none

/-- An endpoint as a JSON object, told by its transport. -/
def toJson : Endpoint → Json.Value
  | tcp host port =>
    .object [("transport", .string "tcp"), ("host", .string host), ("port", .ofNat port.toNat)]
  | unix path => .object [("transport", .string "unix"), ("path", .string path)]

end Endpoint

end Testbed
