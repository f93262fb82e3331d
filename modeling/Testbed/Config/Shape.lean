import Testbed.Config.Basic
import Testbed.Json.Unexpected

/-!
# Configuration from a JSON value

A JSON object gives some of the settings; the others keep their defaults, and entries
of other names mean nothing. What is of the wrong type is complained of, the first
such entry of the object.

An endpoint is told by its `transport`, and the other entries of the object are those
of that transport. It may also be given as a list, the transport first.
-/

namespace Testbed.Config

open Json

/-- What a reading of a value yields: a result, or a complaint. -/
abbrev Reading (α : Type) := Except String α

/-- A text. -/
def readString (expected : String) : Value → Reading String
  | .string s => .ok s
  | v => .error (Unexpected.complaint v expected)

/-- A natural number below `limit`. -/
def readNatural (limit : Nat) (expected : String) : Value → Reading Nat
  | .number x =>
    match x.natural? with
    | some n => if n < limit then .ok n else .error (Unexpected.outside x expected)
    | none =>
      if x.isInteger then .error (Unexpected.outside x expected)
      else .error (Unexpected.complaint (.number x) expected)
  | v => .error (Unexpected.complaint v expected)

/-- A number of 64 bits. -/
def readWord (v : Value) : Reading UInt64 := (readNatural UInt64.size "u64" v).map UInt64.ofNat

/-- A number of 16 bits. -/
def readPort (v : Value) : Reading UInt16 := (readNatural UInt16.size "u16" v).map UInt16.ofNat

/-! ## Endpoints -/

/-- The transports. -/
inductive Transport
  | tcp
  | unix

/-- The transport of a name. -/
def Transport.ofName? (name : String) : Option Transport :=
  if name = "tcp" then some .tcp else if name = "unix" then some .unix else none

/-- The names of the transports, as told in a complaint. -/
def transportChoices : String := "`tcp` or `unix`"

/-- What an endpoint is described as. -/
def endpointShape : String := "internally tagged enum ListenEndpoint"

/-- The path of a socket. -/
def readPath (v : Value) : Reading String := readString "a UTF-8 path string" v

/-- The host of an endpoint. -/
def readHost (v : Value) : Reading String := readString "a string" v

/-- The fields of an endpoint as far as they have been read. -/
structure Fields where
  /-- The host. -/
  host : Option String := none
  /-- The port. -/
  port : Option UInt16 := none
  /-- The path. -/
  path : Option String := none

/-- Reads the entries that belong to a transport, in order. -/
def readFields (transport : Transport) : Fields → List (String × Value) → Reading Fields
  | f, [] => .ok f
  | f, (key, v) :: r =>
    match transport, key with
    | .tcp, "host" =>
      if f.host.isSome then .error (Unexpected.duplicateField "host")
      else
        match readHost v with
        | .ok host => readFields transport { f with host := some host } r
        | .error e => .error e
    | .tcp, "port" =>
      if f.port.isSome then .error (Unexpected.duplicateField "port")
      else
        match readPort v with
        | .ok port => readFields transport { f with port := some port } r
        | .error e => .error e
    | .unix, "path" =>
      if f.path.isSome then .error (Unexpected.duplicateField "path")
      else
        match readPath v with
        | .ok path => readFields transport { f with path := some path } r
        | .error e => .error e
    | _, _ => readFields transport f r

/-- An endpoint from the entries of an object. -/
def endpointOfEntries (transport : Transport) (entries : List (String × Value)) :
    Reading Endpoint :=
  match readFields transport {} entries with
  | .error e => .error e
  | .ok f =>
    match transport with
    | .tcp =>
      match f.host, f.port with
      | none, _ => .error (Unexpected.missingField "host")
      | _, none => .error (Unexpected.missingField "port")
      | some host, some port => .ok (.tcp host port)
    | .unix =>
      match f.path with
      | none => .error (Unexpected.missingField "path")
      | some path => .ok (.unix path)

/-- Refuses items that are left over. -/
def noMore (endpoint : Endpoint) (taken : Nat) (rest : List Value) : Reading Endpoint :=
  if rest.isEmpty then .ok endpoint
  else
    .error (Unexpected.length (taken + rest.length)
      (toString taken ++ (if taken = 1 then " element" else " elements") ++ " in sequence"))

/-- An endpoint from the items of a list, in the order of its fields. -/
def endpointOfItems (transport : Transport) (items : List Value) : Reading Endpoint :=
  match transport with
  | .tcp =>
    let expected := "struct variant ListenEndpoint::Tcp with 2 elements"
    match items with
    | [] => .error (Unexpected.length 0 expected)
    | [host] =>
      match readHost host with
      | .error e => .error e
      | .ok _ => .error (Unexpected.length 1 expected)
    | host :: port :: rest =>
      match readHost host with
      | .error e => .error e
      | .ok host =>
        match readPort port with
        | .error e => .error e
        | .ok port => noMore (.tcp host port) 2 rest
  | .unix =>
    match items with
    | [] => .error (Unexpected.length 0 "struct variant ListenEndpoint::Unix with 1 element")
    | path :: rest =>
      match readPath path with
      | .error e => .error e
      | .ok path => noMore (.unix path) 1 rest

/-- The transport that a value names. -/
def readTransport (v : Value) : Reading Transport :=
  match readString "variant identifier" v with
  | .error e => .error e
  | .ok name =>
    match Transport.ofName? name with
    | some t => .ok t
    | none => .error (Unexpected.unknownVariant name transportChoices)

/-- An endpoint. -/
def readEndpoint : Value → Reading Endpoint
  | .object entries =>
    match Entries.get? "transport" entries with
    | none => .error (Unexpected.missingField "transport")
    | some tag =>
      match readTransport tag with
      | .error e => .error e
      | .ok transport => endpointOfEntries transport (Entries.erase "transport" entries)
  | .array [] => .error (Unexpected.missingField "transport")
  | .array (tag :: items) =>
    match readTransport tag with
    | .error e => .error e
    | .ok transport => endpointOfItems transport items
  | v => .error (Unexpected.complaint v endpointShape)

/-! ## Settings -/

/-- The names of the log formats, as told in a complaint. -/
def formatChoices : String := "`json` or `compact`"

/-- The log format of a name. -/
def readFormatName (name : String) : Reading LogFormat :=
  match LogFormat.ofName? name with
  | some f => .ok f
  | none => .error (Unexpected.unknownVariant name formatChoices)

/-- A log format: its name, or an object with the name as its only key. -/
def readFormat : Value → Reading LogFormat
  | .string name => readFormatName name
  | .object [(name, v)] =>
    match readFormatName name with
    | .error e => .error e
    | .ok f => if v.isNull then .ok f else .error (Unexpected.complaint v "unit")
  | .object _ => .error "invalid value: map, expected map with a single key"
  | v => .error (Unexpected.complaint v "string or map")

/-- The setting of a name. -/
def readSetting (key : Key) (v : Value) : Reading Setting :=
  match key with
  | .listen => (readEndpoint v).map .listen
  | .logFilter => (readString "a string" v).map .logFilter
  | .logFormat => (readFormat v).map .logFormat
  | .startupTimeoutMs => (readWord v).map .startupTimeoutMs
  | .stopGraceMs => (readWord v).map .stopGraceMs
  | .syncGatewayBinary => (readString "a string" v).map .syncGatewayBinary
  | .syncGatewayProbePort => (readPort v).map .syncGatewayProbePort
  | .cbServerBinary => (readString "a string" v).map .cbServerBinary
  | .cbServerProbePort => (readPort v).map .cbServerProbePort

/-- The settings that entries give, in order, after those given so far. -/
def readEntries (given : Given) : List (String × Value) → Reading Given
  | [] => .ok given
  | (name, v) :: r =>
    match Key.ofText? name with
    | none => readEntries given r
    | some key =>
      match readSetting key v with
      | .error e => .error e
      | .ok s => readEntries (given.set s) r

/-- The settings that items give, in the order of the settings. -/
def readItems (given : Given) : List Key → List Value → Reading Given
  | key :: keys, v :: items =>
    match readSetting key v with
    | .error e => .error e
    | .ok s => readItems (given.set s) keys items
  | _, _ => .ok given

/-- The configuration that a value gives. -/
def ofJson : Value → Reading Config
  | .object entries => (readEntries {} entries).map Given.config
  | .array items =>
    match readItems {} Key.all items with
    | .error e => .error e
    | .ok given =>
      if items.length ≤ Key.all.length then .ok given.config
      else .error (Unexpected.length items.length "fewer elements in array")
  | v => .error (Unexpected.complaint v "struct Config")

end Testbed.Config
