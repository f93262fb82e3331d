import Testbed.Endpoint.Basic
import Testbed.Span

/-!
# Configuration

What the daemon can be told about its work, and what it does when it is told nothing.
-/

namespace Testbed

/-- How log records are written. -/
inductive LogFormat
  /-- One JSON object to a line. -/
  | json
  /-- One line for people. -/
  | compact
  deriving DecidableEq, Repr, Inhabited

namespace LogFormat

/-- The name of a format. -/
def text : LogFormat → String
  | json => "json"
  | compact => "compact"

/-- The format of a name. -/
def ofName? (name : String) : Option LogFormat :=
  if name = "json" then some json else if name = "compact" then some compact else none

/-- The format of a name in any mixture of small and capital letters. -/
def parse? (name : String) : Option LogFormat :=
  ofName? (String.ofList (name.toList.map Endpoint.Url.lower))

/-- The complaint about a name of no format. -/
def unknown : String := "Matching variant not found"

end LogFormat

/-- What the daemon can be told. -/
structure Config where
  /-- Where it listens. -/
  listen : Endpoint
  /-- Which log records are written. -/
  logFilter : String
  /-- How they are written. -/
  logFormat : LogFormat
  /-- How long a service may take to become ready, in milliseconds. -/
  startupTimeoutMs : UInt64
  /-- How long a service may take to end when asked to, in milliseconds. -/
  stopGraceMs : UInt64
  /-- The program of the sync gateway. -/
  syncGatewayBinary : String
  /-- The port that tells whether the sync gateway is ready. -/
  syncGatewayProbePort : UInt16
  /-- The program of the database server. -/
  cbServerBinary : String
  /-- The port that tells whether the database server is ready. -/
  cbServerProbePort : UInt16
  deriving DecidableEq, Repr

namespace Config

/-! ## Defaults

The values that the daemon works with when it is told no others (`Usual`) stand in two places:
they are filled in one by one where a setting is missing, and they make up the default
configuration. -/

namespace Usual

/-- The host on which it listens: the one that no other machine reaches. -/
def tcpHost : String := "127.0.0.1"

/-- The port on which drivers expect it. -/
def tcpPort : UInt16 := 8080

/-- Which log records are written. -/
def logFilter : String := "info"

/-- How long a service may take to become ready, in milliseconds. -/
def startupTimeoutMs : UInt64 := 60000

/-- How long a service may take to end when asked to, in milliseconds. -/
def stopGraceMs : UInt64 := 5000

/-- The program of the sync gateway. -/
def syncGatewayBinary : String := "sync_gateway"

/-- The port on which the sync gateway is administered. -/
def syncGatewayProbePort : UInt16 := 4985

/-- The program of the database server. -/
def cbServerBinary : String := "couchbase-server"

/-- The port on which the database server is administered. -/
def cbServerProbePort : UInt16 := 8091

end Usual

/-- Where the daemon listens unless that is given. -/
def defaultListen : Endpoint := .tcp Usual.tcpHost Usual.tcpPort

/-- Which log records are written unless that is given. -/
def defaultLogFilter : String := Usual.logFilter

/-- How log records are written unless that is given. -/
def defaultLogFormat : LogFormat := .json

/-- How long a service may take to become ready unless that is given, in milliseconds. -/
def defaultStartupTimeoutMs : UInt64 := Usual.startupTimeoutMs

/-- How long a service may take to end unless that is given, in milliseconds. -/
def defaultStopGraceMs : UInt64 := Usual.stopGraceMs

/-- The program of the sync gateway unless that is given. -/
def defaultSyncGatewayBinary : String := Usual.syncGatewayBinary

/-- The port of the sync gateway unless that is given. -/
def defaultSyncGatewayProbePort : UInt16 := Usual.syncGatewayProbePort

/-- The program of the database server unless that is given. -/
def defaultCbServerBinary : String := Usual.cbServerBinary

/-- The port of the database server unless that is given. -/
def defaultCbServerProbePort : UInt16 := Usual.cbServerProbePort

/-- What the daemon does when it is told nothing. All but the first three settings are put down
    here and not taken from what decoding fills in. -/
def default : Config where
  listen := defaultListen
  logFilter := defaultLogFilter
  logFormat := defaultLogFormat
  startupTimeoutMs := Usual.startupTimeoutMs
  stopGraceMs := Usual.stopGraceMs
  syncGatewayBinary := Usual.syncGatewayBinary
  syncGatewayProbePort := Usual.syncGatewayProbePort
  cbServerBinary := Usual.cbServerBinary
  cbServerProbePort := Usual.cbServerProbePort

/-! ## What a configuration tells -/

/-- How long a service may take to become ready. -/
def startupTimeout (c : Config) : Span := .ofMillis c.startupTimeoutMs.toNat

/-- How long a service may take to end when asked to. -/
def stopGrace (c : Config) : Span := .ofMillis c.stopGraceMs.toNat

/-- A configuration as a JSON object. -/
def toJson (c : Config) : Json.Value :=
  .object [
    ("listen", c.listen.toJson),
    ("log_filter", .string c.logFilter),
    ("log_format", .string c.logFormat.text),
    ("startup_timeout_ms", .ofNat c.startupTimeoutMs.toNat),
    ("stop_grace_ms", .ofNat c.stopGraceMs.toNat),
    ("sync_gateway_binary", .string c.syncGatewayBinary),
    ("sync_gateway_probe_port", .ofNat c.syncGatewayProbePort.toNat),
    ("cb_server_binary", .string c.cbServerBinary),
    ("cb_server_probe_port", .ofNat c.cbServerProbePort.toNat)]

/-! ## Settings -/

/-- A single setting. -/
inductive Setting
  | listen (e : Endpoint)
  | logFilter (s : String)
  | logFormat (f : LogFormat)
  | startupTimeoutMs (n : UInt64)
  | stopGraceMs (n : UInt64)
  | syncGatewayBinary (s : String)
  | syncGatewayProbePort (n : UInt16)
  | cbServerBinary (s : String)
  | cbServerProbePort (n : UInt16)

/-- The settings that are given. -/
structure Given where
  listen : Option Endpoint := none
  logFilter : Option String := none
  logFormat : Option LogFormat := none
  startupTimeoutMs : Option UInt64 := none
  stopGraceMs : Option UInt64 := none
  syncGatewayBinary : Option String := none
  syncGatewayProbePort : Option UInt16 := none
  cbServerBinary : Option String := none
  cbServerProbePort : Option UInt16 := none
  deriving DecidableEq, Repr

namespace Given

/-- One more setting is given. -/
def set (g : Given) : Setting → Given
  | .listen e => { g with listen := some e }
  | .logFilter s => { g with logFilter := some s }
  | .logFormat f => { g with logFormat := some f }
  | .startupTimeoutMs n => { g with startupTimeoutMs := some n }
  | .stopGraceMs n => { g with stopGraceMs := some n }
  | .syncGatewayBinary s => { g with syncGatewayBinary := some s }
  | .syncGatewayProbePort n => { g with syncGatewayProbePort := some n }
  | .cbServerBinary s => { g with cbServerBinary := some s }
  | .cbServerProbePort n => { g with cbServerProbePort := some n }

/-- The configuration that given settings make. What is not given is filled in one by one. -/
def config (g : Given) : Config where
  listen := g.listen.getD defaultListen
  logFilter := g.logFilter.getD defaultLogFilter
  logFormat := g.logFormat.getD defaultLogFormat
  startupTimeoutMs := g.startupTimeoutMs.getD defaultStartupTimeoutMs
  stopGraceMs := g.stopGraceMs.getD defaultStopGraceMs
  syncGatewayBinary := g.syncGatewayBinary.getD defaultSyncGatewayBinary
  syncGatewayProbePort := g.syncGatewayProbePort.getD defaultSyncGatewayProbePort
  cbServerBinary := g.cbServerBinary.getD defaultCbServerBinary
  cbServerProbePort := g.cbServerProbePort.getD defaultCbServerProbePort

end Given

/-- The names of the settings, in order. -/
inductive Key
  | listen
  | logFilter
  | logFormat
  | startupTimeoutMs
  | stopGraceMs
  | syncGatewayBinary
  | syncGatewayProbePort
  | cbServerBinary
  | cbServerProbePort
  deriving DecidableEq, Repr

namespace Key

/-- All names, in order. -/
def all : List Key := [.listen, .logFilter, .logFormat, .startupTimeoutMs, .stopGraceMs,
  .syncGatewayBinary, .syncGatewayProbePort, .cbServerBinary, .cbServerProbePort]

/-- A name as written in JSON and in files. -/
def text : Key → String
  | listen => "listen"
  | logFilter => "log_filter"
  | logFormat => "log_format"
  | startupTimeoutMs => "startup_timeout_ms"
  | stopGraceMs => "stop_grace_ms"
  | syncGatewayBinary => "sync_gateway_binary"
  | syncGatewayProbePort => "sync_gateway_probe_port"
  | cbServerBinary => "cb_server_binary"
  | cbServerProbePort => "cb_server_probe_port"

/-- The setting of a name. -/
def ofText? (s : String) : Option Key := all.find? fun k => k.text = s

end Key

end Config

end Testbed
