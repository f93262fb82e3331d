import Testbed.Config.Shape
import Testbed.Json.Decoder

/-!
# Configuration from JSON text

The same settings as from a JSON value, decoded from the text: a setting that is given
twice is complained of, and complaints tell their place.
-/

namespace Testbed.Config

open Json

/-! ## Endpoints -/

/-- A raw value, repeated keys and all. -/
def rawValue (depth : Nat) : Decoder Value := fun s => Decoder.ofScan (readValue keepAll depth s)

/-- A transport. -/
def transportDecoder : Decoder Transport :=
  Decoder.variant Transport.ofName? transportChoices

/-- The entries of an endpoint: its transport, and the others as they are. -/
def endpointEntries (depth : Nat) :
    (fuel : Nat) → (first : Bool) → Option Transport → List (String × Value) →
    Decoder (Option Transport × List (String × Value))
  | 0, _, _, _, _ => Decoder.fault (.next .endInObject [])
  | fuel + 1, first, transport, entries, s =>
    match nextKey first s with
    | .error f => Decoder.fault f
    | .ok (.close s) => .ok ((transport, entries), s)
    | .ok (.more s) =>
      match scanString s with
      | .error f => Decoder.fault f
      | .ok (key, s) =>
        if key = "transport" ∧ transport.isSome then
          .error (.unplaced (Unexpected.duplicateField "transport") s)
        else
          match skipColon s with
          | .error f => Decoder.fault f
          | .ok s =>
            if key = "transport" then
              match transportDecoder s with
              | .error e => .error e
              | .ok (t, s) => endpointEntries depth fuel false (some t) entries s
            else
              match rawValue depth s with
              | .error e => .error e
              | .ok (v, s) => endpointEntries depth fuel false transport (entries ++ [(key, v)]) s

/-- What tells an endpoint: its transport, and what else was given for it. -/
abbrev Tagged := Transport × (List (String × Value) ⊕ List Value)

/-- An endpoint as an object, after the brace. -/
def taggedObject (depth : Nat) : Decoder Tagged := fun s =>
  match endpointEntries depth (s.length + 1) true none [] s with
  | .error e => .error e
  | .ok ((none, _), s) => .error (.unplaced (Unexpected.missingField "transport") s)
  | .ok ((some t, entries), s) => .ok ((t, .inl entries), s)

/-- The items of a list from the second one on, up to the closing bracket, which is left. -/
def laterItems (depth : Nat) : (fuel : Nat) → List Value → Decoder (List Value)
  | 0, _, _ => Decoder.fault (.next .endInList [])
  | fuel + 1, read, s =>
    match nextItem false s with
    | .error f => Decoder.fault f
    | .ok (.close s) => .ok (read.reverse, s)
    | .ok (.more s) =>
      match rawValue depth s with
      | .error e => .error e
      | .ok (v, s) => laterItems depth fuel (v :: read) s

/-- An endpoint as a list, after the bracket. -/
def taggedList (depth : Nat) : Decoder Tagged := fun s =>
  match nextItem true s with
  | .error f => Decoder.fault f
  | .ok (.close s) => .error (.unplaced (Unexpected.missingField "transport") s)
  | .ok (.more s) =>
    match transportDecoder s with
    | .error e => .error e
    | .ok (t, s) =>
      match laterItems depth (s.length + 1) [] s with
      | .error e => .error e
      | .ok (items, s) => .ok ((t, .inr items), s)

/-- An endpoint. What its entries hold is looked at when all of it has been read. -/
def endpointDecoder (depth : Nat) : Decoder Endpoint := fun s =>
  match Decoder.container endpointShape depth (taggedList (depth - 1)) (taggedObject (depth - 1))
    s with
  | .error e => .error e
  | .ok ((t, given), rest) =>
    match given with
    | .inl entries =>
      match endpointOfEntries t entries with
      | .ok e => .ok (e, rest)
      | .error message => .error (.unplaced message rest)
    | .inr items =>
      match endpointOfItems t items with
      | .ok e => .ok (e, rest)
      | .error message => .error (.unplaced message rest)

/-! ## Settings -/

/-- What a decoder yields, mapped. -/
def mapped {α β : Type} (f : α → β) (d : Decoder α) : Decoder β := fun s =>
  (d s).map fun r => (f r.1, r.2)

/-- The setting of a name. -/
def settingDecoder (depth : Nat) : Key → Decoder Setting
  | .listen => mapped .listen (endpointDecoder depth)
  | .logFilter => mapped .logFilter (Decoder.string "a string")
  | .logFormat => mapped .logFormat (Decoder.enumeration LogFormat.ofName? formatChoices)
  | .startupTimeoutMs =>
    mapped (fun n => .startupTimeoutMs (UInt64.ofNat n)) (Decoder.natural UInt64.size "u64")
  | .stopGraceMs =>
    mapped (fun n => .stopGraceMs (UInt64.ofNat n)) (Decoder.natural UInt64.size "u64")
  | .syncGatewayBinary => mapped .syncGatewayBinary (Decoder.string "a string")
  | .syncGatewayProbePort =>
    mapped (fun n => .syncGatewayProbePort (UInt16.ofNat n)) (Decoder.natural UInt16.size "u16")
  | .cbServerBinary => mapped .cbServerBinary (Decoder.string "a string")
  | .cbServerProbePort =>
    mapped (fun n => .cbServerProbePort (UInt16.ofNat n)) (Decoder.natural UInt16.size "u16")

/-- The entries of a configuration, after the settings given so far. -/
def configEntries (depth : Nat) :
    (fuel : Nat) → (first : Bool) → (seen : List Key) → Given → Decoder Given
  | 0, _, _, _, _ => Decoder.fault (.next .endInObject [])
  | fuel + 1, first, seen, given, s =>
    match nextKey first s with
    | .error f => Decoder.fault f
    | .ok (.close s) => .ok (given, s)
    | .ok (.more s) =>
      match scanString s with
      | .error f => Decoder.fault f
      | .ok (name, s) =>
        match Key.ofText? name with
        | none =>
          match skipColon s with
          | .error f => Decoder.fault f
          | .ok s =>
            match Decoder.skipValue s with
            | .error f => Decoder.fault f
            | .ok s => configEntries depth fuel false seen given s
        | some key =>
          if seen.contains key then .error (.unplaced (Unexpected.duplicateField name) s)
          else
            match skipColon s with
            | .error f => Decoder.fault f
            | .ok s =>
              match settingDecoder depth key s with
              | .error e => .error e
              | .ok (setting, s) =>
                configEntries depth fuel false (key :: seen) (given.set setting) s

/-- The items of a configuration, in the order of the settings. -/
def configItems (depth : Nat) : List Key → (first : Bool) → Given → Decoder Given
  | [], _, given, s => .ok (given, s)
  | key :: keys, first, given, s =>
    match nextItem first s with
    | .error f => Decoder.fault f
    | .ok (.close s) => .ok (given, s)
    | .ok (.more s) =>
      match settingDecoder depth key s with
      | .error e => .error e
      | .ok (setting, s) => configItems depth keys false (given.set setting) s

/-- The settings of a configuration. -/
def givenDecoder : Decoder Given :=
  Decoder.container "struct Config" nestingLimit
    (configItems (nestingLimit - 1) Key.all true {})
    fun s => configEntries (nestingLimit - 1) (s.length + 1) true [] {} s

/-- A configuration. -/
def decoder : Decoder Config := mapped Given.config givenDecoder

/-- The configuration that a text gives. -/
def ofText (text : Bytes) : Except String Config := decoder.run text

/-- The endpoint that a text gives. -/
def endpointOfText (text : Bytes) : Except String Endpoint :=
  (endpointDecoder nestingLimit).run text

/-- The log format that a text gives. -/
def formatOfText (text : Bytes) : Except String LogFormat :=
  (Decoder.enumeration LogFormat.ofName? formatChoices).run text

end Testbed.Config
