import Testbed.Config.Shape
import Testbed.Proofs.Entries

/-!
# Settings of a configuration

A configuration is its nine settings (`Config.setting`), and as a JSON object it tells each of
them under its name. What is read of such an object is the settings that were told, in whatever
order; for each other one there is its default.

* `readSetting_toJson`: a setting is read as it was told;
* `Given.get?_set`, `Given.setting_config`: what is given of a setting counts, and else what is
  filled in for it (`Key.filler`);
* `Key.filler_eq`: that is the setting of the default configuration;
* `ofJson_entries`: a configuration from some of the settings of another one.
-/

namespace Testbed

open Json

/-! ## Numbers that fit -/

namespace Json.Number

theorem natural?_ofNat {n : Nat} (h : n < UInt64.size) : (ofNat n).natural? = some n := by
  have hn : n < 18446744073709551616 := h
  rw [natural?_eq_some_iff, ofNat, ofInt]
  exact ⟨⟨by omega, by omega⟩, dif_pos _⟩

end Json.Number

namespace Config

theorem readNatural_ofNat {limit n : Nat} (hn : n < limit) (hlimit : limit ≤ UInt64.size)
    (expected : String) : readNatural limit expected (.ofNat n) = .ok n := by
  rw [Value.ofNat, readNatural]
  simp only [Number.natural?_ofNat (Nat.lt_of_lt_of_le hn hlimit), hn, if_true]

theorem readWord_toNat (n : UInt64) : readWord (.ofNat n.toNat) = .ok n := by
  rw [readWord, readNatural_ofNat n.toNat_lt_size (Nat.le_refl _), Except.map, UInt64.ofNat_toNat]

theorem readPort_toNat (n : UInt16) : readPort (.ofNat n.toNat) = .ok n := by
  rw [readPort, readNatural_ofNat n.toNat_lt_size (by decide), Except.map, UInt16.ofNat_toNat]

theorem endpointOfEntries_tcp (host : String) {v : Value} {port : UInt16}
    (hv : readPort v = .ok port) :
    endpointOfEntries .tcp [("host", .string host), ("port", v)] = .ok (.tcp host port) := by
  simp [endpointOfEntries, readFields, readHost, readString, hv]

theorem endpointOfEntries_unix (path : String) :
    endpointOfEntries .unix [("path", .string path)] = .ok (.unix path) := by
  simp [endpointOfEntries, readFields, readPath, readString]

theorem readEndpoint_toJson (e : Endpoint) : readEndpoint e.toJson = .ok e := by
  cases e with
  | tcp host port =>
    have hport := readPort_toNat port
    rw [Endpoint.toJson]
    -- The number is not to be looked into.
    generalize Value.ofNat port.toNat = v at hport
    exact endpointOfEntries_tcp host hport
  | unix path => exact endpointOfEntries_unix path

/-! ## Settings -/

/-- The setting of a name that is filled in where none is given. -/
def Key.filler : Key → Setting
  | listen => .listen defaultListen
  | logFilter => .logFilter defaultLogFilter
  | logFormat => .logFormat defaultLogFormat
  | startupTimeoutMs => .startupTimeoutMs defaultStartupTimeoutMs
  | stopGraceMs => .stopGraceMs defaultStopGraceMs
  | syncGatewayBinary => .syncGatewayBinary defaultSyncGatewayBinary
  | syncGatewayProbePort => .syncGatewayProbePort defaultSyncGatewayProbePort
  | cbServerBinary => .cbServerBinary defaultCbServerBinary
  | cbServerProbePort => .cbServerProbePort defaultCbServerProbePort

/-- The name of a setting. -/
def Setting.key : Setting → Key
  | .listen _ => .listen
  | .logFilter _ => .logFilter
  | .logFormat _ => .logFormat
  | .startupTimeoutMs _ => .startupTimeoutMs
  | .stopGraceMs _ => .stopGraceMs
  | .syncGatewayBinary _ => .syncGatewayBinary
  | .syncGatewayProbePort _ => .syncGatewayProbePort
  | .cbServerBinary _ => .cbServerBinary
  | .cbServerProbePort _ => .cbServerProbePort

/-- A setting as a JSON value. -/
def Setting.toJson : Setting → Value
  | .listen e => e.toJson
  | .logFilter s | .syncGatewayBinary s | .cbServerBinary s => .string s
  | .logFormat f => .string f.text
  | .startupTimeoutMs n | .stopGraceMs n => .ofNat n.toNat
  | .syncGatewayProbePort n | .cbServerProbePort n => .ofNat n.toNat

/-- The setting of a name in a configuration. -/
def setting (c : Config) : Key → Setting
  | .listen => .listen c.listen
  | .logFilter => .logFilter c.logFilter
  | .logFormat => .logFormat c.logFormat
  | .startupTimeoutMs => .startupTimeoutMs c.startupTimeoutMs
  | .stopGraceMs => .stopGraceMs c.stopGraceMs
  | .syncGatewayBinary => .syncGatewayBinary c.syncGatewayBinary
  | .syncGatewayProbePort => .syncGatewayProbePort c.syncGatewayProbePort
  | .cbServerBinary => .cbServerBinary c.cbServerBinary
  | .cbServerProbePort => .cbServerProbePort c.cbServerProbePort

/-- The setting of a name as it is told in a JSON object. -/
def entry (c : Config) (key : Key) : String × Value := (key.text, (c.setting key).toJson)

variable {c c' : Config} {key : Key}

@[simp] theorem key_setting : (c.setting key).key = key := by
  cases key <;> rfl

/-- A configuration is its settings. -/
theorem ext_setting (h : ∀ key, c.setting key = c'.setting key) : c = c' := by
  have hlisten := Setting.listen.inj (h .listen)
  have hfilter := Setting.logFilter.inj (h .logFilter)
  have hformat := Setting.logFormat.inj (h .logFormat)
  have hstartup := Setting.startupTimeoutMs.inj (h .startupTimeoutMs)
  have hgrace := Setting.stopGraceMs.inj (h .stopGraceMs)
  have hgateway := Setting.syncGatewayBinary.inj (h .syncGatewayBinary)
  have hgatewayPort := Setting.syncGatewayProbePort.inj (h .syncGatewayProbePort)
  have hserver := Setting.cbServerBinary.inj (h .cbServerBinary)
  have hserverPort := Setting.cbServerProbePort.inj (h .cbServerProbePort)
  cases c
  cases c'
  congr

theorem toJson_eq (c : Config) : c.toJson = .object (Key.all.map c.entry) := rfl

theorem ofText?_text (key : Key) : Key.ofText? key.text = some key := by
  cases key <;> decide

theorem Key.text_inj {key key' : Key} (h : key.text = key'.text) : key = key' :=
  Option.some.inj ((ofText?_text key).symm.trans (h ▸ ofText?_text key'))

theorem Key.mem_all (key : Key) : key ∈ Key.all := by
  cases key <;> decide

theorem Key.nodup_all : Key.all.Nodup := by decide

/-- What is filled in for a setting is what the default configuration has of it. -/
theorem Key.filler_eq (key : Key) : key.filler = default.setting key := by
  cases key <;> rfl

/-- A setting is read as it was told. -/
theorem readSetting_toJson (s : Setting) : readSetting s.key s.toJson = .ok s := by
  cases s with
  | listen e => rw [Setting.key, Setting.toJson, readSetting, readEndpoint_toJson, Except.map]
  | logFilter | syncGatewayBinary | cbServerBinary => rfl
  | logFormat f => cases f <;> rfl
  | startupTimeoutMs | stopGraceMs =>
    rw [Setting.key, Setting.toJson, readSetting, readWord_toNat, Except.map]
  | syncGatewayProbePort | cbServerProbePort =>
    rw [Setting.key, Setting.toJson, readSetting, readPort_toNat, Except.map]

/-- The entries of a configuration's object, without those of some settings. -/
def entriesWithout (c : Config) (absent : List Key) : Json.Object :=
  absent.foldl (fun m key => Entries.erase key.text m) (Key.all.map c.entry)

theorem erase_entries (c : Config) (key : Key) (keys : List Key) :
    Entries.erase key.text (keys.map c.entry) =
      (keys.filter fun key' => key' ≠ key).map c.entry := by
  have hname (key' : Key) : (c.entry key').1 ≠ key.text ↔ key' ≠ key :=
    not_congr ⟨Key.text_inj, congrArg Key.text⟩
  rw [Entries.erase, List.filter_map]
  exact congrArg (List.map c.entry)
    (List.filter_congr fun key' _ => decide_eq_decide.2 (hname key'))

theorem entriesWithout_eq (c : Config) (absent : List Key) :
    c.entriesWithout absent = (Key.all.filter fun key => key ∉ absent).map c.entry := by
  rw [entriesWithout]
  generalize Key.all = keys
  induction absent generalizing keys with
  | nil => simp
  | cons key absent ih =>
    rw [List.foldl_cons, erase_entries, ih, List.filter_filter]
    simp only [List.mem_cons, not_or, Bool.decide_and, Bool.and_comm]

/-! ## Settings that are given -/

namespace Given

/-- What is given of the setting of a name. -/
def get? (g : Given) : Key → Option Setting
  | .listen => g.listen.map .listen
  | .logFilter => g.logFilter.map .logFilter
  | .logFormat => g.logFormat.map .logFormat
  | .startupTimeoutMs => g.startupTimeoutMs.map .startupTimeoutMs
  | .stopGraceMs => g.stopGraceMs.map .stopGraceMs
  | .syncGatewayBinary => g.syncGatewayBinary.map .syncGatewayBinary
  | .syncGatewayProbePort => g.syncGatewayProbePort.map .syncGatewayProbePort
  | .cbServerBinary => g.cbServerBinary.map .cbServerBinary
  | .cbServerProbePort => g.cbServerProbePort.map .cbServerProbePort

/-- The settings of a list are given, one after the other. -/
def setAll (g : Given) (settings : List Setting) : Given := settings.foldl set g

variable {g : Given}

theorem get?_empty (key : Key) : ({} : Given).get? key = none := by
  cases key <;> rfl

theorem get?_set (s : Setting) (key : Key) :
    (g.set s).get? key = if key = s.key then some s else g.get? key := by
  cases s <;> cases key <;> rfl

theorem get?_setAll (c : Config) (keys : List Key) (key : Key) :
    (g.setAll (keys.map c.setting)).get? key =
      if key ∈ keys then some (c.setting key) else g.get? key := by
  induction keys generalizing g with
  | nil => rfl
  | cons key' keys ih =>
    rw [List.map_cons, setAll, List.foldl_cons, ← setAll, ih, get?_set, key_setting]
    grind

/-- What is given of a setting counts, and else what is filled in for it. -/
theorem setting_config (g : Given) (key : Key) :
    g.config.setting key = (g.get? key).getD key.filler := by
  cases key <;> exact (Option.getD_map _ _ _).symm

end Given

theorem readEntries_entries (g : Given) (c : Config) (keys : List Key) :
    readEntries g (keys.map c.entry) = .ok (g.setAll (keys.map c.setting)) := by
  induction keys generalizing g with
  | nil => rfl
  | cons key keys ih =>
    have hread := readSetting_toJson (c.setting key)
    rw [key_setting] at hread
    rw [List.map_cons, entry, readEntries]
    simp only [ofText?_text, hread]
    exact ih (g.set (c.setting key))

/-- The configuration that some of the settings of another one make. -/
def restricted (c : Config) (keys : List Key) : Config :=
  (Given.setAll {} (keys.map c.setting)).config

theorem setting_restricted (c : Config) (keys : List Key) (key : Key) :
    (c.restricted keys).setting key =
      if key ∈ keys then c.setting key else key.filler := by
  rw [restricted, Given.setting_config, Given.get?_setAll, Given.get?_empty]
  split <;> rfl

theorem restricted_all (c : Config) : c.restricted Key.all = c :=
  ext_setting fun key => (setting_restricted c Key.all key).trans (if_pos key.mem_all)

theorem ofJson_entries (c : Config) (keys : List Key) :
    ofJson (.object (keys.map c.entry)) = .ok (c.restricted keys) := by
  rw [ofJson, readEntries_entries]
  rfl

end Config

end Testbed
