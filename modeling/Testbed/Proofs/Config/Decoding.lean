import Testbed.Config.Text
import Testbed.Proofs.Config.Settings
import Testbed.Proofs.Json.Reading
import Mathlib.Data.List.Perm.Basic

/-!
# Configurations decoded from text

A configuration is written as an object of its settings, and decoded from the text of one that
holds some of them, in any order. Each decoder reads what the writer wrote up to where it ends,
as the readers of values do.

* `Decoder.string_quoted`, `Decoder.natural_print`: texts and numbers as written;
* `endpointDecoder_print`, `settingDecoder_print`: endpoints and settings as written;
* `ofText_entries`: a configuration from some of the settings of another one;
* `decoding_fills_missing_settings`: the settings that are missing, and no others, get their
  defaults, whether a configuration is read from a value or from a text.
-/

namespace Testbed

open Json

/-! ## What decoders read -/

namespace Json.Decoder

variable {α : Type} {s : Bytes}

theorem string_quoted (expected t : String) (s : Bytes) :
    string expected (quoted t ++ s) = .ok (t, s) := by
  rw [quoted, List.cons_append, List.cons_append, List.append_assoc]
  change ofScan (scanString (escaped (Bytes.ofString t) ++ 34 :: s)) = _
  rw [scanString_escaped, ofScan]

theorem variant_quoted {find? : String → Option α} {name : String} {a : α}
    (h : find? name = some a) (choices : String) (s : Bytes) :
    variant find? choices (quoted name ++ s) = .ok (a, s) := by
  simp only [variant, string_quoted, h]

theorem enumeration_quoted {find? : String → Option α} {name : String} {a : α}
    (h : find? name = some a) (choices : String) (s : Bytes) :
    enumeration find? choices (quoted name ++ s) = .ok (a, s) := by
  have hvariant := variant_quoted h choices s
  rw [quoted, List.cons_append, List.cons_append] at hvariant ⊢
  exact hvariant

theorem print_ofNat {n : Nat} (hn : n < UInt64.size) : (Value.ofNat n).print = digitOctets n := by
  have hlt : n < 18446744073709551616 := hn
  rw [Value.ofNat, Value.print_number, Number.ofNat, Number.ofInt, dif_pos ⟨by omega, by omega⟩,
    Number.text, Int.toString_eq_repr]
  exact ofString_repr n

theorem le_maxSignificand {n : Nat} (hn : n < UInt64.size) : n ≤ maxSignificand := by
  have hlt : n < 18446744073709551616 := hn
  rw [maxSignificand]
  omega

theorem natural_of_scan {x : Number} {n limit : Nat} {b : UInt8} {r : Bytes}
    (hb : Bytes.isDigit b = true) (hscan : scanNumber false (b :: r) = .ok (x, s))
    (hx : x.natural? = some n) (hn : n < limit) (expected : String) :
    natural limit expected (b :: r) = .ok (n, s) := by
  have hminus : b ≠ 45 := ne_of_isDigit hb rfl
  rw [natural, skipBlanks_of_not_blank _ (isBlank_of_isDigit hb)]
  simp only [hb, hminus, false_or, if_true, if_false, hscan, hx, hn]

theorem natural_print {limit n : Nat} (hn : n < limit) (hlimit : limit ≤ UInt64.size)
    (expected : String) (hs : Ends s) :
    natural limit expected ((Value.ofNat n).print ++ s) = .ok (n, s) := by
  have hfits : n < UInt64.size := Nat.lt_of_lt_of_le hn hlimit
  have hscan := scanNumber_digitOctets false (le_maxSignificand hfits) hs
  have hnatural : (wholeNumber false n).natural? = some n := by
    rw [wholeNumber, if_neg Bool.false_ne_true, Number.natural?_ofNat hfits]
  obtain ⟨d, ds, hd⟩ := List.exists_cons_of_ne_nil (digitOctets_ne_nil n)
  have hdigit := isDigit_digitOctets n d (hd ▸ List.mem_cons_self)
  rw [hd, List.cons_append] at hscan
  rw [print_ofNat hfits, hd, List.cons_append]
  exact natural_of_scan hdigit hscan hnatural hn expected

/-- An object is decoded from what is inside its braces. -/
theorem container_object {depth : Nat} (hdepth : depth ≠ 0) (expected : String)
    (list : Decoder α) {object : Decoder α} {body : Bytes} {a : α}
    (h : object body = .ok (a, 125 :: s)) :
    container expected depth list object (123 :: body) = .ok (a, s) := by
  change (if depth = 0 then _ else settle closeObject afterObject (object body)) = _
  rw [if_neg hdepth, h]
  rfl

end Json.Decoder

namespace Config

open Decoder

/-! ## Endpoints -/

theorem rawValue_print {v : Value} {depth : Nat} {s : Bytes} (hd : v.depth ≤ depth)
    (hfree : v.IsFloatFree) (hs : Ends s) : rawValue depth (v.print ++ s) = .ok (v, s) := by
  rw [rawValue, readValue_print_eq hd hfree (isBuiltBy_keepAll v) hs, ofScan]

/-- The entries behind the transport are kept as they are. -/
theorem endpointEntries_entriesTail (depth : Nat) (t : Transport) (s : Bytes) :
    ∀ (r entries : List (String × Value)) (fuel : Nat), r.length < fuel →
      (∀ e ∈ r, e.1 ≠ "transport" ∧ e.2.depth ≤ depth ∧ e.2.IsFloatFree) →
      endpointEntries depth fuel false (some t) entries (entriesTail r ++ s) =
        .ok ((some t, entries ++ r), 125 :: s)
  | [], entries, fuel + 1, _, _ => by
    rw [List.append_nil]
    rfl
  | (key, v) :: r, entries, fuel + 1, hfuel, hr => by
    rw [List.forall_mem_cons] at hr
    obtain ⟨⟨hkey, hdepth, hfree⟩, hr⟩ := hr
    have hrest := endpointEntries_entriesTail depth t s r (entries ++ [(key, v)]) fuel
      (Nat.lt_of_succ_lt_succ hfuel) hr
    rw [entriesTail_cons, List.cons_append, List.append_assoc, List.cons_append, List.append_assoc,
      endpointEntries, nextKey_later]
    simp only [scanString_escaped, hkey, false_and, if_false, skipColon_colon,
      rawValue_print hdepth hfree (ends_entriesTail r s), hrest, List.append_assoc,
      List.singleton_append]

/-- An endpoint whose transport comes first is read by its transport from the other entries. -/
theorem endpointDecoder_object {depth : Nat} (hdepth : depth ≠ 0) {t : Transport} {name : String}
    (ht : Transport.ofName? name = some t) {r : List (String × Value)}
    (hr : ∀ e ∈ r, e.1 ≠ "transport" ∧ e.2.depth ≤ depth - 1 ∧ e.2.IsFloatFree) {e : Endpoint}
    (he : endpointOfEntries t r = .ok e) (s : Bytes) :
    endpointDecoder depth ((Value.object (("transport", .string name) :: r)).print ++ s) =
      .ok (e, s) := by
  have hlength := length_le_entriesTail r
  have htagged : taggedObject (depth - 1)
      (quoted "transport" ++ 58 :: (quoted name ++ (entriesTail r ++ s))) =
        .ok ((t, .inl r), 125 :: s) := by
    rw [taggedObject, endpointEntries, nextKey_first]
    have hrest := endpointEntries_entriesTail (depth - 1) t s r []
      (quoted "transport" ++ 58 :: (quoted name ++ (entriesTail r ++ s))).length
      (by simp only [List.length_append, List.length_cons]; omega) hr
    simp only [scanString_escaped, Option.isSome_none, Bool.false_eq_true, and_false, if_false,
      skipColon_colon, if_true, transportDecoder, variant_quoted ht, hrest, List.nil_append]
  rw [Value.print_object_cons, Value.print_string, List.cons_append, List.append_assoc,
    List.cons_append, List.append_assoc, endpointDecoder,
    container_object hdepth endpointShape _ htagged]
  simp only [he]

theorem isFloatFree_string (t : String) : (Value.string t).IsFloatFree :=
  fun _ h => nomatch h

theorem isFloatFree_ofNat {n : Nat} (hn : n < UInt64.size) : (Value.ofNat n).IsFloatFree := by
  obtain ⟨h, hx⟩ := Number.natural?_eq_some_iff.1 (Number.natural?_ofNat hn)
  rw [Value.ofNat, hx]
  exact fun x hmem => by rw [List.mem_singleton.1 hmem, Number.isInteger]

/-- An endpoint is decoded from what is written of it. -/
theorem endpointDecoder_print {depth : Nat} (hdepth : depth ≠ 0) (e : Endpoint) (s : Bytes) :
    endpointDecoder depth (e.toJson.print ++ s) = .ok (e, s) := by
  cases e with
  | tcp host port =>
    have hport := readPort_toNat port
    have hfree : (Value.ofNat port.toNat).IsFloatFree :=
      isFloatFree_ofNat (Nat.lt_trans port.toNat_lt_size (by decide))
    have hflat : (Value.ofNat port.toNat).depth = 0 := rfl
    rw [Endpoint.toJson]
    -- The number is not to be looked into.
    generalize Value.ofNat port.toNat = v at hport hfree hflat
    refine endpointDecoder_object hdepth rfl ?_ (endpointOfEntries_tcp host hport) s
    rw [List.forall_mem_cons, List.forall_mem_singleton]
    exact ⟨⟨(by decide : "host" ≠ "transport"), Nat.zero_le _, isFloatFree_string host⟩,
      ⟨(by decide : "port" ≠ "transport"), hflat ▸ Nat.zero_le _, hfree⟩⟩
  | unix path =>
    refine endpointDecoder_object hdepth rfl ?_ (endpointOfEntries_unix path) s
    rw [List.forall_mem_singleton]
    exact ⟨(by decide : "path" ≠ "transport"), Nat.zero_le _, isFloatFree_string path⟩

/-! ## Settings -/

/-- A setting is decoded from what is written of it. -/
theorem settingDecoder_print {depth : Nat} (hdepth : depth ≠ 0) (setting : Setting) {s : Bytes}
    (hs : Ends s) :
    settingDecoder depth setting.key (setting.toJson.print ++ s) = .ok (setting, s) := by
  cases setting with
  | listen e =>
    simp only [Setting.key, Setting.toJson, settingDecoder, mapped, endpointDecoder_print hdepth,
      Except.map]
  | logFilter t | syncGatewayBinary t | cbServerBinary t =>
    simp only [Setting.key, Setting.toJson, settingDecoder, mapped, Value.print_string,
      string_quoted, Except.map]
  | logFormat f =>
    have hf : LogFormat.ofName? f.text = some f := by cases f <;> rfl
    simp only [Setting.key, Setting.toJson, settingDecoder, mapped, Value.print_string,
      enumeration_quoted hf, Except.map]
  | startupTimeoutMs n | stopGraceMs n =>
    rw [Setting.key, Setting.toJson, settingDecoder, mapped,
      natural_print n.toNat_lt_size (Nat.le_refl _) _ hs, Except.map, UInt64.ofNat_toNat]
  | syncGatewayProbePort n | cbServerProbePort n =>
    rw [Setting.key, Setting.toJson, settingDecoder, mapped,
      natural_print n.toNat_lt_size (by decide) _ hs, Except.map, UInt16.ofNat_toNat]

/-! ## Configurations -/

variable {c : Config} {keys : List Key} {seen : List Key} {given : Given} {fuel depth : Nat}

/-- The next setting is decoded if it has not been seen. -/
theorem configEntries_entry (hdepth : depth ≠ 0) {first : Bool} {key : Key} {s rest : Bytes}
    (hkey : nextKey first s =
      .ok (.more (escaped (Bytes.ofString key.text) ++ 34 :: 58 ::
        ((c.setting key).toJson.print ++ rest))))
    (hseen : key ∉ seen) (hrest : Ends rest) :
    configEntries depth (fuel + 1) first seen given s =
      configEntries depth fuel false (key :: seen) (given.set (c.setting key)) rest := by
  have hcontains : seen.contains key = false := by simpa using hseen
  have hread := settingDecoder_print hdepth (c.setting key) hrest
  rw [key_setting] at hread
  rw [configEntries, hkey]
  simp only [scanString_escaped, ofText?_text, hcontains, Bool.false_eq_true, if_false,
    skipColon_colon, hread]

/-- The settings behind the first one are decoded one after the other. -/
theorem configEntries_entriesTail (hdepth : depth ≠ 0) (hnodup : keys.Nodup)
    (hseen : ∀ key ∈ keys, key ∉ seen) (hfuel : keys.length < fuel) (s : Bytes) :
    configEntries depth fuel false seen given (entriesTail (keys.map c.entry) ++ s) =
      .ok (given.setAll (keys.map c.setting), 125 :: s) := by
  induction keys generalizing fuel seen given with
  | nil =>
    obtain ⟨fuel, rfl⟩ := Nat.exists_eq_add_one.2 hfuel
    rfl
  | cons key keys ih =>
    obtain ⟨fuel, rfl⟩ := Nat.exists_eq_add_one.2 (Nat.zero_lt_of_lt hfuel)
    rw [List.forall_mem_cons] at hseen
    obtain ⟨hnew, hnodup⟩ := List.nodup_cons.1 hnodup
    have hkeys : ∀ key' ∈ keys, key' ∉ key :: seen := fun key' hmem => by
      rw [List.mem_cons, not_or]
      exact ⟨fun h => hnew (h ▸ hmem), hseen.2 key' hmem⟩
    rw [List.map_cons, entry, entriesTail_cons, List.cons_append, List.append_assoc,
      List.cons_append, List.append_assoc,
      configEntries_entry hdepth (nextKey_later _ _) hseen.1 (ends_entriesTail _ s),
      ih hnodup hkeys (Nat.lt_of_succ_lt_succ hfuel)]
    rfl

/-- The settings in braces are decoded one after the other. -/
theorem givenDecoder_print (hnodup : keys.Nodup) (s : Bytes) :
    givenDecoder ((Value.object (keys.map c.entry)).print ++ s) =
      .ok (Given.setAll {} (keys.map c.setting), s) := by
  -- The first setting has no comma before it.
  cases keys with
  | nil => rfl
  | cons key keys =>
    obtain ⟨hnew, hnodup⟩ := List.nodup_cons.1 hnodup
    have hdepth : nestingLimit - 1 ≠ 0 := by decide
    have hseen : ∀ key' ∈ keys, key' ∉ [key] := fun key' hmem h =>
      hnew (List.eq_of_mem_singleton h ▸ hmem)
    have hlength := length_le_entriesTail (keys.map c.entry)
    rw [List.length_map] at hlength
    rw [List.map_cons, entry, Value.print_object_cons, List.cons_append, List.append_assoc,
      List.cons_append, List.append_assoc, givenDecoder]
    refine container_object (by decide) _ _ ?_
    rw [configEntries_entry hdepth (nextKey_first _ _) List.not_mem_nil (ends_entriesTail _ s),
      configEntries_entriesTail hdepth hnodup hseen
        (by simp only [List.length_append, List.length_cons]; omega)]
    rfl

/-- A configuration is decoded from some of the settings of another one. -/
theorem ofText_entries (hnodup : keys.Nodup) :
    ofText (Value.object (keys.map c.entry)).print = .ok (c.restricted keys) := by
  have h := givenDecoder_print (c := c) hnodup []
  rw [List.append_nil] at h
  rw [ofText, run, decoder, mapped, h]
  rfl

/-- The object of a configuration, without some of its settings and in any order, is read from a
    value and from its text: the settings that are missing are those of the default configuration,
    and the others are as they were. With nothing missing that is the configuration itself; with
    everything missing it is the default configuration, which has of each setting what decoding
    fills in for it. -/
theorem decoding_fills_missing_settings (c : Config) (absent : List Key) (kept : Json.Object)
    (hkept : kept.Perm (c.entriesWithout absent)) :
    (∃ c', ofJson (.object kept) = .ok c' ∧ ofText (Value.object kept).print = .ok c' ∧
      ∀ key, c'.setting key = if key ∈ absent then default.setting key else c.setting key) ∧
    c.toJson = .object (c.entriesWithout []) ∧
    ofJson c.toJson = .ok c ∧ ofText c.toJson.print = .ok c ∧
    ofJson (.object []) = .ok default ∧ ofText (Value.object []).print = .ok default ∧
    ∀ key : Key, key.filler = default.setting key := by
  have hempty : Config.restricted c [] = default :=
    ext_setting fun key => by rw [setting_restricted, if_neg List.not_mem_nil, key.filler_eq]
  refine ⟨?_, toJson_eq c, ?_, ?_, ?_, ?_, Key.filler_eq⟩
  · -- The entries that were kept are told by the names of their settings.
    rw [entriesWithout_eq] at hkept
    have hcomp := congrFun₂ (List.eq_map_comp_perm c.entry) kept
      (Key.all.filter fun key => key ∉ absent)
    obtain ⟨keys, rfl, hkeys⟩ := hcomp.mpr hkept
    -- No setting is told twice, which the decoder of texts would complain of.
    have hnodup : keys.Nodup := hkeys.nodup_iff.2 (Key.nodup_all.filter _)
    refine ⟨c.restricted keys, ofJson_entries c keys, ofText_entries hnodup, fun key => ?_⟩
    have hmem : key ∈ keys ↔ key ∉ absent := by
      rw [hkeys.mem_iff, List.mem_filter, decide_eq_true_iff]
      exact and_iff_right key.mem_all
    rw [setting_restricted, key.filler_eq]
    grind
  · rw [toJson_eq, ofJson_entries, restricted_all]
  · rw [toJson_eq, ofText_entries Key.nodup_all, restricted_all]
  · exact (ofJson_entries c []).trans (congrArg _ hempty)
  · exact (ofText_entries List.nodup_nil).trans (congrArg _ hempty)

/-- Two settings are told, the later one first; a filter that was not kept is the default again. -/
theorem two_settings_are_kept :
    let c : Config := { default with
      listen := .unix "/run/tether.sock", logFilter := "debug", stopGraceMs := 1 }
    let kept : Json.Object := [("stop_grace_ms", .ofNat 1), c.entry .listen]
    ∃ c', ofJson (.object kept) = .ok c' ∧ ofText (Value.object kept).print = .ok c' ∧
      c'.setting .listen = c.setting .listen ∧ c'.setting .stopGraceMs = c.setting .stopGraceMs ∧
      c'.setting .logFilter = default.setting .logFilter := by
  intro c kept
  have hkept : kept.Perm (c.entriesWithout [.logFilter, .logFormat, .startupTimeoutMs,
      .syncGatewayBinary, .syncGatewayProbePort, .cbServerBinary, .cbServerProbePort]) :=
    .swap (c.entry .listen) ("stop_grace_ms", .ofNat 1) []
  obtain ⟨⟨c', hvalue, htext, hsettings⟩, -⟩ := decoding_fills_missing_settings c _ kept hkept
  exact ⟨c', hvalue, htext, hsettings .listen, hsettings .stopGraceMs, hsettings .logFilter⟩

end Config

end Testbed
