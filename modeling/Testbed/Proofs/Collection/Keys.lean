import Testbed.Proofs.Collection.Calls
import Testbed.Proofs.Handle

/-!
# Reading the keys of a dictionary

The entries of a dictionary are read all at once or one by one. Both tell the same, as long as
the key is no marker: a key that is given as an argument must be a text, and a marker names an
object or nothing. The keys of a mapping are left as they are, so such a key can be kept, but not
asked for.

* `dispatch_dictionaryToMap`, `dispatch_dictionaryGetValue`: what the two requests are answered;
* `keys_are_read_unless_markers`: which keys that are told can be asked for.
-/

namespace Testbed

open Argument Protocol Json Method

variable {σ : Type}

/-! ## Arguments -/

section Arguments

variable {r : Registry} {text key : String} {h : Handle} {o : LiveObject} (hm : h.IsMarker text)
  (hr : r.resolve h = .ok o) (ht : o.object.type = .dictionary)
include hm hr ht

/-- Where a dictionary and a key are asked for and given, the key alone can be at fault. -/
theorem complaint?_of_key :
    r.directory.complaint? [Collections.dictionaryParam, Collections.keyParam]
        [("dictionary", .string text), ("key", .string key)] =
      r.directory.fault? [Collections.dictionaryParam, Collections.keyParam]
        ("key", .string key) := by
  have hdictionary : r.directory.fault? [Collections.dictionaryParam, Collections.keyParam]
      ("dictionary", .string text) = none :=
    fault?_of_marker hm hr rfl (decide_eq_true (congrArg ObjectType.tag ht))
  have hsupplied : [Collections.dictionaryParam, Collections.keyParam].find? (fun p =>
      p.required && (Entries.get? p.name
        [("dictionary", Value.string text), ("key", Value.string key)]).all Value.isNull) =
      none := rfl
  rw [Directory.complaint?, hsupplied]
  simp only [List.findSome?_cons, List.findSome?_nil, hdictionary]
  cases r.directory.fault? [Collections.dictionaryParam, Collections.keyParam]
    ("key", .string key) <;> rfl

end Arguments

/-- A text that is no marker is not at fault as a key. -/
theorem fault?_key_of_text {r : Registry} {key : String} (hk : ∀ g : Handle, ¬g.IsMarker key) :
    r.directory.fault? [Collections.dictionaryParam, Collections.keyParam]
      ("key", .string key) = none := by
  obtain ⟨hd, himage⟩ := (isImage_iff (r := r) _ _).1 (.text hk)
  refine fault?_eq_none_iff.2 ⟨hd, fun p hp => ?_⟩
  obtain rfl := Option.some.inj hp
  rw [← himage]
  rfl

/-- A marker that names nothing is at fault as a key. -/
theorem fault?_key_of_dead {r : Registry} {key : String} {g : Handle} {e : HandleError}
    (hk : g.IsMarker key) (hg : r.resolve g = .error e) :
    r.directory.fault? [Collections.dictionaryParam, Collections.keyParam]
      ("key", .string key) = some (.unknownHandle "key" g) := by
  have hunknown : e = .unknown g := (resolve_eq_error_iff.1 hg).2
  exact fault?_eq_some_iff.2 (.dead ⟨[], key, [], rfl, hk, hunknown ▸ hg,
    fun _ hearlier => absurd hearlier List.not_mem_nil⟩)

/-- So is the marker of an object. -/
theorem fault?_key_of_live {r : Registry} {key : String} {g : Handle} {p : LiveObject}
    (hk : g.IsMarker key) (hg : r.resolve g = .ok p) :
    r.directory.fault? [Collections.dictionaryParam, Collections.keyParam]
      ("key", .string key) = some (.typeMismatch "key" "string" p.tag.name) :=
  fault?_eq_some_iff.2 (.mismatch (p := Collections.keyParam) (param?_eq_some_iff.1 rfl)
    (.marker hk hg) rfl (.inl rfl))

namespace Dispatcher

open Collections

/-! ## Requests -/

section Requests

variable {d : Dispatcher σ} (hd : d.router.ServesCollections) {text key : String} {h : Handle}
  {o : LiveObject} (hm : h.IsMarker text) (hr : d.world.registry.resolve h = .ok o)
  (ht : o.object.type = .dictionary)
include hd hm hr ht

/-- A dictionary tells what it holds, and nothing changes but the journal. -/
theorem dispatch_dictionaryToMap :
    ∃ journal, d.dispatch "dictionary_toMap" [("dictionary", .string text)] =
      (.ok (.value (.object (d.world.heap.contents o.object).entries)),
        { d with world := { d.world with journal } }) := by
  have hc := complaint?_of_object hm hr (congrArg ObjectType.tag ht) "dictionary"
  obtain ⟨journal, hx⟩ := dispatch_of_no_complaint hd mem_dictionaryToMap hc
  have ho := object_of_names (names_singleton "dictionary" hm hr) ht
  rw [hx, Action.run_bind, run_dictionaryToMap _ ho]
  exact ⟨journal, rfl⟩

/-- A dictionary tells the value of a key that is no marker. -/
theorem dispatch_dictionaryGetValue (hk : ∀ g : Handle, ¬g.IsMarker key) :
    (d.dispatch "dictionary_getValue"
        [("dictionary", .string text), ("key", .string key)]).1 =
      .ok (.value ((Entries.get? key (d.world.heap.contents o.object).entries).getD .null)) := by
  have hc := (complaint?_of_key hm hr ht).trans (fault?_key_of_text hk)
  obtain ⟨journal, hx⟩ := dispatch_of_no_complaint hd mem_dictionaryGetValue hc
  have ho : (arguments d.world.registry [("dictionary", .string text), ("key", .string key)]).object
      .dictionary "dictionary" = .ok o.object := object_of_names ⟨text, h, rfl, hm, hr⟩ ht
  obtain ⟨key', hv, hkey⟩ := string_arguments "key" hc rfl
  obtain rfl : key = key' := Value.string.inj (Option.some.inj hv)
  rw [hx, Action.run_bind, run_dictionaryGetValue _ ho hkey]
  rfl

/-- A key that is a marker is refused. -/
theorem dispatch_dictionaryGetValue_of_fault {e : Argument.Error}
    (hk : d.world.registry.directory.fault? [dictionaryParam, keyParam] ("key", .string key) =
      some e) :
    d.dispatch "dictionary_getValue" [("dictionary", .string text), ("key", .string key)] =
      (.error (.argument e), d) :=
  dispatch_of_complaint hd mem_dictionaryGetValue ((complaint?_of_key hm hr ht).trans hk)

end Requests

/-- Consider any state of a dispatcher that has collections among its features, none of the later
    ones with methods of their names, and any live dictionary. It tells all that it holds, and of
    every key therein that is no marker it tells the same value when it is asked for the key. A
    key that is a marker cannot be asked for: what the marker names is not a text, and if it
    names nothing it is unknown. -/
theorem keys_are_read_unless_markers (before later : List (Feature σ))
    (hlater : ∀ f ∈ later, f.SparesCollections) (w : World σ) (events : List (Event σ))
    (hevents : ∀ e ∈ events, e.SparesCollections) :
    let d := (build (before ++ Collections.feature :: later) w).after events
    ∀ h o text, d.world.registry.resolve h = .ok o → o.object.type = .dictionary →
      h.IsMarker text →
      ∃ shown, (d.dispatch "dictionary_toMap" [("dictionary", .string text)]).1 =
          .ok (.value (.object shown)) ∧
        ∀ key ∈ Entries.keys shown, ∃ v, Entries.get? key shown = some v ∧
          ∀ marker, h.IsMarker marker →
            let asked := d.dispatch "dictionary_getValue"
              [("dictionary", .string marker), ("key", .string key)]
            ((∀ g : Handle, ¬g.IsMarker key) → asked.1 = .ok (.value v)) ∧
            ∀ g : Handle, g.IsMarker key →
              (∀ p, d.world.registry.resolve g = .ok p →
                asked = (.error (.argument (.typeMismatch "key" "string" p.tag.name)), d)) ∧
              ∀ e, d.world.registry.resolve g = .error e →
                asked = (.error (.argument (.unknownHandle "key" g)), d) := by
  intro d h o text hr ht hm
  have hd : d.router.ServesCollections := servesCollections_after before hlater w hevents
  obtain ⟨journal, hshown⟩ := dispatch_dictionaryToMap hd hm hr ht
  refine ⟨(d.world.heap.contents o.object).entries, by rw [hshown], fun key hkey => ?_⟩
  obtain ⟨v, hv⟩ : ∃ v, Entries.get? key (d.world.heap.contents o.object).entries = some v :=
    Option.ne_none_iff_exists'.1 fun hnone => Entries.get?_eq_none_iff.1 hnone hkey
  refine ⟨v, hv, fun marker hmarker => ⟨fun hk => ?_, fun g hg => ⟨fun p hp => ?_, fun e he => ?_⟩⟩⟩
  · rw [dispatch_dictionaryGetValue hd hmarker hr ht hk, hv, Option.getD_some]
  · exact dispatch_dictionaryGetValue_of_fault hd hmarker hr ht (fault?_key_of_live hg hp)
  · exact dispatch_dictionaryGetValue_of_fault hd hmarker hr ht (fault?_key_of_dead hg he)

/-- A text key is read back, the empty one as any other. -/
theorem empty_key_is_read :
    let events : List (Event Unit) :=
      [.request "dictionary_create" [("content", .object [("", .boolean true)])]]
    let d := (build ([] ++ Collections.feature :: []) { state := () }).after events
    d.world.registry.resolve ⟨1⟩ = .ok ⟨⟨1⟩, ⟨0, .dictionary⟩⟩ ∧
      (d.dispatch "dictionary_getValue" [("dictionary", .string "@1"), ("key", .string "")]).1 =
        .ok (.value (.boolean true)) := by
  intro events d
  have hm : Handle.IsMarker ⟨1⟩ "@1" := Handle.isMarker_marker ⟨1⟩
  have hk : ∀ g : Handle, ¬g.IsMarker "" := ofMarker?_eq_none_iff.1 rfl
  obtain ⟨shown, hshown, hkeys⟩ := keys_are_read_unless_markers [] [] (by simp) { state := () }
    events (by simp [events, Event.SparesCollections]) ⟨1⟩ ⟨⟨1⟩, ⟨0, .dictionary⟩⟩ "@1" rfl rfl hm
  obtain rfl : shown = [("", .boolean true)] :=
    (Value.object.inj (Reply.value.inj (Except.ok.inj hshown))).symm
  obtain ⟨v, hv, hread⟩ := hkeys "" (by simp [Entries.keys])
  obtain rfl : v = .boolean true := (Option.some.inj hv).symm
  exact ⟨rfl, (hread "@1" hm).1 hk⟩

/-- A dictionary is made with a key that is its own marker. It tells the key with its value, and
    the key cannot be asked for. -/
theorem marker_as_key_is_not_read :
    let events : List (Event Unit) :=
      [.request "dictionary_create" [("content", .object [("@1", .ofNat 5)])]]
    let d := (build [Collections.feature] { state := () }).after events
    (d.dispatch "dictionary_toMap" [("dictionary", .string "@1")]).1 =
        .ok (.value (.object [("@1", .ofNat 5)])) ∧
      (d.dispatch "dictionary_getValue"
        [("dictionary", .string "@1"), ("key", .string "@1")]).1 =
          .error (.argument (.typeMismatch "key" "string" "dictionary")) ∧
      (d.dispatch "dictionary_getValue"
        [("dictionary", .string "@1"), ("key", .string "@1")]).1 ≠ .ok (.value (.ofNat 5)) :=
  ⟨rfl, rfl, nofun⟩

end Dispatcher

end Testbed
