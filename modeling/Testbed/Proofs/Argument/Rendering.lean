import Testbed.Proofs.Argument.Image
import Testbed.Proofs.Handle
import Testbed.Proofs.Registry.History

/-!
# Rendering resolved arguments

A resolved value is told in JSON with a marker for each live object. This undoes resolving,
except that the zeros in front of the number of a marker are lost (`Json.Value.TrimsTo`).

* `trimsTo_canonical`: a value in canonical form is the value with these zeros left out;
* `isImage_toJson`: a resolved value is the image of what it is told as;
* `rendering_undoes_resolution`: what a value is told as after it was resolved.
-/

namespace Testbed

namespace Json.Value

mutual

/-- The second value is the first with the zeros left out that stand in front of the number in
    a marker. It has the same shape and keys, and the same scalars and texts that are no
    markers in their places. -/
inductive TrimsTo : Value → Value → Prop
  | null : TrimsTo .null .null
  | boolean (b : Bool) : TrimsTo (.boolean b) (.boolean b)
  | number (x : Number) : TrimsTo (.number x) (.number x)
  | text {text : String} (hm : ∀ h : Handle, ¬h.IsMarker text) :
    TrimsTo (.string text) (.string text)
  | marker {h : Handle} {digits : List Char} (hm : h.IsMarker (String.ofList ('@' :: digits))) :
    TrimsTo (.string (String.ofList ('@' :: digits)))
      (.string (String.ofList ('@' :: Handle.trimZeros digits)))
  | array {items trimmed : List Value} (h : ItemsTrimTo items trimmed) :
    TrimsTo (.array items) (.array trimmed)
  | object {entries trimmed : List (String × Value)} (h : EntriesTrimTo entries trimmed) :
    TrimsTo (.object entries) (.object trimmed)

/-- The same of items, in their order. -/
inductive ItemsTrimTo : List Value → List Value → Prop
  | nil : ItemsTrimTo [] []
  | cons {v v' : Value} {items trimmed : List Value} (hv : TrimsTo v v')
    (h : ItemsTrimTo items trimmed) : ItemsTrimTo (v :: items) (v' :: trimmed)

/-- The same of entries, under the same keys and in their order. -/
inductive EntriesTrimTo : List (String × Value) → List (String × Value) → Prop
  | nil : EntriesTrimTo [] []
  | cons {key : String} {v v' : Value} {entries trimmed : List (String × Value)}
    (hv : TrimsTo v v') (h : EntriesTrimTo entries trimmed) :
    EntriesTrimTo ((key, v) :: entries) ((key, v') :: trimmed)

end

/-! ## Canonical form -/

theorem trimsTo_canonicalText (text : String) :
    TrimsTo (.string text) (.string (canonicalText text)) := by
  rw [canonicalText]
  cases ho : Handle.ofMarker? text with
  | none => exact .text (Argument.ofMarker?_eq_none_iff.1 ho)
  | some h =>
    obtain ⟨digits, hl, _⟩ := Handle.ofMarker?_eq_some_iff.1 ho
    obtain rfl : text = String.ofList ('@' :: digits) := by rw [← hl, String.ofList_toList]
    have hm := Handle.ofMarker?_eq_some_iff.1 ho
    simp only [Handle.marker_eq_of_isMarker hm]
    exact .marker hm

mutual

/-- A value in canonical form has lost the zeros in front of its markers, and nothing else. -/
theorem trimsTo_canonical : ∀ v : Value, v.TrimsTo v.canonical
  | .null => .null
  | .boolean b => .boolean b
  | .number x => .number x
  | .string text => trimsTo_canonicalText text
  | .array items => .array (itemsTrimTo_canonicalItems items)
  | .object entries => .object (entriesTrimTo_canonicalEntries entries)

theorem itemsTrimTo_canonicalItems : ∀ items : List Value, ItemsTrimTo items (canonicalItems items)
  | [] => .nil
  | v :: items => .cons (trimsTo_canonical v) (itemsTrimTo_canonicalItems items)

theorem entriesTrimTo_canonicalEntries :
    ∀ entries : List (String × Value), EntriesTrimTo entries (canonicalEntries entries)
  | [] => .nil
  | (_, v) :: entries => .cons (trimsTo_canonical v) (entriesTrimTo_canonicalEntries entries)

end

theorem canonicalText_eq_self_iff {text : String} :
    canonicalText text = text ↔ ∀ h : Handle, h.IsMarker text → text = h.marker := by
  rw [canonicalText]
  simp only [← Handle.ofMarker?_eq_some_iff]
  cases Handle.ofMarker? text with
  | none => simp
  | some h => simp [eq_comm]

mutual

/-- A value is in canonical form when each of its markers is. -/
theorem canonical_eq_self_iff : ∀ v : Value,
    v.canonical = v ↔ ∀ text ∈ v.texts, ∀ h : Handle, h.IsMarker text → text = h.marker
  | .null | .boolean _ | .number _ => by simp [canonical, texts]
  | .string text => by simp [canonical, texts, canonicalText_eq_self_iff]
  | .array items => by
    rw [canonical, texts, Value.array.injEq, canonicalItems_eq_self_iff items]
  | .object entries => by
    rw [canonical, texts, Value.object.injEq, canonicalEntries_eq_self_iff entries]

theorem canonicalItems_eq_self_iff : ∀ items : List Value,
    canonicalItems items = items ↔
      ∀ text ∈ textsOfItems items, ∀ h : Handle, h.IsMarker text → text = h.marker
  | [] => by simp [canonicalItems, textsOfItems]
  | v :: items => by
    rw [canonicalItems, textsOfItems, List.cons_eq_cons, canonical_eq_self_iff v,
      canonicalItems_eq_self_iff items, List.forall_mem_append]

theorem canonicalEntries_eq_self_iff : ∀ entries : List (String × Value),
    canonicalEntries entries = entries ↔
      ∀ text ∈ textsOfEntries entries, ∀ h : Handle, h.IsMarker text → text = h.marker
  | [] => by simp [canonicalEntries, textsOfEntries]
  | (key, v) :: entries => by
    rw [canonicalEntries, textsOfEntries, List.cons_eq_cons, Prod.mk.injEq, canonical_eq_self_iff v,
      canonicalEntries_eq_self_iff entries, List.forall_mem_append]
    simp

end

end Json.Value

namespace Argument

open Json

variable {r : Registry} {name : String}

/-! ## Resolving again -/

mutual

/-- A resolved value is the image of what it is in JSON. -/
theorem isImage_toJson (hr : r.Labelled) :
    ∀ {v : Value} {w : Resolved}, IsImage r v w → IsImage r w.toJson w
  | _, _, .null => .null
  | _, _, .boolean b => .boolean b
  | _, _, .number x => .number x
  | _, _, .text hm => .text hm
  | _, _, .marker _ ho => by
    rw [Resolved.toJson, hr (resolve_eq_ok_iff.1 ho)]
    exact .marker (Handle.isMarker_marker _) ho
  | _, _, .sequence h => .sequence (areImages_itemsToJson hr h)
  | _, _, .mapping h => .mapping (areEntryImages_entriesToJson hr h)

theorem areImages_itemsToJson (hr : r.Labelled) :
    ∀ {items : List Value} {images : List Resolved}, AreImages r items images →
      AreImages r (Resolved.itemsToJson images) images
  | _, _, .nil => .nil
  | _, _, .cons hv h => .cons (isImage_toJson hr hv) (areImages_itemsToJson hr h)

theorem areEntryImages_entriesToJson (hr : r.Labelled) :
    ∀ {entries : List (String × Value)} {images : List (String × Resolved)},
      AreEntryImages r entries images → AreEntryImages r (Resolved.entriesToJson images) images
  | _, _, .nil => .nil
  | _, _, .cons hv h => .cons (isImage_toJson hr hv) (areEntryImages_entriesToJson hr h)

end

theorem resolveValue_eq_ok_iff {v : Value} {w : Resolved} :
    resolveValue r name v = .ok w ↔ IsImage r v w := by
  rw [isImage_iff, resolveValue_eq]
  cases r.directory.dead? v with
  | some h => simp
  | none => simp [eq_comm]

/-- What a resolved value is told as is the value in canonical form. -/
theorem toJson_eq_canonical (hr : r.Labelled) {v : Value} {w : Resolved} (h : IsImage r v w) :
    w.toJson = v.canonical := by
  obtain ⟨hd, rfl⟩ := (isImage_iff v w).1 h
  exact toJson_image hr v hd

/-- Consider a value that resolves, whatever was done to the registry before. What it resolves
    to is told as the value without the zeros in front of its markers, and otherwise
    unchanged; so as the value itself just when each of its markers is the one by which the
    handle is told. What is told resolves in its turn, and to the same, so to resolve and tell
    it again changes nothing. -/
theorem rendering_undoes_resolution (history : List Registry.Operation) {v : Value} {w : Resolved}
    (hw : resolveValue (({} : Registry).after history) name v = .ok w) :
    v.TrimsTo w.toJson ∧
    (w.toJson = v ↔ ∀ text ∈ v.texts, ∀ h : Handle, h.IsMarker text → text = h.marker) ∧
    ∀ name', resolveValue (({} : Registry).after history) name' w.toJson = .ok w ∧
      (resolveValue (({} : Registry).after history) name' w.toJson).map Resolved.toJson =
        .ok w.toJson := by
  have hlabelled := Registry.labelled_after history
  have himage := resolveValue_eq_ok_iff.1 hw
  have hcanonical := toJson_eq_canonical hlabelled himage
  refine ⟨?_, ?_, fun name' => ?_⟩
  · rw [hcanonical]
    exact v.trimsTo_canonical
  · rw [hcanonical]
    exact v.canonical_eq_self_iff
  · have hagain : resolveValue (({} : Registry).after history) name' w.toJson = .ok w :=
      resolveValue_eq_ok_iff.2 (isImage_toJson hlabelled himage)
    exact ⟨hagain, by rw [hagain, Except.map]⟩

/-- A marker with zeros in front loses them, at any depth; a key that looks like a marker and a
    text with too great a number for one stay as they are. -/
theorem zeros_are_lost_from_markers :
    let o : LiveObject := ⟨⟨1⟩, ⟨0, .dictionary⟩⟩
    let v : Value := .object [("@01", .array [.string "@001", .string "@018446744073709551616"])]
    let w : Resolved :=
      .mapping [("@01", .sequence [.object o, .string "@018446744073709551616"])]
    resolveValue (({} : Registry).after [.register o.object]) "content" v = .ok w ∧
      v.TrimsTo w.toJson ∧ w.toJson ≠ v ∧
      resolveValue (({} : Registry).after [.register o.object]) "content" w.toJson = .ok w := by
  intro o v w
  have hw : resolveValue (({} : Registry).after [.register o.object]) "content" v = .ok w := rfl
  have hmark : Handle.IsMarker ⟨1⟩ "@001" := ⟨['0', '0', '1'], rfl, by decide, rfl, rfl⟩
  obtain ⟨htrims, hself, hagain⟩ := rendering_undoes_resolution [.register o.object] hw
  have hzeros : w.toJson ≠ v := fun h =>
    absurd (hself.1 h "@001" List.mem_cons_self ⟨1⟩ hmark) (by decide)
  exact ⟨hw, htrims, hzeros, (hagain "content").1⟩

end Argument

end Testbed
