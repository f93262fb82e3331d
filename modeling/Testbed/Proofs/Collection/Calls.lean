import Testbed.Proofs.Argument.Priority
import Testbed.Proofs.Argument.Read
import Testbed.Proofs.Collection.Installed
import Testbed.Proofs.World

/-!
# Calls of the methods of collections

What a handler of collections comes to once it has read its arguments, and what a request comes
to in a dispatcher that has these methods, whatever else it has: it is refused for its arguments,
or the handler runs in the world as it is.

* `run_dictionarySetValue` and the lemmas beside it: what the handlers do;
* `dispatch_of_complaint`, `dispatch_of_no_complaint`: what a request comes to.
-/

namespace Testbed

open Argument Protocol Json Method

variable {σ : Type}

/-- The argument of a name is a marker of a live object. -/
def Argument.Bag.Names (name : String) (o : LiveObject) (r : Registry) (bag : Bag) : Prop :=
  ∃ text h, Entries.get? name bag = some (.string text) ∧ h.IsMarker text ∧ r.resolve h = .ok o

namespace Method.Collections

/-! ## Methods -/

theorem mem_dictionaryCreate :
    ⟨"dictionary_create", [⟨"content", .mapping, false⟩], dictionaryCreate⟩ ∈ table (σ := σ) := by
  simp [table]

theorem mem_dictionarySetValue :
    ⟨"dictionary_setValue", [dictionaryParam, keyParam, valueParam], dictionarySetValue⟩ ∈
      table (σ := σ) := by
  simp [table]

theorem mem_dictionaryGetValue :
    ⟨"dictionary_getValue", [dictionaryParam, keyParam], dictionaryGetValue⟩ ∈
      table (σ := σ) := by
  simp [table]

theorem mem_dictionaryToMap :
    ⟨"dictionary_toMap", [dictionaryParam], dictionaryToMap⟩ ∈ table (σ := σ) := by
  simp [table]

theorem mem_arrayGetValue :
    ⟨"array_getValue", [arrayParam, ⟨"index", .integer, true⟩], arrayGetValue⟩ ∈
      table (σ := σ) := by
  simp [table]

theorem mem_arrayCount : ⟨"array_count", [arrayParam], arrayCount⟩ ∈ table (σ := σ) := by
  simp [table]

/-! ## Handlers -/

section Handlers

variable {a : Arguments} {o : Object} {key : String} (w : World σ)

theorem withObject_of_object {type : ObjectType} {name : String} (ho : a.object type name = .ok o)
    (next : Object → Action σ (Except Failure Outcome)) :
    withObject type name a next = next o := by
  rw [withObject, ho]

theorem withObject_of_error {type : ObjectType} {name : String} {e : Argument.Error}
    (he : a.object type name = .error e) (next : Object → Action σ (Except Failure Outcome)) :
    withObject type name a next = pure (.error (.argument e)) := by
  rw [withObject, he]

theorem run_dictionaryCreate {content : Option (List (String × Resolved))}
    (hc : a.mapping? "content" = .ok content) :
    (dictionaryCreate a).run w =
      (.ok (.object ⟨w.heap.cells.size, .dictionary⟩),
        { w with heap := (w.heap.allocate .dictionary
          (.dictionary (Resolved.entriesToJson (content.getD [])))).2 }) := by
  rw [dictionaryCreate, hc]
  rfl

theorem run_dictionarySetValue (ho : a.object .dictionary "dictionary" = .ok o)
    (hk : a.string "key" = .ok key) :
    (dictionarySetValue a).run w =
      (.ok .void, { w with heap := w.heap.store o (.dictionary
        (Entries.put key (storedValue "value" a) (w.heap.contents o).entries)) }) := by
  rw [dictionarySetValue, withObject_of_object ho, hk]
  rfl

theorem run_dictionaryGetValue (ho : a.object .dictionary "dictionary" = .ok o)
    (hk : a.string "key" = .ok key) :
    (dictionaryGetValue a).run w =
      (.ok (.value ((Entries.get? key (w.heap.contents o).entries).getD .null)), w) := by
  rw [dictionaryGetValue, withObject_of_object ho, hk]
  rfl

theorem run_dictionaryCount (ho : a.object .dictionary "dictionary" = .ok o) :
    (dictionaryCount a).run w =
      (.ok (.value (.ofNat (w.heap.contents o).entries.length)), w) := by
  rw [dictionaryCount, withObject_of_object ho]
  rfl

theorem run_dictionaryToMap (ho : a.object .dictionary "dictionary" = .ok o) :
    (dictionaryToMap a).run w = (.ok (.value (.object (w.heap.contents o).entries)), w) := by
  rw [dictionaryToMap, withObject_of_object ho]
  rfl

theorem run_arrayCreate {content : Option (List Resolved)}
    (hc : a.sequence? "content" = .ok content) :
    (arrayCreate a).run w =
      (.ok (.object ⟨w.heap.cells.size, .array⟩),
        { w with heap := (w.heap.allocate .array
          (.array (Resolved.itemsToJson (content.getD [])))).2 }) := by
  rw [arrayCreate, hc]
  rfl

theorem run_arrayAddValue (ho : a.object .array "array" = .ok o) :
    (arrayAddValue a).run w =
      (.ok .void, { w with heap := w.heap.store o (.array
        ((w.heap.contents o).items ++ [storedValue "value" a])) }) := by
  rw [arrayAddValue, withObject_of_object ho]
  rfl

theorem run_arrayGetValue_of_negative (ho : a.object .array "array" = .ok o)
    {e : Argument.Error} (hi : a.natural "index" = .error e) :
    (arrayGetValue a).run w = (.error (.argument e), w) := by
  rw [arrayGetValue, withObject_of_object ho, hi]
  rfl

theorem run_arrayGetValue (ho : a.object .array "array" = .ok o) {index : Nat}
    (hi : a.natural "index" = .ok index) :
    (arrayGetValue a).run w =
      (match (w.heap.contents o).items[index]? with
        | some v => .ok (.value v)
        | none => .error (outOfRange index (w.heap.contents o).items.length), w) := by
  rw [arrayGetValue, withObject_of_object ho, hi]
  simp only [Action.run_bind]
  change (Action.run (match (w.heap.contents o).items[index]? with
    | some v => _ | none => _) w : _ × World σ) = _
  cases (w.heap.contents o).items[index]? <;> rfl

theorem run_arrayCount (ho : a.object .array "array" = .ok o) :
    (arrayCount a).run w = (.ok (.value (.ofNat (w.heap.contents o).items.length)), w) := by
  rw [arrayCount, withObject_of_object ho]
  rfl

end Handlers

end Method.Collections

/-! ## Objects among the arguments -/

section Objects

variable {r : Registry} {signature : Signature} {bag : Bag} {name : String} {o : LiveObject}

/-- A bag names one object under a name. -/
theorem Argument.Bag.Names.unique {p : LiveObject} (ho : bag.Names name o r)
    (hp : bag.Names name p r) : o = p := by
  obtain ⟨text, h, hv, hm, hr⟩ := ho
  obtain ⟨text', h', hv', hm', hr'⟩ := hp
  obtain rfl := Value.string.inj (Option.some.inj (hv.symm.trans hv'))
  obtain rfl : h = h' := Option.some.inj
    ((Handle.ofMarker?_eq_some_iff.2 hm).symm.trans (Handle.ofMarker?_eq_some_iff.2 hm'))
  exact Except.ok.inj (hr.symm.trans hr')

theorem names_singleton (name : String) {text : String} {h : Handle} (hm : h.IsMarker text)
    (hr : r.resolve h = .ok o) : Bag.Names name o r [(name, .string text)] :=
  ⟨text, h, if_pos rfl, hm, hr⟩

theorem get?_of_names (ho : bag.Names name o r) :
    (arguments r bag).get? name = some (.object o) := by
  obtain ⟨text, h, hv, hm, hr⟩ := ho
  rw [get?_arguments_of_present hv rfl, image, imageText, Handle.ofMarker?_eq_some_iff.2 hm,
    Option.bind_some, resolve_eq_ok_iff.1 hr]

theorem object_of_names (ho : bag.Names name o r) {type : ObjectType}
    (ht : o.object.type = type) : (arguments r bag).object type name = .ok o.object := by
  rw [Arguments.object_of_get? (get?_of_names ho), if_pos ht]

/-- A bag about which there is no complaint names an object of the kind that is asked for. -/
theorem exists_names_of_complaint (name : String)
    (hc : r.directory.complaint? signature bag = none) {tag : Tag}
    (hp : signature.param? name = some ⟨name, .object tag, true⟩) :
    ∃ o, bag.Names name o r ∧ o.tag = tag := by
  obtain ⟨text, h, o, hv, hm, hg, ht, _⟩ := liveObject_arguments_of_tag name hc hp
  exact ⟨o, ⟨text, h, hv, Handle.ofMarker?_eq_some_iff.1 hm, resolve_eq_ok_iff.2 hg⟩, ht⟩

/-- A marker of a live object is not at fault where the object serves. -/
theorem fault?_of_marker {text : String} {h : Handle} (hm : h.IsMarker text)
    (hr : r.resolve h = .ok o) {p : Param} (hp : signature.param? name = some p)
    (hk : p.kind.accepts (.object o) = true) :
    r.directory.fault? signature (name, .string text) = none := by
  have himage : IsImage r (.string text) (.object o) := .marker hm hr
  obtain ⟨hd, ho⟩ := (isImage_iff _ _).1 himage
  refine fault?_eq_none_iff.2 ⟨hd, fun q hq => ?_⟩
  obtain rfl := Option.some.inj (hp.symm.trans hq)
  rw [← ho, Param.admits, hk, Bool.or_true]

/-- There is no complaint where an object of the kind is all that is asked for and given. -/
theorem complaint?_of_object {text : String} {h : Handle} (hm : h.IsMarker text)
    (hr : r.resolve h = .ok o) {tag : Tag} (ht : o.tag = tag) (name : String) :
    r.directory.complaint? [⟨name, .object tag, true⟩] [(name, .string text)] = none := by
  refine complaint?_eq_none_iff.2 ⟨?_, ?_⟩
  · simp [Entries.get?]
  · have hp : Signature.param? name [⟨name, .object tag, true⟩] =
        some ⟨name, .object tag, true⟩ := by simp [Signature.param?]
    rw [List.forall_mem_singleton]
    exact fault?_of_marker hm hr hp (decide_eq_true ht)

end Objects

namespace Dispatcher

/-! ## Requests -/

variable {d : Dispatcher σ} {bag : Bag} {m : Method σ} (hd : d.router.ServesCollections)
  (hm : m ∈ Collections.table)
include hd hm

/-- A request about whose arguments there is a complaint is refused with it. -/
theorem dispatch_of_complaint {e : Argument.Error}
    (hc : d.world.registry.directory.complaint? m.signature bag = some e) :
    d.dispatch m.name bag = (.error (.argument e), d) :=
  dispatch_of_unresolved (hd m hm) (resolve_eq_error_complaint_iff.2 hc)

/-- A request about whose arguments there is none is served by running the handler. -/
theorem dispatch_of_no_complaint
    (hc : d.world.registry.directory.complaint? m.signature bag = none) :
    ∃ journal, d.dispatch m.name bag =
      (((m.handler (arguments d.world.registry bag) >>= respond).run { d.world with journal }).1,
        { d with world :=
          ((m.handler (arguments d.world.registry bag) >>= respond).run
            { d.world with journal }).2 }) :=
  ⟨_, dispatch_of_invocation?
    (invocation?_eq_some_iff.2 ⟨hd m hm, resolve_eq_ok_arguments_iff.2 ⟨hc, rfl⟩⟩)⟩

end Dispatcher

end Testbed
