import Testbed.Proofs.Collection.Represents

/-!
# Arguments of operations

What a handler finds in the resolved arguments of a bag about which there is no complaint is
what the operation reads off the bag: a live object for a handle that the store knows, and
JSON with markers in canonical form for what is to be stored.
-/

namespace Testbed

open Argument Json Method Store.Operation

variable {r : Registry} {heap : Heap} {s : Store} {signature : Signature} {bag : Bag}
  {name : String}

theorem type_dictionary_ne_array : ObjectType.dictionary ≠ ObjectType.array := by decide

/-- Of collections the tag tells the type. -/
theorem type_eq_of_tag_eq {c c' : Collection} (h : c.type.tag = c'.type.tag) :
    c.type = c'.type := by
  have htag : ObjectType.dictionary.tag ≠ ObjectType.array.tag := by decide
  cases c with
  | dictionary =>
    cases c' with
    | dictionary => rfl
    | array => exact absurd h htag
  | array =>
    cases c' with
    | dictionary => exact absurd h.symm htag
    | array => rfl

theorem textAt_of_get? {text : String} (hv : Entries.get? name bag = some (.string text)) :
    textAt name bag = text := by
  rw [textAt, hv]

theorem handleAt_of_get? {text : String} {h : Handle}
    (hv : Entries.get? name bag = some (.string text)) (hm : Handle.ofMarker? text = some h) :
    handleAt name bag = h := by
  rw [handleAt, textAt_of_get? hv, hm, Option.getD_some]

section Labelled

variable (name) (hr : r.Labelled) (hc : r.directory.complaint? signature bag = none)
include hr hc

/-- The value to be stored is the one of the bag, with its markers in canonical form. -/
theorem storedValue_of_labelled :
    Collections.storedValue name (arguments r bag) = valueAt name bag := by
  rw [Collections.storedValue, valueAt]
  cases hn : (Entries.get? name bag).all Value.isNull with
  | true =>
    rw [get?_arguments_of_missing hn]
    rcases eq_none_or_null hn with hv | hv <;> rw [hv] <;> rfl
  | false =>
    -- No marker in the value is dead, or there were a complaint.
    obtain ⟨v, hv, hv'⟩ := exists_of_present hn
    have hd := Directory.dead?_eq_none_of_complaint? hc (Entries.mem_of_get? hv)
    rw [get?_arguments_of_present hv hv', hv]
    exact toJson_image hr v hd

/-- The entries to be stored are those of the bag, with their markers in canonical form. -/
theorem mapping?_of_labelled (hp : signature.param? name = some ⟨name, .mapping, false⟩) :
    ∃ m, (arguments r bag).mapping? name = .ok m ∧
      Resolved.entriesToJson (m.getD []) = entriesAt name bag := by
  rw [entriesAt]
  rcases mapping?_arguments name hc hp with ⟨m, hv, hm⟩ | ⟨hn, hm⟩
  · have hd := Directory.dead?_eq_none_of_complaint? hc (Entries.mem_of_get? hv)
    rw [hv]
    exact ⟨_, hm, entriesToJson_image hr m hd⟩
  · refine ⟨none, hm, ?_⟩
    rcases eq_none_or_null hn with hv | hv <;> rw [hv] <;> rfl

/-- The items to be stored are those of the bag, with their markers in canonical form. -/
theorem sequence?_of_labelled (hp : signature.param? name = some ⟨name, .sequence, false⟩) :
    ∃ l, (arguments r bag).sequence? name = .ok l ∧
      Resolved.itemsToJson (l.getD []) = itemsAt name bag := by
  rw [itemsAt]
  rcases sequence?_arguments name hc hp with ⟨l, hv, hl⟩ | ⟨hn, hl⟩
  · have hd := Directory.dead?_eq_none_of_complaint? hc (Entries.mem_of_get? hv)
    rw [hv]
    exact ⟨_, hl, itemsToJson_image hr l hd⟩
  · refine ⟨none, hl, ?_⟩
    rcases eq_none_or_null hn with hv | hv <;> rw [hv] <;> rfl

end Labelled

section Represented

variable (name) (hr : Represents r heap s) (hc : r.directory.complaint? signature bag = none)
include hr hc

/-- A live object that is given is that of the collection whose handle is read. -/
theorem liveObject_of_represents (hp : signature.param? name = some ⟨name, .anyObject, true⟩) :
    ∃ o, Entries.get? (handleAt name bag) r.live = some o ∧ o.handle = handleAt name bag ∧
      (arguments r bag).liveObject name = .ok o := by
  obtain ⟨text, h, o, hv, hm, hg, hl⟩ := liveObject_arguments name hc hp
  rw [handleAt_of_get? hv hm]
  exact ⟨o, hg, hr.labelled hg, hl⟩

/-- An object of the type of a kind of collections that is given is that of the collection
    whose handle is read. -/
theorem object_of_represents (c' : Collection)
    (hp : signature.param? name = some ⟨name, .object c'.type.tag, true⟩) :
    ∃ o c, Entries.get? (handleAt name bag) r.live = some o ∧
      Entries.get? (handleAt name bag) s.live = some c ∧ c.type = c'.type ∧
      o.object.type = c.type ∧ heap.contents o.object = c.contents ∧
      (arguments r bag).object c'.type name = .ok o.object := by
  obtain ⟨text, h, o, hv, hm, hg, ht, hl⟩ := liveObject_arguments_of_tag name hc hp
  obtain ⟨c, hty, hcont, hgs⟩ := hr.exists_collection hg
  rw [handleAt_of_get? hv hm]
  -- The signature asks for a tag, the handler for a type.
  have hct : c.type = c'.type := type_eq_of_tag_eq (by rw [← hty]; exact ht)
  refine ⟨o, c, hg, hgs, hct, hty, hcont, ?_⟩
  rw [Arguments.object, hl]
  simp only [LiveObject.as, hty, hct, if_true]

theorem dictionary_of_represents
    (hp : signature.param? name = some ⟨name, .object ObjectType.dictionary.tag, true⟩) :
    ∃ o entries, Entries.get? (handleAt name bag) r.live = some o ∧
      o.object.type = .dictionary ∧ heap.contents o.object = .dictionary entries ∧
      s.entries (handleAt name bag) = entries ∧
      (arguments r bag).object .dictionary name = .ok o.object := by
  obtain ⟨o, c, hg, hgs, hct, hty, hcont, ho⟩ :=
    object_of_represents name hr hc (.dictionary []) hp
  cases c with
  | dictionary entries => exact ⟨o, entries, hg, hty, hcont, by rw [Store.entries, hgs]; rfl, ho⟩
  | array items => exact absurd hct.symm type_dictionary_ne_array

theorem array_of_represents
    (hp : signature.param? name = some ⟨name, .object ObjectType.array.tag, true⟩) :
    ∃ o items, Entries.get? (handleAt name bag) r.live = some o ∧
      o.object.type = .array ∧ heap.contents o.object = .array items ∧
      s.items (handleAt name bag) = items ∧
      (arguments r bag).object .array name = .ok o.object := by
  obtain ⟨o, c, hg, hgs, hct, hty, hcont, ho⟩ := object_of_represents name hr hc (.array []) hp
  cases c with
  | dictionary entries => exact absurd hct type_dictionary_ne_array
  | array items => exact ⟨o, items, hg, hty, hcont, by rw [Store.items, hgs]; rfl, ho⟩

end Represented

end Testbed
