import Testbed.Dispatcher
import Testbed.Proofs.Collection.Arguments
import Testbed.Proofs.World

/-!
# Handlers and operations

Each built-in and collection handler does to the objects what an operation does to the store
that they represent, and yields what becomes the operation's reply (`Implements`). The
handler is run on the resolved arguments of a bag about which there is no complaint; the
operation is read off the bag itself.
-/

namespace Testbed

open Argument Protocol Json Method

variable {σ : Type}

namespace Method.Collections

theorem run_entries (o : Object) (w : World σ) :
    (entries o).run w = ((w.heap.contents o).entries, w) := rfl

theorem run_items (o : Object) (w : World σ) :
    (items o).run w = ((w.heap.contents o).items, w) := rfl

end Method.Collections

/-- A response and a world are what an operation makes of a world that represents a store:
    the response is the operation's, the world represents the store after it, and only the
    contents of the collection that the operation writes to may have changed. -/
structure CarriedOut (w : World σ) (s : Store) (op : Store.Operation) (x : Response × World σ) :
    Prop where
  response : x.1 = (op.apply s).1
  represents : Represents x.2.registry x.2.heap (op.apply s).2
  frame : ∀ ⦃h o⦄, Entries.get? h w.registry.live = some o → op.written? ≠ some h →
    x.2.heap.contents o.object = w.heap.contents o.object

/-- The handler of a method, run on the arguments of a bag without fault, and the answer to
    its outcome carry out an operation. -/
def Implements (m : Method σ) (bag : Bag) (op : Store.Operation) : Prop :=
  ∀ (w : World σ) (s : Store), Represents w.registry w.heap s →
    w.registry.directory.complaint? m.signature bag = none →
    CarriedOut w s op
      ((m.handler (arguments w.registry bag) >>= Dispatcher.respond).run w)

/-- An operation that keeps a collection is carried out by answering with a new object. -/
theorem carriedOut_create {w : World σ} {s : Store} (hr : Represents w.registry w.heap s)
    (op : Store.Operation) (c : Collection) (hop : op.apply s = s.create c) :
    CarriedOut w s op
      ((Dispatcher.respond (.ok (.object (w.heap.allocate c.type c.contents).1))).run
        { w with heap := (w.heap.allocate c.type c.contents).2 }) := by
  have hnext : (w.registry.register (w.heap.allocate c.type c.contents).1).1 = s.next :=
    hr.next_eq
  refine ⟨?_, by rw [hop]; exact hr.create c, fun h o hg _ => hr.contents_create hg c⟩
  simp only [Dispatcher.respond, Dispatcher.reply, Action.run_bind, Action.run_register,
    Action.run_pure, hnext, hop]
  rfl

/-- An operation that replaces a collection is carried out by writing to its object. -/
theorem carriedOut_update {w : World σ} {s : Store} (hr : Represents w.registry w.heap s)
    (op : Store.Operation) (c : Collection) {h : Handle}
    (hop : op.apply s = (.ok .void, s.update h c)) (hw : op.written? = some h) {o : LiveObject}
    (hg : Entries.get? h w.registry.live = some o) (ht : o.object.type = c.type) :
    CarriedOut w s op (.ok .void, { w with heap := w.heap.store o.object c.contents }) := by
  refine ⟨by rw [hop], by rw [hop]; exact hr.update hg c ht, fun g p hp hne => ?_⟩
  exact hr.contents_update hg hp (fun he => hne (by rw [hw, he])) _

/-- An operation that only asks is carried out by leaving the world as it is. -/
theorem carriedOut_ask {w : World σ} {s : Store} (hr : Represents w.registry w.heap s)
    {op : Store.Operation} {response : Response} (hop : op.apply s = (response, s)) :
    CarriedOut w s op (response, w) :=
  ⟨by rw [hop], by rw [hop]; exact hr, fun _ _ _ _ => rfl⟩

namespace Store.Operation

open Collections

variable {bag : Bag}

theorem implements_release :
    Implements (σ := σ) ⟨"release", [⟨"object", .anyObject, true⟩], Builtin.release⟩ bag
      (.release (handleAt "object" bag)) := by
  intro w s hr hc
  obtain ⟨o, hg, ho, hl⟩ := liveObject_of_represents "object" hr hc rfl
  obtain ⟨tag, hrel⟩ : ∃ tag, w.registry.release (handleAt "object" bag) =
      (.ok tag, (w.registry.release (handleAt "object" bag)).2) :=
    ⟨o.tag, by rw [Registry.release, hg]⟩
  simp only [Builtin.release, hl, ho, Action.run_bind, Action.run_release_of_live hrel,
    Action.run_tell, Action.run_pure]
  exact ⟨rfl, hr.release hg, fun _ _ _ _ => rfl⟩

theorem implements_flush :
    Implements (σ := σ) ⟨"flushMemory", [], Builtin.flushMemory⟩ bag .flush := by
  intro w s hr _
  simp only [Builtin.flushMemory, Action.run_bind, Action.run_clear, Action.run_pure, hr.size_eq]
  exact ⟨rfl, hr.clear, fun _ _ _ _ => rfl⟩

theorem implements_newDictionary :
    Implements (σ := σ) ⟨"dictionary_create", [⟨"content", .mapping, false⟩], dictionaryCreate⟩
      bag (.newDictionary (entriesAt "content" bag)) := by
  intro w s hr hc
  obtain ⟨m, hm, hj⟩ := mapping?_of_labelled "content" hr.labelled hc rfl
  simp only [dictionaryCreate, hm, hj, Action.run_bind, Action.run_create, Action.run_pure]
  exact carriedOut_create hr (.newDictionary _) (.dictionary _) rfl

theorem implements_setValue :
    Implements (σ := σ)
      ⟨"dictionary_setValue", [dictionaryParam, keyParam, valueParam], dictionarySetValue⟩ bag
      (.setValue (handleAt "dictionary" bag) (textAt "key" bag) (valueAt "value" bag)) := by
  intro w s hr hc
  obtain ⟨o, held, hg, ht, hcont, hs, ho⟩ := dictionary_of_represents "dictionary" hr hc rfl
  obtain ⟨key, hv, hk⟩ := string_arguments "key" hc rfl
  have hstored := storedValue_of_labelled "value" hr.labelled hc
  -- All that can fail comes before the object is written to.
  simp only [dictionarySetValue, withObject, ho, hk, hstored, Action.run_bind, run_entries,
    Action.run_store, Action.run_pure, hcont]
  refine carriedOut_update hr (.setValue _ _ _) (.dictionary _) ?_ rfl hg ht
  rw [apply, hs, Collection.assign_eq, textAt_of_get? hv]
  rfl

theorem implements_getValue :
    Implements (σ := σ) ⟨"dictionary_getValue", [dictionaryParam, keyParam], dictionaryGetValue⟩
      bag (.getValue (handleAt "dictionary" bag) (textAt "key" bag)) := by
  intro w s hr hc
  obtain ⟨o, held, _, _, hcont, hs, ho⟩ := dictionary_of_represents "dictionary" hr hc rfl
  obtain ⟨key, hv, hk⟩ := string_arguments "key" hc rfl
  simp only [dictionaryGetValue, withObject, ho, hk, Action.run_bind, run_entries,
    Action.run_pure, hcont]
  refine carriedOut_ask hr ?_
  rw [apply, hs, Collection.value_eq, textAt_of_get? hv]
  rfl

theorem implements_countKeys :
    Implements (σ := σ) ⟨"dictionary_count", [dictionaryParam], dictionaryCount⟩ bag
      (.countKeys (handleAt "dictionary" bag)) := by
  intro w s hr hc
  obtain ⟨o, held, _, _, hcont, hs, ho⟩ := dictionary_of_represents "dictionary" hr hc rfl
  simp only [dictionaryCount, withObject, ho, Action.run_bind, run_entries, Action.run_pure, hcont]
  refine carriedOut_ask hr ?_
  rw [apply, hs]
  rfl

theorem implements_toMap :
    Implements (σ := σ) ⟨"dictionary_toMap", [dictionaryParam], dictionaryToMap⟩ bag
      (.toMap (handleAt "dictionary" bag)) := by
  intro w s hr hc
  obtain ⟨o, held, _, _, hcont, hs, ho⟩ := dictionary_of_represents "dictionary" hr hc rfl
  simp only [dictionaryToMap, withObject, ho, Action.run_bind, run_entries, Action.run_pure, hcont]
  refine carriedOut_ask hr ?_
  rw [apply, hs]
  rfl

theorem implements_newArray :
    Implements (σ := σ) ⟨"array_create", [⟨"content", .sequence, false⟩], arrayCreate⟩
      bag (.newArray (itemsAt "content" bag)) := by
  intro w s hr hc
  obtain ⟨l, hl, hj⟩ := sequence?_of_labelled "content" hr.labelled hc rfl
  simp only [arrayCreate, hl, hj, Action.run_bind, Action.run_create, Action.run_pure]
  exact carriedOut_create hr (.newArray _) (.array _) rfl

theorem implements_addValue :
    Implements (σ := σ) ⟨"array_addValue", [arrayParam, valueParam], arrayAddValue⟩ bag
      (.addValue (handleAt "array" bag) (valueAt "value" bag)) := by
  intro w s hr hc
  obtain ⟨o, held, hg, ht, hcont, hs, ho⟩ := array_of_represents "array" hr hc rfl
  have hstored := storedValue_of_labelled "value" hr.labelled hc
  simp only [arrayAddValue, withObject, ho, hstored, Action.run_bind, run_items,
    Action.run_store, Action.run_pure, hcont]
  refine carriedOut_update hr (.addValue _ _) (.array _) ?_ rfl hg ht
  rw [apply, hs]
  rfl

theorem implements_itemAt :
    Implements (σ := σ)
      ⟨"array_getValue", [arrayParam, ⟨"index", .integer, true⟩], arrayGetValue⟩ bag
      (.itemAt (handleAt "array" bag) (integerAt "index" bag)) := by
  intro w s hr hc
  obtain ⟨o, held, _, _, hcont, hs, ho⟩ := array_of_represents "array" hr hc rfl
  obtain ⟨n, fits, hv, hn⟩ := natural_arguments "index" hc rfl
  have hreply : (itemAt (handleAt "array" bag) (integerAt "index" bag)).apply s =
      (itemReply held n, s) := by
    rw [apply, hs, integerAt, hv]
  -- An index of the right shape may still be negative, or too great.
  by_cases hpos : 0 ≤ n
  · rw [if_pos hpos] at hn
    rw [itemReply, if_neg (Int.not_lt.2 hpos)] at hreply
    simp only [arrayGetValue, withObject, ho, hn, Action.run_bind, run_items, hcont,
      Contents.items]
    cases hi : held[n.toNat]? with
    | none => exact carriedOut_ask hr (by rw [hreply, hi])
    | some v => exact carriedOut_ask hr (by rw [hreply, hi])
  · rw [if_neg hpos] at hn
    rw [itemReply, if_pos (Int.not_le.1 hpos)] at hreply
    simp only [arrayGetValue, withObject, ho, hn, Action.run_bind, Action.run_pure]
    exact carriedOut_ask hr hreply

theorem implements_countItems :
    Implements (σ := σ) ⟨"array_count", [arrayParam], arrayCount⟩ bag
      (.countItems (handleAt "array" bag)) := by
  intro w s hr hc
  obtain ⟨o, held, _, _, hcont, hs, ho⟩ := array_of_represents "array" hr hc rfl
  simp only [arrayCount, withObject, ho, Action.run_bind, run_items, Action.run_pure, hcont]
  refine carriedOut_ask hr ?_
  rw [apply, hs]
  rfl

end Store.Operation

end Testbed
