import Testbed.Proofs.Argument.Read
import Testbed.Proofs.Collection.Store

/-!
# Collections as objects

How a registry and a heap represent a store: under each handle is an object whose type and
insides are those of the collection, and different handles have different objects, so what
is written through the one is not seen through the other (`Represents`).

* `Represents.create`, `Represents.update`, `Represents.release`, `Represents.clear`: what is
  done to objects represents what is done to the store;
* `contents_store_of_ne`: writing to one object leaves the insides of the others.
-/

namespace Testbed

open Argument Protocol Json

namespace Collection

/-- What is inside the object that is the collection. -/
def contents : Collection → Contents
  | dictionary entries => .dictionary entries
  | array items => .array items

/-- The collection that an object with the insides is. -/
def ofContents : Contents → Collection
  | .dictionary entries => dictionary entries
  | .array items => array items
  | .hidden => array []

@[simp] theorem ofContents_contents (c : Collection) : ofContents c.contents = c := by
  cases c <;> rfl

end Collection

namespace Heap

variable {heap : Heap} {o : Object}

theorem contents_allocate_of_lt (ho : o.id < heap.cells.size) (type : ObjectType)
    (c : Contents) : (heap.allocate type c).2.contents o = heap.contents o := by
  rw [allocate, contents, contents, Array.getElem?_push_lt ho, Array.getElem?_eq_getElem ho]

theorem contents_allocate_self (type : ObjectType) (c : Contents) :
    (heap.allocate type c).2.contents (heap.allocate type c).1 = c := by
  simp [allocate, contents]

theorem contents_store_self (ho : o.id < heap.cells.size) (c : Contents) :
    (heap.store o c).contents o = c := by
  simp [store, contents, ho]

/-- Writing to an object leaves what is inside the others. -/
theorem contents_store_of_ne {p : Object} (h : o.id ≠ p.id) (c : Contents) :
    (heap.store o c).contents p = heap.contents p := by
  simp [store, contents, Array.getElem?_setIfInBounds_ne h]

end Heap

/-- The collection that a live object is. -/
def Collection.view (heap : Heap) (o : LiveObject) : Collection :=
  ofContents (heap.contents o.object)

/-- A registry and a heap represent a store. -/
structure Represents (r : Registry) (heap : Heap) (s : Store) : Prop where
  /-- The next handle is the same. -/
  issued : r.lastIssued = UInt64.ofNat s.issued
  /-- The live collections are what is inside the live objects. -/
  live : s.live = Entries.mapValues (Collection.view heap) r.live
  /-- Live objects carry their handles. -/
  labelled : r.Labelled
  /-- No handle occurs twice. -/
  nodup : (Entries.keys r.live).Nodup
  /-- Live objects have the types of their insides. -/
  typed : ∀ e ∈ r.live, ∃ c : Collection, e.2.object.type = c.type ∧
    heap.contents e.2.object = c.contents
  /-- Live objects are on the heap. -/
  allocated : ∀ e ∈ r.live, e.2.object.id < heap.cells.size
  /-- Different handles have different objects. -/
  apart : ∀ e ∈ r.live, ∀ e' ∈ r.live, e.2.object.id = e'.2.object.id → e.1 = e'.1

namespace Represents

variable {r : Registry} {heap : Heap} {s : Store} {h : Handle} {o : LiveObject}
  (hr : Represents r heap s)
include hr

/-- Under a live handle is the object of a collection of the store. -/
theorem exists_collection (hg : Entries.get? h r.live = some o) :
    ∃ c : Collection, o.object.type = c.type ∧ heap.contents o.object = c.contents ∧
      Entries.get? h s.live = some c := by
  obtain ⟨c, ht, hc⟩ := hr.typed _ (Entries.mem_of_get? hg)
  refine ⟨c, ht, hc, ?_⟩
  rw [hr.live, Entries.get?_mapValues, hg, Option.map_some, Collection.view, hc,
    Collection.ofContents_contents]

theorem size_eq : r.size = s.live.length := by
  rw [Registry.size, hr.live, Entries.length_mapValues]

/-- What is known of handles is the same. -/
theorem directory_eq : s.directory = r.directory := by
  funext h
  rw [Store.directory, Registry.directory]
  cases hg : Entries.get? h r.live with
  | none => rw [hr.live, Entries.get?_mapValues, hg]; rfl
  | some o =>
    obtain ⟨c, ht, _, hc⟩ := hr.exists_collection hg
    rw [hc, Option.map_some, Option.map_some, LiveObject.tag, Object.tag, ht]

theorem next_eq : r.next = s.next := by
  rw [Registry.next, Store.next, hr.issued, UInt64.ofNat_add]
  rfl

/-- A new object leaves what is inside live ones. -/
theorem contents_create (hg : Entries.get? h r.live = some o) (c : Collection) :
    (heap.allocate c.type c.contents).2.contents o.object = heap.contents o.object :=
  Heap.contents_allocate_of_lt (hr.allocated _ (Entries.mem_of_get? hg)) _ _

/-- What is written to the object of a handle leaves what is inside those of other handles. -/
theorem contents_update {g : Handle} {p : LiveObject} (hg : Entries.get? h r.live = some o)
    (hp : Entries.get? g r.live = some p) (hne : h ≠ g) (c : Contents) :
    (heap.store o.object c).contents p.object = heap.contents p.object :=
  Heap.contents_store_of_ne
    (fun hid => hne (hr.apart _ (Entries.mem_of_get? hg) _ (Entries.mem_of_get? hp) hid)) c

/-- A new object is kept as a new collection. -/
theorem create (c : Collection) :
    let made := heap.allocate c.type c.contents
    Represents (r.register made.1).2 made.2 (s.create c).2 := by
  intro made
  have hmem : ∀ e ∈ (r.register made.1).2.live, e = (r.next, ⟨r.next, made.1⟩) ∨ e ∈ r.live :=
    fun e he => Entries.mem_put he
  have hsize : made.2.cells.size = heap.cells.size + 1 := Array.size_push _
  have hold : ∀ e ∈ r.live, made.2.contents e.2.object = heap.contents e.2.object :=
    fun e he => hr.contents_create (Entries.get?_of_mem hr.nodup he) c
  have hnew : made.2.contents made.1 = c.contents := Heap.contents_allocate_self _ _
  refine ⟨?_, ?_, hr.labelled.register _, Entries.nodup_keys_put _ hr.nodup, ?_, ?_, ?_⟩
  case refine_1 => exact congrArg Handle.number hr.next_eq
  case refine_2 =>
    have hview : Collection.view made.2 ⟨r.next, made.1⟩ = c := by
      rw [Collection.view, hnew, Collection.ofContents_contents]
    rw [Store.create, Registry.register, ← Registry.next, hr.next_eq, ← hr.next_eq,
      ← Entries.put_mapValues, hview, hr.live]
    exact congrArg _ (Entries.mapValues_congr fun e he => by
      rw [Collection.view, Collection.view, hold e he]).symm
  case refine_3 =>
    intro e he
    rcases hmem e he with rfl | he
    · exact ⟨c, rfl, hnew⟩
    · obtain ⟨c', ht, hc⟩ := hr.typed e he
      exact ⟨c', ht, (hold e he).trans hc⟩
  case refine_4 =>
    intro e he
    rcases hmem e he with rfl | he
    · rw [hsize]
      exact Nat.lt_succ_self _
    · rw [hsize]
      exact Nat.lt_succ_of_lt (hr.allocated e he)
  case refine_5 =>
    -- The new object is beyond all others.
    have hfresh : ∀ e ∈ r.live, e.2.object.id ≠ made.1.id :=
      fun e he => Nat.ne_of_lt (hr.allocated e he)
    intro e he e' he' hid
    rcases hmem e he with rfl | he <;> rcases hmem e' he' with rfl | he'
    · rfl
    · exact absurd hid.symm (hfresh e' he')
    · exact absurd hid (hfresh e he)
    · exact hr.apart e he e' he' hid

/-- What is written to an object replaces its collection. -/
theorem update (hg : Entries.get? h r.live = some o) (c : Collection)
    (ht : o.object.type = c.type) :
    Represents r (heap.store o.object c.contents) (s.update h c) := by
  have ho := hr.allocated _ (Entries.mem_of_get? hg)
  have hself := Heap.contents_store_self ho c.contents
  have hother : ∀ e ∈ r.live, e.1 ≠ h →
      (heap.store o.object c.contents).contents e.2.object = heap.contents e.2.object :=
    fun e he hne => hr.contents_update hg (Entries.get?_of_mem hr.nodup he) (Ne.symm hne) _
  have hsize : (heap.store o.object c.contents).cells.size = heap.cells.size :=
    Array.size_setIfInBounds
  refine ⟨hr.issued, ?_, hr.labelled, hr.nodup, ?_, ?_, hr.apart⟩
  case refine_1 =>
    -- Seen through the heap, only the entry that is written to has changed.
    have hview : Collection.view (heap.store o.object c.contents) o = c := by
      rw [Collection.view, hself, Collection.ofContents_contents]
    rw [Store.update, Entries.mapValues_eq_put hr.nodup hg fun e he hne => by
      rw [Collection.view, hother e he hne, ← Collection.view], hview, hr.live]
  case refine_2 =>
    intro e he
    by_cases heq : e.1 = h
    · -- A handle occurs once, so this is the entry that is written to.
      obtain rfl : e.2 = o := by
        have hge := Entries.get?_of_mem hr.nodup he
        rw [heq, hg] at hge
        exact (Option.some.inj hge).symm
      exact ⟨c, ht, hself⟩
    · obtain ⟨c', ht', hc'⟩ := hr.typed e he
      exact ⟨c', ht', (hother e he heq).trans hc'⟩
  case refine_3 =>
    intro e he
    rw [hsize]
    exact hr.allocated e he

/-- What is released leaves the store. -/
theorem release (hg : Entries.get? h r.live = some o) :
    Represents (r.release h).2 heap { s with live := Entries.erase h s.live } := by
  have hrel : (r.release h).2 = { r with live := Entries.erase h r.live } := by
    rw [Registry.release, hg]
  have hsub : ∀ e ∈ Entries.erase h r.live, e ∈ r.live := fun e he => (Entries.mem_erase.1 he).1
  have hlab := hr.labelled.release h
  rw [hrel] at hlab ⊢
  exact ⟨hr.issued, by rw [hr.live, Entries.erase_mapValues], hlab,
    Entries.nodup_keys_erase h hr.nodup, fun e he => hr.typed e (hsub e he),
    fun e he => hr.allocated e (hsub e he),
    fun e he e' he' => hr.apart e (hsub e he) e' (hsub e' he')⟩

/-- When all objects are forgotten the store is empty. -/
theorem clear : Represents r.clear.2 heap { s with live := [] } :=
  ⟨hr.issued, rfl, Registry.Labelled.clear, List.nodup_nil, fun _ he => absurd he List.not_mem_nil,
    fun _ he => absurd he List.not_mem_nil, fun _ he => absurd he List.not_mem_nil⟩

end Represents

/-- Nothing represents the empty store. -/
theorem represents_empty : Represents {} {} {} :=
  ⟨rfl, rfl, Registry.labelled_empty, List.nodup_nil, fun _ he => absurd he List.not_mem_nil,
    fun _ he => absurd he List.not_mem_nil, fun _ he => absurd he List.not_mem_nil⟩

end Testbed
