import Testbed.Method.Builtin
import Testbed.Method.Collections
import Testbed.Dispatcher
import Testbed.Proofs.Argument.Nesting
import Testbed.Proofs.Program

/-!
# How deep what is kept nests

As long as what drivers store nests at most so deep, so does everything in a collection: no
method puts one stored value into another (`Heap.FitsIn`). What a method yields nests at most one
level deeper, where it is all the entries of a dictionary, and the response around it adds
another one.

* `keeps_builtin`, `keeps_collections`: what the methods keep and yield;
* `keeps_respond`: what is told of it.
-/

namespace Testbed

open Argument Protocol Json Method

variable {σ α : Type} {n : Nat}

/-! ## What is kept -/

/-- What is inside an object nests at most so deep, with finite numbers. -/
structure Contents.FitsIn (n : Nat) (c : Contents) : Prop where
  entries : ∀ e ∈ c.entries, e.2.FitsIn n
  items : ∀ v ∈ c.items, v.FitsIn n

theorem Contents.fitsIn_hidden : hidden.FitsIn n :=
  ⟨fun _ he => absurd he List.not_mem_nil, fun _ hv => absurd hv List.not_mem_nil⟩

theorem Contents.fitsIn_dictionary {entries : Json.Object} (h : ∀ e ∈ entries, e.2.FitsIn n) :
    (dictionary entries).FitsIn n :=
  ⟨h, fun _ hv => absurd hv List.not_mem_nil⟩

theorem Contents.fitsIn_array {items : List Value} (h : ∀ v ∈ items, v.FitsIn n) :
    (array items).FitsIn n :=
  ⟨fun _ he => absurd he List.not_mem_nil, h⟩

/-- What is inside all objects nests at most so deep, with finite numbers. -/
def Heap.FitsIn (n : Nat) (h : Heap) : Prop := ∀ c ∈ h.cells, c.FitsIn n

namespace Heap.FitsIn

variable {h : Heap} {c : Contents}

theorem contents (hh : h.FitsIn n) (o : Object) : (h.contents o).FitsIn n := by
  rw [Heap.contents]
  cases hc : h.cells[o.id]? with
  | none => exact Contents.fitsIn_hidden
  | some c => exact hh c (Array.mem_of_getElem? hc)

theorem allocate (hh : h.FitsIn n) (hc : c.FitsIn n) (type : ObjectType) :
    (h.allocate type c).2.FitsIn n := by
  intro c' hc'
  rcases Array.mem_push.1 hc' with hold | rfl
  · exact hh c' hold
  · exact hc

theorem store (hh : h.FitsIn n) (hc : c.FitsIn n) (o : Object) : (h.store o c).FitsIn n := by
  intro c' hc'
  rcases Array.mem_or_eq_of_mem_setIfInBounds hc' with hold | rfl
  · exact hh c' hold
  · exact hc

end Heap.FitsIn

/-- What is inside the objects of a world nests at most so deep, with finite numbers. -/
def World.FitsIn (n : Nat) (w : World σ) : Prop := w.heap.FitsIn n

/-! ## What is yielded and told -/

/-- A value that is yielded nests at most so deep, with finite numbers. -/
inductive Protocol.Outcome.FitsIn (n : Nat) : Except Failure Outcome → Prop
  | failed (e : Failure) : FitsIn n (.error e)
  | void : FitsIn n (.ok .void)
  | value {v : Value} (h : v.FitsIn n) : FitsIn n (.ok (.value v))
  | object (o : Object) : FitsIn n (.ok (.object o))

/-- What is told of a response nests at most so deep, with finite numbers. -/
def Protocol.Response.FitsIn (n : Nat) (r : Response) : Prop := r.json.FitsIn n

namespace Protocol.Response

/-- Around a value, what is told of a response is one level. -/
theorem fitsIn_value {v : Value} (h : v.FitsIn n) : FitsIn (n + 1) (.ok (.value v)) := by
  refine Value.fitsIn_object_iff.2 ?_
  simp only [List.forall_mem_cons]
  exact ⟨Value.fitsIn_string _, Value.fitsIn_string _, h, fun _ he => absurd he List.not_mem_nil⟩

theorem fitsIn_void : FitsIn (n + 1) (.ok .void) := by
  refine Value.fitsIn_object_iff.2 ?_
  simp only [List.forall_mem_cons]
  exact ⟨Value.fitsIn_string _, Value.fitsIn_string _, fun _ he => absurd he List.not_mem_nil⟩

theorem fitsIn_handle (h : Handle) (tag : Tag) : FitsIn (n + 1) (.ok (.handle h tag)) := by
  refine Value.fitsIn_object_iff.2 ?_
  simp only [List.forall_mem_cons]
  exact ⟨Value.fitsIn_string _, Value.fitsIn_string _, Value.fitsIn_string _,
    fun _ he => absurd he List.not_mem_nil⟩

theorem fitsIn_error (e : Failure) : FitsIn (n + 1) (.error e) := by
  refine Value.fitsIn_object_iff.2 ?_
  simp only [List.forall_mem_cons]
  exact ⟨Value.fitsIn_string _, Value.fitsIn_string _, Value.fitsIn_string _,
    fun _ he => absurd he List.not_mem_nil⟩

end Protocol.Response

/-! ## Commands -/

namespace Action

/-- What leaves the insides of all objects alone keeps how deep they nest. -/
theorem keeps_issue {c : Command σ} (h : ∀ w, (World.perform c w).2.heap = w.heap) :
    Program.Keeps World.perform (World.FitsIn n) (Program.issue c) fun _ => True :=
  fun w hw => ⟨(congrArg (Heap.FitsIn n) (h w)).mpr hw, trivial⟩

theorem keeps_release (h : Handle) :
    (release h : Action σ _).Keeps World.perform (World.FitsIn n) fun _ => True := by
  refine keeps_issue fun w => ?_
  rw [World.perform]
  split
  · rfl
  · rfl

theorem keeps_contents (o : Object) :
    (contents o : Action σ _).Keeps World.perform (World.FitsIn n) (Contents.FitsIn n) :=
  fun _ hw => ⟨hw, hw.contents o⟩

theorem keeps_create (type : ObjectType) {c : Contents} (hc : c.FitsIn n) :
    (create type c : Action σ _).Keeps World.perform (World.FitsIn n) fun _ => True :=
  fun _ hw => ⟨hw.allocate hc type, trivial⟩

theorem keeps_store (o : Object) {c : Contents} (hc : c.FitsIn n) :
    (store o c : Action σ _).Keeps World.perform (World.FitsIn n) fun _ => True :=
  fun _ hw => ⟨hw.store hc o, trivial⟩

end Action

namespace Method

open Program (keeps_pure)
open Outcome (FitsIn)

/-! ## Handlers -/

theorem keeps_builtin {m : Method σ} (hm : m ∈ Builtin.table) (arguments : Arguments) :
    (m.handler arguments).Keeps World.perform (World.FitsIn n) (FitsIn (n + 1)) := by
  rcases List.mem_cons.1 hm with rfl | hm
  case inl =>
    change (Builtin.release arguments).Keeps World.perform (World.FitsIn n) (FitsIn (n + 1))
    rw [Builtin.release]
    cases arguments.liveObject "object" with
    | error e => exact keeps_pure (.failed _)
    | ok o =>
      refine (Action.keeps_release o.handle).bind fun released _ => ?_
      cases released with
      | error e => exact keeps_pure (.failed _)
      | ok tag => exact (Action.keeps_issue fun _ => rfl).bind fun _ _ => keeps_pure .void
  obtain rfl := List.mem_singleton.1 hm
  exact (Action.keeps_issue fun _ => rfl).bind fun dropped _ =>
    keeps_pure (.value (Value.fitsIn_number (isFinite_ofNat dropped)))

namespace Collections

theorem fitsIn_storedValue {a : Arguments} (h : a.FitsIn n) (name : String) :
    (storedValue name a).FitsIn n := by
  rw [storedValue]
  cases hv : a.get? name with
  | none => exact Value.fitsIn_null
  | some v => exact h.get? hv

theorem keeps_entries (o : Object) :
    (entries o : Action σ _).Keeps World.perform (World.FitsIn n)
      fun held => ∀ e ∈ held, e.2.FitsIn n :=
  (Action.keeps_contents o).bind fun _ hc => keeps_pure hc.entries

theorem keeps_items (o : Object) :
    (items o : Action σ _).Keeps World.perform (World.FitsIn n)
      fun held => ∀ v ∈ held, v.FitsIn n :=
  (Action.keeps_contents o).bind fun _ hc => keeps_pure hc.items

theorem keeps_withObject {type : ObjectType} {name : String} {arguments : Arguments}
    {next : Object → Action σ (Except Failure Outcome)}
    (h : ∀ o, (next o).Keeps World.perform (World.FitsIn n) (FitsIn (n + 1))) :
    (withObject type name arguments next).Keeps World.perform (World.FitsIn n)
      (FitsIn (n + 1)) := by
  rw [withObject]
  cases arguments.object type name with
  | error e => exact keeps_pure (.failed _)
  | ok o => exact h o

variable {arguments : Arguments}

theorem keeps_dictionaryCreate (ha : arguments.FitsIn n) :
    (dictionaryCreate arguments : Action σ _).Keeps World.perform (World.FitsIn n)
      (FitsIn (n + 1)) := by
  rw [dictionaryCreate]
  cases hc : arguments.mapping? "content" with
  | error e => exact keeps_pure (.failed _)
  | ok content =>
    -- The entries of the argument become those of the object, one level less deep.
    have hcontent := Contents.fitsIn_dictionary fun e he =>
      (ha.mapping? hc e he).mono (Nat.sub_le n 1)
    exact (Action.keeps_create .dictionary hcontent).bind fun o _ => keeps_pure (.object o)

theorem keeps_dictionarySetValue (ha : arguments.FitsIn n) :
    (dictionarySetValue arguments : Action σ _).Keeps World.perform (World.FitsIn n)
      (FitsIn (n + 1)) := by
  refine keeps_withObject fun o => ?_
  cases arguments.string "key" with
  | error e => exact keeps_pure (.failed _)
  | ok key =>
    refine (keeps_entries o).bind fun held hheld => ?_
    refine (Action.keeps_store o (Contents.fitsIn_dictionary fun e he => ?_)).bind fun _ _ =>
      keeps_pure .void
    rcases Entries.mem_put he with rfl | hold
    · exact fitsIn_storedValue ha "value"
    · exact hheld e hold

theorem keeps_dictionaryGetValue :
    (dictionaryGetValue arguments : Action σ _).Keeps World.perform (World.FitsIn n)
      (FitsIn (n + 1)) := by
  refine keeps_withObject fun o => ?_
  cases arguments.string "key" with
  | error e => exact keeps_pure (.failed _)
  | ok key =>
    refine (keeps_entries o).bind fun held hheld => keeps_pure (.value ?_)
    cases hv : Entries.get? key held with
    | none => exact Value.fitsIn_null
    | some v => exact (hheld _ (Entries.mem_of_get? hv)).mono (Nat.le_succ n)

theorem keeps_arrayCreate (ha : arguments.FitsIn n) :
    (arrayCreate arguments : Action σ _).Keeps World.perform (World.FitsIn n)
      (FitsIn (n + 1)) := by
  rw [arrayCreate]
  cases hc : arguments.sequence? "content" with
  | error e => exact keeps_pure (.failed _)
  | ok content =>
    have hcontent := Contents.fitsIn_array fun v hv =>
      (ha.sequence? hc v hv).mono (Nat.sub_le n 1)
    exact (Action.keeps_create .array hcontent).bind fun o _ => keeps_pure (.object o)

theorem keeps_arrayAddValue (ha : arguments.FitsIn n) :
    (arrayAddValue arguments : Action σ _).Keeps World.perform (World.FitsIn n)
      (FitsIn (n + 1)) := by
  refine keeps_withObject fun o => (keeps_items o).bind fun held hheld => ?_
  refine (Action.keeps_store o (Contents.fitsIn_array fun v hv => ?_)).bind fun _ _ =>
    keeps_pure .void
  rcases List.mem_append.1 hv with hold | hnew
  · exact hheld v hold
  · exact List.mem_singleton.1 hnew ▸ fitsIn_storedValue ha "value"

theorem keeps_arrayGetValue :
    (arrayGetValue arguments : Action σ _).Keeps World.perform (World.FitsIn n)
      (FitsIn (n + 1)) := by
  refine keeps_withObject fun o => ?_
  cases arguments.natural "index" with
  | error e => exact keeps_pure (.failed _)
  | ok index =>
    refine (keeps_items o).bind fun held hheld => ?_
    cases hv : held[index]? with
    | none => exact keeps_pure (.failed _)
    | some v =>
      exact keeps_pure (.value ((hheld v (List.mem_of_getElem? hv)).mono (Nat.le_succ n)))

/-- Where the arguments fit, so does what is kept, and what is yielded is at most one level
    around it. -/
theorem keeps_collections {m : Method σ} (hm : m ∈ Collections.table) (ha : arguments.FitsIn n) :
    (m.handler arguments).Keeps World.perform (World.FitsIn n) (FitsIn (n + 1)) := by
  have hcount : ∀ count : Nat, FitsIn (n + 1) (.ok (.value (.ofNat count))) := fun count =>
    .value (Value.fitsIn_number (isFinite_ofNat count))
  -- All but the entries of a dictionary are yielded as they are kept.
  simp only [Collections.table, List.mem_cons, List.not_mem_nil, or_false] at hm
  rcases hm with rfl | rfl | rfl | rfl | rfl | rfl | rfl | rfl | rfl
  · exact keeps_dictionaryCreate ha
  · exact keeps_dictionarySetValue ha
  · exact keeps_dictionaryGetValue
  · exact keeps_withObject fun o => (keeps_entries o).bind fun held _ =>
      keeps_pure (hcount held.length)
  · exact keeps_withObject fun o => (keeps_entries o).bind fun held hheld =>
      keeps_pure (.value (Value.fitsIn_object_iff.2 hheld))
  · exact keeps_arrayCreate ha
  · exact keeps_arrayAddValue ha
  · exact keeps_arrayGetValue
  · exact keeps_withObject fun o => (keeps_items o).bind fun held _ =>
      keeps_pure (hcount held.length)

end Collections

theorem keeps_respond {outcome : Except Failure Outcome} (h : FitsIn (n + 1) outcome) :
    (Dispatcher.respond outcome : Action σ _).Keeps World.perform (World.FitsIn n)
      (Response.FitsIn (n + 2)) := by
  cases h with
  | failed e => exact keeps_pure (Response.fitsIn_error e)
  | void => exact keeps_pure Response.fitsIn_void
  | value h => exact keeps_pure (Response.fitsIn_value h)
  | object o =>
    exact (Action.keeps_issue fun _ => rfl).bind fun handle _ =>
      keeps_pure (Response.fitsIn_handle handle o.tag)

end Method

end Testbed
