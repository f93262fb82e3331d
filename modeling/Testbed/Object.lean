import Testbed.Handle
import Testbed.Json.Value

/-!
# Live objects

An object is known by its identity: two handles may name one object, and what is
written through the one is read through the other. Its concrete type is more than
its tag: two types may share a tag, and only an object of the right type can be used
as one.

The heap holds what is inside the objects: the entries of a dictionary, the items of
an array, and nothing that can be seen of the others.
-/

namespace Testbed

/-- A concrete type of objects. -/
structure ObjectType where
  /-- The name that tells the type from others. -/
  name : String
  /-- The kind that drivers see. -/
  tag : Tag
  deriving DecidableEq, Repr

/-- The type of dictionaries. -/
def ObjectType.dictionary : ObjectType := ⟨"dictionary", ⟨"dictionary"⟩⟩

/-- The type of arrays. -/
def ObjectType.array : ObjectType := ⟨"array", ⟨"array"⟩⟩

/-- An object: its identity and its type. -/
structure Object where
  /-- The identity. -/
  id : Nat
  /-- The concrete type. -/
  type : ObjectType
  deriving DecidableEq, Repr

/-- The kind of an object. -/
def Object.tag (o : Object) : Tag := o.type.tag

/-- An object with the handle under which it is registered. -/
structure LiveObject where
  /-- The handle. -/
  handle : Handle
  /-- The object. -/
  object : Object
  deriving DecidableEq, Repr

namespace LiveObject

/-- The kind of a live object. -/
def tag (o : LiveObject) : Tag := o.object.tag

/-- The object, if it is of the given type; another tag or another concrete type is a
    mismatch. -/
def as (type : ObjectType) (o : LiveObject) : Except HandleError Object :=
  if o.object.type = type then .ok o.object
  else .error (.typeMismatch o.handle type.tag o.tag)

end LiveObject

/-- What is inside an object. -/
inductive Contents
  /-- Nothing that can be seen. -/
  | hidden
  /-- The entries of a dictionary. -/
  | dictionary (entries : Json.Object)
  /-- The items of an array. -/
  | array (items : List Json.Value)
  deriving Inhabited

/-- The entries of a dictionary. -/
def Contents.entries : Contents → Json.Object
  | dictionary entries => entries
  | _ => []

/-- The items of an array. -/
def Contents.items : Contents → List Json.Value
  | array items => items
  | _ => []

/-- The insides of all objects made so far, by identity. -/
structure Heap where
  /-- The insides. -/
  cells : Array Contents := #[]

namespace Heap

/-- What is inside an object. -/
def contents (o : Object) (h : Heap) : Contents := h.cells[o.id]?.getD .hidden

/-- A new object of a type, with its insides. -/
def allocate (type : ObjectType) (c : Contents) (h : Heap) : Object × Heap :=
  (⟨h.cells.size, type⟩, ⟨h.cells.push c⟩)

/-- Replaces what is inside an object. -/
def store (o : Object) (c : Contents) (h : Heap) : Heap := ⟨h.cells.setIfInBounds o.id c⟩

end Heap

end Testbed
