import Testbed.Journal
import Testbed.Program
import Testbed.Registry

/-!
# The world of a method

What a method acts on: the registry of live objects, what is inside the objects, the
state of the feature that the method belongs to, and the journal. A method is a
program (`Action`) and reaches the world by commands alone, so it can neither invent a
handle nor bring a released one back.
-/

namespace Testbed

/-- What methods act on, with the state `σ` of the features. -/
structure World (σ : Type) where
  /-- The live objects. -/
  registry : Registry := {}
  /-- What is inside objects. -/
  heap : Heap := {}
  /-- The state of the features. -/
  state : σ
  /-- What has been told so far. -/
  journal : Journal := #[]

/-- What a method may ask of the world. -/
inductive Command (σ : Type)
  /-- Keep an object under a fresh handle. -/
  | register (object : Object)
  /-- Look up a handle. -/
  | resolve (handle : Handle)
  /-- Forget the object of a handle. -/
  | release (handle : Handle)
  /-- Forget all objects. -/
  | clear
  /-- Whether a handle names an object. -/
  | contains (handle : Handle)
  /-- How many objects there are. -/
  | size
  /-- Make a new object, which nobody has a handle of. -/
  | create (type : ObjectType) (contents : Contents)
  /-- Look inside an object. -/
  | contents (object : Object)
  /-- Replace what is inside an object. -/
  | store (object : Object) (contents : Contents)
  /-- Read the state of the features. -/
  | state
  /-- Replace the state of the features. -/
  | setState (state : σ)
  /-- Tell something. -/
  | tell (entry : Entry)

/-- What the world answers to a command. -/
def Command.Answer {σ : Type} : Command σ → Type
  | register _ => Handle
  | resolve _ => Except HandleError LiveObject
  | release _ => Except HandleError Tag
  | clear => Nat
  | contains _ => Bool
  | size => Nat
  | create _ _ => Object
  | contents _ => Contents
  | store _ _ => Unit
  | state => σ
  | setState _ => Unit
  | tell _ => Unit

/-- What a method does: a program of commands to the world. -/
abbrev Action (σ : Type) (α : Type) := Program (Command σ) Command.Answer α

namespace World

variable {σ : Type}

/-- Tells something. -/
def tell (e : Entry) (w : World σ) : World σ := { w with journal := w.journal.push e }

/-- What is told of a registration. -/
def registered (handle : Handle) (object : Object) : Entry :=
  .record ⟨.debug, Log.handlesTarget, "registered object",
    [("handle", .shown handle.marker), ("tag", .text object.tag.name)]⟩

/-- What is told of a release. -/
def released (handle : Handle) (tag : Tag) : Entry :=
  .record ⟨.debug, Log.handlesTarget, "released object",
    [("handle", .shown handle.marker), ("tag", .text tag.name)]⟩

/-- What is told when all objects are forgotten. -/
def cleared (count : Nat) : Entry :=
  .record ⟨.debug, Log.handlesTarget, "released all objects", [("count", .number count)]⟩

/-- Carries out a command. -/
def perform : (c : Command σ) → World σ → c.Answer × World σ
  | .register object, w =>
    let (handle, registry) := w.registry.register object
    (handle, { w with registry }.tell (registered handle object))
  | .resolve handle, w => (w.registry.resolve handle, w)
  | .release handle, w =>
    match w.registry.release handle with
    | (.ok tag, registry) => (.ok tag, { w with registry }.tell (released handle tag))
    | (.error e, _) => (.error e, w)
  | .clear, w =>
    let (count, registry) := w.registry.clear
    (count, { w with registry }.tell (cleared count))
  | .contains handle, w => (w.registry.contains handle, w)
  | .size, w => (w.registry.size, w)
  | .create type contents, w =>
    let (object, heap) := w.heap.allocate type contents
    (object, { w with heap })
  | .contents object, w => (w.heap.contents object, w)
  | .store object contents, w => ((), { w with heap := w.heap.store object contents })
  | .state, w => (w.state, w)
  | .setState state, w => ((), { w with state })
  | .tell e, w => ((), w.tell e)

end World

namespace Action

variable {σ α : Type}

/-- Keeps an object under a fresh handle. -/
def register (o : Object) : Action σ Handle := Program.issue (Command.register o)

/-- Looks up a handle. -/
def resolve (h : Handle) : Action σ (Except HandleError LiveObject) :=
  Program.issue (Command.resolve h)

/-- Forgets the object of a handle. -/
def release (h : Handle) : Action σ (Except HandleError Tag) := Program.issue (Command.release h)

/-- Forgets all objects, and tells how many there were. -/
def clear : Action σ Nat := Program.issue Command.clear

/-- Whether a handle names an object. -/
def contains (h : Handle) : Action σ Bool := Program.issue (Command.contains h)

/-- How many objects there are. -/
def size : Action σ Nat := Program.issue Command.size

/-- Makes a new object. -/
def create (type : ObjectType) (c : Contents) : Action σ Object :=
  Program.issue (Command.create type c)

/-- Looks inside an object. -/
def contents (o : Object) : Action σ Contents := Program.issue (Command.contents o)

/-- Replaces what is inside an object. -/
def store (o : Object) (c : Contents) : Action σ Unit := Program.issue (Command.store o c)

/-- Reads the state of the features. -/
def state : Action σ σ := Program.issue Command.state

/-- Replaces the state of the features. -/
def setState (s : σ) : Action σ Unit := Program.issue (Command.setState s)

/-- Tells something. -/
def tell (e : Entry) : Action σ Unit := Program.issue (Command.tell e)

/-- Carries out an action. -/
def run (a : Action σ α) (w : World σ) : α × World σ := Program.run World.perform a w

end Action

end Testbed
