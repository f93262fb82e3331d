import Testbed.Method.Builtin
import Testbed.Method.Router

/-!
# The dispatcher

A request is served in four steps: the method is looked up, its arguments are resolved
against the registry, the handler runs, and an object that it yields is registered so
that the driver gets a handle. The first two fail before the handler runs and leave no
trace.
-/

namespace Testbed

open Method Protocol

variable {σ : Type}

/-- What serves requests: the router, and the world it acts on. -/
structure Dispatcher (σ : Type) where
  /-- The installed methods. -/
  router : Router σ
  /-- The world. -/
  world : World σ

namespace Dispatcher

/-- Tells several things in order. -/
def tellAll (entries : List Entry) (w : World σ) : World σ := entries.foldl (fun w e => w.tell e) w

/-- Adds the methods of a feature, and tells of it. -/
def install (d : Dispatcher σ) (feature : Feature σ) : Dispatcher σ :=
  let (router, replaced) := d.router.extend feature.table
  let summary : Entry :=
    .record ⟨.info, Log.dispatchTarget, "installed feature",
      [("feature", .text feature.name), ("methods", .number feature.table.length),
        ("replaced", .number replaced.length)]⟩
  ⟨router, tellAll (Router.extension feature.table replaced ++ [summary]) d.world⟩

/-- A dispatcher with the built-in methods and features, in order. -/
def build (features : List (Feature σ)) (w : World σ) : Dispatcher σ :=
  match ({} : Router σ).installBuiltin Builtin.table with
  | some (router, told) => features.foldl install ⟨router, tellAll told w⟩
  -- A router that is new takes the built-in methods.
  | none => features.foldl install ⟨{}, w⟩

/-- What is told of a handler that is about to run. -/
def invoking (method : String) (arguments : Argument.Arguments) : Entry :=
  .record ⟨.debug, Log.dispatchTarget, "invoking handler",
    [("method", .text method), ("arguments", .number arguments.values.length)]⟩

/-- What the driver is told of an outcome: an object is registered. -/
def reply : Outcome → Action σ Reply
  | .void => pure .void
  | .value v => pure (.value v)
  | .object o => do
    let handle ← Action.register o
    pure (.handle handle o.tag)

/-- What follows the handler. -/
def respond : Except Failure Outcome → Action σ Response
  | .error e => pure (.error e)
  | .ok outcome => do
    let r ← reply outcome
    pure (.ok r)

/-- Serves a method whose arguments are resolved. -/
def invoke (m : Method σ) (name : String) (arguments : Argument.Arguments) :
    Action σ Response := do
  Action.tell (invoking name arguments)
  let outcome ← m.handler arguments
  respond outcome

/-- Serves a request. -/
def dispatch (method : String) (bag : Argument.Bag) (d : Dispatcher σ) :
    Response × Dispatcher σ :=
  match d.router.lookup method with
  | .error e => (.error e, d)
  | .ok m =>
    match Argument.resolve d.world.registry m.signature bag with
    | .error e => (.error (.argument e), d)
    | .ok arguments =>
      let (response, world) := (invoke m method arguments).run d.world
      (response, { d with world })

/-- What is told when objects were left. -/
def releasedRemaining (count : Nat) : Entry :=
  .record ⟨.info, Log.dispatchTarget, "released remaining objects", [("released", .number count)]⟩

/-- Forgets all objects, and tells how many there were. -/
def releaseAll (d : Dispatcher σ) : Nat × Dispatcher σ :=
  let (count, world) := Action.clear.run d.world
  (count, { d with world := if 0 < count then world.tell (releasedRemaining count) else world })

end Dispatcher

end Testbed
