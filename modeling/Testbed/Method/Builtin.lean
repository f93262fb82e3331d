import Testbed.Method.Basic

/-!
# Built-in methods

The methods that every dispatcher has: `release` forgets one object, `flushMemory` all
of them.
-/

namespace Testbed.Method.Builtin

variable {σ : Type}

/-- What is told of an object released by a driver. -/
def releasedByDriver (handle : Handle) (tag : Tag) : Entry :=
  .record ⟨.debug, Log.dispatchTarget, "released object",
    [("handle", .shown handle.marker), ("tag", .shown tag.name)]⟩

/-- Forgets the object given as `object`. -/
def release : Handler σ := fun arguments =>
  match arguments.liveObject "object" with
  | .error e => pure (.error (.argument e))
  | .ok live => do
    match ← Action.release live.handle with
    | .error e => pure (.error (.handle e))
    | .ok tag => do
      Action.tell (releasedByDriver live.handle tag)
      pure (.ok .void)

/-- Forgets all objects, and tells how many there were. -/
def flushMemory : Handler σ := fun _ => do
  let dropped ← Action.clear
  pure (.ok (.value (.ofNat dropped)))

/-- The built-in methods. -/
def table : Table σ := [
  ⟨"release", [⟨"object", .anyObject, true⟩], release⟩,
  ⟨"flushMemory", [], flushMemory⟩]

end Testbed.Method.Builtin
