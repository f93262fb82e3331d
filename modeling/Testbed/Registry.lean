import Testbed.Object

/-!
# The registry of live objects

The registry keeps objects alive for a driver and hands out handles that name them.
Handles are counted up from one and never issued twice, so a handle whose object was
released names nothing from then on.
-/

namespace Testbed

/-- The registered objects. -/
structure Registry where
  /-- The number of the last handle issued. -/
  lastIssued : UInt64 := 0
  /-- The live objects, by handle. -/
  live : Entries Handle LiveObject := []
  deriving DecidableEq

namespace Registry

/-- Keeps an object under a fresh handle. -/
def register (object : Object) (r : Registry) : Handle × Registry :=
  let handle : Handle := ⟨r.lastIssued + 1⟩
  (handle, ⟨handle.number, Entries.put handle ⟨handle, object⟩ r.live⟩)

/-- The object that a handle names. -/
def resolve (handle : Handle) (r : Registry) : Except HandleError LiveObject :=
  match Entries.get? handle r.live with
  | some object => .ok object
  | none => .error (.unknown handle)

/-- The object that a handle names, as an object of the given type. -/
def resolveAs (type : ObjectType) (handle : Handle) (r : Registry) : Except HandleError Object :=
  match r.resolve handle with
  | .ok object => object.as type
  | .error e => .error e

/-- Forgets the object that a handle names, and tells its kind. -/
def release (handle : Handle) (r : Registry) : Except HandleError Tag × Registry :=
  match Entries.get? handle r.live with
  | some object => (.ok object.tag, { r with live := Entries.erase handle r.live })
  | none => (.error (.unknown handle), r)

/-- Whether a handle names an object. -/
def contains (handle : Handle) (r : Registry) : Bool := Entries.contains handle r.live

/-- The number of live objects. -/
def size (r : Registry) : Nat := r.live.length

/-- Forgets all objects, and tells how many there were. -/
def clear (r : Registry) : Nat × Registry := (r.size, { r with live := [] })

end Registry

end Testbed
