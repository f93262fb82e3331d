import Testbed.Config.Shape

/-!
# Layers of configuration

A configuration is put together from layers, each a JSON value: a later layer goes over
an earlier one, entry by entry where both are objects. Without any layer there is
nothing to read a configuration from.
-/

namespace Testbed.Config.Layer

open Json

mutual

/-- A value over another one. -/
def overlay (below : Value) : Value → Value
  | .object entries =>
    match below with
    | .object held => .object (overEntries held entries)
    | _ => .object entries
  | v => v

/-- Entries over others. -/
def overEntries (held : List (String × Value)) : List (String × Value) → List (String × Value)
  | [] => held
  | (key, v) :: r =>
    overEntries (Entries.put key (overlay ((Entries.get? key held).getD .null) v) held) r

end

/-- Layers over each other, the first one at the bottom. -/
def merge (layers : List Value) : Value := layers.foldl overlay .null

end Testbed.Config.Layer
