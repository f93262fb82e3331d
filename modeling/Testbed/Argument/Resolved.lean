import Testbed.Object

/-!
# Resolved arguments

An argument after its markers have been replaced by the live objects they name. The
shape is that of the JSON value; `Resolved.toJson` turns it back, a live object
becoming its marker. `Resolved.outline` tells of every part what it was taken for.
-/

namespace Testbed.Argument

open Json

/-- A resolved value. -/
inductive Resolved
  | null
  | boolean (b : Bool)
  | number (x : Number)
  | string (s : String)
  | object (o : LiveObject)
  | sequence (items : List Resolved)
  | mapping (entries : List (String × Resolved))
  deriving Inhabited

namespace Resolved

/-- Whether the value is `null`. -/
def isNull : Resolved → Bool
  | null => true
  | _ => false

/-- The name of the value's shape; of a live object, its tag. -/
def kindName : Resolved → String
  | null => "null"
  | boolean _ => "boolean"
  | number _ => "number"
  | string _ => "string"
  | object o => o.tag.name
  | sequence _ => "sequence"
  | mapping _ => "mapping"

mutual

/-- The value in JSON, a live object as its marker. -/
def toJson : Resolved → Value
  | null => .null
  | boolean b => .boolean b
  | number x => .number x
  | string s => .string s
  | object o => .string o.handle.marker
  | sequence items => .array (itemsToJson items)
  | mapping entries => .object (entriesToJson entries)

/-- Items in JSON. -/
def itemsToJson : List Resolved → List Value
  | [] => []
  | v :: r => toJson v :: itemsToJson r

/-- Entries in JSON. -/
def entriesToJson : List (String × Resolved) → List (String × Value)
  | [] => []
  | (k, v) :: r => (k, toJson v) :: entriesToJson r

end

/-- A part of an outline: what a value was taken for, and what it holds. -/
def part (kind : String) (v : Value) : Value := .array [.string kind, v]

mutual

/-- The value in JSON with the kind of every part; the kind of a live object is its tag. -/
def outline : Resolved → Value
  | null => .array [.string "null"]
  | boolean b => part "boolean" (.boolean b)
  | number x => part "number" (.string x.text)
  | string s => part "string" (.string s)
  | object o =>
    part o.tag.name (.object [("handle", .string o.handle.marker), ("tag", .string o.tag.name)])
  | sequence items => part "sequence" (.array (outlineItems items))
  | mapping entries => part "mapping" (.array (outlineEntries entries))

/-- The outlines of items. -/
def outlineItems : List Resolved → List Value
  | [] => []
  | v :: r => outline v :: outlineItems r

/-- The names and outlines of entries. -/
def outlineEntries : List (String × Resolved) → List Value
  | [] => []
  | (k, v) :: r => part k (outline v) :: outlineEntries r

end

end Resolved

end Testbed.Argument
