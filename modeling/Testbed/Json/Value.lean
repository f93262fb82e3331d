import Testbed.Entries
import Testbed.Json.Number

/-!
# JSON values

The values that requests carry, that collections hold and that replies return.
An object is a map in insertion order, so its keys print in the order they came.
-/

namespace Testbed.Json

/-- A JSON value. -/
inductive Value
  | null
  | boolean (b : Bool)
  | number (x : Number)
  | string (s : String)
  | array (items : List Value)
  | object (entries : List (String × Value))
  deriving Inhabited

/-- The entries of a JSON object. -/
abbrev Object := Entries String Value

namespace Value

/-- Whether the value is `null`. -/
def isNull : Value → Bool
  | .null => true
  | _ => false

/-- The integer `n` as a value. -/
def ofNat (n : Nat) : Value := .number (.ofNat n)

mutual

/-- How deep arrays and objects nest in a value; a scalar nests to depth zero. -/
def depth : Value → Nat
  | .array items => depthItems items + 1
  | .object entries => depthEntries entries + 1
  | _ => 0

/-- The greatest depth among items. -/
def depthItems : List Value → Nat
  | [] => 0
  | v :: r => max (depth v) (depthItems r)

/-- The greatest depth among the values of entries. -/
def depthEntries : List (String × Value) → Nat
  | [] => 0
  | (_, v) :: r => max (depth v) (depthEntries r)

end

end Value

end Testbed.Json
