import Testbed.Json.Value
import Testbed.Text.Quoted

/-!
# JSON of another shape

The complaints about a JSON value that is well formed and not what was asked for.
-/

namespace Testbed.Json.Unexpected

/-- A number as described in a complaint. -/
def describeNumber (x : Number) : String :=
  (if x.isInteger then "integer `" else "floating point `") ++ x.text ++ "`"

/-- A value as described in a complaint: scalars with what they are, the others by their
    shape. -/
def describe : Value → String
  | .null => "null"
  | .boolean true => "boolean `true`"
  | .boolean false => "boolean `false`"
  | .number x => describeNumber x
  | .string s => "string " ++ Text.quote s
  | .array _ => "sequence"
  | .object _ => "map"

/-- The complaint about a value where `expected` was asked for. -/
def complaint (v : Value) (expected : String) : String :=
  "invalid type: " ++ describe v ++ ", expected " ++ expected

/-- The complaint about a number that is of the right type and not within `expected`. -/
def outside (x : Number) (expected : String) : String :=
  "invalid value: " ++ describeNumber x ++ ", expected " ++ expected

/-- The complaint about an object that gives an entry twice. -/
def duplicateField (name : String) : String := "duplicate field `" ++ name ++ "`"

/-- The complaint about a list of another length. -/
def length (found : Nat) (expected : String) : String :=
  "invalid length " ++ toString found ++ ", expected " ++ expected

/-- The complaint about an absent entry. -/
def missingField (name : String) : String := "missing field `" ++ name ++ "`"

/-- The complaint about a name that is none of those that are `expected`. -/
def unknownVariant (name expected : String) : String :=
  "unknown variant `" ++ name ++ "`, expected " ++ expected

end Testbed.Json.Unexpected
