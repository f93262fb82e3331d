import Testbed.Entries

/-!
# Handles

A live object never crosses the wire: the driver receives a handle, the number
under which the object was registered, and names the object by the marker `@n` in
later requests.

* `Handle.marker` and `Handle.ofMarker?`: a handle as a marker, and the handle that
  a text stands for; the text may fill the number with leading zeros;
* `HandleError`: why a handle did not lead to an object.
-/

namespace Testbed

/-- The number that names a registered object. -/
structure Handle where
  /-- The number. -/
  number : UInt64
  deriving DecidableEq, Repr

/-- The kind of an object, as drivers and signatures know it. -/
structure Tag where
  /-- The name of the kind. -/
  name : String
  deriving DecidableEq, Repr

namespace Handle

/-- The text by which a driver names the object. -/
def marker (h : Handle) : String := "@" ++ toString h.number.toNat

/-- An ASCII digit. -/
def isDigit (c : Char) : Bool := '0' ≤ c && c ≤ '9'

/-- The number that decimal digits denote, after those already read. -/
def decimalFrom : (read : Nat) → List Char → Nat
  | n, [] => n
  | n, c :: r => decimalFrom (n * 10 + (c.toNat - '0'.toNat)) r

/-- The number that decimal digits denote. -/
def decimal (digits : List Char) : Nat := decimalFrom 0 digits

/-- The handle that a text names: an `@` and then decimal digits, at least one, that
    denote a number below `2 ^ 64`. -/
def ofMarker? (text : String) : Option Handle :=
  match text.toList with
  | '@' :: digits =>
    if digits ≠ [] ∧ digits.all isDigit ∧ decimal digits < UInt64.size then
      some ⟨UInt64.ofNat (decimal digits)⟩
    else none
  | _ => none

end Handle

/-- Why a handle did not lead to an object of the expected kind. -/
inductive HandleError
  /-- Nothing is registered under the handle. -/
  | unknown (handle : Handle)
  /-- The object is of another kind. -/
  | typeMismatch (handle : Handle) (expected found : Tag)
  /-- The text is not a marker. -/
  | malformed (text : String)
  deriving DecidableEq, Repr

/-- The wording of a handle error. -/
def HandleError.message : HandleError → String
  | unknown handle => "unknown handle " ++ handle.marker
  | typeMismatch handle expected found =>
    "handle " ++ handle.marker ++ " refers to a " ++ found.name ++ ", expected a " ++ expected.name
  | malformed text => "'" ++ text ++ "' is not a handle"

/-- The handle that a text names, or the complaint about the text. -/
def Handle.parse (text : String) : Except HandleError Handle :=
  match ofMarker? text with
  | some handle => .ok handle
  | none => .error (.malformed text)

end Testbed
