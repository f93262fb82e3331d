import Testbed.Argument.Error
import Testbed.Argument.Resolved

/-!
# Signatures

What a method declares about its arguments. Only declared parameters are checked: an
argument of another name passes through, and so does a `null` for an optional
parameter.
-/

namespace Testbed.Argument

/-- The shape that a parameter asks for. -/
inductive Kind
  /-- Any value, `null` included. -/
  | any
  | boolean
  /-- Any number. -/
  | number
  /-- A number without fraction or exponent, of 64 bits. -/
  | integer
  /-- A text that is not a marker. -/
  | string
  | sequence
  | mapping
  /-- A live object with the tag. -/
  | object (tag : Tag)
  /-- A live object. -/
  | anyObject
  deriving DecidableEq, Repr

namespace Kind

/-- Whether a value has the shape. -/
def accepts : Kind → Resolved → Bool
  | any, _ => true
  | boolean, .boolean _ => true
  | number, .number _ => true
  | integer, .number x => x.isInteger
  | string, .string _ => true
  | sequence, .sequence _ => true
  | mapping, .mapping _ => true
  | object tag, .object o => o.tag = tag
  | anyObject, .object _ => true
  | _, _ => false

/-- The name of the shape. -/
def text : Kind → String
  | any => "any value"
  | boolean => "boolean"
  | number => "number"
  | integer => "integer"
  | string => "string"
  | sequence => "sequence"
  | mapping => "mapping"
  | object tag => tag.name
  | anyObject => "object"

end Kind

/-- A declared parameter. -/
structure Param where
  /-- Its name. -/
  name : String
  /-- The shape it asks for. -/
  kind : Kind
  /-- Whether it must be given, and not `null`. -/
  required : Bool
  deriving DecidableEq, Repr

namespace Param

/-- Whether a value serves the parameter: `null` does for an optional one. -/
def admits (p : Param) (v : Resolved) : Bool := (v.isNull && !p.required) || p.kind.accepts v

/-- The complaint about a value that does not serve the parameter. -/
def complaint (p : Param) (v : Resolved) : Error := .typeMismatch p.name p.kind.text v.kindName

end Param

/-- A method's declared parameters, in order. -/
abbrev Signature := List Param

/-- The first parameter declared under a name. -/
def Signature.param? (name : String) (s : Signature) : Option Param :=
  s.find? fun p => p.name = name

end Testbed.Argument
