import Testbed.Argument.Signature
import Testbed.Registry

/-!
# Resolving arguments

Before a method runs, each marker in its arguments, at any depth, is replaced by the
live object that it names, and the arguments are checked against the method's
signature. A required argument that is missing is reported first; after that the
arguments are taken in the driver's order, and the first one at fault is reported.
-/

namespace Testbed.Argument

open Json

/-- The raw arguments of a request, by name, in the driver's order. -/
abbrev Bag := Json.Object

/-- What a failed look-up means for an argument. -/
def Error.ofHandle (argument : String) : HandleError → Error
  | .unknown handle => .unknownHandle argument handle
  | .typeMismatch _ expected found => .typeMismatch argument expected.name found.name
  | .malformed text => .typeMismatch argument "handle" text

/-- A text: the live object that it names, or itself when it is no marker. -/
def resolveText (registry : Registry) (argument text : String) : Except Error Resolved :=
  match Handle.ofMarker? text with
  | none => .ok (.string text)
  | some handle =>
    match registry.resolve handle with
    | .ok object => .ok (.object object)
    | .error e => .error (.ofHandle argument e)

mutual

/-- A value with its markers replaced. -/
def resolveValue (registry : Registry) (argument : String) : Value → Except Error Resolved
  | .null => .ok .null
  | .boolean b => .ok (.boolean b)
  | .number x => .ok (.number x)
  | .string s => resolveText registry argument s
  | .array items =>
    match resolveItems registry argument items with
    | .ok items => .ok (.sequence items)
    | .error e => .error e
  | .object entries =>
    match resolveEntries registry argument entries with
    | .ok entries => .ok (.mapping entries)
    | .error e => .error e

/-- Items with their markers replaced. -/
def resolveItems (registry : Registry) (argument : String) :
    List Value → Except Error (List Resolved)
  | [] => .ok []
  | v :: r =>
    match resolveValue registry argument v with
    | .error e => .error e
    | .ok v =>
      match resolveItems registry argument r with
      | .error e => .error e
      | .ok r => .ok (v :: r)

/-- Entries with the markers in their values replaced; keys are no markers. -/
def resolveEntries (registry : Registry) (argument : String) :
    List (String × Value) → Except Error (List (String × Resolved))
  | [] => .ok []
  | (k, v) :: r =>
    match resolveValue registry argument v with
    | .error e => .error e
    | .ok v =>
      match resolveEntries registry argument r with
      | .error e => .error e
      | .ok r => .ok ((k, v) :: r)

end

/-- Whether a bag gives a value other than `null` to a name. -/
def Bag.supplies (name : String) (bag : Bag) : Bool :=
  match Entries.get? name bag with
  | some v => !v.isNull
  | none => false

/-- The first required parameter that a bag does not supply. -/
def Signature.firstMissing? (bag : Bag) (signature : Signature) : Option Param :=
  signature.find? fun p => p.required && !Bag.supplies p.name bag

/-- One argument, resolved and checked against the parameter of its name. -/
def resolveArgument (registry : Registry) (signature : Signature) (name : String) (raw : Value) :
    Except Error Resolved :=
  match resolveValue registry name raw with
  | .error e => .error e
  | .ok v =>
    match signature.param? name with
    | none => .ok v
    | some p => if p.admits v then .ok v else .error (p.complaint v)

/-- The arguments of a bag in order, each resolved and checked. -/
def resolveBag (registry : Registry) (signature : Signature) :
    Bag → Except Error (Entries String Resolved)
  | [] => .ok []
  | (name, raw) :: r =>
    match resolveArgument registry signature name raw with
    | .error e => .error e
    | .ok v =>
      match resolveBag registry signature r with
      | .error e => .error e
      | .ok r => .ok ((name, v) :: r)

/-- The resolved arguments of a request, by name, in the driver's order. -/
structure Arguments where
  /-- The arguments. -/
  values : Entries String Resolved := []

/-- The arguments of a bag, resolved and checked against a signature. -/
def resolve (registry : Registry) (signature : Signature) (bag : Bag) : Except Error Arguments :=
  match signature.firstMissing? bag with
  | some p => .error (.missing p.name)
  | none =>
    match resolveBag registry signature bag with
    | .ok values => .ok ⟨values⟩
    | .error e => .error e

end Testbed.Argument
