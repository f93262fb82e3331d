import Testbed.Method.Basic

/-!
# The router

The router finds the method of a name. The built-in methods are installed once, those
of features at any time; a method that is installed under a name already taken replaces
the earlier one, which is reported.
-/

namespace Testbed.Method

open Protocol

variable {σ : Type}

/-- The installed methods. -/
structure Router (σ : Type) where
  /-- The methods, by name. -/
  methods : Entries String (Method σ) := []
  /-- Whether the built-in methods are installed. -/
  builtinInstalled : Bool := false

namespace Router

/-- Installs methods one after the other; the names that were taken are told in order. -/
def merge (methods : Entries String (Method σ)) : Table σ → Entries String (Method σ) × List String
  | [] => (methods, [])
  | m :: r =>
    let (result, replaced) := merge (Entries.put m.name m methods) r
    (result, if Entries.contains m.name methods then m.name :: replaced else replaced)

/-- What is told of a replaced method. -/
def replacement (source method : String) : Entry :=
  .record ⟨.warn, Log.dispatchTarget, "method handler replaced by a later registration",
    [("method", .text method), ("source", .text source)]⟩

/-- What is told of a table: each replaced method, and the number of methods. -/
def report (source message : String) (count : Nat) (replaced : List String) : List Entry :=
  replaced.map (replacement source)
    ++ [.record ⟨.debug, Log.dispatchTarget, message, [("count", .number count)]⟩]

/-- Installs the built-in methods, with what is told of it; refused the second time. -/
def installBuiltin (table : Table σ) (r : Router σ) : Option (Router σ × List Entry) :=
  if r.builtinInstalled then none
  else
    let (methods, replaced) := merge r.methods table
    some (⟨methods, true⟩, report "static" "installed built-in methods" table.length replaced)

/-- The complaint about a second built-in table. -/
def alreadyInstalled : String := "the built-in method table is already installed"

/-- Installs further methods, with the names that were taken. -/
def extend (table : Table σ) (r : Router σ) : Router σ × List String :=
  let (methods, replaced) := merge r.methods table
  ({ r with methods }, replaced)

/-- What is told of further methods. -/
def extension (table : Table σ) (replaced : List String) : List Entry :=
  report "extension" "extended method table" table.length replaced

/-- The method of a name. -/
def lookup (name : String) (r : Router σ) : Except Failure (Method σ) :=
  match Entries.get? name r.methods with
  | some m => .ok m
  | none => .error (.methodNotFound name)

/-- Whether there is a method of a name. -/
def contains (name : String) (r : Router σ) : Bool := Entries.contains name r.methods

/-- The names of the methods, in the order of their octets. -/
def names (r : Router σ) : List String :=
  (Entries.keys r.methods).mergeSort fun a b => Bytes.le (Bytes.ofString a) (Bytes.ofString b)

/-- Carries out the method of a name. -/
def dispatch (name : String) (arguments : Argument.Arguments) (r : Router σ) :
    Action σ (Except Failure Outcome) :=
  match r.lookup name with
  | .ok m => m.handler arguments
  | .error e => pure (.error e)

end Router

end Testbed.Method
