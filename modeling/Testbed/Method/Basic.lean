import Testbed.Argument.Access
import Testbed.Protocol.Reply
import Testbed.World

/-!
# Methods

A method has a name, a signature, and a handler: what it does with its arguments, once
they are resolved. Methods are installed in tables; where a name occurs twice the
later method counts. A feature is a table with a name of its own.
-/

namespace Testbed

open Protocol

/-- What a method does with its arguments: it yields an outcome or fails. -/
abbrev Method.Handler (σ : Type) := Argument.Arguments → Action σ (Except Failure Outcome)

/-- A method. -/
structure Method (σ : Type) where
  /-- The name by which drivers call it. -/
  name : String
  /-- The parameters it declares. -/
  signature : Argument.Signature
  /-- What it does. -/
  handler : Method.Handler σ

namespace Method

/-- Methods that are installed together, in order. -/
abbrev Table (σ : Type) := List (Method σ)

/-- The names of a table's methods, in order. -/
def Table.names {σ : Type} (t : Table σ) : List String := t.map Method.name

/-- A feature: a name and the methods it adds. -/
structure Feature (σ : Type) where
  /-- The name. -/
  name : String
  /-- The methods. -/
  table : Table σ

end Method

end Testbed
