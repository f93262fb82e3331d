import Testbed.Argument.Resolve

/-!
# Reading arguments

How a method reads its arguments. A `null` counts as absent. Each reader checks the
shape again, so that arguments which no signature declares can be read safely.
-/

namespace Testbed.Argument

namespace Arguments

/-- The argument of a name, `null` included. -/
def raw? (name : String) (args : Arguments) : Option Resolved := Entries.get? name args.values

/-- The argument of a name, unless it is absent or `null`. -/
def get? (name : String) (args : Arguments) : Option Resolved :=
  match args.raw? name with
  | some v => if v.isNull then none else some v
  | none => none

/-- An argument that must be given. -/
def require (name : String) (args : Arguments) : Except Error Resolved :=
  match args.get? name with
  | some v => .ok v
  | none => .error (.missing name)

/-- An argument read by `extract`, which knows the values that are `expected`. -/
def typed {α : Type} (name expected : String) (extract : Resolved → Option α)
    (args : Arguments) : Except Error (Option α) :=
  match args.get? name with
  | none => .ok none
  | some v =>
    match extract v with
    | some a => .ok (some a)
    | none => .error (.typeMismatch name expected v.kindName)

/-- What must be given, from a reader for which it need not. -/
def required {α : Type} (name : String) : Except Error (Option α) → Except Error α
  | .ok (some a) => .ok a
  | .ok none => .error (.missing name)
  | .error e => .error e

/-- A text. -/
def string? (name : String) (args : Arguments) : Except Error (Option String) :=
  args.typed name "string" fun
    | .string s => some s
    | _ => none

/-- A text that must be given. -/
def string (name : String) (args : Arguments) : Except Error String :=
  required name (args.string? name)

/-- A non-negative integer. -/
def natural? (name : String) (args : Arguments) : Except Error (Option Nat) :=
  args.typed name "non-negative integer" fun
    | .number x => x.natural?
    | _ => none

/-- A non-negative integer that must be given. -/
def natural (name : String) (args : Arguments) : Except Error Nat :=
  required name (args.natural? name)

/-- A mapping. -/
def mapping? (name : String) (args : Arguments) :
    Except Error (Option (List (String × Resolved))) :=
  args.typed name "mapping" fun
    | .mapping entries => some entries
    | _ => none

/-- A sequence. -/
def sequence? (name : String) (args : Arguments) : Except Error (Option (List Resolved)) :=
  args.typed name "sequence" fun
    | .sequence items => some items
    | _ => none

/-- A live object that must be given. -/
def liveObject (name : String) (args : Arguments) : Except Error LiveObject :=
  required name <| args.typed name "object" fun
    | .object o => some o
    | _ => none

/-- A live object of a type that must be given. -/
def object (type : ObjectType) (name : String) (args : Arguments) : Except Error Object :=
  match args.liveObject name with
  | .error e => .error e
  | .ok o =>
    match o.as type with
    | .ok object => .ok object
    | .error _ => .error (.typeMismatch name type.tag.name o.tag.name)

end Arguments

end Testbed.Argument
