import Testbed.Handle

/-!
# Argument errors

Why the arguments of a request do not serve its method.
-/

namespace Testbed.Argument

/-- Why an argument does not serve. -/
inductive Error
  /-- A required argument is absent or `null`. -/
  | missing (argument : String)
  /-- A marker in the argument names no live object. -/
  | unknownHandle (argument : String) (handle : Handle)
  /-- The argument is of the wrong kind. -/
  | typeMismatch (argument expected found : String)
  deriving DecidableEq, Repr

/-- The wording of an argument error. -/
def Error.message : Error → String
  | missing argument => "missing required argument '" ++ argument ++ "'"
  | unknownHandle argument handle =>
    "argument '" ++ argument ++ "' refers to unknown handle " ++ handle.marker
  | typeMismatch argument expected found =>
    "argument '" ++ argument ++ "' must be a " ++ expected ++ ", got " ++ found

end Testbed.Argument
