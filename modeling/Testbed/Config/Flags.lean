import Testbed.Config.Shape
import Testbed.Decimal.Literal

/-!
# Configuration from the command line

Every setting has an option, long and short, and there is one more for the path of a
configuration file. An option takes one value: the next argument, or what follows an
equals sign or the short option's letter. Each may be given once.

What is wrong is told of the first argument that is wrong; a value is looked at when its
option is complete, and that is after the next option has been seen. So an argument
that is no option at all is complained of before the value in front of it.
-/

namespace Testbed.Config.Flags

open Json Decimal

/-- What an option sets. -/
inductive Target
  /-- The path of the configuration file. -/
  | configPath
  /-- A setting. -/
  | setting (key : Key)
  deriving DecidableEq, Repr

/-- An option of the command line. -/
structure Flag where
  /-- What it sets. -/
  target : Target
  /-- The letter of its short form, if it has one. -/
  letter : Option Char
  deriving DecidableEq, Repr

/-- The options. -/
def flags : List Flag := [
  ⟨.configPath, none⟩,
  ⟨.setting .listen, some 'l'⟩,
  ⟨.setting .logFilter, some 'L'⟩,
  ⟨.setting .logFormat, some 'o'⟩,
  ⟨.setting .startupTimeoutMs, some 's'⟩,
  ⟨.setting .stopGraceMs, some 'S'⟩,
  ⟨.setting .syncGatewayBinary, some 'y'⟩,
  ⟨.setting .syncGatewayProbePort, some 'Y'⟩,
  ⟨.setting .cbServerBinary, some 'c'⟩,
  ⟨.setting .cbServerProbePort, some 'C'⟩]

/-- The name of what an option sets. -/
def Target.name : Target → String
  | configPath => "config_path"
  | setting key => key.text

/-- The long form of an option, without its dashes. -/
def Flag.long (f : Flag) : String :=
  String.ofList (f.target.name.toList.map fun c => if c = '_' then '-' else c)

/-- The name of an option's value. -/
def Flag.valueName (f : Flag) : String := String.ofList (f.target.name.toList.map Char.toUpper)

/-- An option as it is told of. -/
def Flag.text (f : Flag) : String := "--" ++ f.long ++ " <" ++ f.valueName ++ ">"

/-- Why a command line is refused. -/
inductive Error
  /-- An argument is no option. -/
  | unexpected (argument : String)
  /-- An option has a value that it cannot take. -/
  | invalid (value : String) (flag : Flag) (reason : String)
  /-- An option has no value. -/
  | missingValue (flag : Flag)
  /-- An option is given twice. -/
  | repeated (flag : Flag)
  /-- Help takes no value. -/
  | helpValue (value : String)
  /-- Help is asked for. -/
  | help
  deriving DecidableEq, Repr

/-- How the program is used. -/
def usage : String := "Usage: tetherd [OPTIONS]"

/-- Where to find out more. -/
def hint : String := "For more information, try '--help'.\n"

/-- An option in the list of all. -/
def Flag.helpLine (f : Flag) : String :=
  match f.letter with
  | some c => "  -" ++ String.singleton c ++ ", " ++ f.text ++ "\n"
  | none => "      " ++ f.text ++ "\n"

/-- The list of the options. -/
def helpText : String :=
  usage ++ "\n\nOptions:\n" ++ String.join (flags.map Flag.helpLine) ++ "  -h, --help  Print help\n"

/-- The wording of a refusal. -/
def Error.message : Error → String
  | unexpected a => "error: unexpected argument '" ++ a ++ "' found\n\n" ++ usage ++ "\n\n" ++ hint
  | invalid v f reason =>
    "error: invalid value '" ++ v ++ "' for '" ++ f.text ++ "': " ++ reason ++ "\n\n" ++ hint
  | missingValue f =>
    "error: a value is required for '" ++ f.text ++ "' but none was supplied\n\n" ++ hint
  | repeated f =>
    "error: the argument '" ++ f.text ++ "' cannot be used multiple times\n\n" ++ usage ++ "\n\n"
      ++ hint
  | helpValue v =>
    "error: unexpected value '" ++ v ++ "' for '--help' found; no more were expected\n\n" ++ usage
      ++ "\n\n" ++ hint
  | help => helpText

/-! ## Values -/

/-- The complaint about a character that is no digit. -/
def noDigit : String := "invalid digit found in string"

/-- The complaint about a number that is too great. -/
def tooLarge : String := "number too large to fit in target type"

/-- The complaint about a number that is too small. -/
def tooSmall : String := "number too small to fit in target type"

/-- A number in digits of at most `most`, after the digits already read. It is looked at
    digit by digit, so what comes first counts: a character that is no digit, or the digit
    that makes the number too great. -/
def bounded (most : Nat) (excess : String) : (read : Nat) → List Char → Except String Nat
  | n, [] => .ok n
  | n, c :: r =>
    if !c.isDigit then .error noDigit
    else if most < n * 10 + Literal.digit c then .error excess
    else bounded most excess (n * 10 + Literal.digit c) r

/-- A whole number of at most `most`, with a minus and at least `-least` if that is
    allowed. -/
def wordNumber (most : Nat) (least : Option Nat) (s : String) : Except String Int :=
  match s.toList, least with
  | [], _ => .error "cannot parse integer from empty string"
  | ['+'], _ => .error noDigit
  | ['-'], _ => .error noDigit
  | '+' :: r, _ => (bounded most tooLarge 0 r).map fun n => (n : Int)
  | '-' :: r, some least => (bounded least tooSmall 0 r).map fun n => -(n : Int)
  | s, _ => (bounded most tooLarge 0 s).map fun n => (n : Int)

/-- A port. -/
def port (s : String) : Except String Value :=
  match wordNumber 9223372036854775807 (some 9223372036854775808) s with
  | .error e => .error e
  | .ok n =>
    if 0 ≤ n ∧ n < 65536 then .ok (.number (.ofInt n))
    else .error (toString n ++ " is not in 0..=65535")

/-- The value of an option as it goes into a layer. -/
def readValue (t : Target) (s : String) : Except String Value :=
  match t with
  | .configPath => .ok (.string s)
  | .setting .listen =>
    (Endpoint.parse s).mapError Endpoint.ParseError.message |>.map Endpoint.toJson
  | .setting .logFormat =>
    match LogFormat.parse? s with
    | some f => .ok (.string f.text)
    | none => .error LogFormat.unknown
  | .setting .startupTimeoutMs | .setting .stopGraceMs =>
    (wordNumber (UInt64.size - 1) none s).map fun n => .number (.ofInt n)
  | .setting .syncGatewayProbePort | .setting .cbServerProbePort => port s
  | .setting .logFilter | .setting .syncGatewayBinary | .setting .cbServerBinary => .ok (.string s)

/-! ## Arguments -/

/-- A command line in the middle of being read. -/
structure State where
  /-- What the options so far say. -/
  told : Entries String Value := []
  /-- An option that is not complete, with its value if there is one. -/
  pending : Option (Flag × Option String) := none

/-- Takes a complete option. A path that is empty is no path. -/
def State.take (s : State) (f : Flag) (value : Option String) : Except Error State :=
  match value with
  | none => .error (.missingValue f)
  | some v =>
    if Entries.contains f.target.name s.told then .error (.repeated f)
    else if f.target = .configPath ∧ v.isEmpty then .error (.missingValue f)
    else
      match readValue f.target v with
      | .error reason => .error (.invalid v f reason)
      | .ok json => .ok { told := Entries.put f.target.name json s.told, pending := none }

/-- Takes the option that is not complete. -/
def State.settle (s : State) : Except Error State :=
  match s.pending with
  | none => .ok s
  | some (f, value) => { s with pending := none }.take f value

/-- Takes an option that has been seen, and its value if that has been too. -/
def State.see (s : State) (f : Flag) (attached : Option String) : Except Error State := do
  let s ← s.settle
  match attached with
  | some v => s.take f (some v)
  | none => .ok { s with pending := some (f, none) }

/-- What stands before and after the first equals sign. -/
def splitEquals (s : List Char) : String × Option String :=
  match s.dropWhile (· ≠ '=') with
  | [] => (String.ofList s, none)
  | _ :: value => (String.ofList (s.takeWhile (· ≠ '=')), some (String.ofList value))

/-- What is attached to a short option. -/
def attachedValue : List Char → Option String
  | [] => none
  | '=' :: r => some (String.ofList r)
  | r => some (String.ofList r)

/-- Takes an argument that starts with two dashes and a name. -/
def State.takeLong (s : State) (body : List Char) : Except Error State :=
  let (name, value) := splitEquals body
  if name = "help" then
    match value with
    | some v => .error (.helpValue v)
    | none => s.settle >>= fun _ => .error .help
  else
    match flags.find? fun f => f.long = name with
    | some f => s.see f value
    | none => .error (.unexpected ("--" ++ name))

/-- Takes an argument that starts with one dash and a letter. -/
def State.takeShort (s : State) (letter : Char) (rest : List Char) : Except Error State :=
  if letter = 'h' then s.settle >>= fun _ => .error .help
  else
    match flags.find? fun f => f.letter = some letter with
    | some f => s.see f (attachedValue rest)
    | none => .error (.unexpected (String.ofList ['-', letter]))

/-- Takes an argument that may be a value of the option in front of it. -/
def State.takeWord (s : State) (word : String) : Except Error State :=
  match s.pending with
  | some (f, none) => .ok { s with pending := some (f, some word) }
  | _ => .error (.unexpected word)

/-- Takes the arguments in order. After two dashes there are no more options. -/
def State.takeAll (s : State) : List String → Except Error State
  | [] => s.settle
  | a :: rest =>
    match a.toList with
    | ['-', '-'] =>
      match rest with
      | [] => s.settle
      | word :: _ => .error (.unexpected word)
    | '-' :: '-' :: body => s.takeLong body >>= fun s => s.takeAll rest
    | '-' :: letter :: body => s.takeShort letter body >>= fun s => s.takeAll rest
    | _ => s.takeWord a >>= fun s => s.takeAll rest

/-- What a command line says, in the order of the options. -/
def read (arguments : List String) : Except Error Json.Object := do
  let s ← ({} : State).takeAll arguments
  .ok (flags.filterMap fun f => (Entries.get? f.target.name s.told).map fun v => (f.target.name, v))

end Testbed.Config.Flags
