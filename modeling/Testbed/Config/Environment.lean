import Testbed.Config.Toml
import Testbed.Text.Blank

/-!
# Configuration from the environment

A variable whose name starts with `TETHER_`, in any mixture of small and capital
letters, gives the setting that the rest of its name names. Two underscores in a name,
or a point, lead into a table. What a variable holds is read as a value where it looks like one:
truth values, numbers, texts in quotes, lists in brackets and tables in braces; a text
with commas is a list of texts, and anything else is a text.

* `Environment.ofBlock`: the variables that are handed to a process;
* `Environment.read`: the settings that variables give.
-/

namespace Testbed.Config.Environment

open Json Decimal

/-- What the names of the variables start with. -/
def namePrefix : List Char := "tether_".toList

/-- A variable: its name and what it holds. -/
abbrev Variable := String × String

/-- ASCII whitespace. -/
def isSpace (c : Char) : Bool := c.toNat < 128 && Bytes.isAsciiSpace (UInt8.ofNat c.toNat)

/-- A text without the ASCII whitespace at its start. -/
def skipSpace (s : List Char) : List Char := s.dropWhile isSpace

/-- A text without the whitespace at both ends. -/
def trimmed (s : List Char) : List Char := (Text.Blank.trim (String.ofList s)).toList

/-- A number where a text is one: with a point it may have a fraction. -/
def number? (s : List Char) : Option Value :=
  let float := if s.contains '.' then Literal.double? s else none
  match float with
  | some reading => some (Toml.ofReading reading)
  | none =>
    match Literal.integer? s with
    | some n => 
      if -9223372036854775808 ≤ n ∧ n < 18446744073709551616 then some (.number (.ofInt n))
      else none
    | none => none

/-- A word that is a number, or else a text. -/
def word (s : List Char) : Value := (number? s).getD (.string (String.ofList s))

/-- What follows a word, if the text starts with it. -/
def after? (word s : List Char) : Option (List Char) :=
  if s.take word.length = word then some (s.drop word.length) else none

/-- A character that ends a word within a list or a table. -/
def isSeparator (c : Char) : Bool := c = ',' || c = '{' || c = '}' || c = '[' || c = ']'

/-- A text between quotes, after the opening one: escaped characters stay with their
    backslash until they are read. -/
def quotedRaw : List Char → Option (List Char × List Char)
  | [] => none
  | '"' :: r => some ([], r)
  | '\\' :: c :: r => (quotedRaw r).map fun (t, r) => ('\\' :: c :: t, r)
  | c :: r => (quotedRaw r).map fun (t, r) => (c :: t, r)

/-- A text with its escapes read. -/
def unescape (s : List Char) : Option String :=
  match Toml.quoted (s.length + 2) [] (s ++ ['"']) with
  | some (t, []) => some t
  | _ => none

/-- The key of an entry of a table. -/
def entryKey (s : List Char) : Option (String × List Char) :=
  match s with
  | '"' :: r => do
    let (t, r) ← quotedRaw r
    let t ← unescape t
    some (t, r)
  | s =>
    let name := s.takeWhile Toml.isBare
    if name.isEmpty then none else some (String.ofList name, s.dropWhile Toml.isBare)

mutual

/-- Reads a value with the whitespace around it. -/
def readValue : (fuel : Nat) → List Char → Option (Value × List Char)
  | 0, _ => none
  | fuel + 1, s => do
    let (v, s) ← readBare fuel (skipSpace s)
    some (v, skipSpace s)

/-- Reads a value. -/
def readBare : (fuel : Nat) → List Char → Option (Value × List Char)
  | 0, _ => none
  | fuel + 1, s =>
    match after? "true".toList s, after? "false".toList s with
    | some r, _ => some (.boolean true, r)
    | _, some r => some (.boolean false, r)
    | none, none =>
      match s with
      | '{' :: r =>
        match skipSpace r with
        | '}' :: r => some (.object [], r)
        | _ => do
          let (entries, r) ← readEntries fuel [] r
          some (.object (Toml.sorted entries), r)
      | '[' :: r =>
        match skipSpace r with
        | ']' :: r => some (.array [], r)
        | _ => do
          let (items, r) ← readItems fuel r
          some (.array items, r)
      | '"' :: r => do
        let (t, r) ← quotedRaw r
        let t ← unescape t
        some (.string t, r)
      | '\'' :: c :: '\'' :: r => some (.string (String.singleton c), r)
      | '\'' :: _ => none
      | s =>
        some (word (trimmed (s.takeWhile fun c => !isSeparator c)),
          s.dropWhile fun c => !isSeparator c)

/-- Reads the items of a list. -/
def readItems : (fuel : Nat) → List Char → Option (List Value × List Char)
  | 0, _ => none
  | fuel + 1, s => do
    let (v, s) ← readValue fuel s
    match s with
    | ']' :: s => some ([v], s)
    | ',' :: s =>
      match skipSpace s with
      | ']' :: s => some ([v], s)
      | _ => do
        let (items, s) ← readItems fuel s
        some (v :: items, s)
    | _ => none

/-- Reads the entries of a table. -/
def readEntries : (fuel : Nat) → Json.Object → List Char → Option (Json.Object × List Char)
  | 0, _, _ => none
  | fuel + 1, entries, s => do
    let (name, s) ← entryKey (skipSpace s)
    let s ← Toml.expect '=' (skipSpace s)
    let (v, s) ← readValue fuel s
    let entries := Entries.put name v entries
    match s with
    | '}' :: s => some (entries, s)
    | ',' :: s =>
      match skipSpace s with
      | '}' :: s => some (entries, s)
      | _ => readEntries fuel entries s
    | _ => none

end

/-- What a variable holds, read as a single value. -/
def single (s : List Char) : Value :=
  match readValue (4 * s.length + 4) s with
  | some (v, []) => v
  | _ => .string (String.ofList s)

/-- The pieces of a text between commas. -/
def commaPieces (s : List Char) : List (List Char) :=
  match s with
  | [] => [[]]
  | c :: r =>
    if c = ',' then [] :: commaPieces r
    else
      match commaPieces r with
      | [] => [[c]]
      | p :: ps => (c :: p) :: ps

/-- Whether a text with commas starts like a value of its own. -/
def isBracketed : List Char → Bool
  | c :: _ => c = '[' || c = '{' || c = '"' || c = '\''
  | [] => false

/-- What a variable holds, read as a value. -/
def held (s : String) : Value :=
  let s := trimmed s.toList
  if s.contains ',' && !isBracketed s then
    .array ((commaPieces s).map fun p => .string (String.ofList (trimmed p)))
  else single s

/-- A small letter for a capital one of ASCII. -/
def lower (c : Char) : Char := if 'A' ≤ c ∧ c ≤ 'Z' then Char.ofNat (c.toNat + 32) else c

/-- The names of the tables and of the setting that a variable's name leads to. -/
def keys : (read : List Char) → List Char → List String
  | read, [] => [String.ofList read.reverse]
  | read, '_' :: '_' :: r => String.ofList read.reverse :: keys [] r
  | read, '.' :: r => String.ofList read.reverse :: keys [] r
  | read, c :: r => keys (c :: read) r

/-- The value within the tables of its names; an empty name ends them. -/
def nest (v : Value) : List String → Value
  | [] => v
  | key :: rest => if key.isEmpty then v else .object [(key, nest v rest)]

/-- The setting that a variable gives, if it gives one. -/
def setting? (v : Variable) : Option (String × Value) := do
  let name := v.1.toList.map lower
  let rest ← after? namePrefix name
  match keys [] rest with
  | key :: inner => if key.isEmpty then none else some (key, nest (held v.2) inner)
  | [] => none

/-- The settings that variables give. The last variable of a setting counts, also where
    each leads into another entry of its table. -/
def read (vars : List Variable) : Json.Object :=
  Toml.sorted ((vars.filterMap setting?).foldl (fun m e => Entries.put e.1 e.2 m) [])

/-- What the variable of a name holds. -/
def value? (name : String) (vars : List Variable) : Option String :=
  (vars.reverse.find? fun v => v.1 = name).map Prod.snd

/-- A variable as it is handed to a process, in the form `name=value`. -/
def assignment? (entry : List Char) : Option Variable :=
  match entry.dropWhile (· ≠ '=') with
  | _ :: held => some (String.ofList (entry.takeWhile (· ≠ '=')), String.ofList held)
  | [] => none

/-- The variables of a process, each of them handed over with a zero at its end. -/
def ofBlock (block : String) : List Variable :=
  (block.splitOn "\x00").filterMap fun entry => assignment? entry.toList

end Testbed.Config.Environment
