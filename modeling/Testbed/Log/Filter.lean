import Testbed.Bytes
import Testbed.Log.Record

/-!
# Log filters

A filter says which records are written. It is a list of directives with commas between
them, each a level (`warn`), a part of the daemon (`tetherd::dispatch`), or both with an
equals sign between them; a directive may also ask for fields that a record must have,
`target[{name}]=level`. A part is meant by every target that starts with its name. Of
the directives that concern a record the most specific one decides: the one with the
longest target, then with the most fields. A record that none concerns is not written.

* `Filter.parse`: the filter that a text means;
* `Filter.passes`: whether a record is written.
-/

namespace Testbed.Log

/-- The least that a record must matter to be written; nothing stands for never. -/
abbrev Threshold := Option Level

/-- A directive. -/
structure Directive where
  /-- What the target of a record must start with. -/
  target : Option String := none
  /-- The name of the span that must be around the record. -/
  span : Option String := none
  /-- The fields that a record must have, as names with what they must hold. -/
  fields : List (String × Option String) := []
  /-- How much a record must matter. -/
  threshold : Threshold := some .trace
  deriving DecidableEq, Repr

/-- Why a text means no filter. -/
inductive FilterError
  /-- A directive is none. -/
  | directive
  /-- A level is none. -/
  | level
  deriving DecidableEq, Repr

/-- The wording of a mistake. -/
def FilterError.message : FilterError → String
  | directive => "invalid filter directive"
  | level =>
    "error parsing level filter: expected one of \"off\", \"error\", \"warn\", \"info\", "
      ++ "\"debug\", "
      ++ "\"trace\", or a number 0-5"

namespace Directive

/-- The thresholds of a number. -/
def numbered : List Threshold :=
  [none, some .error, some .warn, some .info, some .debug, some .trace]

/-- The thresholds of a name. -/
def named : List (String × Threshold) :=
  [("off", none), ("", some .error), ("error", some .error), ("warn", some .warn),
    ("info", some .info), ("debug", some .debug), ("trace", some .trace)]

/-- A number in digits, with a plus or without. -/
def number? (s : List Char) : Option Nat :=
  let digits := match s with | '+' :: r => r | s => s
  if digits.isEmpty || !digits.all Char.isDigit then none
  else some (digits.foldl (fun n c => n * 10 + (c.toNat - 48)) 0)

/-- The threshold that a text names. -/
def threshold? (s : List Char) : Option Threshold :=
  match (number? s).bind fun n => numbered[n]? with
  | some t => some t
  | none => named.lookup (String.ofList (s.map Char.toLower))

/-- A character that a directive may start with. Beyond ASCII every character is taken for
    a letter or a digit. -/
def startsName (c : Char) : Bool :=
  c.isAlphanum || c = '-' || c = ':' || c = '_' || 128 ≤ c.toNat

/-- A field that a directive asks for. -/
def field (s : List Char) : String × Option String :=
  match s.dropWhile (· ≠ '=') with
  | [] => (String.ofList s, none)
  | _ :: value =>
    (String.ofList (s.takeWhile (· ≠ '=')), some (String.ofList (value.takeWhile (· ≠ '='))))

/-- The level of a directive, after the equals sign. -/
def withLevel (d : Directive) (s : List Char) : Except FilterError Directive :=
  if s.isEmpty then .ok d
  else
    match threshold? s with
    | some t => .ok { d with threshold := t }
    | none => .error .level

/-- What follows the brackets of a directive: nothing, or a level. -/
def afterBrackets (d : Directive) : List Char → Except FilterError Directive
  | [] => .ok d
  | '=' :: r => d.withLevel r
  | _ => .error .directive

/-- A directive from its opening bracket on: a span, fields between braces, or both. -/
def brackets (d : Directive) (s : List Char) : Except FilterError Directive :=
  let isOpen (c : Char) : Bool := c ≠ ']' && c ≠ '{'
  let span := s.takeWhile isOpen
  match s.dropWhile isOpen with
  | ']' :: r => { d with span := some (String.ofList span) }.afterBrackets r
  | '{' :: r =>
    let inner := r.takeWhile (· ≠ '}')
    let d := if span.isEmpty then d else { d with span := some (String.ofList span) }
    match r.dropWhile (· ≠ '}') with
    | _ :: ']' :: r =>
      if inner.isEmpty then .error .directive
      else { d with fields := [field inner] }.afterBrackets r
    | _ => .error .directive
  | _ => .error .directive

/-- A directive that starts with a name: a level or a target, and what follows it. -/
def ofName (s : List Char) : Except FilterError Directive :=
  let isName (c : Char) : Bool := c ≠ '=' && c ≠ '['
  let name := s.takeWhile isName
  match s.dropWhile isName with
  | '=' :: r => { target := some (String.ofList name) : Directive }.withLevel r
  | '[' :: r => { target := some (String.ofList name) : Directive }.brackets r
  | _ =>
    match threshold? name with
    | some t => .ok { threshold := t }
    | none => .ok { target := some (String.ofList name) }

/-- Blanks at the two ends of a directive belong to it, but it may not be blank. -/
def parse (s : List Char) : Except FilterError Directive :=
  match s with
  | '[' :: r => ({} : Directive).brackets r
  | s =>
    match s.dropWhile Char.isWhitespace with
    | c :: _ => if startsName c then ofName s else .error .directive
    | [] => .error .directive

/-- A directive that asks for nothing that a record cannot have: a span, or what a field
    holds. -/
def isStatic (d : Directive) : Bool := d.span.isNone && d.fields.all fun f => f.2.isNone

/-- The names of all fields of a record; the message is one. -/
def fieldNames (r : Record) : List String := "message" :: r.fields.map Prod.fst

/-- Whether a directive concerns a record. -/
def concerns (d : Directive) (r : Record) : Bool :=
  (match d.target with
    | some t => r.target.startsWith t
    | none => true)
    && d.fields.all fun f => (fieldNames r).contains f.1

/-- How long the target of a directive is; one without a target is less specific than any
    with one. -/
def targetLength (d : Directive) : Nat :=
  match d.target with
  | some t => t.utf8ByteSize + 1
  | none => 0

/-- Whether a directive is less specific than another one. -/
def lessSpecific (a b : Directive) : Bool :=
  a.targetLength < b.targetLength
    || (a.targetLength == b.targetLength && a.fields.length < b.fields.length)

/-- Whether a threshold lets a level through. -/
def lets : Threshold → Level → Bool
  | none, _ => false
  | some t, l => t.rank ≤ l.rank

end Directive

/-- A filter: its directives in order. -/
structure Filter where
  /-- The directives. -/
  directives : List Directive
  deriving DecidableEq, Repr

namespace Filter

/-- The pieces of a text between commas that are not empty. -/
def pieces : List Char → List (List Char)
  | [] => []
  | s => (split s).filter fun p => !p.isEmpty
where
  /-- The pieces between commas. -/
  split : List Char → List (List Char)
    | [] => [[]]
    | c :: r =>
      if c = ',' then [] :: split r
      else
        match split r with
        | [] => [[c]]
        | p :: ps => (c :: p) :: ps

/-- The filter that a text means. -/
def parse (s : String) : Except FilterError Filter := do
  let directives ← (pieces s.toList).mapM Directive.parse
  .ok ⟨directives⟩

/-- The directive that decides about a record: of equally specific ones the last. -/
def decisive? (f : Filter) (r : Record) : Option Directive :=
  (f.directives.filter fun d => d.isStatic && d.concerns r).foldl (fun best d =>
    match best with
    | some b => if d.lessSpecific b then some b else some d
    | none => some d) none

/-- Whether a record is written. -/
def passes (f : Filter) (r : Record) : Bool :=
  match f.decisive? r with
  | some d => Directive.lets d.threshold r.level
  | none => false

end Filter

end Testbed.Log
