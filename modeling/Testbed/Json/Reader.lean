import Testbed.Json.Scanner
import Testbed.Json.Value

/-!
# Reading JSON

A text is read from the front, one value deep at a time. The steps between the
items of a list and the entries of an object (`nextItem`, `nextKey`) are told
apart from what is read there, so that the same steps serve to read a list of
values and a list of anything else.

* `Value.read`: the value that a whole text stands for;
* `readValue`: the value at the front of a text, nested at most `nestingLimit`
  arrays and objects deep. An object is built entry by entry with `add`, which may
  keep repeated keys (`keepAll`) or let the last one count (`Entries.put`).
-/

namespace Testbed.Json

/-- How deep arrays and objects may nest in a text. -/
def nestingLimit : Nat := 127

/-- The place between two items of a list, or two entries of an object. -/
inductive Step
  /-- Another one starts here. -/
  | more (rest : Bytes)
  /-- The closing bracket stands here. -/
  | close (rest : Bytes)

/-- The step to the next item of a list, the first one or a later one. -/
def nextItem (first : Bool) (s : Bytes) : Except Fault Step :=
  match skipBlanks s with
  | [] => .error (.next .endInList [])
  | b :: s =>
    if b = 93 then .ok (.close (b :: s))
    else if first then .ok (.more (b :: s))
    else if b = 44 then
      match skipBlanks s with
      | [] => .error (.next .endInValue [])
      | c :: s => if c = 93 then .error (.next .trailingComma (c :: s)) else .ok (.more (c :: s))
    else .error (.next .expectedListCommaOrEnd (b :: s))

/-- The start of a key at the front of a text without leading blanks: the text after
    its opening quote. -/
def openKey : Bytes → Except Fault Step
  | [] => .error (.next .endInValue [])
  | b :: s =>
    if b = 34 then .ok (.more s)
    else if b = 125 then .error (.next .trailingComma (b :: s))
    else .error (.next .keyNotString (b :: s))

/-- The step to the next key of an object, the first one or a later one. What is left
    is the text after the key's opening quote. -/
def nextKey (first : Bool) (s : Bytes) : Except Fault Step :=
  match skipBlanks s with
  | [] => .error (.next .endInObject [])
  | b :: s =>
    if b = 125 then .ok (.close (b :: s))
    else if first then openKey (b :: s)
    else if b = 44 then openKey (skipBlanks s)
    else .error (.next .expectedObjectCommaOrEnd (b :: s))

/-- The text after the colon between a key and its value. -/
def skipColon (s : Bytes) : Except Fault Bytes :=
  match skipBlanks s with
  | [] => .error (.next .endInObject [])
  | b :: s => if b = 58 then .ok s else .error (.next .expectedColon (b :: s))

/-- Reads items up to the closing bracket, after those in `read`, last first. -/
def readItems {α : Type} (item : Bytes → Scan α) :
    (fuel : Nat) → (first : Bool) → (read : List α) → Bytes → Scan (List α)
  | 0, _, _, _ => .error (.next .endInList [])
  | fuel + 1, first, read, s =>
    match nextItem first s with
    | .error f => .error f
    | .ok (.close s) => .ok (read.reverse, s.tail)
    | .ok (.more s) =>
      match item s with
      | .error f => .error f
      | .ok (v, s) => readItems item fuel false (v :: read) s

/-- How an entry joins those read so far. -/
abbrev AddEntry := String → Value → Object → Object

/-- Every entry is kept, repeated keys included. -/
def keepAll : AddEntry := fun key v m => m ++ [(key, v)]

/-- Reads entries up to the closing brace into the map of those read so far. -/
def readEntries (add : AddEntry) (item : Bytes → Scan Value) :
    (fuel : Nat) → (first : Bool) → (read : Object) → Bytes → Scan Object
  | 0, _, _, _ => .error (.next .endInObject [])
  | fuel + 1, first, read, s =>
    match nextKey first s with
    | .error f => .error f
    | .ok (.close s) => .ok (read, s.tail)
    | .ok (.more s) =>
      match scanString s with
      | .error f => .error f
      | .ok (key, s) =>
        match skipColon s with
        | .error f => .error f
        | .ok s =>
          match item s with
          | .error f => .error f
          | .ok (v, s) => readEntries add item fuel false (add key v read) s

/-- Reads the value at the front of a text. Opening an array or object inside `depth`
    others is a fault. -/
def readValue (add : AddEntry) : (depth : Nat) → Bytes → Scan Value
  | depth, s =>
    match skipBlanks s with
    | [] => .error (.next .endInValue [])
    | b :: s =>
      if b = 110 then (scanWord [117, 108, 108] s).map fun s => (.null, s)
      else if b = 116 then (scanWord [114, 117, 101] s).map fun s => (.boolean true, s)
      else if b = 102 then (scanWord [97, 108, 115, 101] s).map fun s => (.boolean false, s)
      else if b = 45 then (scanNumber true s).map fun (x, s) => (.number x, s)
      else if Bytes.isDigit b then (scanNumber false (b :: s)).map fun (x, s) => (.number x, s)
      else if b = 34 then (scanString s).map fun (t, s) => (.string t, s)
      else if b = 91 then
        match depth with
        | 0 => .error (.next .recursionLimit (b :: s))
        | depth + 1 =>
          (readItems (readValue add depth) (s.length + 1) true [] s).map fun (l, s) => (.array l, s)
      else if b = 123 then
        match depth with
        | 0 => .error (.next .recursionLimit (b :: s))
        | depth + 1 =>
          (readEntries add (readValue add depth) (s.length + 1) true [] s).map fun (m, s) =>
            (.object m, s)
      else .error (.next .expectedValue (b :: s))

/-- What must follow the value of a whole text: blanks. -/
def finish (s : Bytes) : Except Fault Unit :=
  match skipBlanks s with
  | [] => .ok ()
  | b :: s => .error (.next .trailingCharacters (b :: s))

/-- The value that a whole text stands for; of a repeated key the last value counts. -/
def Value.read (text : Bytes) : Except Located Value :=
  match readValue Entries.put nestingLimit text with
  | .error f => .error (f.locate text)
  | .ok (v, s) =>
    match finish s with
    | .error f => .error (f.locate text)
    | .ok () => .ok v

end Testbed.Json
