import Testbed.Json.Reader
import Testbed.Json.Unexpected

/-!
# Decoding JSON text

To decode a text is to read it into a type without building a value first. What is
wrong with the text then comes to light in the order of the text, and a complaint
about the shape of a part is placed where reading stands when the part is left. A
complaint that is found only after a part has been read through has no place yet
(`Misfit.unplaced`); the container around it gives it one, behind its own closing
bracket if that follows.
-/

namespace Testbed.Json

/-- Why a text does not decode. -/
inductive Misfit
  /-- A fault at a place. -/
  | placed (f : Fault)
  /-- A complaint that has no place yet, with what remained of the text. -/
  | unplaced (message : String) (rest : Bytes)

/-- Reads a part of a text into a type. -/
abbrev Decoder (α : Type) := Bytes → Except Misfit (α × Bytes)

namespace Decoder

/-- A complaint placed where reading stands. -/
def complain {α : Type} (message : String) (rest : Bytes) : Except Misfit α :=
  .error (.placed (.here (.shape message) rest))

/-- A fault as a misfit. -/
def fault {α : Type} (f : Fault) : Except Misfit α := .error (.placed f)

/-- What a scan yields, as a decoder does. -/
def ofScan {α : Type} : Scan α → Except Misfit (α × Bytes)
  | .ok r => .ok r
  | .error f => fault f

/-! ## Scalars -/

/-- The complaint about the next value, which is not of the `expected` type. A scalar is
    read over, and a container is not entered. -/
def mismatch {α : Type} (expected : String) (s : Bytes) : Except Misfit α :=
  let refuse (v : Value) (rest : Bytes) : Except Misfit α :=
    complain (Unexpected.complaint v expected) rest
  match s with
  | [] => fault (.next .expectedValue [])
  | b :: _ =>
    if b = 91 then refuse (.array []) s
    else if b = 123 then refuse (.object []) s
    else
      match readValue Entries.put 0 s with
      | .ok (v, rest) => refuse v rest
      | .error f => fault f

/-- A text. -/
def string (expected : String) : Decoder String := fun s =>
  match skipBlanks s with
  | [] => fault (.next .endInValue [])
  | b :: s => if b = 34 then ofScan (scanString s) else mismatch expected (b :: s)

/-- A natural number below `limit`. -/
def natural (limit : Nat) (expected : String) : Decoder Nat := fun s =>
  match skipBlanks s with
  | [] => fault (.next .endInValue [])
  | b :: r =>
    if b = 45 ∨ Bytes.isDigit b then
      match if b = 45 then scanNumber true r else scanNumber false (b :: r) with
      | .error f => fault f
      | .ok (x, rest) =>
        match x.natural? with
        | some n =>
          if n < limit then .ok (n, rest) else complain (Unexpected.outside x expected) rest
        | none =>
          if x.isInteger then complain (Unexpected.outside x expected) rest
          else complain (Unexpected.complaint (.number x) expected) rest
    else mismatch expected (b :: r)

/-- A name that stands for a value. -/
def variant {α : Type} (find? : String → Option α) (choices : String) : Decoder α := fun s =>
  match string "variant identifier" s with
  | .error e => .error e
  | .ok (name, rest) =>
    match find? name with
    | some a => .ok (a, rest)
    | none => complain (Unexpected.unknownVariant name choices) rest

/-- The value `null`. -/
def unit : Decoder Unit := fun s =>
  match skipBlanks s with
  | [] => fault (.next .endInValue [])
  | b :: r =>
    if b = 110 then
      match scanWord [117, 108, 108] r with
      | .ok rest => .ok ((), rest)
      | .error f => fault f
    else mismatch "unit" (b :: r)

/-- A name that stands for a value, alone or as the only key of an object with the value
    `null`. -/
def enumeration {α : Type} (find? : String → Option α) (choices : String) : Decoder α := fun s =>
  match skipBlanks s with
  | [] => fault (.next .endInValue [])
  | b :: r =>
    if b = 34 then variant find? choices (b :: r)
    else if b = 123 then
      match variant find? choices r with
      | .error e => .error e
      | .ok (a, r) =>
        match skipColon r with
        | .error f => fault f
        | .ok r =>
          match unit r with
          | .error e => .error e
          | .ok ((), r) =>
            match skipBlanks r with
            | [] => fault (.here .endInObject [])
            | c :: r => if c = 125 then .ok (a, r) else fault (.here .expectedValue (c :: r))
    else fault (.next .expectedValue (b :: r))

/-! ## Containers -/

/-- The end of a list whose items have been read. -/
def closeList (s : Bytes) : Except Fault Bytes :=
  match skipBlanks s with
  | [] => .error (.next .endInList [])
  | b :: s =>
    if b = 93 then .ok s
    else if b = 44 then
      match skipBlanks s with
      | c :: s =>
        if c = 93 then .error (.next .trailingComma (c :: s))
        else .error (.next .trailingCharacters (c :: s))
      | [] => .error (.next .trailingCharacters [])
    else .error (.next .trailingCharacters (b :: s))

/-- The end of an object whose entries have been read. -/
def closeObject (s : Bytes) : Except Fault Bytes :=
  match skipBlanks s with
  | [] => .error (.next .endInObject [])
  | b :: s =>
    if b = 125 then .ok s
    else if b = 44 then .error (.next .trailingComma (b :: s))
    else .error (.next .trailingCharacters (b :: s))

/-- Where reading stands after an attempt to close a list. -/
def afterList (s : Bytes) : Bytes :=
  match skipBlanks s with
  | [] => []
  | b :: s => if b = 93 then s else if b = 44 then skipBlanks s else b :: s

/-- Where reading stands after an attempt to close an object. -/
def afterObject (s : Bytes) : Bytes :=
  match skipBlanks s with
  | [] => []
  | b :: s => if b = 125 then s else b :: s

/-- The result of a container: a complaint without a place gets one behind it. -/
def settle {α : Type} (close : Bytes → Except Fault Bytes) (after : Bytes → Bytes) :
    Except Misfit (α × Bytes) → Except Misfit (α × Bytes)
  | .ok (a, s) =>
    match close s with
    | .ok s => .ok (a, s)
    | .error f => fault f
  | .error (.unplaced message rest) => complain message (after rest)
  | .error (.placed f) => fault f

/-- A container: what is inside brackets or braces, or the complaint about anything else. -/
def container {α : Type} (expected : String) (depth : Nat) (list object : Decoder α) :
    Decoder α := fun s =>
  match skipBlanks s with
  | [] => fault (.next .endInValue [])
  | b :: r =>
    if b = 91 then
      if depth = 0 then fault (.next .recursionLimit (b :: r))
      else settle closeList afterList (list r)
    else if b = 123 then
      if depth = 0 then fault (.next .recursionLimit (b :: r))
      else settle closeObject afterObject (object r)
    else mismatch expected (b :: r)

/-! ## Values that are skipped -/

/-- A number of which nothing is kept, after its sign. -/
def skipExponent (s : Bytes) : Except Fault Bytes :=
  let s :=
    match s with
    | b :: r => if b = 43 ∨ b = 45 then r else s
    | [] => s
  match s with
  | [] => .error (.here .invalidNumber [])
  | b :: s =>
    if Bytes.isDigit b then .ok (s.dropWhile Bytes.isDigit) else .error (.here .invalidNumber s)

/-- What follows the whole part of a number. -/
def skipFraction (s : Bytes) : Except Fault Bytes :=
  let exponent (s : Bytes) : Except Fault Bytes :=
    match s with
    | b :: r => if b = 101 ∨ b = 69 then skipExponent r else .ok s
    | [] => .ok s
  match s with
  | [] => .ok s
  | b :: r =>
    if b = 46 then
      match r with
      | c :: _ =>
        if Bytes.isDigit c then exponent (r.dropWhile Bytes.isDigit)
        else .error (.next .invalidNumber r)
      | [] => .error (.next .invalidNumber [])
    else exponent s

/-- A number after its sign. -/
def skipNumber : Bytes → Except Fault Bytes
  | [] => .error (.here .invalidNumber [])
  | b :: s =>
    if b = 48 then
      match s with
      | c :: _ => if Bytes.isDigit c then .error (.next .invalidNumber s) else skipFraction s
      | [] => .ok []
    else if Bytes.isDigit b then skipFraction (s.dropWhile Bytes.isDigit)
    else .error (.here .invalidNumber s)

/-- A scalar of which nothing is kept. -/
def skipScalar (b : UInt8) (s : Bytes) : Except Fault Bytes :=
  if b = 110 then scanWord [117, 108, 108] s
  else if b = 116 then scanWord [114, 117, 101] s
  else if b = 102 then scanWord [97, 108, 115, 101] s
  else if b = 45 then skipNumber s
  else if Bytes.isDigit b then skipNumber (b :: s)
  else if b = 34 then skipString s
  else .error (.next .expectedValue (b :: s))

/-- The place that skipping has come to. -/
inductive Spot
  /-- Before a value. -/
  | value
  /-- After a value. -/
  | after
  /-- After an opening bracket. -/
  | opened

/-- The key of an entry, and its colon. -/
def skipKey (s : Bytes) : Except Fault Bytes :=
  match skipBlanks s with
  | [] => .error (.next .endInObject [])
  | b :: s =>
    if b = 34 then
      match skipString s with
      | .ok s => skipColon s
      | .error f => .error f
    else .error (.next .keyNotString (b :: s))

/-- Skips the rest of a value inside open containers, the innermost first; `true` stands
    for an object. At most `fuel` steps. Nesting has no limit. -/
def skipFrom : (fuel : Nat) → Spot → (open_ : List Bool) → Bytes → Except Fault Bytes
  | 0, _, _, _ => .error (.next .endInValue [])
  | fuel + 1, .value, enclosing, s =>
    match skipBlanks s with
    | [] => .error (.next .endInValue [])
    | b :: s =>
      if b = 91 then skipFrom fuel .opened (false :: enclosing) s
      else if b = 123 then skipFrom fuel .opened (true :: enclosing) s
      else
        match skipScalar b s with
        | .ok s => skipFrom fuel .after enclosing s
        | .error f => .error f
  | _ + 1, .after, [], s => .ok s
  | _ + 1, .opened, [], s => .ok s
  | fuel + 1, spot, isObject :: enclosing, s =>
    let item (s : Bytes) : Except Fault Bytes :=
      if isObject then
        match skipKey s with
        | .ok s => skipFrom fuel .value (isObject :: enclosing) s
        | .error f => .error f
      else skipFrom fuel .value (isObject :: enclosing) s
    match skipBlanks s with
    | [] => .error (.next (if isObject then .endInObject else .endInList) [])
    | b :: s =>
      if b = (if isObject then 125 else 93) then skipFrom fuel .after enclosing s
      else
        match spot with
        | .opened => item (b :: s)
        | _ =>
          if b = 44 then item s
          else
            .error (.next (if isObject then .expectedObjectCommaOrEnd else .expectedListCommaOrEnd)
              (b :: s))

/-- Skips a value. -/
def skipValue (s : Bytes) : Except Fault Bytes := skipFrom (2 * s.length + 2) .value [] s

/-- Decodes a whole text. A complaint that has no place in the end is told without one. -/
def run {α : Type} (d : Decoder α) (text : Bytes) : Except String α :=
  match d text with
  | .error (.unplaced message _) => .error message
  | .error (.placed f) => .error (f.locate text).text
  | .ok (a, s) =>
    match finish s with
    | .error f => .error (f.locate text).text
    | .ok () => .ok a

end Decoder

end Testbed.Json
