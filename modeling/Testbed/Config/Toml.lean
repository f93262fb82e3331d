import Testbed.Config.Toml.Draft
import Testbed.Config.Toml.Scalar

/-!
# Configuration files

Files are written in TOML: lines `key = value`, gathered into tables by headers
`[table]` and `[[list of tables]]`. A file is read into a JSON object, its keys in the
order of their octets; nothing stands for a file with a mistake in it. No key may be
given twice, and a table that was written as a value or gathered by dotted keys may not
be gone back to.

* `Toml.read` reads the text of a file.
-/

namespace Testbed.Config.Toml

open Json Decimal

/-! ## Values -/

/-- What follows a comment. -/
def skipComment (s : List Char) : Option (List Char) :=
  match s with
  | '#' :: r =>
    let text := r.takeWhile fun c => c ≠ '\n'
    let bare := if text.getLast? = some '\r' then text.dropLast else text
    if bare.any isForbidden then none else some (r.dropWhile fun c => c ≠ '\n')
  | s => some s

/-- What follows blanks, line breaks and comments. -/
def skipLines : (fuel : Nat) → List Char → Option (List Char)
  | 0, _ => none
  | fuel + 1, s => do
    let s ← skipComment (skipBlank s)
    match newline? s with
    | some s => skipLines fuel s
    | none => some s

mutual

/-- Reads a value. -/
def readValue : (fuel : Nat) → List Char → Option (Value × List Char)
  | 0, _ => none
  | fuel + 1, s =>
    match s with
    | '"' :: '"' :: '"' :: r =>
      (quotedLines (r.length + 1) [] (dropNewline r)).map fun (t, r) => (.string t, r)
    | '\'' :: '\'' :: '\'' :: r =>
      (literalLines (r.length + 1) [] (dropNewline r)).map fun (t, r) => (.string t, r)
    | '"' :: r => (quoted (r.length + 1) [] r).map fun (t, r) => (.string t, r)
    | '\'' :: r => (literal [] r).map fun (t, r) => (.string t, r)
    | '[' :: r => do
      let r ← skipLines (r.length + 1) r
      match r with
      | ']' :: r => some (.array [], r)
      | r => do
        let (items, r) ← readItems fuel r
        some (.array items, r)
    | '{' :: r =>
      match skipBlank r with
      | '}' :: r => some (.object [], r)
      | r => do
        let (d, r) ← readInline fuel [] r
        some (.object (sorted (finishEntries d)), r)
    | s => do
      let (word, rest) := scalarText s
      let v ← scalar? word
      some (v, rest)

/-- Reads the items of an array. -/
def readItems : (fuel : Nat) → List Char → Option (List Value × List Char)
  | 0, _ => none
  | fuel + 1, s => do
    let (v, s) ← readValue fuel s
    let s ← skipLines (s.length + 1) s
    match s with
    | ']' :: s => some ([v], s)
    | ',' :: s => do
      let s ← skipLines (s.length + 1) s
      match s with
      | ']' :: s => some ([v], s)
      | s => do
        let (items, s) ← readItems fuel s
        some (v :: items, s)
    | _ => none

/-- Reads the entries of a table that is written as a value. -/
def readInline : (fuel : Nat) → Draft → List Char → Option (Draft × List Char)
  | 0, _, _ => none
  | fuel + 1, d, s => do
    let (names, s) ← key (s.length + 1) s
    let s ← expect '=' s
    let (v, s) ← readValue fuel (skipBlank s)
    let d ← assign v names d
    match skipBlank s with
    | '}' :: s => some (d, s)
    | ',' :: s => readInline fuel d s
    | _ => none

end

/-! ## Files -/

/-- What follows a header's name. -/
def closeHeader (brackets : Nat) (s : List Char) : Option (List Char) :=
  if s.take brackets = List.replicate brackets ']' then some (s.drop brackets) else none

/-- The rest of a line that holds no more than a comment, without its break. -/
def endLine (s : List Char) : Option (List Char) := do
  let s ← skipComment (skipBlank s)
  match s with
  | [] => some []
  | s => newline? s

/-- Reads the lines of a file, in the table of `header`; at most `fuel` lines. -/
def readLines : (fuel : Nat) → (header : List String) → Draft → List Char → Option Draft
  | 0, _, _, _ => none
  | fuel + 1, header, d, s => do
    let s ← skipLines (s.length + 1) s
    match s with
    | [] => some d
    | '[' :: '[' :: r => do
      let (names, r) ← key (r.length + 1) r
      let r ← closeHeader 2 r
      let r ← endLine r
      let d ← openItem names d
      readLines fuel names d r
    | '[' :: r => do
      let (names, r) ← key (r.length + 1) r
      let r ← closeHeader 1 r
      let r ← endLine r
      let d ← openTable names d
      readLines fuel names d r
    | s => do
      let (names, r) ← key (s.length + 1) s
      let r ← expect '=' r
      let r := skipBlank r
      let (v, r) ← readValue (2 * r.length + 2) r
      let r ← endLine r
      let d ← within (assign v names) header d
      readLines fuel header d r

/-- Reads the text of a file. -/
def read (text : String) : Option Json.Object :=
  let s := text.toList
  let s := if s.head? = some (Char.ofNat 0xFEFF) then s.tail else s
  (readLines (s.length + 1) [] [] s).map fun d => sorted (finishEntries d)

end Testbed.Config.Toml
