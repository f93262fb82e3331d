import Testbed.Text.Utf8

/-!
# Texts and keys of configuration files

A text stands between quotation marks, where a backslash has a meaning, or between
apostrophes, where nothing has; three of them hold a text of several lines. A key is a
bare word or a text of one line, and points make a path of keys.
-/

namespace Testbed.Config.Toml

/-! ## Strings -/

/-- Characters that no string and no comment may hold: controls but the tab. -/
def isForbidden (c : Char) : Bool := (c.toNat < 0x20 && c ≠ '\t') || c.toNat = 0x7F

/-- A line break that a text starts with, and what follows. -/
def newline? : List Char → Option (List Char)
  | '\n' :: r => some r
  | '\r' :: '\n' :: r => some r
  | _ => none

/-- The value of a hexadecimal digit. -/
def hex? (c : Char) : Option Nat :=
  if c.isDigit then some (c.toNat - 48)
  else if 'a' ≤ c ∧ c ≤ 'f' then some (c.toNat - 87)
  else if 'A' ≤ c ∧ c ≤ 'F' then some (c.toNat - 55)
  else none

/-- The character of a code point in hexadecimal. -/
def codePoint? (digits : List Char) : Option Char := do
  let values ← digits.mapM hex?
  let n := values.foldl (fun n d => n * 16 + d) 0
  if n < 0xD800 ∨ (0xDFFF < n ∧ n < 0x110000) then some (Char.ofNat n) else none

/-- The character of an escape, after the backslash, and what follows. -/
def escape? : List Char → Option (Char × List Char)
  | 'b' :: r => some (Char.ofNat 8, r)
  | 't' :: r => some ('\t', r)
  | 'n' :: r => some ('\n', r)
  | 'f' :: r => some (Char.ofNat 12, r)
  | 'r' :: r => some ('\r', r)
  | '"' :: r => some ('"', r)
  | '\\' :: r => some ('\\', r)
  | 'u' :: a :: b :: c :: d :: r => (codePoint? [a, b, c, d]).map fun x => (x, r)
  | 'U' :: a :: b :: c :: d :: e :: f :: g :: h :: r =>
    (codePoint? [a, b, c, d, e, f, g, h]).map fun x => (x, r)
  | _ => none

/-- A string between quotes, after the opening one; at most `fuel` characters. -/
def quoted : (fuel : Nat) → (read : List Char) → List Char → Option (String × List Char)
  | 0, _, _ => none
  | _ + 1, _, [] => none
  | _ + 1, read, '"' :: r => some (String.ofList read.reverse, r)
  | fuel + 1, read, '\\' :: r => do
    let (c, r) ← escape? r
    quoted fuel (c :: read) r
  | fuel + 1, read, c :: r => if isForbidden c then none else quoted fuel (c :: read) r

/-- A string between apostrophes, after the opening one. -/
def literal : (read : List Char) → List Char → Option (String × List Char)
  | _, [] => none
  | read, '\'' :: r => some (String.ofList read.reverse, r)
  | read, c :: r => if isForbidden c then none else literal (c :: read) r

/-- A text without the spaces, tabs and line breaks at its start. -/
def skipGap (s : List Char) : List Char :=
  s.dropWhile fun c => c = ' ' || c = '\t' || c = '\n' || c = '\r'

/-- What follows a backslash at the end of a line: the gap is left out. -/
def lineEnd? (s : List Char) : Option (List Char) :=
  let blank := s.dropWhile fun c => c = ' ' || c = '\t'
  if (newline? blank).isSome then some (skipGap blank) else none

/-- A string of several lines between quotes, after the opening ones. -/
def quotedLines : (fuel : Nat) → (read : List Char) → List Char → Option (String × List Char)
  | 0, _, _ => none
  | _ + 1, _, [] => none
  | _ + 1, read, '"' :: '"' :: '"' :: '"' :: '"' :: r =>
    some (String.ofList ('"' :: '"' :: read).reverse, r)
  | _ + 1, read, '"' :: '"' :: '"' :: '"' :: r => some (String.ofList ('"' :: read).reverse, r)
  | _ + 1, read, '"' :: '"' :: '"' :: r => some (String.ofList read.reverse, r)
  | fuel + 1, read, '\\' :: r =>
    match lineEnd? r with
    | some r => quotedLines fuel read r
    | none => do
      let (c, r) ← escape? r
      quotedLines fuel (c :: read) r
  | fuel + 1, read, c :: r =>
    match newline? (c :: r) with
    | some r => quotedLines fuel ('\n' :: read) r
    | none => if isForbidden c then none else quotedLines fuel (c :: read) r

/-- A string of several lines between apostrophes, after the opening ones. -/
def literalLines : (fuel : Nat) → (read : List Char) → List Char → Option (String × List Char)
  | 0, _, _ => none
  | _ + 1, _, [] => none
  | _ + 1, read, '\'' :: '\'' :: '\'' :: '\'' :: '\'' :: r =>
    some (String.ofList ('\'' :: '\'' :: read).reverse, r)
  | _ + 1, read, '\'' :: '\'' :: '\'' :: '\'' :: r =>
    some (String.ofList ('\'' :: read).reverse, r)
  | _ + 1, read, '\'' :: '\'' :: '\'' :: r => some (String.ofList read.reverse, r)
  | fuel + 1, read, c :: r =>
    match newline? (c :: r) with
    | some r => literalLines fuel ('\n' :: read) r
    | none => if isForbidden c then none else literalLines fuel (c :: read) r

/-- A text without the line break at its start. -/
def dropNewline (s : List Char) : List Char := (newline? s).getD s

/-! ## Keys -/

/-- A text without the spaces and tabs at its start. -/
def skipBlank (s : List Char) : List Char := s.dropWhile fun c => c = ' ' || c = '\t'

/-- A character of a bare key. -/
def isBare (c : Char) : Bool :=
  c.isDigit || ('a' ≤ c && c ≤ 'z') || ('A' ≤ c && c ≤ 'Z') || c = '_' || c = '-'

/-- A key without dots. -/
def simpleKey (s : List Char) : Option (String × List Char) :=
  match s with
  | '"' :: r => quoted (r.length + 1) [] r
  | '\'' :: r => literal [] r
  | s =>
    let name := s.takeWhile isBare
    if name.isEmpty then none else some (String.ofList name, s.dropWhile isBare)

/-- A key, dotted or not, and what follows it and the blanks behind it. -/
def key : (fuel : Nat) → List Char → Option (List String × List Char)
  | 0, _ => none
  | fuel + 1, s => do
    let (name, s) ← simpleKey (skipBlank s)
    match skipBlank s with
    | '.' :: s => do
      let (names, s) ← key fuel s
      some (name :: names, s)
    | s => some ([name], s)

end Testbed.Config.Toml
