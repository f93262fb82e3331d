import Testbed.Config.Toml.Text
import Testbed.Decimal.Literal
import Testbed.Json.Value

/-!
# Scalars of configuration files

Truth values, whole numbers in four bases, numbers with a fraction, and dates and times.
A date or time is a value of its own kind, and no setting takes one.
-/

namespace Testbed.Config.Toml

open Json Decimal

/-! ## Scalars -/

/-- A character that ends a number or a word. -/
def endsScalar (c : Char) : Bool :=
  c = ',' || c = ']' || c = '}' || c = '#' || c = ' ' || c = '\t' || c = '\n' || c = '\r'

/-- Digits that may have single underscores between them, without the underscores. -/
def plain? (isDigit : Char → Bool) : List Char → Option (List Char)
  | [] => none
  | [c] => if isDigit c then some [c] else none
  | c :: '_' :: d :: r =>
    if isDigit c && isDigit d then (plain? isDigit (d :: r)).map (c :: ·) else none
  | c :: r => if isDigit c then (plain? isDigit r).map (c :: ·) else none

/-- The number of digits in a base. -/
def inBase (base : Nat) (digits : List Char) : Nat :=
  digits.foldl (fun n c => n * base + (hex? c).getD 0) 0

/-- A number as a value; one beyond 64 bits with a sign is a mistake. -/
def whole? (n : Int) : Option Value :=
  if -9223372036854775808 ≤ n ∧ n < 9223372036854775808 then some (.number (.ofInt n)) else none

/-- A whole number in another base than ten. -/
def based? : List Char → Option Value
  | '0' :: 'x' :: r => do
    let digits ← plain? (fun c => (hex? c).isSome) r
    whole? (inBase 16 digits)
  | '0' :: 'o' :: r => do
    let digits ← plain? (fun c => '0' ≤ c && c ≤ '7') r
    whole? (inBase 8 digits)
  | '0' :: 'b' :: r => do
    let digits ← plain? (fun c => c = '0' || c = '1') r
    whole? (inBase 2 digits)
  | _ => none

/-- Digits of a whole part: no zero stands in front of others. -/
def wholePart? (s : List Char) : Option (List Char) := do
  let digits ← plain? Char.isDigit s
  match digits with
  | '0' :: _ :: _ => none
  | digits => some digits

/-- A whole number in base ten. -/
def decimal? (s : List Char) : Option Value := do
  let (minus, rest) := Literal.sign s
  let digits ← wholePart? rest
  let n := Literal.value digits
  whole? (if minus then -(n : Int) else n)

/-- A number that has no JSON form, such as infinity, is nothing there. -/
def ofReading : Literal.Reading → Value
  | .finite x => .number (.float x)
  | .overflow => .null

/-- The exponent of a number, without underscores. -/
def exponent? : List Char → Option (List Char)
  | [] => some []
  | c :: r =>
    if c = 'e' || c = 'E' then do
      let digits ← plain? Char.isDigit (Literal.sign r).2
      some ('e' :: (if (Literal.sign r).1 then ['-'] else []) ++ digits)
    else none

/-- A number with a fraction or an exponent. -/
def float? (s : List Char) : Option Value := do
  let (minus, rest) := Literal.sign s
  if rest = ['i', 'n', 'f'] ∨ rest = ['n', 'a', 'n'] then some .null
  else do
    let isPart (c : Char) : Bool := c ≠ '.' && c ≠ 'e' && c ≠ 'E'
    let whole ← wholePart? (rest.takeWhile isPart)
    let (fraction, tail) ←
      match rest.dropWhile isPart with
      | '.' :: r => do
        let isDigit (c : Char) : Bool := c ≠ 'e' && c ≠ 'E'
        let digits ← plain? Char.isDigit (r.takeWhile isDigit)
        some ('.' :: digits, r.dropWhile isDigit)
      | [] => none
      | r => some ([], r)
    let exponent ← exponent? tail
    let reading ← Literal.double? ((if minus then ['-'] else []) ++ whole ++ fraction ++ exponent)
    some (ofReading reading)

/-! ## Dates and times -/

/-- A number of so many digits, no greater than a bound and no less than another, and what
    follows it. -/
def digits? (digits least most : Nat) (s : List Char) : Option (Nat × List Char) := do
  let n ← Literal.natural? (s.take digits)
  if (s.take digits).length = digits ∧ least ≤ n ∧ n ≤ most then some (n, s.drop digits) else none

/-- What follows a number of so many digits within bounds. -/
def field? (digits least most : Nat) (s : List Char) : Option (List Char) :=
  (digits? digits least most s).map Prod.snd

/-- What follows a character that must come next. -/
def expect (c : Char) : List Char → Option (List Char)
  | d :: r => if c = d then some r else none
  | [] => none

/-- How many days a month has; every fourth year is a leap year, but of the years that end
    a century only every fourth. -/
def daysIn (year month : Nat) : Nat :=
  if month = 2 then
    if year % 4 = 0 ∧ (year % 100 ≠ 0 ∨ year % 400 = 0) then 29 else 28
  else if month = 4 ∨ month = 6 ∨ month = 9 ∨ month = 11 then 30
  else 31

/-- What follows a date. -/
def date? (s : List Char) : Option (List Char) := do
  let (year, s) ← digits? 4 0 9999 s
  let s ← expect '-' s
  let (month, s) ← digits? 2 1 12 s
  let s ← expect '-' s
  field? 2 1 (daysIn year month) s

/-- What follows the fraction of a second. -/
def secondFraction? : List Char → Option (List Char)
  | '.' :: r => if (r.takeWhile Char.isDigit).isEmpty then none else some (r.dropWhile Char.isDigit)
  | r => some r

/-- What follows a time of the day. -/
def time? (s : List Char) : Option (List Char) := do
  let s ← field? 2 0 23 s
  let s ← expect ':' s
  let s ← field? 2 0 59 s
  let s ← expect ':' s
  let s ← field? 2 0 60 s
  secondFraction? s

/-- What follows the distance from universal time. -/
def offset? : List Char → Option (List Char)
  | [] => some []
  | c :: r =>
    if c = 'Z' || c = 'z' then some r
    else if c = '+' || c = '-' then do
      let r ← field? 2 0 23 r
      let r ← expect ':' r
      field? 2 0 59 r
    else none

/-- What follows a date, a time, or both. -/
def moment? (s : List Char) : Option (List Char) :=
  match date? s with
  | some [] => some []
  | some (c :: r) =>
    if c = 'T' || c = 't' || c = ' ' then do
      let r ← time? r
      offset? r
    else none
  | none => time? s

/-- The only key of an object that stands for a date or a time. -/
def momentKey : String := "$__toml_private_datetime"

/-- A date, a time, or both. -/
def momentValue? (s : List Char) : Option Value :=
  if moment? s = some [] then some (.object [(momentKey, .string (String.ofList s))]) else none

/-- A value that is a single word. -/
def scalar? (s : List Char) : Option Value :=
  if s = ['t', 'r', 'u', 'e'] then some (.boolean true)
  else if s = ['f', 'a', 'l', 's', 'e'] then some (.boolean false)
  else (based? s).or ((decimal? s).or ((float? s).or (momentValue? s)))

/-- A word, and a time after a blank that belongs to a date. -/
def scalarText (s : List Char) : List Char × List Char :=
  let word := s.takeWhile fun c => !endsScalar c
  let rest := s.dropWhile fun c => !endsScalar c
  match rest with
  | ' ' :: d :: r =>
    if d.isDigit && date? word == some [] then
      let time := (d :: r).takeWhile fun c => !endsScalar c
      (word ++ ' ' :: time, (d :: r).dropWhile fun c => !endsScalar c)
    else (word, rest)
  | rest => (word, rest)

end Testbed.Config.Toml
