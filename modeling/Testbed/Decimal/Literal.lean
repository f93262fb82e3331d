import Testbed.Decimal.Double

/-!
# Decimal literals

Numbers as people write them: a sign, digits, a fraction and an exponent.

* `Literal.natural?` and `Literal.integer?` read whole numbers;
* `Literal.double?` reads the binary number nearest to a decimal one.
-/

namespace Testbed.Decimal.Literal

/-- The value of a decimal digit. -/
def digit (c : Char) : Nat := c.toNat - 48

/-- The number that digits stand for. -/
def value (s : List Char) : Nat := s.foldl (fun n c => n * 10 + digit c) 0

/-- A natural number in digits. -/
def natural? (s : List Char) : Option Nat :=
  if s.isEmpty || !s.all Char.isDigit then none else some (value s)

/-- A sign, as whether it is a minus, and what follows it. -/
def sign : List Char → Bool × List Char
  | '-' :: r => (true, r)
  | '+' :: r => (false, r)
  | s => (false, s)

/-- A whole number, with a sign or without. -/
def integer? (s : List Char) : Option Int :=
  let (minus, digits) := sign s
  (natural? digits).map fun n => if minus then -(n : Int) else n

/-- An exponent: nothing, or `e` and a whole number. -/
def exponent? : List Char → Option Int
  | [] => some 0
  | c :: r => if c = 'e' || c = 'E' then integer? r else none

/-- A decimal number without its sign: the number without its point, and the exponent of
    ten that makes up for it. -/
def scientific? (s : List Char) : Option (Nat × Int) := do
  let whole := s.takeWhile Char.isDigit
  let rest := s.dropWhile Char.isDigit
  let (fraction, tail) :=
    match rest with
    | '.' :: r => (r.takeWhile Char.isDigit, r.dropWhile Char.isDigit)
    | r => ([], r)
  if whole.isEmpty && fraction.isEmpty then none
  else do
    let e ← exponent? tail
    some (value (whole ++ fraction), e - fraction.length)

/-- The exponents beyond which a number of so many digits is surely too great or zero. -/
def exponentBound (significand : Nat) : Int := 400 + (Nat.toDigits 10 significand).length

/-- The non-negative number nearest to `significand · 10 ^ exponent`, unless that
    overflows. -/
def nearest? (significand : Nat) (exponent : Int) : Option Double :=
  if significand = 0 then some .zero
  else if exponentBound significand < exponent then none
  else if exponent < -exponentBound significand then some .zero
  else if 0 ≤ exponent then Double.ofRatio? (significand * Nat.pow 10 exponent.toNat) 1
  else Double.ofRatio? significand (Nat.pow 10 (-exponent).toNat)

/-- A number read from text. -/
inductive Reading
  /-- A finite number. -/
  | finite (x : Double)
  /-- A number too great for the format. -/
  | overflow
  deriving DecidableEq, Repr

/-- The binary number nearest to a decimal one, with a sign or without. -/
def double? (s : List Char) : Option Reading :=
  let (minus, rest) := sign s
  (scientific? rest).map fun (significand, exponent) =>
    match nearest? significand exponent with
    | some x => .finite (if minus then x.neg else x)
    | none => .overflow

end Testbed.Decimal.Literal
