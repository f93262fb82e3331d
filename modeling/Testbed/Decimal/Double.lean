/-!
# Binary floating-point numbers

The finite numbers of the 64-bit binary interchange format, computed in exact
natural-number arithmetic: a non-negative one is `significand · 2 ^ exponent`,
and every operation rounds the exact result to the nearest such number, a tie
going to the even significand (`Double.ofRatio`). Nothing here depends on the
machine's floating-point unit, so that what is computed can be reasoned about.
-/

namespace Testbed.Decimal

/-- A binary floating-point number, by its 64-bit pattern: a sign bit, eleven
    exponent bits and fifty-two bits of the fraction. -/
structure Double where
  /-- The bit pattern. -/
  bits : UInt64
  deriving DecidableEq, Repr, Inhabited

namespace Double

/-- The pattern of infinity, above that of every finite non-negative number. -/
def infinityBits : Nat := 0x7FF0000000000000

/-- Whether the sign bit is set. -/
def isNegative (x : Double) : Bool := x.bits.toNat / Nat.pow 2 63 == 1

/-- The pattern without the sign. -/
def magnitudeBits (x : Double) : Nat := x.bits.toNat % Nat.pow 2 63

/-- Whether the number is zero, of either sign. -/
def isZero (x : Double) : Bool := x.magnitudeBits == 0

/-- The significand `m` of the magnitude `m · 2 ^ q`. -/
def significand (x : Double) : Nat :=
  let fraction := x.magnitudeBits % Nat.pow 2 52
  if x.magnitudeBits / Nat.pow 2 52 = 0 then fraction else fraction + Nat.pow 2 52

/-- The exponent `q` of the magnitude `m · 2 ^ q`. -/
def exponent (x : Double) : Int :=
  (max (x.magnitudeBits / Nat.pow 2 52) 1 : Nat) - 1075

/-- The magnitude as a quotient of natural numbers. -/
def ratio (x : Double) : Nat × Nat :=
  if 0 ≤ x.exponent then (x.significand * Nat.pow 2 x.exponent.toNat, 1)
  else (x.significand, Nat.pow 2 (-x.exponent).toNat)

/-- A quotient rounded to a whole number, a tie going to the even one. -/
def roundHalfEven (num den : Nat) : Nat :=
  let floor := num / den
  let rest := num % den
  if 2 * rest < den then floor
  else if den < 2 * rest then floor + 1
  else if floor % 2 = 0 then floor else floor + 1

/-- The exponent with which a quotient has a significand of 53 bits, or the
    least exponent of the format. -/
def exponentFor (num den : Nat) : Int :=
  let guess : Int := (num.log2 : Int) - den.log2 - 52
  let fits : Bool :=
    -- The guess leaves 53 bits unless the leading digits make it one too high.
    if 0 ≤ guess then Nat.pow 2 52 * (den * Nat.pow 2 guess.toNat) ≤ num
    else Nat.pow 2 52 * den ≤ num * Nat.pow 2 (-guess).toNat
  max (if fits then guess else guess - 1) (-1074)

/-- The pattern of the non-negative number nearest to a quotient; `infinityBits`
    or more when it lies outside the format. A significand that rounding carries
    to 54 bits carries into the exponent. -/
def bitsOfRatio (num den : Nat) : Nat :=
  if num = 0 then 0
  else
    let q := exponentFor num den
    let m :=
      if 0 ≤ q then roundHalfEven num (den * Nat.pow 2 q.toNat)
      else roundHalfEven (num * Nat.pow 2 (-q).toNat) den
    (q + 1074).toNat * Nat.pow 2 52 + m

/-- The non-negative number nearest to a quotient, unless that overflows. -/
def ofRatio? (num den : Nat) : Option Double :=
  let bits := bitsOfRatio num den
  if bits < infinityBits then some ⟨UInt64.ofNat bits⟩ else none

/-- The number zero. -/
def zero : Double := ⟨0⟩

/-- The non-negative number nearest to a quotient that is known not to overflow. -/
def ofRatio (num den : Nat) : Double := (ofRatio? num den).getD zero

/-- The number nearest to a natural number below `2 ^ 64`. -/
def ofNat (n : Nat) : Double := ofRatio n 1

/-- The same magnitude with the other sign. -/
def neg (x : Double) : Double := ⟨x.bits ^^^ 0x8000000000000000⟩

/-- The number nearest to `10 ^ k`, for `k ≤ 308`. -/
def powerOfTen (k : Nat) : Double := ofRatio (Nat.pow 10 k) 1

/-- The product of two magnitudes, unless it overflows. -/
def mul? (x y : Double) : Option Double :=
  ofRatio? (x.ratio.1 * y.ratio.1) (x.ratio.2 * y.ratio.2)

/-- The quotient of two magnitudes, the second one not zero and at least one. -/
def div (x y : Double) : Double :=
  ofRatio (x.ratio.1 * y.ratio.2) (x.ratio.2 * y.ratio.1)

/-- A magnitude divided by `10 ^ k`, in steps of at most `10 ^ 308`; the steps
    end early at zero. -/
def scaleDown (x : Double) (k : Nat) : Double :=
  if k ≤ 308 then x.div (powerOfTen k)
  else if x.isZero then x
  else scaleDown (x.div (powerOfTen 308)) (k - 308)
termination_by k

/-- The magnitude `significand · 10 ^ exponent`, computed as one rounding of the
    significand and one of its product or quotient with the power of ten (several
    for an exponent below `-308`). Nothing when it overflows. -/
def ofDecimal? (significand : Nat) (exponent : Int) : Option Double :=
  let x := ofNat significand
  if 0 ≤ exponent then
    if exponent ≤ 308 then x.mul? (powerOfTen exponent.toNat)
    else if x.isZero then some x else none
  else some (x.scaleDown (-exponent).toNat)

end Double

end Testbed.Decimal
