import Testbed.Decimal.Double

/-!
# Shortest decimals

The decimal with the fewest digits among those that round to a given binary
number, and of these the nearest to it (`Shortest.digits`). The reals that round
to `m · 2 ^ q` form an interval around it; for 1, 2, … 17 digits the two
neighbours of the number on that decimal grid are tested against the interval in
exact arithmetic, and the first grid with a hit wins.

`Shortest.format` writes such a decimal: positionally where the decimal point
falls near the digits, and with an exponent elsewhere.
-/

namespace Testbed.Decimal

/-- A positive decimal: the value is `0.d₁d₂d₃… · 10 ^ point`. -/
structure Digits where
  /-- The digits, none of them a leading zero. -/
  digits : Nat
  /-- The place of the decimal point, counted from before the first digit. -/
  point : Int
  deriving Repr

namespace Shortest

/-- The number of decimal digits of a natural number. -/
def width (n : Nat) : Nat := (Nat.toDigits 10 n).length

/-- The place of the decimal point of a positive quotient: the least `p` with
    `num / den < 10 ^ p`. No number of the format needs more than 400 places. -/
def pointOf (num den : Nat) : Int :=
  (width (num * Nat.pow 10 400 / den) : Int) - 400

/-- The interval of reals that round to a positive number, scaled by four: its
    lower end, the number itself and its upper end over a common denominator, and
    whether the ends belong to it. -/
structure Interval where
  low : Nat
  mid : Nat
  high : Nat
  den : Nat
  closed : Bool

/-- The interval of the reals that round to a positive number. Below a power of
    two the neighbours are half as far apart. -/
def Interval.of (x : Double) : Interval :=
  let m := x.significand
  let q := x.exponent
  let below := if m = Nat.pow 2 52 ∧ q ≠ -1074 then 1 else 2
  let up := if 0 ≤ q then Nat.pow 2 q.toNat else 1
  let den := if 0 ≤ q then 1 else Nat.pow 2 (-q).toNat
  ⟨(4 * m - below) * up, 4 * m * up, (4 * m + 2) * up, 4 * den, m % 2 == 0⟩

/-- Whether the point `d · 10 ^ e` lies in the interval. -/
def Interval.contains (i : Interval) (d : Nat) (e : Int) : Bool :=
  let v := if 0 ≤ e then d * Nat.pow 10 e.toNat * i.den else d * i.den
  let s := if 0 ≤ e then 1 else Nat.pow 10 (-e).toNat
  if i.closed then i.low * s ≤ v && v ≤ i.high * s
  else i.low * s < v && v < i.high * s

/-- The neighbour of the number with `n` digits that rounds back to it, the nearer
    of two, the even one of two equally near. -/
def onGrid? (i : Interval) (point : Int) (n : Nat) : Option Digits :=
  let e : Int := point - n
  let num := if 0 ≤ e then i.mid else i.mid * Nat.pow 10 (-e).toNat
  let den := if 0 ≤ e then i.den * Nat.pow 10 e.toNat else i.den
  let d := num / den
  let rest := num % den
  let downward := i.contains d e && d != 0
  let upward := i.contains (d + 1) e
  let decimal (d : Nat) : Digits := ⟨d, (width d : Int) + e⟩
  if downward && upward then
    if 2 * rest < den || (2 * rest == den && d % 2 == 0) then some (decimal d)
    else some (decimal (d + 1))
  else if downward then some (decimal d)
  else if upward then some (decimal (d + 1))
  else none

/-- The first grid of `n`, `n + 1`, … digits with a hit, of at most `fuel` grids. -/
def search (i : Interval) (point : Int) : (fuel : Nat) → (n : Nat) → Option Digits
  | 0, _ => none
  | fuel + 1, n =>
    match onGrid? i point n with
    | some d => some d
    | none => search i point fuel (n + 1)

/-- Digits without trailing zeros; the point does not move. -/
def strip : (fuel : Nat) → Nat → Nat
  | 0, d => d
  | fuel + 1, d => if d ≠ 0 ∧ d % 10 = 0 then strip fuel (d / 10) else d

/-- The shortest decimal of a positive number. -/
def digits (x : Double) : Digits :=
  let i := Interval.of x
  match search i (pointOf i.mid i.den) 17 1 with
  | some d => { d with digits := strip 20 d.digits }
  | none => ⟨0, 0⟩

/-- How a decimal is laid out on the line. -/
structure Layout where
  /-- Positional while the point is above this place. -/
  leastPoint : Int
  /-- Positional up to this place of the point. -/
  greatestPoint : Int

/-- Numbers in JSON are positional from `0.00001` to below `10 ^ 16`. -/
def jsonLayout : Layout := ⟨-5, 16⟩

/-- A positive decimal as text. -/
def Layout.render (layout : Layout) (d : Digits) : String :=
  let text := (Nat.toDigits 10 d.digits)
  let n : Int := text.length
  if layout.leastPoint < d.point ∧ d.point ≤ layout.greatestPoint then
    if d.point ≤ 0 then
      String.ofList (['0', '.'] ++ List.replicate (-d.point).toNat '0' ++ text)
    else if n ≤ d.point then
      String.ofList (text ++ List.replicate (d.point - n).toNat '0' ++ ['.', '0'])
    else
      String.ofList (text.take d.point.toNat ++ ['.'] ++ text.drop d.point.toNat)
  else
    let exponent := d.point - 1
    let sign := if exponent < 0 then ['-'] else ['+']
    let mantissa :=
      match text with
      | [c] => [c]
      | c :: cs => c :: '.' :: cs
      | [] => []
    String.ofList (mantissa ++ ['e'] ++ sign ++ Nat.toDigits 10 exponent.natAbs)

/-- A number as text: its sign, and the shortest digits that read back. -/
def format (layout : Layout) (x : Double) : String :=
  let magnitude := if x.isZero then "0.0" else layout.render (digits x)
  if x.isNegative then "-" ++ magnitude else magnitude

end Shortest

end Testbed.Decimal
