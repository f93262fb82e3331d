import Testbed.Decimal.Shortest

/-!
# JSON numbers

A number is a whole number of the signed or unsigned 64-bit range, or a binary
floating-point number. The two never mix: `1` and `1.0` are different values, and
only the first is an integer.
-/

namespace Testbed.Json

open Testbed.Decimal

/-- A JSON number. -/
inductive Number
  /-- A whole number that fits 64 bits, signed or unsigned. -/
  | integer (n : Int) (fits : -9223372036854775808 ≤ n ∧ n < 18446744073709551616)
  /-- A finite floating-point number. -/
  | float (x : Double)
  deriving DecidableEq

namespace Number

/-- The integer `n`, or the floating-point number nearest to it when it does not
    fit 64 bits. -/
def ofInt (n : Int) : Number :=
  if h : -9223372036854775808 ≤ n ∧ n < 18446744073709551616 then .integer n h
  else
    let x := Double.ofNat n.natAbs
    .float (if n < 0 then x.neg else x)

/-- The integer `n`. -/
def ofNat (n : Nat) : Number := ofInt n

/-- Whether the number is an integer. -/
def isInteger : Number → Bool
  | .integer _ _ => true
  | .float _ => false

/-- The number as a natural number, if it is a non-negative integer. -/
def natural? : Number → Option Nat
  | .integer n _ => if 0 ≤ n then some n.toNat else none
  | .float _ => none

/-- The number as written in JSON. -/
def text : Number → String
  | .integer n _ => toString n
  | .float x => Shortest.format Shortest.jsonLayout x

theorem natural?_eq_some_iff {x : Number} {n : Nat} :
    x.natural? = some n ↔ ∃ h, x = .integer n h := by
  cases x with
  | float x => simp [natural?]
  | integer m h =>
    by_cases hm : 0 ≤ m
    · simp only [natural?, hm, if_true, Option.some.injEq, integer.injEq]
      constructor
      · rintro rfl
        exact ⟨by omega, by omega⟩
      · rintro ⟨_, rfl⟩
        omega
    · simp only [natural?, hm, if_false, integer.injEq]
      constructor
      · simp
      · rintro ⟨_, rfl⟩
        omega

end Number

end Testbed.Json
