import Testbed.Decimal.Double
import Mathlib.Data.Nat.Bitwise

/-!
# Finite numbers

Every number that is computed is finite: a result that lies outside the format is no number at
all. That a number is finite does not depend on its sign.

* `isFinite_ofDecimal?`: the numbers that decimals stand for.
-/

namespace Testbed.Decimal.Double

/-- Whether a pattern is that of a number, and not of infinity or above. -/
def IsFinite (x : Double) : Prop := x.magnitudeBits < infinityBits

theorem isFinite_zero : zero.IsFinite := by
  rw [IsFinite]
  decide

theorem isFinite_neg {x : Double} (h : x.IsFinite) : x.neg.IsFinite := by
  have hsame : x.neg.magnitudeBits = x.magnitudeBits := by
    change (x.bits ^^^ 0x8000000000000000).toNat % 2 ^ 63 = x.bits.toNat % 2 ^ 63
    rw [UInt64.toNat_xor, Nat.xor_mod_two_pow]
    exact Nat.xor_zero _
  rwa [IsFinite, hsame]

/-- A pattern below that of infinity is that of its number. -/
theorem magnitudeBits_ofNat {bits : Nat} (h : bits < infinityBits) :
    magnitudeBits ⟨UInt64.ofNat bits⟩ = bits := by
  have hbits : bits < 2 ^ 63 := h.trans (by decide)
  change (UInt64.ofNat bits).toNat % 2 ^ 63 = bits
  rw [UInt64.toNat_ofNat_of_lt' (hbits.trans (by decide)), Nat.mod_eq_of_lt hbits]

theorem isFinite_ofRatio? {num den : Nat} {x : Double} (h : ofRatio? num den = some x) :
    x.IsFinite := by
  rw [ofRatio?] at h
  split at h
  case isTrue hbits =>
    obtain rfl := Option.some.inj h
    rwa [IsFinite, magnitudeBits_ofNat hbits]
  case isFalse => exact absurd h (by simp)

theorem isFinite_ofRatio (num den : Nat) : (ofRatio num den).IsFinite := by
  rw [ofRatio]
  cases h : ofRatio? num den with
  | none => exact isFinite_zero
  | some x => exact isFinite_ofRatio? h

theorem isFinite_scaleDown {x : Double} (hx : x.IsFinite) (k : Nat) :
    (x.scaleDown k).IsFinite := by
  induction k using Nat.strongRecOn generalizing x with
  | ind k ih =>
    rw [scaleDown]
    split
    · exact isFinite_ofRatio _ _
    · split
      · exact hx
      · exact ih _ (by omega) (isFinite_ofRatio _ _)

theorem isFinite_ofDecimal? {significand : Nat} {exponent : Int} {x : Double}
    (h : ofDecimal? significand exponent = some x) : x.IsFinite := by
  have hnat : (ofNat significand).IsFinite := isFinite_ofRatio _ _
  rw [ofDecimal?] at h
  split at h
  · split at h
    · exact isFinite_ofRatio? h
    · split at h
      · exact Option.some.inj h ▸ hnat
      · exact absurd h (by simp)
  · exact Option.some.inj h ▸ isFinite_scaleDown hnat _

end Testbed.Decimal.Double
