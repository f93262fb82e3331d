import Testbed.Decimal.Shortest
import Testbed.Proofs.Decimal.Rounding
import Mathlib.Data.Nat.Digits.Defs

/-!
# Shortest decimals

The decimal that is written for a number is not greater than the middle between the number and
the next one (`digits_le`). So it does not overflow when it is read, even if not all its digits
are (`isSome_ofDecimal?_digits`): below the two greatest numbers the middle leaves room for the
roundings, and of those two the decimals are known.
-/

namespace Testbed.Decimal

/-- The exponent of ten of the last digit of a decimal. -/
def Digits.exponent (d : Digits) : Int := d.point - Shortest.width d.digits

/-- The value of a decimal. -/
def Digits.value (d : Digits) : ℚ := d.digits * 10 ^ d.exponent

/-- A decimal is read without an overflow, and so is what is left of it if its last digits are
    dropped, which happens only where they are too many to be kept. -/
structure Digits.IsReadable (d : Digits) : Prop where
  reads : ∀ k : Nat, (d.digits < 2 ^ 64 → k = 0) →
    (Double.ofDecimal? (d.digits / 10 ^ k) (d.exponent + k)).isSome
  point : d.point ≤ 309
  zero : d.digits = 0 → d.point = 0

namespace Shortest

/-! ## Widths -/

theorem width_of_le {n : Nat} (h : 10 ≤ n) : width n = width (n / 10) + 1 := by
  rw [width, Nat.toDigits_of_base_le (by decide) h, List.length_append, List.length_singleton,
    width]

theorem width_pos (n : Nat) : 0 < width n := List.length_pos_iff.2 Nat.toDigits_ne_nil

/-- A positive number has no leading zeros. -/
theorem pow_width_le {n : Nat} (h : 0 < n) : 10 ^ (width n - 1) ≤ n := by
  induction n using Nat.strongRecOn with
  | ind n ih =>
    rcases Nat.lt_or_ge n 10 with hn | hn
    · rw [width, Nat.toDigits_of_lt_base hn]
      exact h
    · have hpos := width_pos (n / 10)
      rw [width_of_le hn, Nat.add_sub_cancel]
      calc 10 ^ width (n / 10) = 10 ^ (width (n / 10) - 1) * 10 := by
            rw [← Nat.pow_succ, Nat.succ_eq_add_one, Nat.sub_add_cancel hpos]
        _ ≤ n / 10 * 10 := Nat.mul_le_mul_right 10 (ih (n / 10) (by omega) (by omega))
        _ ≤ n := Nat.div_mul_le_self n 10

/-- The zeros that are taken from the end of a number tell by how much it is smaller. -/
theorem strip_spec (fuel d : Nat) :
    ∃ k, d = strip fuel d * 10 ^ k ∧ width d = width (strip fuel d) + k := by
  induction fuel generalizing d with
  | zero => exact ⟨0, (Nat.mul_one d).symm, rfl⟩
  | succ fuel ih =>
    rw [strip]
    split
    case isFalse => exact ⟨0, (Nat.mul_one d).symm, rfl⟩
    case isTrue h =>
      obtain ⟨k, hd, hw⟩ := ih (d / 10)
      refine ⟨k + 1, ?_, ?_⟩
      · calc d = d / 10 * 10 := by omega
          _ = strip fuel (d / 10) * 10 ^ k * 10 := by rw [← hd]
          _ = strip fuel (d / 10) * 10 ^ (k + 1) := by rw [Nat.pow_succ, Nat.mul_assoc]
      · rw [width_of_le (by omega), hw, Nat.add_assoc]

/-! ## The interval -/

theorem Interval.le_of_contains {i : Interval} {d : Nat} {e : Int} (hden : 0 < i.den)
    (h : i.contains d e = true) : (d * 10 ^ e : ℚ) ≤ i.high / i.den := by
  have hd : (0 : ℚ) < i.den := Nat.cast_pos.2 hden
  have hle : (if 0 ≤ e then d * Nat.pow 10 e.toNat * i.den else d * i.den) ≤
      i.high * if 0 ≤ e then 1 else Nat.pow 10 (-e).toNat := by
    rw [contains] at h
    split at h
    case isTrue =>
      rw [Bool.and_eq_true, decide_eq_true_iff, decide_eq_true_iff] at h
      exact h.2
    case isFalse =>
      rw [Bool.and_eq_true, decide_eq_true_iff, decide_eq_true_iff] at h
      exact h.2.le
  rw [le_div_iff₀ hd]
  rw [← Nat.cast_le (α := ℚ)] at hle
  split at hle
  case isTrue he =>
    have hpow := Double.cast_pow_toNat 10 he
    push_cast at hpow hle
    rwa [hpow, mul_one] at hle
  case isFalse he =>
    have hten : (0 : ℚ) < 10 ^ e := by positivity
    have hpow := Double.cast_pow_neg_toNat 10 (q := e) (by omega)
    push_cast at hpow hle
    rw [hpow, ← div_eq_mul_inv, le_div_iff₀ hten] at hle
    linarith

theorem Interval.den_pos (x : Double) : 0 < (Interval.of x).den := by
  have hpow : ∀ q : Int, 0 < Nat.pow 2 q.toNat := fun q => Nat.pow_pos Nat.two_pos
  rw [Interval.of]
  dsimp only
  split
  · exact Nat.mul_pos (by decide) Nat.one_pos
  · exact Nat.mul_pos (by decide) (hpow _)

/-- The interval ends in the middle between the number and the next one. -/
theorem Interval.high_of (x : Double) :
    ((Interval.of x).high / (Interval.of x).den : ℚ) =
      (x.significand + 1 / 2) * 2 ^ x.exponent := by
  rw [Interval.of]
  dsimp only
  split
  case isTrue hq =>
    have hpow := Double.cast_pow_toNat 2 hq
    push_cast at hpow ⊢
    rw [hpow]
    ring
  case isFalse hq =>
    have hpow := Double.cast_pow_neg_toNat 2 (q := x.exponent) (by omega)
    push_cast at hpow ⊢
    rw [hpow, mul_one, ← div_div, div_inv_eq_mul]
    ring

/-! ## The decimal -/

/-- Whatever grid it is on, a decimal that was found is positive and lies in the interval. -/
theorem contains_of_onGrid? {i : Interval} {point : Int} {n : Nat} {d : Digits}
    (h : onGrid? i point n = some d) :
    d.digits ≠ 0 ∧ ∃ e, i.contains d.digits e = true ∧ d.point = width d.digits + e := by
  suffices hgrid : d.digits ≠ 0 ∧ i.contains d.digits (point - n) = true ∧
      d.point = width d.digits + (point - n) from ⟨hgrid.1, point - n, hgrid.2⟩
  rw [onGrid?] at h
  dsimp only at h
  -- The number and its grid do not matter, only what is tested of its neighbours there.
  generalize (if 0 ≤ point - (n : Int) then i.mid
    else i.mid * Nat.pow 10 (-(point - n)).toNat) = num at h
  generalize (if 0 ≤ point - (n : Int) then i.den * Nat.pow 10 (point - n).toNat
    else i.den) = den at h
  split at h
  case isTrue hboth =>
    rw [Bool.and_eq_true, Bool.and_eq_true, bne_iff_ne] at hboth
    split at h
    · obtain rfl := Option.some.inj h
      exact ⟨hboth.1.2, hboth.1.1, rfl⟩
    · obtain rfl := Option.some.inj h
      exact ⟨Nat.succ_ne_zero _, hboth.2, rfl⟩
  case isFalse =>
    split at h
    case isTrue hdown =>
      rw [Bool.and_eq_true, bne_iff_ne] at hdown
      obtain rfl := Option.some.inj h
      exact ⟨hdown.2, hdown.1, rfl⟩
    case isFalse =>
      split at h
      case isTrue hup =>
        obtain rfl := Option.some.inj h
        exact ⟨Nat.succ_ne_zero _, hup, rfl⟩
      case isFalse => exact absurd h nofun

theorem contains_of_search {i : Interval} {point : Int} {fuel n : Nat} {d : Digits}
    (h : search i point fuel n = some d) :
    d.digits ≠ 0 ∧ ∃ e, i.contains d.digits e = true ∧ d.point = width d.digits + e := by
  induction fuel generalizing n with
  | zero => exact absurd h nofun
  | succ fuel ih =>
    rw [search] at h
    split at h
    case h_1 hfound =>
      obtain rfl := Option.some.inj h
      exact contains_of_onGrid? hfound
    case h_2 => exact ih h

/-- What is written for a number is not above the middle between it and the next one. It is
    positive, unless nothing was found. -/
theorem digits_spec (x : Double) :
    (digits x).value ≤ (x.significand + 1 / 2) * 2 ^ x.exponent ∧
      ((digits x).digits = 0 → (digits x).point = 0) := by
  rw [digits]
  split
  case h_1 d hfound =>
    obtain ⟨hne, e, hcontains, hpoint⟩ := contains_of_search hfound
    obtain ⟨k, hd, hwidth⟩ := strip_spec 20 d.digits
    constructor
    · -- The zeros that are stripped go into the exponent, and the value stays.
      have hle := Interval.le_of_contains (Interval.den_pos x) hcontains
      rw [Interval.high_of, hd] at hle
      have hexponent : ({ d with digits := strip 20 d.digits } : Digits).exponent = k + e := by
        rw [Digits.exponent, hpoint, hwidth]
        push_cast
        ring
      rw [Digits.value, hexponent, zpow_add₀ (by norm_num), zpow_natCast, ← mul_assoc]
      exact_mod_cast hle
    · intro hzero
      rw [show strip 20 d.digits = 0 from hzero, Nat.zero_mul] at hd
      exact absurd hd hne
  case h_2 =>
    refine ⟨?_, fun _ => rfl⟩
    rw [Digits.value, Nat.cast_zero, zero_mul]
    positivity

/-! ## Reading it -/

/-- The middle after a finite number is not beyond the one that overflows. -/
theorem middle_le {x : Double} (hx : x.IsFinite) :
    (x.significand + 1 / 2 : ℚ) * 2 ^ x.exponent ≤ Double.overflow := by
  have hbound : x.exponent ≤ 971 ∧ x.significand < 2 ^ 53 := by
    have h52 : Nat.pow 2 52 = 4503599627370496 := rfl
    have hinfinity : Double.infinityBits = 9218868437227405312 := rfl
    rw [Double.exponent, Double.significand, h52]
    rw [Double.IsFinite, hinfinity] at hx
    split <;> omega
  have hsignificand : (x.significand + 1 : ℚ) ≤ 2 ^ 53 := by exact_mod_cast hbound.2
  have hmono : (2 : ℚ) ^ x.exponent ≤ 2 ^ (971 : Int) :=
    zpow_le_zpow_right₀ one_le_two hbound.1
  calc (x.significand + 1 / 2 : ℚ) * 2 ^ x.exponent ≤ (2 ^ 53 - 1 / 2) * 2 ^ (971 : Int) :=
        mul_le_mul (by linarith) hmono (by positivity) (by norm_num)
    _ = Double.overflow := by
        rw [Double.overflow, (by norm_num : (971 : Int) = 1 + 970), zpow_add₀ two_ne_zero]
        ring

/-- A number below the two greatest ones has a smaller exponent, or a significand that is not
    among the two greatest. -/
theorem significand_le {x : Double} (h : x.magnitudeBits < Double.infinityBits - 2) :
    (x.exponent ≤ 970 ∧ x.significand < 2 ^ 53) ∨
      (x.exponent = 971 ∧ x.significand + 3 ≤ 2 ^ 53) := by
  have h52 : Nat.pow 2 52 = 4503599627370496 := rfl
  have hinfinity : Double.infinityBits = 9218868437227405312 := rfl
  rw [Double.exponent, Double.significand, h52]
  rw [hinfinity] at h
  split <;> omega

/-- Below the two greatest numbers there is room for the roundings. -/
theorem middle_mul_growth_lt {x : Double} (h : x.magnitudeBits < Double.infinityBits - 2) :
    (x.significand + 1 / 2 : ℚ) * 2 ^ x.exponent * Double.growth ^ 2 < Double.overflow := by
  have hpow : (0 : ℚ) < 2 ^ (970 : Int) := by positivity
  have hmiddle : (x.significand + 1 / 2 : ℚ) * 2 ^ x.exponent ≤ (2 ^ 54 - 5) * 2 ^ (970 : Int) := by
    rcases significand_le h with ⟨hexponent, hsignificand⟩ | ⟨hexponent, hsignificand⟩
    · have hle : (x.significand : ℚ) ≤ 2 ^ 53 := by exact_mod_cast hsignificand.le
      have hmono : (2 : ℚ) ^ x.exponent ≤ 2 ^ (970 : Int) :=
        zpow_le_zpow_right₀ one_le_two hexponent
      exact mul_le_mul (by linarith) hmono (by positivity) (by norm_num)
    · have hle : (x.significand + 3 : ℚ) ≤ 2 ^ 53 := by exact_mod_cast hsignificand
      rw [hexponent, (by norm_num : (971 : Int) = 1 + 970), zpow_add₀ two_ne_zero, ← mul_assoc]
      gcongr
      linarith
  calc (x.significand + 1 / 2 : ℚ) * 2 ^ x.exponent * Double.growth ^ 2
      ≤ (2 ^ 54 - 5) * 2 ^ (970 : Int) * Double.growth ^ 2 := by
        gcongr
    _ = (2 ^ 54 - 5) * Double.growth ^ 2 * 2 ^ (970 : Int) := by ring
    _ < (2 ^ 54 - 1) * 2 ^ (970 : Int) := by
        rw [Double.growth]
        gcongr
        norm_num

theorem digits_congr {x y : Double} (h : x.magnitudeBits = y.magnitudeBits) :
    digits x = digits y := by
  have hinterval : Interval.of x = Interval.of y := by
    rw [Interval.of, Interval.of, Double.significand, Double.exponent, Double.significand,
      Double.exponent, h]
  rw [digits, digits, hinterval]

/-- The decimals of the two greatest numbers are read without an overflow, though the roundings
    make the smaller one the greater one. -/
theorem isSome_ofDecimal?_greatest : ∀ k < 2,
    (digits ⟨UInt64.ofNat (Double.infinityBits - 2 + k)⟩).digits < 2 ^ 64 ∧
      (Double.ofDecimal? (digits ⟨UInt64.ofNat (Double.infinityBits - 2 + k)⟩).digits
        (digits ⟨UInt64.ofNat (Double.infinityBits - 2 + k)⟩).exponent).isSome = true := by
  decide +kernel

theorem isReadable_zero : Digits.IsReadable ⟨0, 0⟩ where
  reads k hk := by
    obtain rfl := hk (by decide)
    rfl
  point := by decide
  zero _ := rfl

theorem point_digits_le {x : Double} (hx : x.IsFinite) : (digits x).point ≤ 309 := by
  obtain ⟨hle, hzero⟩ := digits_spec x
  rcases Nat.eq_zero_or_pos (digits x).digits with h | h
  · rw [hzero h]
    decide
  · -- The first digit is not zero, so that the place of the point bounds the decimal below.
    have hwidth := width_pos (digits x).digits
    have hfirst : (10 : ℚ) ^ ((width (digits x).digits : Int) - 1) ≤ (digits x).digits := by
      have hpow : ((width (digits x).digits : Int) - 1) = (width (digits x).digits - 1 : Nat) := by
        omega
      rw [hpow, zpow_natCast]
      exact_mod_cast pow_width_le h
    have hlt : (10 : ℚ) ^ ((digits x).point - 1) < 10 ^ (309 : Int) := by
      calc (10 : ℚ) ^ ((digits x).point - 1)
          = 10 ^ ((width (digits x).digits : Int) - 1) * 10 ^ (digits x).exponent := by
            rw [Digits.exponent, ← zpow_add₀ (by norm_num)]
            congr 1
            ring
        _ ≤ (digits x).value := by
            rw [Digits.value]
            gcongr
        _ ≤ Double.overflow := hle.trans (middle_le hx)
        _ < 10 ^ (309 : Int) := Double.overflow_lt
    have := (zpow_lt_zpow_iff_right₀ (by norm_num)).1 hlt
    omega

/-- What is written for a finite number is read without an overflow. -/
theorem isReadable_digits {x : Double} (hx : x.IsFinite) : (digits x).IsReadable := by
  obtain ⟨hle, hzero⟩ := digits_spec x
  refine ⟨fun k hk => ?_, point_digits_le hx, hzero⟩
  rcases Nat.lt_or_ge x.magnitudeBits (Double.infinityBits - 2) with hbits | hbits
  · -- To drop digits makes a decimal no greater.
    refine Double.isSome_ofDecimal? (lt_of_le_of_lt ?_ (middle_mul_growth_lt hbits))
    refine mul_le_mul_of_nonneg_right (le_trans ?_ hle) (sq_nonneg _)
    have hten : (0 : ℚ) < 10 ^ (digits x).exponent := by positivity
    have hdropped : ((digits x).digits / 10 ^ k * 10 ^ k : Nat) ≤ (digits x).digits :=
      Nat.div_mul_le_self _ _
    have hdropped : (((digits x).digits / 10 ^ k : Nat) : ℚ) * 10 ^ k ≤ (digits x).digits := by
      exact_mod_cast hdropped
    rw [zpow_add₀ (by norm_num), zpow_natCast, Digits.value]
    calc _ = ((digits x).digits / 10 ^ k : Nat) * 10 ^ k * (10 : ℚ) ^ (digits x).exponent := by
          ring
      _ ≤ (digits x).digits * 10 ^ (digits x).exponent := by gcongr
  · -- One of the two greatest numbers, whose digits are all kept.
    obtain ⟨j, hj, hsame⟩ : ∃ j < 2, x.magnitudeBits = Double.infinityBits - 2 + j :=
      ⟨x.magnitudeBits - (Double.infinityBits - 2), by rw [Double.IsFinite] at hx; omega, by omega⟩
    have hlt : Double.infinityBits - 2 + j < Double.infinityBits := hsame ▸ hx
    have hdigits : digits x = digits ⟨UInt64.ofNat (Double.infinityBits - 2 + j)⟩ :=
      digits_congr (hsame.trans (Double.magnitudeBits_ofNat hlt).symm)
    obtain ⟨hkept, hread⟩ := isSome_ofDecimal?_greatest j hj
    rw [hdigits] at hk ⊢
    obtain rfl := hk hkept
    rw [Nat.pow_zero, Nat.div_one, Nat.cast_zero, add_zero]
    exact hread

end Shortest

end Testbed.Decimal
