import Testbed.Proofs.Decimal.Finite
import Mathlib.Algebra.Order.Field.Power
import Mathlib.Data.Rat.Cast.Order
import Mathlib.Tactic.FieldSimp
import Mathlib.Tactic.GCongr
import Mathlib.Tactic.Linarith
import Mathlib.Tactic.NormNum
import Mathlib.Tactic.Positivity
import Mathlib.Tactic.Ring

/-!
# Rounding

A quotient is rounded to a number near it: not further above it than half a unit in the last of
53 digits (`value_ofRatio_le`), and it overflows only if it is at or beyond the middle between
the greatest number and the next power of two (`isSome_ofRatio?`). A decimal is read by a few
roundings, so it does not overflow either if it stays a little below that (`isSome_ofDecimal?`).
-/

namespace Testbed.Decimal.Double

/-! ## Powers -/

section Powers

variable {q : Int}

theorem cast_pow_toNat (b : Nat) (hq : 0 ≤ q) : ((Nat.pow b q.toNat : Nat) : ℚ) = (b : ℚ) ^ q := by
  obtain ⟨k, rfl⟩ := Int.eq_ofNat_of_zero_le hq
  rw [Int.toNat_natCast, zpow_natCast]
  exact Nat.cast_pow b k

theorem cast_pow_neg_toNat (b : Nat) (hq : q ≤ 0) :
    ((Nat.pow b (-q).toNat : Nat) : ℚ) = ((b : ℚ) ^ q)⁻¹ := by
  rw [cast_pow_toNat b (by omega), zpow_neg]

end Powers

/-! ## Magnitudes -/

/-- The magnitude of a number. -/
def value (x : Double) : ℚ := x.significand * 2 ^ x.exponent

theorem value_nonneg (x : Double) : 0 ≤ x.value := by
  rw [value]
  positivity

theorem ratio_pos (x : Double) : 0 < x.ratio.2 := by
  rw [ratio]
  split
  case isTrue => exact Nat.one_pos
  case isFalse => exact Nat.pow_pos Nat.two_pos

theorem cast_ratio (x : Double) : (x.ratio.1 : ℚ) / x.ratio.2 = x.value := by
  rw [ratio, value]
  split
  case isTrue hq =>
    have hpow := cast_pow_toNat 2 hq
    push_cast at hpow ⊢
    rw [hpow, div_one]
  case isFalse hq =>
    have hpow := cast_pow_neg_toNat 2 (q := x.exponent) (by omega)
    dsimp only
    rw [hpow, div_inv_eq_mul]
    norm_num

/-! ## Rounding to a whole number -/

section Whole

variable {num den : Nat}

theorem roundHalfEven_le (num : Nat) (hden : 0 < den) :
    (roundHalfEven num den : ℚ) ≤ num / den + 1 / 2 := by
  have hd : (0 : ℚ) < den := Nat.cast_pos.2 hden
  have hsplit : (num : ℚ) / den = (num / den : Nat) + (num % den : Nat) / den := by
    have h := Nat.div_add_mod num den
    field_simp
    exact_mod_cast h.symm
  have hrest : (0 : ℚ) ≤ (num % den : Nat) / den := by positivity
  have hup : den ≤ 2 * (num % den) → (1 / 2 : ℚ) ≤ (num % den : Nat) / den := by
    intro h
    rw [div_le_div_iff₀ two_pos hd]
    exact_mod_cast (by omega : 1 * den ≤ num % den * 2)
  -- It goes up only where what is left is at least a half.
  rw [hsplit, roundHalfEven]
  split_ifs with h₁ h₂ h₃
  · linarith
  · push_cast
    linarith [hup h₂.le]
  · linarith
  · push_cast
    linarith [hup (Nat.le_of_not_lt h₁)]

theorem le_roundHalfEven {k : Nat} (hden : 0 < den) (h : k * den ≤ num) :
    k ≤ roundHalfEven num den := by
  have hfloor : k ≤ num / den := (Nat.le_div_iff_mul_le hden).2 h
  rw [roundHalfEven]
  split_ifs <;> omega

/-! ## The exponent of a quotient -/

/-- The significand of a quotient for an exponent. -/
def significandFor (num den : Nat) (q : Int) : Nat :=
  if 0 ≤ q then roundHalfEven num (den * Nat.pow 2 q.toNat)
  else roundHalfEven (num * Nat.pow 2 (-q).toNat) den

theorem bitsOfRatio_eq (hnum : num ≠ 0) :
    bitsOfRatio num den = (exponentFor num den + 1074).toNat * Nat.pow 2 52 +
      significandFor num den (exponentFor num den) := by
  rw [bitsOfRatio, if_neg hnum]
  rfl

theorem significandFor_le (num : Nat) (hden : 0 < den) (q : Int) :
    (significandFor num den q : ℚ) ≤ num / den / 2 ^ q + 1 / 2 := by
  have hpow : 0 < Nat.pow 2 q.toNat := Nat.pow_pos Nat.two_pos
  rw [significandFor]
  split
  case isTrue hq =>
    have h := roundHalfEven_le num (Nat.mul_pos hden hpow)
    rwa [Nat.cast_mul, cast_pow_toNat 2 hq, ← div_div, Nat.cast_two] at h
  case isFalse hq =>
    have h := roundHalfEven_le (num * Nat.pow 2 (-q).toNat) hden
    rwa [Nat.cast_mul, cast_pow_neg_toNat 2 (by omega), ← div_eq_mul_inv, div_right_comm,
      Nat.cast_two] at h

theorem le_significandFor {k : Nat} (hden : 0 < den) {q : Int} (h : k * 2 ^ q ≤ (num / den : ℚ)) :
    k ≤ significandFor num den q := by
  have hd : (0 : ℚ) < den := Nat.cast_pos.2 hden
  have hpow : 0 < Nat.pow 2 q.toNat := Nat.pow_pos Nat.two_pos
  rw [le_div_iff₀ hd] at h
  rw [significandFor]
  split
  case isTrue hq =>
    refine le_roundHalfEven (Nat.mul_pos hden hpow) ?_
    have hcast := cast_pow_toNat 2 hq
    rw [← Nat.cast_le (α := ℚ)]
    push_cast at hcast ⊢
    rw [hcast]
    linarith
  case isFalse hq =>
    refine le_roundHalfEven hden ?_
    have hcast := cast_pow_neg_toNat 2 (q := q) (by omega)
    have htwo : (0 : ℚ) < 2 ^ q := by positivity
    rw [← Nat.cast_le (α := ℚ)]
    push_cast at hcast ⊢
    rw [hcast, ← div_eq_mul_inv, le_div_iff₀ htwo]
    linarith

/-- Whether a quotient has so many digits before the point, told in natural numbers. -/
theorem fits_iff (num : Nat) (hden : 0 < den) (q : Int) :
    (if 0 ≤ q then decide (Nat.pow 2 52 * (den * Nat.pow 2 q.toNat) ≤ num)
      else decide (Nat.pow 2 52 * den ≤ num * Nat.pow 2 (-q).toNat)) = true ↔
      (2 : ℚ) ^ (q + 52) ≤ num / den := by
  have hd : (0 : ℚ) < den := Nat.cast_pos.2 hden
  have htwo : (0 : ℚ) < 2 ^ q := by positivity
  rw [le_div_iff₀ hd, zpow_add₀ two_ne_zero]
  split
  case isTrue hq =>
    have hcast := cast_pow_toNat 2 hq
    rw [decide_eq_true_iff, ← Nat.cast_le (α := ℚ)]
    push_cast at hcast ⊢
    rw [hcast]
    norm_num
    constructor <;> intro h <;> linarith
  case isFalse hq =>
    have hcast := cast_pow_neg_toNat 2 (q := q) (by omega)
    rw [decide_eq_true_iff, ← Nat.cast_le (α := ℚ)]
    push_cast at hcast ⊢
    rw [hcast, ← div_eq_mul_inv, le_div_iff₀ htwo]
    norm_num
    constructor <;> intro h <;> linarith

/-- A quotient lies within a factor of two of the power that the lengths of its parts tell. -/
theorem quotient_bounds (hnum : num ≠ 0) (hden : 0 < den) :
    (2 : ℚ) ^ ((num.log2 : Int) - den.log2 - 1) ≤ num / den ∧
      (num / den : ℚ) < 2 ^ ((num.log2 : Int) - den.log2 + 1) := by
  have hd : (0 : ℚ) < den := Nat.cast_pos.2 hden
  -- A number lies between the power of its logarithm and the next one.
  have hnum₁ : (2 : ℚ) ^ (num.log2 : Int) ≤ num := by
    rw [zpow_natCast]
    exact_mod_cast Nat.log2_self_le hnum
  have hnum₂ : (num : ℚ) < 2 ^ ((num.log2 : Int) + 1) := by
    rw [← Nat.cast_succ, zpow_natCast]
    exact_mod_cast Nat.lt_log2_self
  have hden₁ : (2 : ℚ) ^ (den.log2 : Int) ≤ den := by
    rw [zpow_natCast]
    exact_mod_cast Nat.log2_self_le hden.ne'
  have hden₂ : (den : ℚ) < 2 ^ ((den.log2 : Int) + 1) := by
    rw [← Nat.cast_succ, zpow_natCast]
    exact_mod_cast Nat.lt_log2_self
  generalize (num.log2 : Int) = a at hnum₁ hnum₂ ⊢
  generalize (den.log2 : Int) = b at hden₁ hden₂ ⊢
  constructor
  · rw [le_div_iff₀ hd]
    calc (2 : ℚ) ^ (a - b - 1) * den ≤ 2 ^ (a - b - 1) * 2 ^ (b + 1) := by gcongr
      _ = 2 ^ a := by
          rw [← zpow_add₀ two_ne_zero]
          congr 1
          ring
      _ ≤ num := hnum₁
  · rw [div_lt_iff₀ hd]
    calc (num : ℚ) < 2 ^ (a + 1) := hnum₂
      _ = 2 ^ (a - b + 1) * 2 ^ b := by
          rw [← zpow_add₀ two_ne_zero]
          congr 1
          ring
      _ ≤ 2 ^ (a - b + 1) * den := by gcongr

/-- With its exponent a quotient has less than 54 digits before the point, and not less than 53
    unless the exponent is the least one. -/
theorem exponentFor_spec (hnum : num ≠ 0) (hden : 0 < den) :
    -1074 ≤ exponentFor num den ∧ (num / den : ℚ) < 2 ^ (exponentFor num den + 53) ∧
      (exponentFor num den = -1074 ∨ (2 : ℚ) ^ (exponentFor num den + 52) ≤ num / den) := by
  obtain ⟨hlow, hhigh⟩ := quotient_bounds hnum hden
  have hfits := fits_iff num hden ((num.log2 : Int) - den.log2 - 52)
  rw [exponentFor]
  generalize (num.log2 : Int) - den.log2 = g at hlow hhigh hfits ⊢
  have hmono : ∀ {q q' : Int}, q ≤ q' → (2 : ℚ) ^ q ≤ 2 ^ q' := fun h =>
    zpow_le_zpow_right₀ one_le_two h
  -- The first guess is the exponent, or is by one too great.
  by_cases hfit : (2 : ℚ) ^ (g - 52 + 52) ≤ num / den
  · rw [if_pos (hfits.2 hfit)]
    refine ⟨le_max_right _ _, hhigh.trans_le (hmono (by omega)), ?_⟩
    rcases le_total (g - 52) (-1074) with h | h
    · exact .inl (max_eq_right h)
    · rw [max_eq_left h]
      exact .inr hfit
  · rw [if_neg (hfits.not.2 hfit)]
    refine ⟨le_max_right _ _, (lt_of_not_ge hfit).trans_le (hmono (by omega)), ?_⟩
    rcases le_total (g - 52 - 1) (-1074) with h | h
    · exact .inl (max_eq_right h)
    · rw [max_eq_left h]
      exact .inr ((hmono (by omega)).trans hlow)

/-! ## Overflow -/

/-- The middle between the greatest number and the next power of two. -/
def overflow : ℚ := (2 ^ 54 - 1) * 2 ^ (970 : Int)

theorem significandFor_exponentFor_le (hnum : num ≠ 0) (hden : 0 < den) :
    significandFor num den (exponentFor num den) ≤ 2 ^ 53 := by
  obtain ⟨-, hhigh, -⟩ := exponentFor_spec hnum hden
  have hm := significandFor_le num hden (exponentFor num den)
  have htwo : (0 : ℚ) < 2 ^ exponentFor num den := by positivity
  rw [zpow_add₀ two_ne_zero, mul_comm, ← div_lt_iff₀ htwo] at hhigh
  have hlt : (significandFor num den (exponentFor num den) : ℚ) < (2 ^ 53 + 1 : Nat) := by
    push_cast
    have h53 : (2 : ℚ) ^ (53 : Int) = 2 ^ 53 := zpow_natCast 2 53
    linarith
  exact Nat.le_of_lt_succ (Nat.cast_lt.1 hlt)

/-- What is below the middle does not overflow. -/
theorem isSome_ofRatio? (hden : 0 < den) (h : (num / den : ℚ) < overflow) :
    (ofRatio? num den).isSome := by
  suffices hbits : bitsOfRatio num den < infinityBits by
    rw [ofRatio?]
    exact Option.isSome_iff_exists.2 ⟨_, if_pos hbits⟩
  by_cases hnum : num = 0
  · rw [bitsOfRatio, if_pos hnum]
    decide
  obtain ⟨hleast, -, hlow⟩ := exponentFor_spec hnum hden
  have hm := significandFor_le num hden (exponentFor num den)
  have hm' := significandFor_exponentFor_le hnum hden
  rw [bitsOfRatio_eq hnum]
  generalize exponentFor num den = q at hleast hlow hm hm' ⊢
  generalize significandFor num den q = m at hm hm' ⊢
  have h52 : Nat.pow 2 52 = 4503599627370496 := rfl
  have hinfinity : infinityBits = 9218868437227405312 := rfl
  rw [h52, hinfinity]
  -- With a greater exponent the quotient would be 2^1024 at least.
  have hq : q ≤ 971 := by
    rcases hlow with rfl | hlow
    · decide
    · have hlt : (2 : ℚ) ^ (q + 52) < 2 ^ (1024 : Int) := by
        refine (hlow.trans_lt h).trans ?_
        rw [overflow, (by norm_num : (1024 : Int) = 54 + 970), zpow_add₀ two_ne_zero]
        gcongr
        norm_num
      have := (zpow_lt_zpow_iff_right₀ one_lt_two).1 hlt
      omega
  rcases Int.lt_or_eq_of_le hq with hq | rfl
  · omega
  · -- With the greatest exponent only a significand of 53 digits is left.
    have hlt : (m : ℚ) < (2 ^ 53 : Nat) := by
      have hpow : (0 : ℚ) < 2 ^ (971 : Int) := by positivity
      have hquot : (num / den : ℚ) / 2 ^ (971 : Int) < 2 ^ 53 - 1 / 2 := by
        rw [div_lt_iff₀ hpow]
        refine h.trans_eq ?_
        rw [overflow, (by norm_num : (971 : Int) = 1 + 970), zpow_add₀ two_ne_zero]
        ring
      push_cast
      linarith
    have := Nat.cast_lt.1 hlt
    omega

/-! ## Error -/

/-- A pattern is that of the number with the significand and the exponent it is made of; where
    rounding has carried, both are those of the next power of two. -/
theorem value_of_bits {q : Int} {m : Nat} (hq : -1074 ≤ q) (hm : m ≤ 2 ^ 53)
    (hlow : q = -1074 ∨ 2 ^ 52 ≤ m)
    (hbits : (q + 1074).toNat * Nat.pow 2 52 + m < infinityBits) :
    value ⟨UInt64.ofNat ((q + 1074).toNat * Nat.pow 2 52 + m)⟩ = m * 2 ^ q := by
  have h52 : Nat.pow 2 52 = 4503599627370496 := rfl
  rw [value, significand, exponent, magnitudeBits_ofNat hbits, h52]
  rcases Nat.lt_or_ge m (2 ^ 52) with hsmall | hlarge
  · -- A subnormal number, with the least exponent.
    obtain rfl := hlow.resolve_right (by omega)
    have hfield : ((-1074 + 1074 : Int).toNat * 4503599627370496 + m) / 4503599627370496 = 0 := by
      omega
    have hfraction : ((-1074 + 1074 : Int).toNat * 4503599627370496 + m) % 4503599627370496 =
        m := by omega
    rw [hfield, if_pos rfl, hfraction]
    rfl
  rcases Nat.lt_or_eq_of_le hm with hm | rfl
  · have hfield : ((q + 1074).toNat * 4503599627370496 + m) / 4503599627370496 =
        (q + 1075).toNat := by omega
    have hfraction : ((q + 1074).toNat * 4503599627370496 + m) % 4503599627370496 =
        m - 2 ^ 52 := by omega
    have hexponent : ((max (q + 1075).toNat 1 : Nat) : Int) - 1075 = q := by omega
    have hsignificand : m - 2 ^ 52 + 4503599627370496 = m := by omega
    rw [hfield, hfraction, hexponent, if_neg (by omega), hsignificand]
  · have hfield : ((q + 1074).toNat * 4503599627370496 + 2 ^ 53) / 4503599627370496 =
        (q + 1076).toNat := by omega
    have hfraction : ((q + 1074).toNat * 4503599627370496 + 2 ^ 53) % 4503599627370496 = 0 := by
      omega
    have hexponent : ((max (q + 1076).toNat 1 : Nat) : Int) - 1075 = q + 1 := by omega
    rw [hfield, hfraction, hexponent, if_neg (by omega), zpow_add₀ two_ne_zero]
    norm_num
    ring

/-- How much greater than what is rounded the result may be, if that is one or more. -/
def growth : ℚ := 1 + 1 / 2 ^ 53

/-- Rounding adds no more than half a unit in the last digit. -/
theorem value_ofRatio?_le {x : Double} (hden : 0 < den) (hone : (1 : ℚ) ≤ num / den)
    (hx : ofRatio? num den = some x) : x.value ≤ num / den * growth := by
  have hnum : num ≠ 0 := by
    rintro rfl
    norm_num at hone
  obtain ⟨hleast, hhigh, hlow⟩ := exponentFor_spec hnum hden
  have hm := significandFor_le num hden (exponentFor num den)
  have hm' := significandFor_exponentFor_le hnum hden
  -- Subnormal numbers are far below one, so here the significand has all its digits.
  have hlarge : (2 : ℚ) ^ (exponentFor num den + 52) ≤ num / den := by
    refine hlow.resolve_left fun hq => ?_
    rw [hq] at hhigh
    have hle : (2 : ℚ) ^ (-1074 + 53 : Int) ≤ 1 :=
      zpow_le_one_of_nonpos₀ one_le_two (by norm_num)
    exact absurd (hone.trans_lt hhigh) (not_lt.2 hle)
  have hm'' : 2 ^ 52 ≤ significandFor num den (exponentFor num den) := by
    refine le_significandFor hden ?_
    rw [zpow_add₀ two_ne_zero] at hlarge
    push_cast
    rw [mul_comm]
    exact_mod_cast hlarge
  rw [ofRatio?] at hx
  split at hx
  case isFalse => exact absurd hx (by simp)
  case isTrue hbits =>
    obtain rfl := Option.some.inj hx
    rw [bitsOfRatio_eq hnum] at hbits ⊢
    rw [value_of_bits hleast hm' (.inr hm'') hbits]
    generalize exponentFor num den = q at hm hlarge ⊢
    generalize significandFor num den q = m at hm ⊢
    have hpow : (0 : ℚ) < 2 ^ q := by positivity
    have hhalf : (2 : ℚ) ^ q / 2 ≤ num / den / 2 ^ 53 := by
      rw [zpow_add₀ two_ne_zero] at hlarge
      norm_num at hlarge ⊢
      linarith
    calc (m : ℚ) * 2 ^ q ≤ (num / den / 2 ^ q + 1 / 2) * 2 ^ q := by gcongr
      _ = num / den + 2 ^ q / 2 := by field_simp
      _ ≤ num / den * growth := by
          rw [growth]
          linarith

theorem value_zero : zero.value = 0 := by
  rw [value, show zero.significand = 0 by decide]
  simp

theorem value_ofRatio_le (hden : 0 < den) (hone : (1 : ℚ) ≤ num / den) :
    (ofRatio num den).value ≤ num / den * growth := by
  rw [ofRatio]
  cases hx : ofRatio? num den with
  | none =>
    rw [Option.getD_none, value_zero, growth]
    positivity
  | some x => exact value_ofRatio?_le hden hone hx

end Whole

/-! ## Decimals -/

theorem value_ofNat_le (n : Nat) : (ofNat n).value ≤ n * growth := by
  rw [ofNat]
  rcases Nat.eq_zero_or_pos n with rfl | hn
  · rw [show ofRatio 0 1 = zero by decide, value_zero, Nat.cast_zero, zero_mul]
  · have hone : (1 : ℚ) ≤ (n : ℚ) / (1 : Nat) := by
      rw [Nat.cast_one, div_one]
      exact_mod_cast hn
    simpa using value_ofRatio_le Nat.one_pos hone

theorem value_powerOfTen_le (k : Nat) : (powerOfTen k).value ≤ 10 ^ k * growth := by
  have hcast : ((Nat.pow 10 k : Nat) : ℚ) = 10 ^ k := Nat.cast_pow 10 k
  have hone : (1 : ℚ) ≤ (Nat.pow 10 k : Nat) / (1 : Nat) := by
    rw [hcast, Nat.cast_one, div_one]
    exact one_le_pow₀ (by norm_num)
  have h := value_ofRatio_le Nat.one_pos hone
  rwa [hcast, Nat.cast_one, div_one] at h

theorem isSome_mul? {x y : Double} (h : x.value * y.value < overflow) : (x.mul? y).isSome := by
  rw [mul?]
  refine isSome_ofRatio? (Nat.mul_pos x.ratio_pos y.ratio_pos) ?_
  rwa [Nat.cast_mul, Nat.cast_mul, mul_div_mul_comm, cast_ratio, cast_ratio]

theorem overflow_lt : overflow < 10 ^ 309 := by
  have h93 : (2 : ℚ) ^ 93 ≤ 10 ^ 28 := by norm_num
  calc overflow < 2 ^ 54 * 2 ^ (970 : Int) := by
        rw [overflow]
        gcongr
        norm_num
    _ = (2 ^ 93) ^ 11 * 2 := by
        rw [← pow_mul, ← pow_succ, ← zpow_natCast, ← zpow_natCast, ← zpow_add₀ two_ne_zero]
        rfl
    _ ≤ (10 ^ 28) ^ 11 * 2 := by gcongr
    _ < (10 ^ 28) ^ 11 * 10 := by
        gcongr
        norm_num
    _ = 10 ^ 309 := by rw [← pow_mul, ← pow_succ]

theorem one_le_growth : 1 ≤ growth := by
  rw [growth]
  norm_num

/-- A decimal that stays below the middle by what its roundings may add is read without an
    overflow. -/
theorem isSome_ofDecimal? {significand : Nat} {exponent : Int}
    (h : significand * 10 ^ exponent * growth ^ 2 < overflow) :
    (ofDecimal? significand exponent).isSome := by
  rw [ofDecimal?]
  split
  case isFalse => rfl
  case isTrue hexponent =>
    obtain ⟨k, rfl⟩ := Int.eq_ofNat_of_zero_le hexponent
    rw [zpow_natCast] at h
    split
    case isTrue =>
      refine isSome_mul? ?_
      rw [Int.toNat_natCast]
      have hten := value_nonneg (powerOfTen k)
      have hgrowth : (0 : ℚ) ≤ growth := zero_le_one.trans one_le_growth
      calc (ofNat significand).value * (powerOfTen k).value
          ≤ significand * growth * (10 ^ k * growth) := by
            gcongr
            · exact value_ofNat_le significand
            · exact value_powerOfTen_le k
        _ = significand * 10 ^ k * growth ^ 2 := by ring
        _ < overflow := h
    case isFalse hk =>
      -- So great a power of ten may only be taken times zero.
      obtain rfl : significand = 0 := by
        by_contra hsignificand
        have hone : (1 : ℚ) ≤ significand := by exact_mod_cast Nat.one_le_iff_ne_zero.2 hsignificand
        have hpow : (10 : ℚ) ^ 309 ≤ 10 ^ k := pow_le_pow_right₀ (by norm_num) (by omega)
        have hlt : (10 : ℚ) ^ 309 < overflow := by
          calc (10 : ℚ) ^ 309 ≤ 1 * 10 ^ k * 1 ^ 2 := by simpa using hpow
            _ ≤ significand * 10 ^ k * growth ^ 2 := by
                gcongr
                exact one_le_growth
            _ < overflow := h
        exact absurd (hlt.trans overflow_lt) (lt_irrefl _)
      rfl

end Testbed.Decimal.Double
