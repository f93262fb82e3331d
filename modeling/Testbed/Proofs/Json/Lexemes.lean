import Testbed.Json.Scanner
import Testbed.Proofs.Json.Printer

/-!
# Strings and whole numbers read back

A string reads back as itself whatever characters it is of (`scanString_quoted`), and a whole
number as itself if what follows it cannot go on with it (`scanNumber_text`): a scanner stops
only where a number `Ends`.
-/

namespace Testbed.Json

/-! ## Strings -/

theorem hexValue?_hexDigit : ∀ n < 16, hexValue? (hexDigit n) = some n := by decide

theorem utf8EncodeChar_control :
    ∀ n < 32, String.utf8EncodeChar (Char.ofNat n) = [UInt8.ofNat n] := by
  decide

theorem scanEscape_letter {b letter : UInt8} (h : escapeLetter? b = some letter) (s : Bytes) :
    scanEscape (letter :: s) = .ok ([b], s) := by
  unfold escapeLetter? at h
  split_ifs at h with h₁ h₂ h₃ h₄ h₅ h₆ h₇ <;> cases h <;> subst_vars <;> rfl

/-- A control character without a letter of its own is written by its number. -/
theorem scanEscape_control {b : UInt8} (hb : b < 0x20) (s : Bytes) :
    scanEscape (117 :: 48 :: 48 :: hexDigit (b.toNat / 16) :: hexDigit (b.toNat % 16) :: s) =
      .ok ([b], s) := by
  have hlt : b.toNat < 32 := hb
  have hzero : hexValue? 48 = some 0 := rfl
  have hhex : scanHex (48 :: 48 :: hexDigit (b.toNat / 16) :: hexDigit (b.toNat % 16) :: s) =
      .ok (b.toNat, s) := by
    simp only [scanHex, hzero, hexValue?_hexDigit (b.toNat / 16) (by omega),
      hexValue?_hexDigit (b.toNat % 16) (by omega)]
    congr 2
    omega
  simp only [scanEscape, scanCodePoint, hhex]
  rw [if_neg (by omega), if_neg (by omega)]
  simp only [utf8EncodeChar_control b.toNat hlt, UInt8.ofNat_toNat]

/-- An octet as written is read as the octet. -/
theorem scanOctets_escapeOctet (fuel : Nat) (read : Bytes) (b : UInt8) (s : Bytes) :
    scanOctets (fuel + 1) read (escapeOctet b ++ s) = scanOctets fuel (b :: read) s := by
  rw [escapeOctet]
  cases hletter : escapeLetter? b with
  | some letter =>
    simp only [List.cons_append, List.nil_append, scanOctets, scanEscape_letter hletter]
    rfl
  | none =>
    by_cases hb : b < 0x20
    · simp only [hb, if_true, List.cons_append, List.nil_append, scanOctets,
        scanEscape_control hb]
      rfl
    · have hquote : b ≠ 34 := by
        rintro rfl
        exact absurd hletter (by decide)
      have hbackslash : b ≠ 92 := by
        rintro rfl
        exact absurd hletter (by decide)
      simp only [hb, if_false, List.cons_append, List.nil_append, scanOctets, hquote, hbackslash]

theorem scanOctets_escaped (octets : Bytes) (fuel : Nat) (read rest : Bytes)
    (hfuel : octets.length < fuel) :
    scanOctets fuel read (escaped octets ++ 34 :: rest) = .ok (octets.reverse ++ read, rest) := by
  induction octets generalizing fuel read with
  | nil =>
    obtain ⟨fuel, rfl⟩ : ∃ n, fuel = n + 1 := ⟨fuel - 1, by simp at hfuel; omega⟩
    rfl
  | cons b octets ih =>
    rw [List.length_cons] at hfuel
    obtain ⟨fuel, rfl⟩ : ∃ n, fuel = n + 1 := ⟨fuel - 1, by omega⟩
    rw [escaped, List.flatMap_cons, List.append_assoc, scanOctets_escapeOctet, ← escaped,
      ih fuel (b :: read) (by omega), List.reverse_cons, List.append_assoc, List.singleton_append]

theorem length_le_escaped (octets : Bytes) : octets.length ≤ (escaped octets).length := by
  induction octets with
  | nil => exact Nat.zero_le _
  | cons b octets ih =>
    have hb : 0 < (escapeOctet b).length := by
      rw [escapeOctet]
      split
      case h_1 => exact Nat.zero_lt_succ _
      case h_2 => split <;> exact Nat.zero_lt_succ _
    rw [escaped, List.flatMap_cons, List.length_append, ← escaped, List.length_cons]
    omega

/-- A string as written, after its opening quote, is read as the string. -/
theorem scanString_escaped (s : String) (rest : Bytes) :
    scanString (escaped (Bytes.ofString s) ++ 34 :: rest) = .ok (s, rest) := by
  have hfuel := length_le_escaped (Bytes.ofString s)
  rw [scanString, scanOctets_escaped _ _ _ _ (by rw [List.length_append]; omega)]
  simp only [List.append_nil, List.reverse_reverse, Bytes.toString?_ofString]

/-! ## Whole numbers -/

/-- Whether a number that stands before this text ends there. -/
def Ends (s : Bytes) : Prop :=
  ∀ b ∈ s.head?, Bytes.isDigit b = false ∧ b ≠ 46 ∧ b ≠ 101 ∧ b ≠ 69

/-- The number that digits denote, after those already read. -/
def digitsValue (read : Nat) (digits : Bytes) : Nat :=
  digits.foldl (fun m b => m * 10 + Bytes.digitValue b) read

/-- The digits of a number. -/
def digitOctets (n : Nat) : Bytes := (Nat.toDigits 10 n).map fun c => UInt8.ofNat c.toNat

variable {ds s : Bytes}

theorem le_digitsValue (m : Nat) (ds : Bytes) : m ≤ digitsValue m ds := by
  induction ds generalizing m with
  | nil => exact Nat.le_refl _
  | cons b ds ih => exact Nat.le_trans (by omega) (ih (m * 10 + Bytes.digitValue b))

/-- As long as the significand can be kept, digits are read up to the first octet that is
    none. -/
theorem scanDigits_append (negative : Bool) (m : Nat) (hds : ∀ b ∈ ds, Bytes.isDigit b = true)
    (hs : ∀ b ∈ s.head?, Bytes.isDigit b = false) (hmax : digitsValue m ds ≤ maxSignificand) :
    scanDigits negative m (ds ++ s) = finishInteger negative (digitsValue m ds) s := by
  induction ds generalizing m with
  | nil =>
    cases s with
    | nil => rfl
    | cons b s =>
      rw [List.nil_append, scanDigits, if_neg (by rw [hs b rfl]; exact Bool.false_ne_true)]
      rfl
  | cons b ds ih =>
    rw [List.forall_mem_cons] at hds
    have hkept : ¬maxSignificand < m * 10 + Bytes.digitValue b :=
      Nat.not_lt.2 (Nat.le_trans (le_digitsValue _ ds) hmax)
    rw [List.cons_append, scanDigits, if_pos hds.1]
    simp only [hkept, if_false]
    exact ih _ hds.2 hmax

theorem finishInteger_of_ends (negative : Bool) (m : Nat) (hs : Ends s) :
    finishInteger negative m s = .ok (wholeNumber negative m, s) := by
  cases s with
  | nil => rfl
  | cons b s =>
    obtain ⟨_, hpoint, he, hE⟩ := hs b rfl
    simp only [finishInteger, hpoint, he, hE, or_self, if_false]

theorem ne_of_isDigit {b c : UInt8} (hb : Bytes.isDigit b = true) (hc : Bytes.isDigit c = false) :
    b ≠ c := by
  rintro rfl
  exact absurd (hb.symm.trans hc) (by decide)

theorem isBlank_of_isDigit {b : UInt8} (hb : Bytes.isDigit b = true) : isBlank b = false := by
  simp only [isBlank, beq_false_of_ne (ne_of_isDigit hb (rfl : Bytes.isDigit 32 = false)),
    beq_false_of_ne (ne_of_isDigit hb (rfl : Bytes.isDigit 9 = false)),
    beq_false_of_ne (ne_of_isDigit hb (rfl : Bytes.isDigit 10 = false)),
    beq_false_of_ne (ne_of_isDigit hb (rfl : Bytes.isDigit 13 = false)), Bool.or_self]

theorem digitOctets_ne_nil (n : Nat) : digitOctets n ≠ [] :=
  List.map_eq_nil_iff.not.2 Nat.toDigits_ne_nil

theorem isDigit_ofNat {c : Char} (hc : c.isDigit = true) :
    Bytes.isDigit (UInt8.ofNat c.toNat) = true := by
  rw [Char.isDigit, Bool.and_eq_true, decide_eq_true_iff, decide_eq_true_iff] at hc
  have h₁ : 48 ≤ c.toNat := hc.1
  have h₂ : c.toNat ≤ 57 := hc.2
  have hoctet : (UInt8.ofNat c.toNat).toNat = c.toNat :=
    UInt8.toNat_ofNat_of_lt' (Nat.lt_of_le_of_lt h₂ (by decide))
  rw [Bytes.isDigit, Bool.and_eq_true, decide_eq_true_iff, decide_eq_true_iff,
    UInt8.le_iff_toNat_le, UInt8.le_iff_toNat_le, hoctet]
  exact ⟨h₁, h₂⟩

theorem isDigit_digitOctets (n : Nat) : ∀ b ∈ digitOctets n, Bytes.isDigit b = true := by
  intro b hb
  obtain ⟨c, hc, rfl⟩ := List.mem_map.1 hb
  exact isDigit_ofNat (Nat.isDigit_of_mem_toDigits (by decide) (by decide) hc)

theorem digitOctets_of_lt {n : Nat} (h : n < 10) : digitOctets n = [UInt8.ofNat (48 + n)] := by
  rw [digitOctets, Nat.toDigits_of_lt_base h, List.map_singleton, Nat.toNat_digitChar_of_lt_ten h]

theorem digitOctets_of_le {n : Nat} (h : 10 ≤ n) :
    digitOctets n = digitOctets (n / 10) ++ [UInt8.ofNat (48 + n % 10)] := by
  rw [digitOctets, Nat.toDigits_of_base_le (by decide) h, List.map_append, List.map_singleton,
    Nat.toNat_digitChar_of_lt_ten (Nat.mod_lt n (by decide)), ← digitOctets]

theorem digitValue_ofNat : ∀ n < 10, Bytes.digitValue (UInt8.ofNat (48 + n)) = n := by decide

/-- The digits of a number denote it. -/
theorem digitsValue_digitOctets (n : Nat) : digitsValue 0 (digitOctets n) = n := by
  induction n using Nat.strongRecOn with
  | ind n ih =>
    by_cases h : n < 10
    · rw [digitOctets_of_lt h]
      simp only [digitsValue, List.foldl_cons, List.foldl_nil, digitValue_ofNat n h]
      omega
    · have hstep := ih (n / 10) (by omega)
      rw [digitsValue] at hstep
      rw [digitOctets_of_le (by omega), digitsValue, List.foldl_append, hstep]
      simp only [List.foldl_cons, List.foldl_nil,
        digitValue_ofNat (n % 10) (Nat.mod_lt n (by decide))]
      omega

/-- The digits of a positive number do not begin with a zero. -/
theorem exists_digitOctets_eq_cons {n : Nat} (h : 0 < n) :
    ∃ d ds, digitOctets n = d :: ds ∧ d ≠ 48 := by
  induction n using Nat.strongRecOn with
  | ind n ih =>
    by_cases hlt : n < 10
    · refine ⟨_, [], digitOctets_of_lt hlt, fun hzero => ?_⟩
      have hvalue := digitValue_ofNat n hlt
      rw [hzero] at hvalue
      exact absurd (hvalue.symm.trans (by decide : Bytes.digitValue 48 = 0)) (by omega)
    · obtain ⟨d, ds, hd, hne⟩ := ih (n / 10) (by omega) (by omega)
      exact ⟨d, ds ++ [UInt8.ofNat (48 + n % 10)], by rw [digitOctets_of_le (by omega), hd]; rfl,
        hne⟩

theorem digitOctets_first (n : Nat) :
    ∃ d ds, digitOctets n = d :: ds ∧ (d = 48 → ds = []) := by
  rcases Nat.eq_zero_or_pos n with rfl | hpos
  · exact ⟨48, [], digitOctets_of_lt (by decide), fun _ => rfl⟩
  · obtain ⟨d, ds, hd, hne⟩ := exists_digitOctets_eq_cons hpos
    exact ⟨d, ds, hd, fun h => absurd h hne⟩

/-- Digits without leading zeros are read up to the first octet that is none, if they can be
    kept. -/
theorem scanNumber_append (negative : Bool) (hds : ∀ b ∈ ds, Bytes.isDigit b = true)
    (hfirst : ∃ d rest, ds = d :: rest ∧ (d = 48 → rest = []))
    (hmax : digitsValue 0 ds ≤ maxSignificand) (hs : ∀ b ∈ s.head?, Bytes.isDigit b = false) :
    scanNumber negative (ds ++ s) = finishInteger negative (digitsValue 0 ds) s := by
  obtain ⟨d, rest, rfl, hzero⟩ := hfirst
  rw [List.forall_mem_cons] at hds
  by_cases hd : d = 48
  · obtain rfl := hd
    obtain rfl := hzero rfl
    cases s with
    | nil => rfl
    | cons b s =>
      change (if Bytes.isDigit b then _ else _) = _
      rw [if_neg (by rw [hs b rfl]; exact Bool.false_ne_true)]
      rfl
  · have hvalue : digitsValue (Bytes.digitValue d) rest = digitsValue 0 (d :: rest) := by
      simp [digitsValue]
    rw [List.cons_append]
    simp only [scanNumber, hd, if_false, hds.1, if_true]
    rw [scanDigits_append negative _ hds.2 hs (hvalue ▸ hmax), hvalue]

/-- A whole number as written, after its sign, is read as the number if it can be kept. -/
theorem scanNumber_digitOctets (negative : Bool) {n : Nat} (hn : n ≤ maxSignificand)
    (hs : Ends s) :
    scanNumber negative (digitOctets n ++ s) = .ok (wholeNumber negative n, s) := by
  have hkept : digitsValue 0 (digitOctets n) ≤ maxSignificand :=
    (digitsValue_digitOctets n).symm ▸ hn
  rw [scanNumber_append negative (isDigit_digitOctets n) (digitOctets_first n) hkept
    fun b hb => (hs b hb).1, digitsValue_digitOctets, finishInteger_of_ends negative n hs]

end Testbed.Json
