import Testbed.Proofs.Json.Decimals
import Mathlib.Data.List.TakeWhile

/-!
# Numerals

How numbers are written (`Numeral`), and the number that a numeral stands for (`Numeral.value?`).
The digits make a significand as long as it can be kept. The place of the first digit that
cannot, the length of the fraction and the exponent tell by which power of ten it is to be
multiplied. The scanner reads just that, up to where the numeral ends
(`scanNumber_eq_ok_iff`).
-/

namespace Testbed.Json

open Decimal (Double)

namespace Numeral

/-- One or more digits. -/
structure Digits where
  octets : Bytes
  ne_nil : octets ≠ []
  isDigit : ∀ b ∈ octets, Bytes.isDigit b = true

/-- The sign of an exponent. -/
inductive Sign
  | plus
  | minus

/-- A sign as written. -/
def Sign.octet : Sign → UInt8
  | plus => 43
  | minus => 45

/-- Whether a sign makes an exponent negative. -/
def isMinus : Option Sign → Bool
  | some .minus => true
  | _ => false

/-- An exponent: the case of its letter, its sign, if it has one, and its digits. -/
structure Exponent where
  capital : Bool
  sign : Option Sign
  digits : Digits

/-- An exponent as written, after its letter. -/
def Exponent.magnitude (x : Exponent) : Bytes := (x.sign.map Sign.octet).toList ++ x.digits.octets

/-- An exponent as written. -/
def Exponent.octets (x : Exponent) : Bytes := (if x.capital then 69 else 101) :: x.magnitude

end Numeral

open Numeral

/-- A numeral: its sign, the digits of the whole, among which no leading zero, and a fraction and
    an exponent, if there are. -/
structure Numeral where
  negative : Bool
  whole : Digits
  fraction : Option Digits
  exponent : Option Exponent
  leading : ∀ ds, whole.octets = 48 :: ds → ds = []

namespace Numeral

/-- A fraction as written. -/
def fractionText : Option Digits → Bytes
  | none => []
  | some ds => 46 :: ds.octets

/-- The exponent as written, if there is one. -/
def exponentText : Option Exponent → Bytes
  | none => []
  | some x => x.octets

/-- A numeral as written, after its sign. -/
def magnitude (n : Numeral) : Bytes :=
  n.whole.octets ++ fractionText n.fraction ++ exponentText n.exponent

/-- A numeral as written. -/
def octets (n : Numeral) : Bytes := if n.negative then 45 :: n.magnitude else n.magnitude

/-- The significand that digits make after those of `m`, as long as it can be kept, and the
    digits that are dropped. -/
def keep : (m : Nat) → Bytes → Nat × Bytes
  | m, [] => (m, [])
  | m, b :: ds =>
    if maxSignificand < m * 10 + Bytes.digitValue b then (m, b :: ds)
    else keep (m * 10 + Bytes.digitValue b) ds

/-- A floating-point number with a sign. -/
def signed (negative : Bool) (x : Double) : Number := .float (if negative then x.neg else x)

/-- The number of a significand at a place that an exponent shifts; if the exponent is too great
    to be told, zero or none. -/
def shifted (negative : Bool) (m : Nat) (e : Int) : Option Exponent → Option Number
  | none => (Double.ofDecimal? m e).map (signed negative)
  | some x =>
    let j := digitsValue 0 x.digits.octets
    if j ≤ maxExponent then
      (Double.ofDecimal? m (if isMinus x.sign then e - j else e + j)).map (signed negative)
    else if m = 0 ∨ isMinus x.sign then some (signed negative Double.zero)
    else none

/-- The number that a numeral stands for; one that overflows stands for none. -/
def value? (n : Numeral) : Option Number :=
  let (m, dropped) := keep 0 n.whole.octets
  if n.fraction = none ∧ n.exponent = none ∧ dropped = [] then some (wholeNumber n.negative m)
  else
    let ds := (n.fraction.map Digits.octets).getD []
    let (m, later) := keep m ds
    shifted n.negative m (dropped.length - (ds.length - later.length)) n.exponent

end Numeral

/-! ## Exponents -/

/-- No digit comes next. -/
def Stops (s : Bytes) : Prop := ∀ b ∈ s.head?, Bytes.isDigit b = false

variable {negative : Bool} {m : Nat} {e : Int} {s rest : Bytes} {y : Number}

/-- A text is digits and what follows them. -/
theorem exists_digits_append (s : Bytes) :
    ∃ ds rest, s = ds ++ rest ∧ (∀ b ∈ ds, Bytes.isDigit b = true) ∧ Stops rest := by
  refine ⟨s.takeWhile Bytes.isDigit, s.dropWhile Bytes.isDigit,
    List.takeWhile_append_dropWhile.symm, fun b hb => List.mem_takeWhile_imp hb, fun b hb => ?_⟩
  have hfirst := List.head?_dropWhile_not Bytes.isDigit s
  rw [Option.mem_def.1 hb] at hfirst
  simpa using hfirst

/-- An exponent is read from its sign and its first digit on. -/
theorem scanExponent_sign (sign : Option Sign) {b : UInt8} (hb : Bytes.isDigit b = true)
    (s : Bytes) :
    scanExponent negative m e ((sign.map Sign.octet).toList ++ b :: s) =
      match scanExponentDigits (Bytes.digitValue b) s with
      | (some j, s) => assemble negative m (if isMinus sign then e - j else e + j) s
      | (none, s) =>
        if m ≠ 0 ∧ ¬isMinus sign then .error (.here .numberOutOfRange s)
        else .ok (signed negative Double.zero, s.dropWhile Bytes.isDigit) := by
  have hplus : b ≠ 43 := ne_of_isDigit hb rfl
  have hminus : b ≠ 45 := ne_of_isDigit hb rfl
  unfold scanExponent
  split
  rename_i down t heq
  obtain ⟨rfl, rfl⟩ : isMinus sign = down ∧ b :: s = t := by
    rcases sign with _ | _ | _ <;> simp_all [isMinus, Sign.octet]
  dsimp only
  rw [if_pos hb]
  rcases scanExponentDigits (Bytes.digitValue b) s with ⟨_ | j, s⟩ <;> rfl

theorem toOption_eq_some_iff {ε α : Type} {r : Except ε α} {v : α} :
    r.toOption = some v ↔ r = .ok v := by
  cases r <;> simp [Except.toOption]

theorem toOption_assemble (s : Bytes) :
    (assemble negative m e s).toOption =
      ((Double.ofDecimal? m e).map (signed negative)).map fun y => (y, s) := by
  rw [assemble]
  cases Double.ofDecimal? m e <;> rfl

/-- An exponent is read up to where its digits end. -/
theorem toOption_scanExponent (x : Exponent) (hs : Stops s) :
    (scanExponent negative m e (x.magnitude ++ s)).toOption =
      (shifted negative m e (some x)).map fun y => (y, s) := by
  obtain ⟨capital, sign, ⟨octets, hne, hdigits⟩⟩ := x
  obtain ⟨b, ds, rfl⟩ := List.exists_cons_of_ne_nil hne
  rw [List.forall_mem_cons] at hdigits
  have hfirst : Bytes.digitValue b ≤ maxExponent :=
    (Nat.le_of_lt (digitValue_lt hdigits.1)).trans (by decide)
  have hvalue : digitsValue 0 (b :: ds) = digitsValue (Bytes.digitValue b) ds := by
    simp [digitsValue]
  rw [Exponent.magnitude, List.append_assoc, List.cons_append, scanExponent_sign sign hdigits.1]
  dsimp only [shifted]
  rw [hvalue]
  by_cases hmax : digitsValue (Bytes.digitValue b) ds ≤ maxExponent
  · rw [scanExponentDigits_append _ hdigits.2 hs hmax, if_pos hmax]
    exact toOption_assemble s
  · obtain ⟨r, hr, hscan⟩ :=
      exists_scanExponentDigits_append _ hfirst hdigits.2 (Nat.not_le.1 hmax) s
    rw [hscan, if_neg hmax]
    dsimp only
    rw [dropWhile_isDigit_append hr hs]
    by_cases hzero : m = 0 ∨ isMinus sign = true
    · rw [if_pos hzero, if_neg (by tauto)]
      rfl
    · rw [if_neg hzero, if_pos (by tauto)]
      rfl

/-- What is read as an exponent is one. -/
theorem exists_exponent_of_scanExponent {r : Number × Bytes}
    (h : scanExponent negative m e s = .ok r) :
    ∃ (x : Exponent) (rest : Bytes), s = x.magnitude ++ rest ∧ Stops rest := by
  have hsign : ∃ (sign : Option Sign) (t : Bytes), s = (sign.map Sign.octet).toList ++ t ∧
      ∃ b t', t = b :: t' ∧ Bytes.isDigit b = true := by
    unfold scanExponent at h
    split at h
    rename_i down t heq
    have hdigit : ∃ b t', t = b :: t' ∧ Bytes.isDigit b = true := by
      cases t with
      | nil => simp at h
      | cons b t' =>
        refine ⟨b, t', rfl, ?_⟩
        by_contra hb
        simp [hb] at h
    split at heq
    · obtain ⟨rfl, rfl⟩ := Prod.mk.inj heq
      exact ⟨some .plus, _, rfl, hdigit⟩
    · obtain ⟨rfl, rfl⟩ := Prod.mk.inj heq
      exact ⟨some .minus, _, rfl, hdigit⟩
    · obtain ⟨rfl, rfl⟩ := Prod.mk.inj heq
      exact ⟨none, _, rfl, hdigit⟩
  obtain ⟨sign, _, rfl, b, t, rfl, hb⟩ := hsign
  obtain ⟨ds, rest, rfl, hds, hrest⟩ := exists_digits_append t
  have hdigits : ∀ c ∈ b :: ds, Bytes.isDigit c = true := List.forall_mem_cons.2 ⟨hb, hds⟩
  exact ⟨⟨false, sign, ⟨b :: ds, List.cons_ne_nil b ds, hdigits⟩⟩, rest,
    by simp [Exponent.magnitude], hrest⟩

/-! ## Fractions -/

/-- Whether a numeral ends that has an exponent or none: no digit comes next, and no letter of an
    exponent that it does not have. -/
def StopsAfter (x : Option Exponent) (s : Bytes) : Prop :=
  Stops s ∧ (x = none → ∀ b ∈ s.head?, b ≠ 101 ∧ b ≠ 69)

theorem toOption_finishDecimal (x : Option Exponent) (hs : StopsAfter x s) :
    (finishDecimal negative m e (exponentText x ++ s)).toOption =
      (shifted negative m e x).map fun y => (y, s) := by
  cases x with
  | some x =>
    have hletter : (if x.capital then (69 : UInt8) else 101) = 101 ∨
        (if x.capital then (69 : UInt8) else 101) = 69 := by
      cases x.capital <;> simp
    rw [exponentText, Exponent.octets, List.cons_append, finishDecimal, if_pos hletter]
    exact toOption_scanExponent x hs.1
  | none =>
    have hend : finishDecimal negative m e s = assemble negative m e s := by
      cases s with
      | nil => rfl
      | cons b s =>
        obtain ⟨he, hE⟩ := hs.2 rfl b rfl
        rw [finishDecimal, if_neg (not_or.2 ⟨he, hE⟩)]
    rw [exponentText, List.nil_append, hend]
    exact toOption_assemble s

theorem exists_exponentText_append_of_letter {b : UInt8} (hb : b = 101 ∨ b = 69)
    {r : Number × Bytes} (h : scanExponent negative m e s = .ok r) :
    ∃ (x : Exponent) (rest : Bytes),
      b :: s = exponentText (some x) ++ rest ∧ StopsAfter (some x) rest := by
  obtain ⟨x, rest, rfl, hrest⟩ := exists_exponent_of_scanExponent h
  refine ⟨⟨b == 69, x.sign, x.digits⟩, rest, ?_, hrest, fun h => absurd h (by simp)⟩
  rcases hb with rfl | rfl <;> rfl

theorem exists_exponentText_append (hs : Stops s) {r : Number × Bytes}
    (h : finishDecimal negative m e s = .ok r) :
    ∃ (x : Option Exponent) (rest : Bytes), s = exponentText x ++ rest ∧ StopsAfter x rest := by
  cases s with
  | nil => exact ⟨none, [], rfl, hs, fun _ b hb => absurd hb (by simp)⟩
  | cons b s =>
    by_cases hb : b = 101 ∨ b = 69
    · rw [finishDecimal, if_pos hb] at h
      obtain ⟨x, rest, heq, hrest⟩ := exists_exponentText_append_of_letter hb h
      exact ⟨some x, rest, heq, hrest⟩
    · refine ⟨none, b :: s, rfl, hs, fun _ c hc => ?_⟩
      obtain rfl : b = c := by simpa using hc
      exact not_or.1 hb

/-- The digits of a fraction are read up to where they end. -/
theorem scanFraction_append {ds : Bytes} (hds : ∀ b ∈ ds, Bytes.isDigit b = true) {places : Nat}
    (hplaces : ds = [] → places ≠ 0) (hs : Stops s) :
    scanFraction negative m e places (ds ++ s) =
      finishDecimal negative (keep m ds).1 (e - (ds.length - (keep m ds).2.length)) s := by
  induction ds generalizing m e places with
  | nil =>
    obtain ⟨places, rfl⟩ := Nat.exists_eq_succ_of_ne_zero (hplaces rfl)
    have hexponent : e - ((([] : Bytes).length : Int) - ((keep m []).2.length : Nat)) = e := by
      simp [keep]
    rw [hexponent]
    cases s with
    | nil => rfl
    | cons b s =>
      rw [List.nil_append, scanFraction, if_neg (by rw [hs b rfl]; exact Bool.false_ne_true),
        if_neg (Nat.succ_ne_zero _)]
      rfl
  | cons b ds ih =>
    rw [List.forall_mem_cons] at hds
    rw [List.cons_append, scanFraction, if_pos hds.1, keep]
    dsimp only
    by_cases hlarge : maxSignificand < m * 10 + Bytes.digitValue b
    · rw [if_pos hlarge, if_pos hlarge, dropWhile_isDigit_append hds.2 hs]
      simp
    · rw [if_neg hlarge, if_neg hlarge, ih hds.2 fun _ => Nat.succ_ne_zero _, List.length_cons]
      congr 1
      push_cast
      ring

/-! ## After the whole -/

/-- What follows the digits of a whole, which is a number itself as `whole` tells. -/
def goOn (negative : Bool) (m : Nat) (e : Int) (whole : Bytes → Scan Number) :
    Bytes → Scan Number
  | [] => whole []
  | b :: s =>
    if b = 46 then scanFraction negative m e 0 s
    else if b = 101 ∨ b = 69 then scanExponent negative m e s
    else whole (b :: s)

theorem finishInteger_eq (s : Bytes) : finishInteger negative m s =
    goOn negative m 0 (fun s => .ok (wholeNumber negative m, s)) s := by
  cases s <;> rfl

theorem scanLongInteger_append {ds : Bytes} (hds : ∀ b ∈ ds, Bytes.isDigit b = true) {k : Nat}
    (hs : Stops s) : scanLongInteger negative m k (ds ++ s) =
      goOn negative m (k + ds.length : Nat) (assemble negative m (k + ds.length : Nat)) s := by
  induction ds generalizing k with
  | nil =>
    cases s with
    | nil => rfl
    | cons b s =>
      rw [List.nil_append, scanLongInteger, if_neg (by rw [hs b rfl]; exact Bool.false_ne_true)]
      rfl
  | cons b ds ih =>
    rw [List.forall_mem_cons] at hds
    rw [List.cons_append, scanLongInteger, if_pos hds.1, ih hds.2, List.length_cons,
      Nat.add_right_comm, Nat.add_assoc]

/-- The digits of a whole are read up to where they end. -/
theorem scanDigits_append_eq {ds : Bytes} (hds : ∀ b ∈ ds, Bytes.isDigit b = true)
    (hs : Stops s) : scanDigits negative m (ds ++ s) =
      goOn negative (keep m ds).1 (keep m ds).2.length (fun s =>
        if (keep m ds).2 = [] then .ok (wholeNumber negative (keep m ds).1, s)
        else assemble negative (keep m ds).1 (keep m ds).2.length s) s := by
  induction ds generalizing m with
  | nil =>
    have hend : scanDigits negative m s = finishInteger negative m s := by
      cases s with
      | nil => rfl
      | cons b s =>
        rw [scanDigits, if_neg (by rw [hs b rfl]; exact Bool.false_ne_true)]
    rw [List.nil_append, hend, finishInteger_eq]
    rfl
  | cons b ds ih =>
    rw [List.forall_mem_cons] at hds
    rw [List.cons_append, scanDigits, if_pos hds.1, keep]
    dsimp only
    by_cases hlarge : maxSignificand < m * 10 + Bytes.digitValue b
    · rw [if_pos hlarge, if_pos hlarge, scanLongInteger_append hds.2 hs]
      simp [Nat.add_comm]
    · rw [if_neg hlarge, if_neg hlarge]
      exact ih hds.2

/-- Where a numeral ends that has a fraction and an exponent or not. -/
def StopsAt (fraction : Option Digits) (x : Option Exponent) (s : Bytes) : Prop :=
  StopsAfter x s ∧ (fraction = none ∧ x = none → ∀ b ∈ s.head?, b ≠ 46)

theorem stops_exponentText_append (x : Option Exponent) (hs : Stops s) :
    Stops (exponentText x ++ s) := by
  cases x with
  | none => exact hs
  | some x =>
    intro b hb
    obtain rfl : (if x.capital then (69 : UInt8) else 101) = b := by
      simpa [exponentText, Exponent.octets] using hb
    cases x.capital <;> rfl

theorem toOption_goOn (fraction : Option Digits) (x : Option Exponent)
    (whole : Bytes → Scan Number) (hs : StopsAt fraction x s) :
    (goOn negative m e whole (fractionText fraction ++ (exponentText x ++ s))).toOption =
      if fraction = none ∧ x = none then (whole s).toOption
      else
        let ds := (fraction.map Digits.octets).getD []
        (shifted negative (keep m ds).1 (e - (ds.length - (keep m ds).2.length)) x).map
          fun y => (y, s) := by
  cases fraction with
  | some ds =>
    rw [if_neg (by simp)]
    change (scanFraction negative m e 0 (ds.octets ++ (exponentText x ++ s))).toOption = _
    rw [scanFraction_append ds.isDigit (fun h => absurd h ds.ne_nil)
      (stops_exponentText_append x hs.1.1)]
    exact toOption_finishDecimal x hs.1
  | none =>
    rw [fractionText, List.nil_append]
    cases x with
    | some x =>
      rw [if_neg (by simp)]
      have hexponent : e - ((([] : Bytes).length : Int) - ((keep m []).2.length : Nat)) = e := by
        simp [keep]
      dsimp only [Option.map_none, Option.getD_none]
      rw [hexponent, exponentText, Exponent.octets, List.cons_append, goOn]
      rw [if_neg (by cases x.capital <;> decide), if_pos (by cases x.capital <;> decide)]
      exact toOption_scanExponent x hs.1.1
    | none =>
      rw [if_pos ⟨rfl, rfl⟩, exponentText, List.nil_append]
      cases s with
      | nil => rfl
      | cons b s =>
        have hletter := hs.1.2 rfl b rfl
        rw [goOn, if_neg (hs.2 ⟨rfl, rfl⟩ b rfl), if_neg (not_or.2 hletter)]

theorem exists_text_append_of_goOn {whole : Bytes → Scan Number} (hs : Stops s)
    {r : Number × Bytes} (h : goOn negative m e whole s = .ok r) :
    ∃ (fraction : Option Digits) (x : Option Exponent) (rest : Bytes),
      s = fractionText fraction ++ (exponentText x ++ rest) ∧ StopsAt fraction x rest := by
  cases s with
  | nil => exact ⟨none, none, [], rfl, ⟨hs, fun _ b hb => absurd hb (by simp)⟩, fun _ b hb =>
      absurd hb (by simp)⟩
  | cons b s =>
    rw [goOn] at h
    by_cases hpoint : b = 46
    · rw [if_pos hpoint] at h
      obtain ⟨ds, t, rfl, hds, ht⟩ := exists_digits_append s
      by_cases hne : ds = []
      · -- A point without digits is no fraction.
        subst hne
        cases t with
        | nil => exact absurd h (by simp [scanFraction])
        | cons c t => exact absurd h (by simp [scanFraction, ht c rfl])
      · rw [scanFraction_append hds (fun h => absurd h hne) ht] at h
        obtain ⟨x, rest, rfl, hrest⟩ := exists_exponentText_append ht h
        exact ⟨some ⟨ds, hne, hds⟩, x, rest, by simp [fractionText, hpoint], hrest,
          fun h => absurd h.1 (by simp)⟩
    · rw [if_neg hpoint] at h
      by_cases hletter : b = 101 ∨ b = 69
      · rw [if_pos hletter] at h
        obtain ⟨x, rest, heq, hrest⟩ := exists_exponentText_append_of_letter hletter h
        exact ⟨none, some x, rest, heq, hrest, fun h => absurd h.2 (by simp)⟩
      · refine ⟨none, none, b :: s, rfl, ⟨hs, fun _ c hc => ?_⟩, fun _ c hc => ?_⟩
        · obtain rfl : b = c := by simpa using hc
          exact not_or.1 hletter
        · obtain rfl : b = c := by simpa using hc
          exact hpoint

/-! ## Numerals -/

/-- The digits of a whole that has no leading zero are read up to where they end. -/
theorem scanNumber_whole {ds : Digits} (hds : ∀ r, ds.octets = 48 :: r → r = [])
    (hs : Stops s) : scanNumber negative (ds.octets ++ s) =
      goOn negative (keep 0 ds.octets).1 (keep 0 ds.octets).2.length (fun s =>
        if (keep 0 ds.octets).2 = [] then .ok (wholeNumber negative (keep 0 ds.octets).1, s)
        else assemble negative (keep 0 ds.octets).1 (keep 0 ds.octets).2.length s) s := by
  obtain ⟨octets, hne, hdigits⟩ := ds
  obtain ⟨b, r, rfl⟩ := List.exists_cons_of_ne_nil hne
  rw [List.forall_mem_cons] at hdigits
  by_cases hb : b = 48
  · subst hb
    obtain rfl : r = [] := hds r rfl
    have hzero : scanNumber negative (48 :: s) = finishInteger negative 0 s := by
      cases s with
      | nil => rfl
      | cons c s => simp [scanNumber, hs c rfl]
    rw [List.singleton_append, hzero, finishInteger_eq]
    rfl
  · have hkeep : keep 0 (b :: r) = keep (Bytes.digitValue b) r := by
      have hlt := digitValue_lt hdigits.1
      have hmax : maxSignificand = 18446744073709551615 := rfl
      rw [keep, if_neg (by omega), Nat.zero_mul, Nat.zero_add]
    rw [hkeep, ← scanDigits_append_eq hdigits.2 hs]
    simp only [List.cons_append, scanNumber, hb, if_false, hdigits.1, if_true]

theorem stops_text_append (fraction : Option Digits) (x : Option Exponent) (hs : Stops s) :
    Stops (fractionText fraction ++ (exponentText x ++ s)) := by
  cases fraction with
  | none => exact stops_exponentText_append x hs
  | some ds =>
    intro b hb
    obtain rfl : 46 = b := by simpa [fractionText] using hb
    rfl

/-- A numeral is read as the number that it stands for. -/
theorem toOption_scanNumber (n : Numeral) (hs : StopsAt n.fraction n.exponent s) :
    (scanNumber n.negative (n.magnitude ++ s)).toOption = n.value?.map fun y => (y, s) := by
  rw [magnitude, List.append_assoc, List.append_assoc,
    scanNumber_whole n.leading (stops_text_append _ _ hs.1.1), toOption_goOn _ _ _ hs, value?]
  dsimp only
  by_cases hwhole : n.fraction = none ∧ n.exponent = none
  · rw [if_pos hwhole]
    by_cases hdropped : (keep 0 n.whole.octets).2 = []
    · rw [if_pos hdropped, if_pos ⟨hwhole.1, hwhole.2, hdropped⟩]
      rfl
    · rw [if_neg hdropped, if_neg fun h => hdropped h.2.2, hwhole.1, hwhole.2]
      simp [toOption_assemble, shifted, keep]
  · rw [if_neg hwhole, if_neg fun h => hwhole ⟨h.1, h.2.1⟩]

/-- What is read as a number is a numeral. -/
theorem exists_numeral_of_scanNumber {r : Number × Bytes} (h : scanNumber negative s = .ok r) :
    ∃ (n : Numeral) (rest : Bytes), n.negative = negative ∧ s = n.magnitude ++ rest ∧
      StopsAt n.fraction n.exponent rest := by
  obtain ⟨ds, t, rfl, hds, ht⟩ := exists_digits_append s
  obtain ⟨whole, hwhole, rfl⟩ : ∃ whole : Digits,
      (∀ r, whole.octets = 48 :: r → r = []) ∧ whole.octets = ds := by
    cases ds with
    | nil =>
      cases t with
      | nil => exact absurd h (by simp [scanNumber])
      | cons b t =>
        have hb : b ≠ 48 := fun hb => absurd (ht b rfl) (by simp [hb, Bytes.isDigit])
        exact absurd h (by simp [scanNumber, hb, ht b rfl])
    | cons b ds =>
      refine ⟨⟨b :: ds, List.cons_ne_nil b ds, hds⟩, ?_, rfl⟩
      rintro r heq
      obtain ⟨rfl, rfl⟩ := List.cons_eq_cons.1 heq
      cases ds with
      | nil => rfl
      | cons c ds => exact absurd h (by simp [scanNumber, hds c (by simp)])
  rw [scanNumber_whole hwhole ht] at h
  obtain ⟨fraction, x, rest, rfl, hrest⟩ := exists_text_append_of_goOn ht h
  exact ⟨⟨negative, whole, fraction, x, hwhole⟩, rest, rfl, by simp [magnitude], hrest⟩

/-- What is read as a number, and what is left of the text. -/
theorem scanNumber_eq_ok_iff : scanNumber negative s = .ok (y, rest) ↔
    ∃ n : Numeral, n.negative = negative ∧ s = n.magnitude ++ rest ∧
      StopsAt n.fraction n.exponent rest ∧ n.value? = some y := by
  constructor
  · intro h
    obtain ⟨n, t, rfl, rfl, ht⟩ := exists_numeral_of_scanNumber h
    have hvalue := toOption_scanNumber n ht
    rw [h] at hvalue
    obtain ⟨z, hz, heq⟩ := Option.map_eq_some_iff.1 hvalue.symm
    obtain ⟨rfl, rfl⟩ := Prod.mk.inj heq
    exact ⟨n, rfl, rfl, ht, hz⟩
  · rintro ⟨n, rfl, rfl, hrest, hn⟩
    rw [← toOption_eq_some_iff, toOption_scanNumber n hrest, hn]
    rfl

end Testbed.Json
