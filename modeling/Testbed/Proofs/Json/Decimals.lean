import Testbed.Proofs.Decimal.Shortest
import Testbed.Proofs.Json.Nesting

/-!
# Decimals read back

A floating-point number that is written can be read again: its digits are kept as far as they
can be, the point and the exponent tell the place of the last one that is kept, and that decimal
does not overflow (`rereads_float`). What is read need not be the same number.

* `exists_scanNumber_fraction`: what digits with a point among them are read as;
* `exists_scanNumber_render`: the forms in which a decimal is written.
-/

namespace Testbed.Json

open Decimal

variable {negative : Bool} {ds ds' s : Bytes} {m : Nat}

/-! ## Digits -/

theorem digitsValue_append (m : Nat) (ds ds' : Bytes) :
    digitsValue m (ds ++ ds') = digitsValue (digitsValue m ds) ds' := List.foldl_append

theorem digitValue_lt {b : UInt8} (hb : Bytes.isDigit b = true) : Bytes.digitValue b < 10 := by
  rw [Bytes.isDigit, Bool.and_eq_true, decide_eq_true_iff, decide_eq_true_iff,
    UInt8.le_iff_toNat_le, UInt8.le_iff_toNat_le] at hb
  have hhigh : b.toNat ≤ 57 := hb.2
  rw [Bytes.digitValue]
  omega

/-- More digits make a number greater by as many places, and less than one unit there. -/
theorem digitsValue_bounds (m : Nat) (hds : ∀ b ∈ ds, Bytes.isDigit b = true) :
    m * 10 ^ ds.length ≤ digitsValue m ds ∧ digitsValue m ds < (m + 1) * 10 ^ ds.length := by
  induction ds generalizing m with
  | nil => exact ⟨by simp [digitsValue], by simp [digitsValue]⟩
  | cons b ds ih =>
    rw [List.forall_mem_cons] at hds
    have hb := digitValue_lt hds.1
    obtain ⟨hlow, hhigh⟩ := ih (m * 10 + Bytes.digitValue b) hds.2
    change m * 10 ^ (ds.length + 1) ≤ digitsValue (m * 10 + Bytes.digitValue b) ds ∧
      digitsValue (m * 10 + Bytes.digitValue b) ds < (m + 1) * 10 ^ (ds.length + 1)
    have hpow : 0 < 10 ^ ds.length := Nat.pow_pos (by decide)
    constructor
    · calc m * 10 ^ (ds.length + 1) = m * 10 * 10 ^ ds.length := by rw [Nat.pow_succ]; ring
        _ ≤ (m * 10 + Bytes.digitValue b) * 10 ^ ds.length :=
            Nat.mul_le_mul_right _ (Nat.le_add_right _ _)
        _ ≤ _ := hlow
    · calc _ < (m * 10 + Bytes.digitValue b + 1) * 10 ^ ds.length := hhigh
        _ ≤ (m + 1) * 10 * 10 ^ ds.length := Nat.mul_le_mul_right _ (by omega)
        _ = (m + 1) * 10 ^ (ds.length + 1) := by rw [Nat.pow_succ]; ring

theorem digitsValue_div (m : Nat) (hds : ∀ b ∈ ds, Bytes.isDigit b = true) :
    digitsValue m ds / 10 ^ ds.length = m := by
  obtain ⟨hlow, hhigh⟩ := digitsValue_bounds m hds
  exact Nat.div_eq_of_lt_le hlow hhigh

theorem digitsValue_replicate (m k : Nat) :
    digitsValue m (List.replicate k 48) = m * 10 ^ k := by
  induction k generalizing m with
  | zero => exact (Nat.mul_one m).symm
  | succ k ih =>
    rw [List.replicate_succ]
    change digitsValue (m * 10 + 0) (List.replicate k 48) = _
    rw [Nat.add_zero, ih, Nat.pow_succ, Nat.mul_assoc, Nat.mul_comm 10]

theorem isDigit_replicate (k : Nat) : ∀ b ∈ List.replicate k (48 : UInt8), Bytes.isDigit b = true :=
  fun _ hb => (List.eq_of_mem_replicate hb) ▸ rfl

theorem isDigit_zero : ∀ b ∈ ([48] : Bytes), Bytes.isDigit b = true := isDigit_replicate 1

theorem length_digitOctets (n : Nat) : (digitOctets n).length = Shortest.width n :=
  List.length_map _

/-- A number has less than so many digits. -/
theorem lt_pow_width (n : Nat) : n < 10 ^ Shortest.width n := by
  have h := (digitsValue_bounds 0 (isDigit_digitOctets n)).2
  rwa [digitsValue_digitOctets, length_digitOctets, Nat.zero_add, Nat.one_mul] at h

theorem digitsValue_singleton_le {b : UInt8} (hb : Bytes.isDigit b = true) :
    digitsValue 0 [b] ≤ maxSignificand := by
  change 0 * 10 + Bytes.digitValue b ≤ _
  have hlt := digitValue_lt hb
  exact (by omega : _ ≤ 10).trans (by decide)

theorem isDigit_head?_cons {b : UInt8} (hb : Bytes.isDigit b = false) (s : Bytes) :
    ∀ c ∈ (b :: s).head?, Bytes.isDigit c = false := by
  rintro _ ⟨⟩
  exact hb

/-! ## The parts of a number -/

theorem exists_assemble {e : Int} (negative : Bool) (h : (Double.ofDecimal? m e).isSome) :
    ∃ y, ∀ s, assemble negative m e s = .ok (y, s) := by
  obtain ⟨x, hx⟩ := Option.isSome_iff_exists.1 h
  exact ⟨_, fun s => by rw [assemble, hx]⟩

theorem finishDecimal_of_ends (e : Int) (hs : Ends s) :
    finishDecimal negative m e s = assemble negative m e s := by
  cases s with
  | nil => rfl
  | cons b s =>
    obtain ⟨_, _, he, hE⟩ := hs b rfl
    rw [finishDecimal, if_neg (not_or.2 ⟨he, hE⟩)]

theorem dropWhile_isDigit_append (hds : ∀ b ∈ ds, Bytes.isDigit b = true)
    (hs : ∀ b ∈ s.head?, Bytes.isDigit b = false) :
    (ds ++ s).dropWhile Bytes.isDigit = s := by
  rw [List.dropWhile_append_of_pos hds]
  cases s with
  | nil => rfl
  | cons b s => exact List.dropWhile_cons_of_neg (by simp [hs b rfl])

/-- The digits of a fraction are kept as long as they can be; as many as are dropped, the last
    one that is kept is before the last one. -/
theorem exists_scanFraction_append (negative : Bool) (m : Nat)
    (hds : ∀ b ∈ ds, Bytes.isDigit b = true) :
    ∃ k : Nat, (digitsValue m ds ≤ maxSignificand → k = 0) ∧
      ∀ (e : Int) (places : Nat) (s : Bytes), (ds = [] → places ≠ 0) →
        (∀ b ∈ s.head?, Bytes.isDigit b = false) →
        scanFraction negative m e places (ds ++ s) =
          finishDecimal negative (digitsValue m ds / 10 ^ k) (e - ds.length + k) s := by
  induction ds generalizing m with
  | nil =>
    refine ⟨0, fun _ => rfl, fun e places s hplaces hs => ?_⟩
    obtain ⟨places, rfl⟩ := Nat.exists_eq_succ_of_ne_zero (hplaces rfl)
    have hvalue : digitsValue m [] / 10 ^ 0 = m := Nat.div_one m
    have hexponent : e - (([] : Bytes).length : Nat) + (0 : Nat) = e := by simp
    rw [hvalue, hexponent]
    cases s with
    | nil => rfl
    | cons b s =>
      rw [List.nil_append, scanFraction, if_neg (by rw [hs b rfl]; exact Bool.false_ne_true),
        if_neg (Nat.succ_ne_zero _)]
  | cons b ds ih =>
    have hall := hds
    rw [List.forall_mem_cons] at hds
    rcases Nat.lt_or_ge maxSignificand (m * 10 + Bytes.digitValue b) with hlarge | hkept
    · -- This digit and all that follow are dropped.
      refine ⟨ds.length + 1, fun h => ?_, fun e places s _ hs => ?_⟩
      · exact absurd (hlarge.trans_le (le_digitsValue _ ds)) (Nat.not_lt.2 h)
      · have hvalue : digitsValue m (b :: ds) / 10 ^ (ds.length + 1) = m := digitsValue_div m hall
        have hexponent : e - ((b :: ds).length : Nat) + (ds.length + 1 : Nat) = e := by
          rw [List.length_cons]
          omega
        rw [List.cons_append, scanFraction, if_pos hds.1, hvalue, hexponent]
        dsimp only
        rw [if_pos hlarge, dropWhile_isDigit_append hds.2 hs]
    · obtain ⟨k, hk, hscan⟩ := ih (m * 10 + Bytes.digitValue b) hds.2
      refine ⟨k, hk, fun e places s _ hs => ?_⟩
      have hexponent : e - ((b :: ds).length : Nat) + k = e - 1 - ds.length + k := by
        rw [List.length_cons]
        omega
      rw [List.cons_append, scanFraction, if_pos hds.1, hexponent]
      dsimp only
      rw [if_neg (Nat.not_lt.2 hkept)]
      exact hscan (e - 1) (places + 1) s (fun _ => Nat.succ_ne_zero _) hs

/-- Digits with a point among them. -/
theorem exists_scanNumber_fraction (negative : Bool) (hds : ∀ b ∈ ds, Bytes.isDigit b = true)
    (hfirst : ∃ d rest, ds = d :: rest ∧ (d = 48 → rest = []))
    (hmax : digitsValue 0 ds ≤ maxSignificand) (hds' : ∀ b ∈ ds', Bytes.isDigit b = true)
    (hne : ds' ≠ []) :
    ∃ k : Nat, (digitsValue 0 (ds ++ ds') ≤ maxSignificand → k = 0) ∧
      ∀ s : Bytes, (∀ b ∈ s.head?, Bytes.isDigit b = false) →
        scanNumber negative (ds ++ 46 :: (ds' ++ s)) =
          finishDecimal negative (digitsValue 0 (ds ++ ds') / 10 ^ k) (-ds'.length + k) s := by
  obtain ⟨k, hk, hscan⟩ := exists_scanFraction_append negative (digitsValue 0 ds) hds'
  rw [digitsValue_append]
  refine ⟨k, hk, fun s hs => ?_⟩
  have hfraction := hscan 0 0 s (fun h => absurd h hne) hs
  rw [zero_sub] at hfraction
  rw [scanNumber_append negative hds hfirst hmax (isDigit_head?_cons rfl _), ← hfraction]
  rfl

/-! ## Exponents -/

theorem scanExponentDigits_append (e : Nat) (hds : ∀ b ∈ ds, Bytes.isDigit b = true)
    (hs : ∀ b ∈ s.head?, Bytes.isDigit b = false) (hmax : digitsValue e ds ≤ maxExponent) :
    scanExponentDigits e (ds ++ s) = (some (digitsValue e ds), s) := by
  induction ds generalizing e with
  | nil =>
    cases s with
    | nil => rfl
    | cons b s =>
      rw [List.nil_append, scanExponentDigits, if_neg (by rw [hs b rfl]; exact Bool.false_ne_true)]
      rfl
  | cons b ds ih =>
    rw [List.forall_mem_cons] at hds
    have hkept : ¬maxExponent < e * 10 + Bytes.digitValue b :=
      Nat.not_lt.2 (Nat.le_trans (le_digitsValue _ ds) hmax)
    rw [List.cons_append, scanExponentDigits, if_pos hds.1]
    dsimp only
    rw [if_neg hkept]
    exact ih _ hds.2 hmax

/-- The digits of an exponent that is too great are read up to one of them. -/
theorem exists_scanExponentDigits_append (e : Nat) (he : e ≤ maxExponent)
    (hds : ∀ b ∈ ds, Bytes.isDigit b = true) (hmax : maxExponent < digitsValue e ds) (s : Bytes) :
    ∃ rest, (∀ b ∈ rest, Bytes.isDigit b = true) ∧
      scanExponentDigits e (ds ++ s) = (none, rest ++ s) := by
  induction ds generalizing e with
  | nil => exact absurd he (Nat.not_le.2 hmax)
  | cons b ds ih =>
    rw [List.forall_mem_cons] at hds
    rw [List.cons_append, scanExponentDigits, if_pos hds.1]
    dsimp only
    split
    case isTrue => exact ⟨ds, hds.2, rfl⟩
    case isFalse hkept => exact ih _ (Nat.not_lt.1 hkept) hds.2 hmax

/-- The octets of an exponent: its sign and its digits. -/
def exponentOctets (q : Int) : Bytes := (if q < 0 then 45 else 43) :: digitOctets q.natAbs

theorem exponentOctets_of_neg {q : Int} (hq : q < 0) :
    exponentOctets q = 45 :: digitOctets q.natAbs := by
  rw [exponentOctets, if_pos hq]

theorem exponentOctets_of_nonneg {q : Int} (hq : ¬q < 0) :
    exponentOctets q = 43 :: digitOctets q.natAbs := by
  rw [exponentOctets, if_neg hq]

theorem scanExponent_minus (e : Int) {d : UInt8} (hd : Bytes.isDigit d = true) (s : Bytes) :
    scanExponent negative m e (45 :: d :: s) =
      match scanExponentDigits (Bytes.digitValue d) s with
      | (some j, s) => assemble negative m (e - j) s
      | (none, s) => .ok (.float (if negative then Double.zero.neg else Double.zero),
          s.dropWhile Bytes.isDigit) := by
  delta scanExponent
  change (if Bytes.isDigit d then _ else _) = _
  rw [if_pos hd]
  rcases scanExponentDigits (Bytes.digitValue d) s with ⟨_ | j, s⟩
  · exact if_neg fun h => h.2 rfl
  · rfl

theorem scanExponent_plus (e : Int) {d : UInt8} (hd : Bytes.isDigit d = true) {s s' : Bytes}
    {j : Nat} (hj : scanExponentDigits (Bytes.digitValue d) s = (some j, s')) :
    scanExponent negative m e (43 :: d :: s) = assemble negative m (e + j) s' := by
  delta scanExponent
  change (if Bytes.isDigit d then _ else _) = _
  rw [if_pos hd, hj]
  rfl

/-- An exponent that is not too great is read if the number does not overflow, and every one that
    is negative. -/
theorem exists_scanExponent (negative : Bool) {e q : Int} (hq : q ≤ 308)
    (h : (Double.ofDecimal? m (e + q)).isSome) :
    ∃ y, ∀ s, Ends s → scanExponent negative m e (exponentOctets q ++ s) = .ok (y, s) := by
  obtain ⟨d, ds, hd⟩ := List.exists_cons_of_ne_nil (digitOctets_ne_nil q.natAbs)
  have hdigits := isDigit_digitOctets q.natAbs
  have hvalue := digitsValue_digitOctets q.natAbs
  rw [hd, List.forall_mem_cons] at hdigits
  have hvalue : digitsValue (Bytes.digitValue d) ds = q.natAbs := by
    rw [hd] at hvalue
    simpa [digitsValue] using hvalue
  -- What ends a number is no digit, so the digits of the exponent are read up to it.
  have hread : ∀ s, Ends s → q.natAbs ≤ maxExponent →
      scanExponentDigits (Bytes.digitValue d) (ds ++ s) = (some q.natAbs, s) := by
    intro s hs hmax
    rw [scanExponentDigits_append _ hdigits.2 (fun b hb => (hs b hb).1) (hvalue ▸ hmax), hvalue]
  by_cases hneg : q < 0
  · rw [exponentOctets_of_neg hneg, hd]
    rcases Nat.lt_or_ge maxExponent q.natAbs with hlong | hmax
    · -- The digits are not all read, and the number is zero.
      refine ⟨.float (if negative then Double.zero.neg else Double.zero), fun s hs => ?_⟩
      have hfirst : Bytes.digitValue d ≤ maxExponent :=
        (Nat.le_of_lt (digitValue_lt hdigits.1)).trans (by decide)
      obtain ⟨rest, hrest, hscan⟩ :=
        exists_scanExponentDigits_append _ hfirst hdigits.2 (hvalue ▸ hlong) s
      rw [List.cons_append, List.cons_append, scanExponent_minus e hdigits.1, hscan]
      dsimp only
      rw [dropWhile_isDigit_append hrest fun b hb => (hs b hb).1]
    · have hsum : e - (q.natAbs : Int) = e + q := by omega
      obtain ⟨y, hy⟩ := exists_assemble negative h
      refine ⟨y, fun s hs => ?_⟩
      rw [List.cons_append, List.cons_append, scanExponent_minus e hdigits.1, hread s hs hmax]
      dsimp only
      rw [hsum, hy]
  · have hsum : e + (q.natAbs : Int) = e + q := by omega
    have hmax : q.natAbs ≤ maxExponent := by
      have : maxExponent = 2147483647 := rfl
      omega
    obtain ⟨y, hy⟩ := exists_assemble negative h
    refine ⟨y, fun s hs => ?_⟩
    rw [exponentOctets_of_nonneg hneg, hd, List.cons_append, List.cons_append,
      scanExponent_plus e hdigits.1 (hread s hs hmax), hsum, hy]

/-! ## Decimals -/

section Render

variable {d : Digits}

theorem exists_assemble_of_isReadable (negative : Bool) (hd : d.IsReadable) {k : Nat} {e : Int}
    (hk : d.digits ≤ maxSignificand → k = 0) (he : e = d.exponent + k) :
    ∃ y, ∀ s, assemble negative (d.digits / 10 ^ k) e s = .ok (y, s) := by
  obtain rfl := he
  exact exists_assemble negative (hd.reads k fun h => hk (Nat.le_of_lt_succ h))

theorem exists_digitOctets_of_point (hd : d.IsReadable) (hpos : 0 < d.point) :
    ∃ c cs, digitOctets d.digits = c :: cs ∧ c ≠ 48 := by
  refine exists_digitOctets_eq_cons (Nat.pos_of_ne_zero fun hzero => ?_)
  have := hd.zero hzero
  omega

theorem not_isDigit_of_ends (hs : Ends s) : ∀ b ∈ s.head?, Bytes.isDigit b = false :=
  fun b hb => (hs b hb).1

/-- Digits after a zero and a point. -/
theorem exists_scanNumber_small (negative : Bool) (hd : d.IsReadable) (hpoint : d.point ≤ 0) :
    ∃ y, ∀ s, Ends s → scanNumber negative
      (48 :: 46 :: (List.replicate (-d.point).toNat 48 ++ digitOctets d.digits) ++ s) =
        .ok (y, s) := by
  have hdigits : ∀ b ∈ List.replicate (-d.point).toNat 48 ++ digitOctets d.digits,
      Bytes.isDigit b = true :=
    List.forall_mem_append.2 ⟨isDigit_replicate _, isDigit_digitOctets _⟩
  have hvalue : digitsValue 0 ([48] ++
      (List.replicate (-d.point).toNat 48 ++ digitOctets d.digits)) = d.digits := by
    rw [digitsValue_append, digitsValue_append, digitsValue_replicate]
    change digitsValue (0 * _) _ = _
    rw [Nat.zero_mul, digitsValue_digitOctets]
  obtain ⟨k, hk, hscan⟩ := exists_scanNumber_fraction negative isDigit_zero
    ⟨48, [], rfl, fun _ => rfl⟩ (by decide) hdigits
    (List.append_ne_nil_of_right_ne_nil _ (digitOctets_ne_nil _))
  rw [hvalue] at hk hscan
  obtain ⟨y, hy⟩ := exists_assemble_of_isReadable negative hd hk
    (e := -(List.replicate (-d.point).toNat (48 : UInt8) ++ digitOctets d.digits).length + k) (by
      rw [List.length_append, List.length_replicate, length_digitOctets, Digits.exponent]
      omega)
  refine ⟨y, fun s hs => (hscan s (not_isDigit_of_ends hs)).trans ?_⟩
  rw [finishDecimal_of_ends _ hs, hy]

/-- Digits with zeros after them, a point and a zero. -/
theorem exists_scanNumber_whole (negative : Bool) (hd : d.IsReadable) (hpos : 0 < d.point)
    (hmax : d.point ≤ 16) (hwidth : Shortest.width d.digits ≤ d.point) :
    ∃ y, ∀ s, Ends s → scanNumber negative (digitOctets d.digits ++
      List.replicate (d.point - Shortest.width d.digits).toNat 48 ++ 46 :: ([48] ++ s)) =
        .ok (y, s) := by
  obtain ⟨c, cs, hc, hne⟩ := exists_digitOctets_of_point hd hpos
  obtain ⟨j, hj⟩ : ∃ j, (d.point - Shortest.width d.digits).toNat = j := ⟨_, rfl⟩
  rw [hj]
  have hdigits : ∀ b ∈ digitOctets d.digits ++ List.replicate j 48, Bytes.isDigit b = true :=
    List.forall_mem_append.2 ⟨isDigit_digitOctets _, isDigit_replicate _⟩
  have hvalue : digitsValue 0 (digitOctets d.digits ++ List.replicate j 48) =
      d.digits * 10 ^ j := by
    rw [digitsValue_append, digitsValue_digitOctets, digitsValue_replicate]
  have hvalue' : digitsValue 0 (digitOctets d.digits ++ List.replicate j 48 ++ [48]) =
      d.digits * 10 ^ j * 10 := by
    rw [digitsValue_append, hvalue]
    rfl
  -- There are at most sixteen digits, and so all of them are kept.
  have hsmall : d.digits * 10 ^ j < 10 ^ 16 := by
    calc d.digits * 10 ^ j < 10 ^ Shortest.width d.digits * 10 ^ j :=
          Nat.mul_lt_mul_of_pos_right (lt_pow_width _) (Nat.pow_pos (by decide))
      _ = 10 ^ (Shortest.width d.digits + j) := (Nat.pow_add 10 _ _).symm
      _ ≤ 10 ^ 16 := Nat.pow_le_pow_right (by decide) (by omega)
  have hkept : maxSignificand = 18446744073709551615 := rfl
  obtain ⟨k, hk, hscan⟩ := exists_scanNumber_fraction negative hdigits
    ⟨c, _, by rw [hc]; rfl, fun h => absurd h hne⟩ (by omega) isDigit_zero
    (List.cons_ne_nil _ _)
  obtain rfl := hk (by omega)
  obtain ⟨y, hy⟩ := exists_assemble negative (m := d.digits * 10 ^ j * 10 / 10 ^ 0) (e := -1) rfl
  refine ⟨y, fun s hs => (hscan s (not_isDigit_of_ends hs)).trans ?_⟩
  rw [finishDecimal_of_ends _ hs, hvalue']
  exact hy s

/-- Digits with a point among them. -/
theorem exists_scanNumber_mixed (negative : Bool) (hd : d.IsReadable) (hpos : 0 < d.point)
    (hmax : d.point ≤ 16) (hwidth : d.point < Shortest.width d.digits) :
    ∃ y, ∀ s, Ends s → scanNumber negative ((digitOctets d.digits).take d.point.toNat ++
      46 :: ((digitOctets d.digits).drop d.point.toNat ++ s)) = .ok (y, s) := by
  obtain ⟨c, cs, hc, hne⟩ := exists_digitOctets_of_point hd hpos
  obtain ⟨j, hj⟩ : ∃ j, d.point.toNat = j + 1 := ⟨d.point.toNat - 1, by omega⟩
  have hdigits := isDigit_digitOctets d.digits
  have hlength := length_digitOctets d.digits
  have hvalue := digitsValue_digitOctets d.digits
  rw [hj]
  generalize hD : digitOctets d.digits = D at hc hdigits hlength hvalue ⊢
  have htake : ∀ b ∈ D.take (j + 1), Bytes.isDigit b = true :=
    fun b hb => hdigits b (List.mem_of_mem_take hb)
  have hsmall : digitsValue 0 (D.take (j + 1)) < 10 ^ 16 := by
    have h := (digitsValue_bounds 0 htake).2
    rw [Nat.zero_add, Nat.one_mul] at h
    refine h.trans_le (Nat.pow_le_pow_right (by decide) ?_)
    exact (List.length_take_le _ _).trans (by omega)
  have hkept : maxSignificand = 18446744073709551615 := rfl
  have hdrop : D.drop (j + 1) ≠ [] :=
    List.ne_nil_of_length_pos (by rw [List.length_drop]; omega)
  obtain ⟨k, hk, hscan⟩ := exists_scanNumber_fraction negative htake
    ⟨c, cs.take j, by rw [hc]; rfl, fun h => absurd h hne⟩ (by omega)
    (fun b hb => hdigits b (List.mem_of_mem_drop hb)) hdrop
  rw [List.take_append_drop, hvalue] at hk hscan
  obtain ⟨y, hy⟩ := exists_assemble_of_isReadable negative hd hk
    (e := -(D.drop (j + 1)).length + k) (by
      rw [List.length_drop, Digits.exponent]
      omega)
  refine ⟨y, fun s hs => (hscan s (not_isDigit_of_ends hs)).trans ?_⟩
  rw [finishDecimal_of_ends _ hs, hy]

/-- One digit, with an exponent. -/
theorem exists_scanNumber_digit (negative : Bool) (hd : d.IsReadable) {c : UInt8}
    (hc : digitOctets d.digits = [c]) :
    ∃ y, ∀ s, Ends s → scanNumber negative ([c] ++ 101 :: (exponentOctets (d.point - 1) ++ s)) =
      .ok (y, s) := by
  have hdigits := isDigit_digitOctets d.digits
  have hvalue := digitsValue_digitOctets d.digits
  have hlength := length_digitOctets d.digits
  rw [hc] at hdigits hvalue hlength
  have hsome := hd.reads 0 fun _ => rfl
  rw [Nat.pow_zero, Nat.div_one, Digits.exponent, ← hlength] at hsome
  have hexponent : (0 : Int) + (d.point - 1) = d.point - ([c] : Bytes).length + (0 : Nat) := by
    simp
  obtain ⟨y, hy⟩ := exists_scanExponent negative (e := 0) (q := d.point - 1)
    (by have := hd.point; omega) (hexponent ▸ hsome)
  refine ⟨y, fun s hs => ?_⟩
  have hmax := digitsValue_singleton_le (hdigits c List.mem_cons_self)
  rw [scanNumber_append negative hdigits ⟨c, [], rfl, fun _ => rfl⟩ hmax
    (isDigit_head?_cons rfl _), hvalue]
  exact hy s hs

/-- One digit, a point and further digits, with an exponent. -/
theorem exists_scanNumber_scientific (negative : Bool) (hd : d.IsReadable) {c : UInt8} {cs : Bytes}
    (hc : digitOctets d.digits = c :: cs) (hcs : cs ≠ []) :
    ∃ y, ∀ s, Ends s → scanNumber negative
      ([c] ++ 46 :: (cs ++ 101 :: (exponentOctets (d.point - 1) ++ s))) = .ok (y, s) := by
  have hdigits := isDigit_digitOctets d.digits
  have hvalue := digitsValue_digitOctets d.digits
  have hlength := length_digitOctets d.digits
  rw [hc, List.forall_mem_cons] at hdigits
  rw [hc] at hvalue hlength
  have hfirst : ∀ b ∈ [c], Bytes.isDigit b = true := List.forall_mem_singleton.2 hdigits.1
  obtain ⟨k, hk, hscan⟩ := exists_scanNumber_fraction negative hfirst
    ⟨c, [], rfl, fun _ => rfl⟩ (digitsValue_singleton_le hdigits.1) hdigits.2 hcs
  rw [List.singleton_append, hvalue] at hk hscan
  have hsome := hd.reads k fun h => hk (Nat.le_of_lt_succ h)
  have hexponent : -(cs.length : Int) + k + (d.point - 1) = d.exponent + k := by
    rw [Digits.exponent, ← hlength, List.length_cons]
    omega
  obtain ⟨y, hy⟩ := exists_scanExponent negative (e := -(cs.length : Int) + k) (q := d.point - 1)
    (by have := hd.point; omega) (hexponent ▸ hsome)
  refine ⟨y, fun s hs => ?_⟩
  exact (hscan _ (isDigit_head?_cons rfl _)).trans (hy s hs)

/-- However a decimal is written, it is read. -/
theorem exists_scanNumber_render (negative : Bool) (hd : d.IsReadable) :
    ∃ y, ∀ s, Ends s → scanNumber negative
      (Bytes.ofString (Shortest.jsonLayout.render d) ++ s) = .ok (y, s) := by
  have hwidth : ((Nat.toDigits 10 d.digits).length : Int) = Shortest.width d.digits := rfl
  have hoctets : Bytes.ofString (Shortest.jsonLayout.render d) =
      (Shortest.jsonLayout.render d).toList.map fun c => UInt8.ofNat c.toNat := by
    have h := Bytes.ofString_ofList fun c hc =>
      (toNat_of_isNumeral (isNumeral_render Shortest.jsonLayout d c hc)).2
    rwa [String.ofList_toList] at h
  rw [hoctets, Shortest.Layout.render]
  dsimp only
  rw [hwidth]
  split
  case isTrue hplain =>
    -- Without an exponent the point is before the digits, after them or among them.
    replace hplain : -5 < d.point ∧ d.point ≤ 16 := hplain
    split
    case isTrue hpoint =>
      have h := exists_scanNumber_small negative hd hpoint
      rw [String.toList_ofList, List.map_append, List.map_append, List.map_replicate]
      exact h
    case isFalse hpoint =>
      split
      case isTrue hle =>
        have h := exists_scanNumber_whole negative hd (by omega) hplain.2 hle
        rw [String.toList_ofList, List.map_append, List.map_append, List.map_replicate]
        simp only [List.append_assoc] at h ⊢
        exact h
      case isFalse hlt =>
        have h := exists_scanNumber_mixed negative hd (by omega) hplain.2 (by omega)
        rw [String.toList_ofList, List.map_append, List.map_append, List.map_take, List.map_drop]
        simp only [List.append_assoc] at h ⊢
        exact h
  case isFalse =>
    have hexponent : ((if d.point - 1 < 0 then ['-'] else ['+']) ++
        Nat.toDigits 10 (d.point - 1).natAbs).map (fun c => UInt8.ofNat c.toNat) =
        exponentOctets (d.point - 1) := by
      rw [exponentOctets, List.map_append]
      split
      · rfl
      · rfl
    have hc : digitOctets d.digits =
      (Nat.toDigits 10 d.digits).map fun c => UInt8.ofNat c.toNat := rfl
    rw [String.toList_ofList, List.append_assoc, List.append_assoc, List.map_append,
      List.map_append, hexponent]
    cases htext : Nat.toDigits 10 d.digits with
    | nil => exact absurd htext Nat.toDigits_ne_nil
    | cons c cs =>
      rw [htext] at hc
      cases cs with
      | nil =>
        have h := exists_scanNumber_digit negative hd hc
        simp only [List.append_assoc]
        exact h
      | cons c' cs =>
        have h := exists_scanNumber_scientific negative hd hc (List.cons_ne_nil _ _)
        simp only [List.append_assoc]
        exact h

end Render

/-! ## Floating-point numbers -/

/-- What is written for the magnitude of a finite number is read. -/
theorem exists_scanNumber_magnitude (negative : Bool) {x : Double} (hx : x.IsFinite) :
    ∃ y, ∀ s, Ends s → scanNumber negative (Bytes.ofString (if x.isZero then "0.0"
      else Shortest.jsonLayout.render (Shortest.digits x)) ++ s) = .ok (y, s) := by
  split
  case isTrue =>
    -- Zero is written like the decimal that has no digits.
    have hzero : Shortest.jsonLayout.render ⟨0, 0⟩ = "0.0" := by decide
    rw [← hzero]
    exact exists_scanNumber_render negative Shortest.isReadable_zero
  case isFalse => exact exists_scanNumber_render negative (Shortest.isReadable_digits hx)

/-- A number begins with a digit, after its sign. -/
theorem exists_digit_of_scanNumber {r : Number × Bytes} (h : scanNumber negative s = .ok r) :
    ∃ b rest, s = b :: rest ∧ Bytes.isDigit b = true := by
  cases s with
  | nil => exact absurd h nofun
  | cons b rest =>
    refine ⟨b, rest, rfl, ?_⟩
    by_contra hb
    have hzero : b ≠ 48 := by
      rintro rfl
      exact hb rfl
    simp [scanNumber, hzero, hb] at h

/-- A floating-point number is read again from what is written of it. -/
theorem rereads_float {x : Double} (hx : x.IsFinite) : (Number.float x).Rereads := by
  obtain ⟨y, hy⟩ := exists_scanNumber_magnitude x.isNegative hx
  refine ⟨y, fun h => absurd h Bool.false_ne_true, fun add depth s hs => ?_⟩
  have hscan := hy s hs
  rw [Number.text, Shortest.format]
  generalize (if x.isZero then "0.0"
    else Shortest.jsonLayout.render (Shortest.digits x)) = magnitude at hscan ⊢
  cases hneg : x.isNegative with
  | true =>
    have hminus : Bytes.ofString "-" = [45] := rfl
    rw [hneg] at hscan
    rw [if_pos rfl, Bytes.ofString_append, hminus, List.append_assoc, List.singleton_append,
      readValue_minus, hscan]
    rfl
  | false =>
    rw [hneg] at hscan
    rw [if_neg Bool.false_ne_true]
    obtain ⟨b, rest, hb, hdigit⟩ := exists_digit_of_scanNumber hscan
    rw [hb] at hscan ⊢
    rw [readValue_digit add depth rest hdigit, hscan]
    rfl

/-- A number that is finite is read again. -/
theorem rereads_of_isFinite {x : Number} (hx : x.IsFinite) : x.Rereads := by
  cases hx with
  | integer n fits => exact rereads_integer n fits
  | float h => exact rereads_float h

end Testbed.Json
