import Testbed.Proofs.Argument.Marker

/-!
# Markers and the numbers they denote

A handle has one marker without zeros in front, the one by which it is told, and reading takes
no notice of further zeros.

* `Handle.isMarker_marker`: what a handle is told as is read as the handle;
* `Handle.marker_eq_of_isMarker`: a marker is told again without the zeros in front of it;
* `Handle.isMarker_iff_of_number`: which texts are markers, and of which numbers;
* `Handle.markers_denote_handles`: markers and handles undo each other, but for such zeros.
-/

namespace Testbed.Handle

/-- Digits without the zeros in front; of zeros alone the last one stays. -/
def trimZeros : List Char → List Char
  | '0' :: d :: digits => trimZeros (d :: digits)
  | digits => digits

theorem decimalFrom_cons (m : Nat) (c : Char) (l : List Char) :
    decimalFrom m (c :: l) = decimalFrom (m * 10 + (c.toNat - '0'.toNat)) l := by
  delta decimalFrom
  rfl

theorem decimalFrom_eq (m : Nat) (l : List Char) :
    decimalFrom m l = Nat.ofDigitChars 10 l m := by
  induction l generalizing m with
  | nil => rfl
  | cons c l ih => rw [decimalFrom_cons, ih, Nat.ofDigitChars_cons, Nat.mul_comm]

theorem toList_marker (h : Handle) : h.marker.toList = '@' :: Nat.toDigits 10 h.number.toNat := by
  rw [marker, Nat.toString_eq_repr, String.toList_append, Nat.toList_repr]
  rfl

/-- The text by which a driver names the object is a marker of its handle. -/
theorem isMarker_marker (h : Handle) : h.IsMarker h.marker := by
  refine ⟨Nat.toDigits 10 h.number.toNat, toList_marker h, Nat.toDigits_ne_nil, ?_, ?_⟩
  · exact List.all_eq_true.2 fun c hc => Nat.isDigit_of_mem_toDigits (by decide) (by decide) hc
  · rw [decimal, decimalFrom_eq, Nat.ofDigitChars_ten_toDigits]

/-! ## Writing a number again -/

variable {c : Char} {digits : List Char} {m : Nat}

theorem isDigit_iff : isDigit c = true ↔ 48 ≤ c.toNat ∧ c.toNat ≤ 57 := by
  rw [isDigit, Bool.and_eq_true, decide_eq_true_iff, decide_eq_true_iff, Char.le_def, Char.le_def,
    UInt32.le_iff_toNat_le, UInt32.le_iff_toNat_le]
  rfl

theorem toNat_zero : '0'.toNat = 48 := rfl

/-- A digit is written for the number that it counts as. -/
theorem toDigits_digit (hc : isDigit c = true) : Nat.toDigits 10 (c.toNat - '0'.toNat) = [c] := by
  rw [isDigit_iff] at hc
  rw [toNat_zero, Nat.toDigits_of_lt_base (by omega), List.singleton_inj, ← Char.toNat_inj,
    Nat.toNat_digitChar_of_lt_ten (by omega)]
  omega

/-- Digits that follow a number other than zero are kept when it is written again. -/
theorem toDigits_ofDigitChars (hm : 0 < m) (hd : digits.all isDigit = true) :
    Nat.toDigits 10 (Nat.ofDigitChars 10 digits m) = Nat.toDigits 10 m ++ digits := by
  induction digits generalizing m with
  | nil => rw [Nat.ofDigitChars_nil, List.append_nil]
  | cons c digits ih =>
    rw [List.all_cons, Bool.and_eq_true] at hd
    have hlt : c.toNat - '0'.toNat < 10 := by
      have := isDigit_iff.1 hd.1
      rw [toNat_zero]
      omega
    calc Nat.toDigits 10 (Nat.ofDigitChars 10 (c :: digits) m)
        = Nat.toDigits 10 (10 * m + (c.toNat - '0'.toNat)) ++ digits := by
          rw [Nat.ofDigitChars_cons, ih (by omega) hd.2]
      _ = Nat.toDigits 10 m ++ Nat.toDigits 10 (c.toNat - '0'.toNat) ++ digits := by
          rw [Nat.toDigits_append_toDigits (by decide) hm hlt]
      _ = Nat.toDigits 10 m ++ c :: digits := by
          rw [toDigits_digit hd.1, List.append_assoc, List.singleton_append]

/-- Digits are written again without the zeros in front of them. -/
theorem toDigits_decimal (hne : digits ≠ []) (hd : digits.all isDigit = true) :
    Nat.toDigits 10 (decimal digits) = trimZeros digits := by
  rw [decimal, decimalFrom_eq]
  induction digits using trimZeros.induct with
  | case1 d digits ih =>
    rw [List.all_cons, Bool.and_eq_true] at hd
    rw [trimZeros, ← ih (List.cons_ne_nil _ _) hd.2, Nat.ofDigitChars_cons]
    rfl
  | case2 digits hzero =>
    -- What is left starts with a digit other than zero, or is a single one.
    rw [trimZeros.eq_2 digits hzero]
    cases digits with
    | nil => exact absurd rfl hne
    | cons c digits =>
      rw [List.all_cons, Bool.and_eq_true] at hd
      rw [Nat.ofDigitChars_cons, Nat.mul_zero, Nat.zero_add]
      cases digits with
      | nil => rw [Nat.ofDigitChars_nil, toDigits_digit hd.1]
      | cons d digits =>
        have hc : c ≠ '0' := fun hc => hzero d digits (by rw [hc])
        have hpos : 0 < c.toNat - '0'.toNat := by
          have := isDigit_iff.1 hd.1
          rw [ne_eq, ← Char.toNat_inj, toNat_zero] at hc
          rw [toNat_zero]
          omega
        rw [toDigits_ofDigitChars hpos hd.2, toDigits_digit hd.1, List.singleton_append]

/-- A marker of a handle is told again without the zeros in front of its digits. -/
theorem marker_eq_of_isMarker {h : Handle} (hm : h.IsMarker (String.ofList ('@' :: digits))) :
    h.marker = String.ofList ('@' :: trimZeros digits) := by
  obtain ⟨digits', hl, hne, hd, hn⟩ := hm
  rw [String.toList_ofList, List.cons_inj_right] at hl
  subst hl
  rw [← String.toList_inj, toList_marker, String.toList_ofList, ← hn, toDigits_decimal hne hd]

/-! ## Zeros in front -/

/-- Two texts are the same digits after an `@`, but for zeros in front of the digits. -/
def SameButZeros (s t : String) : Prop :=
  ∃ digits k l, digits ≠ [] ∧ s.toList = '@' :: (List.replicate k '0' ++ digits) ∧
    t.toList = '@' :: (List.replicate l '0' ++ digits)

theorem exists_eq_zeros_append (digits : List Char) :
    ∃ k, digits = List.replicate k '0' ++ trimZeros digits := by
  induction digits using trimZeros.induct with
  | case1 d digits ih =>
    obtain ⟨k, hk⟩ := ih
    exact ⟨k + 1, by rw [trimZeros, List.replicate_succ, List.cons_append, ← hk]⟩
  | case2 digits hzero => exact ⟨0, by rw [trimZeros.eq_2 digits hzero]; rfl⟩

theorem decimal_zeros_append (k : Nat) (digits : List Char) :
    decimal (List.replicate k '0' ++ digits) = decimal digits := by
  rw [decimal, decimalFrom_eq, Nat.ofDigitChars_append, Nat.ofDigitChars_replicate_zero,
    Nat.mul_zero, ← decimalFrom_eq, ← decimal]

theorem all_isDigit_zeros_append (k : Nat) (digits : List Char) :
    (List.replicate k '0' ++ digits).all isDigit = digits.all isDigit := by
  have hzeros : (List.replicate k '0').all isDigit = true :=
    List.all_eq_true.2 fun c hc => by rw [List.eq_of_mem_replicate hc]; rfl
  rw [List.all_append, hzeros, Bool.true_and]

/-- The markers of a handle are what it is told as, with any zeros in front of the number. -/
theorem IsMarker.exists_zeros {h : Handle} {text : String} (hm : h.IsMarker text) :
    ∃ k, text.toList = '@' :: (List.replicate k '0' ++ Nat.toDigits 10 h.number.toNat) := by
  obtain ⟨digits, htext, hne, hd, hn⟩ := hm
  obtain ⟨k, hk⟩ := exists_eq_zeros_append digits
  exact ⟨k, by rw [htext, ← hn, toDigits_decimal hne hd, ← hk]⟩

/-- Zeros in front of its number make no difference to a marker. -/
theorem IsMarker.of_sameButZeros {h : Handle} {s t : String} (hm : h.IsMarker s)
    (hst : SameButZeros s t) : h.IsMarker t := by
  obtain ⟨digits, k, l, hne, hs, ht⟩ := hst
  obtain ⟨digits', hs', _, hd, hn⟩ := hm
  rw [hs, List.cons_inj_right] at hs'
  rw [← hs', all_isDigit_zeros_append] at hd
  rw [← hs', decimal_zeros_append] at hn
  refine ⟨List.replicate l '0' ++ digits, ht, by simp [hne], ?_, ?_⟩
  · rw [all_isDigit_zeros_append, hd]
  · rw [decimal_zeros_append, hn]

theorem sameButZeros_of_isMarker {h : Handle} {s t : String} (hs : h.IsMarker s)
    (ht : h.IsMarker t) : SameButZeros s t := by
  obtain ⟨k, hk⟩ := hs.exists_zeros
  obtain ⟨l, hl⟩ := ht.exists_zeros
  exact ⟨Nat.toDigits 10 h.number.toNat, k, l, Nat.toDigits_ne_nil, hk, hl⟩

/-- The texts that are markers, and the numbers of their handles. -/
theorem isMarker_iff_of_number {text : String} {n : Nat} :
    (∃ h : Handle, h.IsMarker text ∧ h.number.toNat = n) ↔
      ∃ digits, text.toList = '@' :: digits ∧ digits ≠ [] ∧ (∀ c ∈ digits, c.isDigit = true) ∧
        Nat.ofDigitChars 10 digits 0 = n ∧ n < UInt64.size := by
  constructor
  · rintro ⟨h, ⟨digits, htext, hne, hd, hn⟩, rfl⟩
    rw [decimal, decimalFrom_eq] at hn
    exact ⟨digits, htext, hne, List.all_eq_true.1 hd, hn, h.number.toNat_lt⟩
  · rintro ⟨digits, htext, hne, hd, rfl, hlt⟩
    rw [← decimalFrom_eq, ← decimal] at hlt ⊢
    have hnumber : (UInt64.ofNat (decimal digits)).toNat = decimal digits :=
      UInt64.toNat_ofNat_of_lt' hlt
    exact ⟨⟨UInt64.ofNat (decimal digits)⟩,
      ⟨digits, htext, hne, List.all_eq_true.2 hd, hnumber.symm⟩, hnumber⟩

/-- Markers and handles. A handle is read back from the text that it is told as. The texts that
    are read are those of an `@` and decimal digits, at least one, of a number below `2 ^ 64`,
    and the handle is that number. It is told again without the zeros in front, so two markers
    are of one handle if they differ in nothing else. Every other text is refused by name. -/
theorem markers_denote_handles :
    (∀ h : Handle, ofMarker? h.marker = some h) ∧
    (∀ (text : String) (n : Nat), (∃ h, ofMarker? text = some h ∧ h.number.toNat = n) ↔
      ∃ digits, text.toList = '@' :: digits ∧ digits ≠ [] ∧ (∀ c ∈ digits, c.isDigit = true) ∧
        Nat.ofDigitChars 10 digits 0 = n ∧ n < UInt64.size) ∧
    (∀ (digits : List Char) (h : Handle), ofMarker? (String.ofList ('@' :: digits)) = some h →
      h.marker = String.ofList ('@' :: trimZeros digits)) ∧
    (∀ (s t : String) (h g : Handle), ofMarker? s = some h → ofMarker? t = some g →
      (h = g ↔ SameButZeros s t)) ∧
    ∀ text : String, (∀ h, parse text = .ok h ↔ ofMarker? text = some h) ∧
      ∀ e, parse text = .error e ↔ ofMarker? text = none ∧ e = .malformed text := by
  refine ⟨fun h => ?_, fun text n => ?_, fun digits h hm => ?_, fun s t h g hs ht => ?_,
    fun text => ?_⟩
  · exact ofMarker?_eq_some_iff.2 h.isMarker_marker
  · simp only [ofMarker?_eq_some_iff, isMarker_iff_of_number]
  · exact marker_eq_of_isMarker (ofMarker?_eq_some_iff.1 hm)
  · rw [ofMarker?_eq_some_iff] at hs ht
    constructor
    · rintro rfl
      exact sameButZeros_of_isMarker hs ht
    · intro hst
      have hg := ofMarker?_eq_some_iff.2 (hs.of_sameButZeros hst)
      rw [ofMarker?_eq_some_iff.2 ht] at hg
      exact (Option.some.inj hg).symm
  · rw [parse]
    cases ofMarker? text with
    | none => simp [eq_comm]
    | some h => simp

/-- Two texts with zeros in front are of the handle 7, which is told without them. -/
theorem zeros_in_front_mean_nothing :
    ofMarker? (String.ofList ('@' :: ['0', '0', '7'])) = some ⟨7⟩ ∧ ofMarker? "@07" = some ⟨7⟩ ∧
      marker ⟨7⟩ = String.ofList ('@' :: trimZeros ['0', '0', '7']) ∧
      SameButZeros (String.ofList ('@' :: ['0', '0', '7'])) "@07" := by
  have hlong : ofMarker? (String.ofList ('@' :: ['0', '0', '7'])) = some ⟨7⟩ := by decide
  have hshort : ofMarker? "@07" = some ⟨7⟩ := by decide
  obtain ⟨_, _, htold, hsame, _⟩ := markers_denote_handles
  exact ⟨hlong, hshort, htold _ _ hlong, (hsame _ _ _ _ hlong hshort).1 rfl⟩

end Testbed.Handle
