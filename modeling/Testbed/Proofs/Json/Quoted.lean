import Testbed.Json.Scanner
import Mathlib.Tactic.SplitIfs

/-!
# Quoted texts

What may stand between quotes, and the octets that it stands for (`IsQuoted`): octets that are
no quote, no backslash and no control character stand for themselves, and a backslash begins an
escape (`IsEscape`). The scanner reads a text up to the next quote that is not escaped, and
the octets must be its UTF-8 form (`scanString_eq_ok_iff`).
-/

namespace Testbed

/-- Octets are the UTF-8 form of the text that they decode to. -/
theorem Bytes.toString?_eq_some_iff {b : Bytes} {s : String} :
    toString? b = some s ↔ b = ofString s := by
  constructor
  · intro h
    rw [toString?, String.fromUTF8?] at h
    split at h
    case isTrue hvalid =>
      obtain rfl := Option.some.inj h
      rfl
    case isFalse => exact absurd h (by simp)
  · rintro rfl
    exact toString?_ofString s

namespace Json

/-- The octets are four hexadecimal digits of the number. -/
inductive IsHex : Nat → Bytes → Prop
  | digits {a b c d : UInt8} {w x y z : Nat} (ha : hexValue? a = some w) (hb : hexValue? b = some x)
    (hc : hexValue? c = some y) (hd : hexValue? d = some z) :
    IsHex (w * 4096 + x * 256 + y * 16 + z) [a, b, c, d]

/-- The character with a code point, in UTF-8. -/
def character (n : Nat) : Bytes := String.utf8EncodeChar (Char.ofNat n)

/-- What may follow a backslash, and the octets that it stands for: a letter, a code point that is
    no half of a pair, or the two halves of one. -/
inductive IsEscape : (octets written : Bytes) → Prop
  | letter {b c : UInt8} (h : unescapeLetter? b = some c) : IsEscape [c] [b]
  | codePoint {n : Nat} {t : Bytes} (hn : IsHex n t) (hsingle : ¬(0xD800 ≤ n ∧ n ≤ 0xDFFF)) :
    IsEscape (character n) (117 :: t)
  | pair {high low : Nat} {t u : Bytes} (hhigh : IsHex high t)
    (hfirst : 0xD800 ≤ high ∧ high ≤ 0xDBFF) (hlow : IsHex low u)
    (hsecond : 0xDC00 ≤ low ∧ low ≤ 0xDFFF) :
    IsEscape (character ((high - 0xD800) * 1024 + (low - 0xDC00) + 0x10000))
      (117 :: (t ++ 92 :: 117 :: u))

/-- What may stand between quotes, and the octets that it stands for. -/
inductive IsQuoted : (octets written : Bytes) → Prop
  | nil : IsQuoted [] []
  | plain {b : UInt8} {o t : Bytes} (hquote : b ≠ 34) (hbackslash : b ≠ 92) (hcontrol : ¬b < 0x20)
    (h : IsQuoted o t) : IsQuoted (b :: o) (b :: t)
  | escape {c e o t : Bytes} (he : IsEscape c e) (h : IsQuoted o t) :
    IsQuoted (c ++ o) (92 :: (e ++ t))

variable {s rest : Bytes} {n : Nat}

/-! ## Escapes -/

theorem scanHex_eq_ok_iff : scanHex s = .ok (n, rest) ↔ ∃ t, s = t ++ rest ∧ IsHex n t := by
  constructor
  · intro h
    unfold scanHex at h
    split at h
    · split at h
      case h_1 ha hb hc hd =>
        obtain ⟨rfl, rfl⟩ := Prod.mk.inj (Except.ok.inj h)
        exact ⟨_, rfl, .digits ha hb hc hd⟩
      case h_2 => exact absurd h (by simp)
    · exact absurd h (by simp)
  · rintro ⟨_, rfl, ha, hb, hc, hd⟩
    simp [scanHex, ha, hb, hc, hd]

/-- The second half of a pair of code points. -/
theorem scanLowSurrogate_eq_ok_iff {high : Nat} : scanLowSurrogate high s = .ok (n, rest) ↔
    ∃ low t, s = 92 :: 117 :: (t ++ rest) ∧ IsHex low t ∧ (0xDC00 ≤ low ∧ low ≤ 0xDFFF) ∧
      n = (high - 0xD800) * 1024 + (low - 0xDC00) + 0x10000 := by
  constructor
  · intro h
    unfold scanLowSurrogate at h
    split at h
    case h_1 | h_3 => exact absurd h (by simp)
    case h_2 t =>
      split at h
      case h_1 | h_3 => exact absurd h (by simp)
      case h_2 t =>
        cases hhex : scanHex t with
        | error f => simp [hhex] at h
        | ok r =>
          obtain ⟨low, t⟩ := r
          simp only [hhex] at h
          split at h
          case isTrue hlow =>
            obtain ⟨rfl, rfl⟩ := Prod.mk.inj (Except.ok.inj h)
            obtain ⟨u, rfl, hu⟩ := scanHex_eq_ok_iff.1 hhex
            exact ⟨low, u, rfl, hu, hlow, rfl⟩
          case isFalse => exact absurd h (by simp)
  · rintro ⟨low, t, rfl, ht, hlow, rfl⟩
    have hhex : scanHex (t ++ rest) = .ok (low, rest) := scanHex_eq_ok_iff.2 ⟨t, rfl, ht⟩
    simp [scanLowSurrogate, hhex, hlow]

/-- A code point by its digits, or by those of the two halves of a pair. -/
theorem scanCodePoint_eq_ok_iff : scanCodePoint s = .ok (n, rest) ↔
    (∃ t, s = t ++ rest ∧ IsHex n t ∧ ¬(0xD800 ≤ n ∧ n ≤ 0xDFFF)) ∨
      ∃ high low t u, s = t ++ 92 :: 117 :: (u ++ rest) ∧ IsHex high t ∧
        (0xD800 ≤ high ∧ high ≤ 0xDBFF) ∧ IsHex low u ∧ (0xDC00 ≤ low ∧ low ≤ 0xDFFF) ∧
        n = (high - 0xD800) * 1024 + (low - 0xDC00) + 0x10000 := by
  constructor
  · intro h
    rw [scanCodePoint] at h
    cases hhex : scanHex s with
    | error f => simp [hhex] at h
    | ok r =>
      obtain ⟨k, s'⟩ := r
      obtain ⟨t, rfl, ht⟩ := scanHex_eq_ok_iff.1 hhex
      simp only [hhex] at h
      split at h
      case isTrue => exact absurd h (by simp)
      case isFalse hlow =>
        split at h
        case isTrue hhigh =>
          obtain ⟨low, u, rfl, hu, hsecond, rfl⟩ := scanLowSurrogate_eq_ok_iff.1 h
          exact .inr ⟨k, low, t, u, rfl, ht, hhigh, hu, hsecond, rfl⟩
        case isFalse hhigh =>
          obtain ⟨rfl, rfl⟩ := Prod.mk.inj (Except.ok.inj h)
          exact .inl ⟨t, rfl, ht, by omega⟩
  · rintro (⟨t, rfl, ht, hsingle⟩ | ⟨high, low, t, u, rfl, ht, hhigh, hu, hlow, rfl⟩)
    · rw [scanCodePoint, scanHex_eq_ok_iff.2 ⟨t, rfl, ht⟩]
      dsimp only
      rw [if_neg (by omega), if_neg (by omega)]
    · rw [scanCodePoint, scanHex_eq_ok_iff.2 ⟨t, rfl, ht⟩]
      dsimp only
      rw [if_neg (by omega), if_pos hhigh]
      exact scanLowSurrogate_eq_ok_iff.2 ⟨low, u, rfl, hu, hlow, rfl⟩

theorem scanEscape_eq_ok_iff {c : Bytes} :
    scanEscape s = .ok (c, rest) ↔ ∃ e, s = e ++ rest ∧ IsEscape c e := by
  constructor
  · intro h
    unfold scanEscape at h
    split at h
    case h_1 => exact absurd h (by simp)
    case h_2 s =>
      cases hpoint : scanCodePoint s with
      | error f => simp [hpoint] at h
      | ok r =>
        obtain ⟨k, s'⟩ := r
        simp only [hpoint] at h
        obtain ⟨rfl, rfl⟩ := Prod.mk.inj (Except.ok.inj h)
        obtain ⟨t, rfl, ht, hsingle⟩ | ⟨high, low, t, u, rfl, ht, hhigh, hu, hlow, rfl⟩ :=
          scanCodePoint_eq_ok_iff.1 hpoint
        · exact ⟨117 :: t, rfl, .codePoint ht hsingle⟩
        · exact ⟨117 :: (t ++ 92 :: 117 :: u), by simp, .pair ht hhigh hu hlow⟩
    case h_3 b s _ =>
      split at h
      case h_1 letter hletter =>
        obtain ⟨rfl, rfl⟩ := Prod.mk.inj (Except.ok.inj h)
        exact ⟨[b], rfl, .letter hletter⟩
      case h_2 => exact absurd h (by simp)
  · rintro ⟨e, rfl, he⟩
    cases he with
    | @letter b letter hb =>
      rw [List.singleton_append, scanEscape, hb]
      -- The letter of a code point is none of those that stand for an octet.
      rintro rfl
      exact absurd hb (by simp [unescapeLetter?])
    | codePoint ht hsingle =>
      rw [List.cons_append, scanEscape, scanCodePoint_eq_ok_iff.2 (.inl ⟨_, rfl, ht, hsingle⟩)]
      rfl
    | @pair high low t u ht hhigh hu hlow =>
      have hpoint : scanCodePoint (t ++ 92 :: 117 :: (u ++ rest)) = .ok (_, rest) :=
        scanCodePoint_eq_ok_iff.2 (.inr ⟨high, low, t, u, rfl, ht, hhigh, hu, hlow, rfl⟩)
      rw [List.cons_append, List.append_assoc, List.cons_append, List.cons_append, scanEscape,
        hpoint]
      rfl

/-! ## Texts -/

/-- What is read up to a quote is what stands before it. -/
theorem exists_of_scanOctets {fuel : Nat} {read r : Bytes}
    (h : scanOctets fuel read s = .ok (r, rest)) :
    ∃ o t, s = t ++ 34 :: rest ∧ IsQuoted o t ∧ r = o.reverse ++ read := by
  induction fuel generalizing s read with
  | zero => exact absurd h (by simp [scanOctets])
  | succ fuel ih =>
    cases s with
    | nil => exact absurd h (by simp [scanOctets])
    | cons b s =>
      rw [scanOctets] at h
      split_ifs at h with hquote hbackslash hcontrol
      · obtain ⟨rfl, rfl⟩ := Prod.mk.inj (Except.ok.inj h)
        exact ⟨[], [], by rw [hquote, List.nil_append], .nil, rfl⟩
      · cases hescape : scanEscape s with
        | error f => simp [hescape] at h
        | ok x =>
          obtain ⟨c, s'⟩ := x
          simp only [hescape] at h
          obtain ⟨e, rfl, he⟩ := scanEscape_eq_ok_iff.1 hescape
          obtain ⟨o, t, rfl, ho, rfl⟩ := ih h
          refine ⟨c ++ o, 92 :: (e ++ t), by simp [hbackslash], .escape he ho, ?_⟩
          rw [List.reverseAux_eq, List.reverse_append, List.append_assoc]
      · obtain ⟨o, t, rfl, ho, rfl⟩ := ih h
        exact ⟨b :: o, b :: t, rfl, .plain hquote hbackslash hcontrol ho, by simp⟩

/-- What stands before a quote is read up to it. -/
theorem scanOctets_of_isQuoted {o t : Bytes} (h : IsQuoted o t) {fuel : Nat} (read : Bytes)
    (hfuel : t.length < fuel) :
    scanOctets fuel read (t ++ 34 :: rest) = .ok (o.reverse ++ read, rest) := by
  induction h generalizing fuel read with
  | nil =>
    obtain ⟨fuel, rfl⟩ := Nat.exists_eq_succ_of_ne_zero (Nat.ne_of_gt hfuel)
    rfl
  | @plain b o t hquote hbackslash hcontrol h ih =>
    obtain ⟨fuel, rfl⟩ := Nat.exists_eq_succ_of_ne_zero (Nat.ne_of_gt (Nat.zero_lt_of_lt hfuel))
    rw [List.length_cons] at hfuel
    rw [List.cons_append, scanOctets, if_neg hquote, if_neg hbackslash, if_neg hcontrol,
      ih _ (by omega), List.reverse_cons, List.append_assoc, List.singleton_append]
  | @escape c e o t he h ih =>
    obtain ⟨fuel, rfl⟩ := Nat.exists_eq_succ_of_ne_zero (Nat.ne_of_gt (Nat.zero_lt_of_lt hfuel))
    rw [List.length_cons, List.length_append] at hfuel
    have hescape : scanEscape (e ++ (t ++ 34 :: rest)) = .ok (c, t ++ 34 :: rest) :=
      scanEscape_eq_ok_iff.2 ⟨e, rfl, he⟩
    rw [List.cons_append, List.append_assoc, scanOctets, if_neg (by decide), if_pos rfl, hescape]
    dsimp only
    rw [ih _ (by omega), List.reverseAux_eq, List.reverse_append, List.append_assoc]

/-- What is read as a string, and what is left of the text. -/
theorem scanString_eq_ok_iff {text : String} : scanString s = .ok (text, rest) ↔
    ∃ t, s = t ++ 34 :: rest ∧ IsQuoted (Bytes.ofString text) t := by
  constructor
  · intro h
    rw [scanString] at h
    cases hscan : scanOctets (s.length + 1) [] s with
    | error f => simp [hscan] at h
    | ok r =>
      obtain ⟨read, rest'⟩ := r
      simp only [hscan] at h
      obtain ⟨o, t, rfl, ho, rfl⟩ := exists_of_scanOctets hscan
      rw [List.append_nil, List.reverse_reverse] at h
      split at h
      case h_1 hdecoded =>
        obtain ⟨rfl, rfl⟩ := Prod.mk.inj (Except.ok.inj h)
        obtain rfl := Bytes.toString?_eq_some_iff.1 hdecoded
        exact ⟨t, rfl, ho⟩
      case h_2 => exact absurd h (by simp)
  · rintro ⟨t, rfl, ht⟩
    rw [scanString, scanOctets_of_isQuoted ht [] (by rw [List.length_append]; omega)]
    simp only [List.append_nil, List.reverse_reverse, Bytes.toString?_ofString]

end Json

end Testbed
