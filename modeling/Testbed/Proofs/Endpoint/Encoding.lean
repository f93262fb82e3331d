import Testbed.Endpoint.Url
import Mathlib.Data.List.Basic

/-!
# Encoded texts

A character that needs no encoding stays as it is, and what an encoded one becomes needs none. So
an encoded path holds no blank, nothing of it is dropped when it is read, and to encode it again
changes nothing.

* `flatMap_encode_of_isKept`, `isKept_of_mem_flatMap_encode`: encoding happens once;
* `significant_of_nonblank`: a text without blanks is read as it is.
-/

namespace Testbed.Endpoint.Url

/-! ## Characters that are kept -/

/-- A character that stays as it is, next to those that `set` says are encoded too. -/
def IsKept (set : List Char) (c : Char) : Prop := 0x20 ≤ c.toNat ∧ c.toNat < 0x7F ∧ c ∉ set

instance (set : List Char) (c : Char) : Decidable (IsKept set c) :=
  inferInstanceAs (Decidable (_ ∧ _))

/-- The digit of a percent-encoded octet. -/
def percentDigit (n : Nat) : Char := if n < 10 then Char.ofNat (48 + n) else Char.ofNat (55 + n)

variable {set s : List Char} {c : Char}

theorem isKept_iff :
    IsKept set c ↔ ¬(c.toNat < 0x20 ∨ 0x7F ≤ c.toNat ∨ set.contains c = true) := by
  rw [IsKept, List.contains_iff_mem, not_or, not_or, Nat.not_lt, Nat.not_le]

theorem encode_of_isKept (h : IsKept set c) : encode set c = [c] := if_neg (isKept_iff.1 h)

theorem flatMap_encode_of_isKept (h : ∀ c ∈ s, IsKept set c) : s.flatMap (encode set) = s := by
  induction s with
  | nil => rfl
  | cons c s ih =>
    rw [List.forall_mem_cons] at h
    rw [List.flatMap_cons, encode_of_isKept h.1, ih h.2, List.singleton_append]

theorem mem_percent {b : UInt8} (h : c ∈ percent b) : c = '%' ∨ ∃ n < 16, c = percentDigit n := by
  have hb : b.toNat < 256 := b.toNat_lt_size
  have hpercent : percent b = ['%', percentDigit (b.toNat / 16), percentDigit (b.toNat % 16)] := rfl
  rw [hpercent, List.mem_cons, List.mem_cons, List.mem_singleton] at h
  obtain h | h | h := h
  · exact .inl h
  · exact .inr ⟨b.toNat / 16, by omega, h⟩
  · exact .inr ⟨b.toNat % 16, by omega, h⟩

/-- A character of an encoded text was kept, or is one of those that encoding writes. -/
theorem mem_flatMap_encode (h : c ∈ s.flatMap (encode set)) :
    (c ∈ s ∧ IsKept set c) ∨ c = '%' ∨ ∃ n < 16, c = percentDigit n := by
  obtain ⟨d, hd, hc⟩ := List.mem_flatMap.1 h
  rw [encode] at hc
  split at hc
  · obtain ⟨b, -, hc⟩ := List.mem_flatMap.1 hc
    exact .inr (mem_percent hc)
  · next hkept =>
    obtain rfl := List.mem_singleton.1 hc
    exact .inl ⟨hd, isKept_iff.2 hkept⟩

/-- What holds of the characters that are kept, and of those that encoding writes, holds of an
    encoded text. -/
theorem forall_mem_flatMap_encode {P : Char → Prop} (hkept : ∀ c ∈ s, IsKept set c → P c)
    (hpercent : P '%') (hdigit : ∀ n < 16, P (percentDigit n)) :
    ∀ c ∈ s.flatMap (encode set), P c := by
  intro c hc
  obtain ⟨hmem, hc⟩ | rfl | ⟨n, hn, rfl⟩ := mem_flatMap_encode hc
  · exact hkept c hmem hc
  · exact hpercent
  · exact hdigit n hn

/-- An encoded character starts with itself or a percent sign. -/
theorem exists_encode_eq (set : List Char) (c : Char) :
    ∃ d s, encode set c = d :: s ∧ (d = c ∨ d = '%') := by
  rw [encode]
  split
  · -- A character has at least one octet.
    have hne : Bytes.ofString (String.ofList [c]) ≠ [] := fun h => by
      have hempty : Bytes.ofString "" = [] := rfl
      have hlist := congrArg String.toList (Bytes.ofString_inj (h.trans hempty.symm))
      rw [String.toList_ofList] at hlist
      cases hlist
    obtain ⟨b, bs, hb⟩ := List.exists_cons_of_ne_nil hne
    exact ⟨'%', _, by rw [hb]; rfl, .inr rfl⟩
  · exact ⟨c, [], rfl, .inl rfl⟩

/-! ## Texts without blanks -/

/-- A character that is no blank. -/
def IsNonblank (c : Char) : Prop := 0x20 < c.toNat

instance (c : Char) : Decidable (IsNonblank c) := inferInstanceAs (Decidable (_ < _))

theorem IsKept.isNonblank (h : IsKept set c) (hspace : c ≠ ' ') : IsNonblank c :=
  Nat.lt_of_le_of_ne h.1 fun heq => hspace (Char.toNat_inj.1 heq.symm)

theorem not_isIgnored (h : IsNonblank c) : isIgnored c = false := by
  have hne (d : Char) (hd : d.toNat ≤ 0x20) : (c == d) = false :=
    beq_false_of_ne fun heq => Nat.not_lt_of_le hd (heq ▸ h)
  rw [isIgnored, hne _ (by decide), hne _ (by decide), hne _ (by decide)]
  rfl

theorem not_isOuterBlank (h : IsNonblank c) : isOuterBlank c = false :=
  decide_eq_false (Nat.not_le_of_lt h)

theorem filter_nonblank (h : ∀ c ∈ s, IsNonblank c) : s.filter (fun c => !isIgnored c) = s :=
  List.filter_eq_self.2 fun c hc => by rw [not_isIgnored (h c hc), Bool.not_false]

/-- A beginning without blanks is not trimmed, nor what follows it. -/
theorem dropWhile_nonblank_append (hne : s ≠ []) (h : ∀ c ∈ s, IsNonblank c) (r : List Char) :
    (s ++ r).dropWhile isOuterBlank = s ++ r := by
  obtain ⟨c, s, rfl⟩ := List.exists_cons_of_ne_nil hne
  have hc := not_isOuterBlank (h c List.mem_cons_self)
  exact List.dropWhile_cons_of_neg (by rw [hc]; exact Bool.false_ne_true)

/-- A beginning without blanks is read. -/
theorem exists_significant_eq (hne : s ≠ []) (h : ∀ c ∈ s, IsNonblank c) (r : List Char) :
    ∃ r', significant (String.ofList (s ++ r)) = s ++ r' := by
  have hreverse : ∀ c ∈ s.reverse, IsNonblank c := fun c hc => h c (List.mem_reverse.1 hc)
  -- From the end, what follows is trimmed in part, or all of it and then nothing before it.
  have htrim := dropWhile_nonblank_append (List.reverse_ne_nil_iff.2 hne) hreverse []
  rw [List.append_nil] at htrim
  rw [significant, String.toList_ofList, dropWhile_nonblank_append hne h, List.reverse_append,
    List.dropWhile_append]
  split
  · rw [htrim, List.reverse_reverse, filter_nonblank h]
    exact ⟨[], (List.append_nil s).symm⟩
  · rw [List.reverse_append, List.reverse_reverse, List.filter_append, filter_nonblank h]
    exact ⟨_, rfl⟩

/-- Nothing of a text without blanks is dropped. -/
theorem significant_of_nonblank (h : ∀ c ∈ s, IsNonblank c) :
    significant (String.ofList s) = s := by
  by_cases hne : s = []
  · rw [hne]
    rfl
  · have hreverse : ∀ c ∈ s.reverse, IsNonblank c := fun c hc => h c (List.mem_reverse.1 hc)
    have hstart := dropWhile_nonblank_append hne h []
    have hend := dropWhile_nonblank_append (List.reverse_ne_nil_iff.2 hne) hreverse []
    rw [List.append_nil] at hstart hend
    rw [significant, String.toList_ofList, hstart, hend, List.reverse_reverse, filter_nonblank h]

end Testbed.Endpoint.Url
