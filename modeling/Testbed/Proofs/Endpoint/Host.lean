import Testbed.Proofs.Endpoint.Encoding
import Testbed.Proofs.Net.Ipv6
import Mathlib.Data.List.TakeWhile

/-!
# Hosts and ports

A host that has been read is settled: it is an address in brackets in its printed form, or holds no
more than characters that stand for themselves. Read again it is itself, and a colon and a port
behind it are told apart from it.

* `isHost_of_opaqueHost`: what is read is settled;
* `readHostAndPort_of_isHost`: a settled host and a port are read as they are written.
-/

namespace Testbed.Endpoint.Url

open Net

/-! ## Settled hosts -/

/-- A character of a host that stands for itself. -/
def IsHostChar (c : Char) : Prop := IsKept [] c ∧ c ∉ forbiddenInHost

instance (c : Char) : Decidable (IsHostChar c) := inferInstanceAs (Decidable (_ ∧ _))

/-- A host in the form that is kept. -/
inductive IsHost : List Char → Prop
  /-- A name of characters that stand for themselves. -/
  | name {s : List Char} (hne : s ≠ []) (hs : ∀ c ∈ s, IsHostChar c) : IsHost s
  /-- An address in brackets, as it is printed. -/
  | address {groups : List Nat} (hgroups : Ipv6.IsAddress groups) :
    IsHost (['['] ++ Ipv6.render groups ++ [']'])

variable {s h r : List Char} {c : Char}

theorem bracketedHost_eq_ok (hb : bracketedHost s = .ok h) :
    ∃ groups, Ipv6.parse s.tail.dropLast = some groups ∧
      h = ['['] ++ Ipv6.render groups ++ [']'] := by
  rw [bracketedHost] at hb
  split at hb
  · split at hb
    · next groups hgroups => exact ⟨groups, hgroups, (Except.ok.inj hb).symm⟩
    · cases hb
  · cases hb

/-- What is read as a host is settled. -/
theorem isHost_of_opaqueHost (hh : opaqueHost s = .ok h) (hne : h ≠ []) : IsHost h := by
  rw [opaqueHost] at hh
  split at hh
  · obtain ⟨groups, hgroups, rfl⟩ := bracketedHost_eq_ok hh
    exact .address (Ipv6.isAddress_of_parse hgroups)
  · split at hh
    · cases hh
    · next hforbidden =>
      obtain rfl := Except.ok.inj hh
      refine .name hne (forall_mem_flatMap_encode (fun c hc hkept => ⟨hkept, fun hmem => ?_⟩)
        (by decide) (by decide))
      exact hforbidden (List.any_eq_true.2 ⟨c, hc, List.contains_iff_mem.2 hmem⟩)

theorem IsHost.ne_nil (hh : IsHost h) : h ≠ [] := by
  cases hh with
  | name hne => exact hne
  | address => exact List.cons_ne_nil _ _

/-- A settled host is read as itself. -/
theorem opaqueHost_of_isHost (hh : IsHost h) : opaqueHost h = .ok h := by
  cases hh with
  | name hne hs =>
    -- A name has no bracket anywhere, so it is not taken for an address.
    have hbracket : h.head? ≠ some '[' := fun heq =>
      absurd (hs '[' (List.mem_of_head? heq)) (by decide)
    have hforbidden : ¬h.any forbiddenInHost.contains = true := fun hany =>
      have ⟨c, hc, hmem⟩ := List.any_eq_true.1 hany
      (hs c hc).2 (List.contains_iff_mem.1 hmem)
    rw [opaqueHost, if_neg hbracket, if_neg hforbidden,
      flatMap_encode_of_isKept fun c hc => (hs c hc).1]
  | @address groups hgroups =>
    have hinner : (['['] ++ Ipv6.render groups ++ [']']).tail.dropLast = Ipv6.render groups :=
      List.dropLast_concat
    have hbracket : (['['] ++ Ipv6.render groups ++ [']']).head? = some '[' := rfl
    rw [opaqueHost, if_pos hbracket, bracketedHost, if_pos List.getLast?_concat, hinner,
      Ipv6.parse_render hgroups]

/-- A settled host holds no blank, and no sign that ends user information. -/
theorem isNonblank_of_isHost (hh : IsHost h) : ∀ c ∈ h, IsNonblank c ∧ c ≠ '@' := by
  intro c hc
  cases hh with
  | name _ hs =>
    obtain ⟨hkept, hforbidden⟩ := hs c hc
    exact ⟨hkept.isNonblank fun heq => hforbidden (heq ▸ by decide),
      fun heq => hforbidden (heq ▸ by decide)⟩
  | address =>
    revert c
    rw [List.forall_mem_append, List.forall_mem_append]
    have hinner := Ipv6.forall_mem_render (P := fun c => IsNonblank c ∧ c ≠ '@') (by decide)
      (by decide)
    exact ⟨⟨List.forall_mem_singleton.2 (by decide), hinner _⟩,
      List.forall_mem_singleton.2 (by decide)⟩

/-! ## Where a host ends -/

theorem not_endsAuthority (hc : c ∉ forbiddenInHost) : endsAuthority .plain c = false := by
  have hne (d : Char) (hd : d ∈ forbiddenInHost) : (c == d) = false :=
    beq_false_of_ne fun heq => hc (heq ▸ hd)
  rw [endsAuthority, hne '/' (by decide), hne '?' (by decide), hne '#' (by decide)]
  rfl

/-- A name ends at a colon. -/
theorem takeHost_name (hs : ∀ c ∈ s, IsHostChar c) :
    takeHost .plain false (s ++ ':' :: r) = (s, ':' :: r) := by
  induction s with
  | nil => rfl
  | cons c s ih =>
    rw [List.forall_mem_cons] at hs
    have hne (d : Char) (hd : d ∈ forbiddenInHost) : c ≠ d := fun heq => hs.1.2 (heq ▸ hd)
    -- No character of a name ends it or opens a bracket.
    rw [List.cons_append, takeHost]
    simp only [hne ':' (by decide), hne '[' (by decide), not_endsAuthority hs.1.2, ih hs.2,
      Bool.false_eq_true, false_and, or_self, if_false, ite_self]

/-- What is in brackets goes on to the closing one, over colons. -/
theorem takeHost_bracketed (hs : ∀ c ∈ s, endsAuthority .plain c = false ∧ c ≠ ']') :
    takeHost .plain true (s ++ ']' :: ':' :: r) = (s ++ [']'], ':' :: r) := by
  induction s with
  | nil => rfl
  | cons c s ih =>
    rw [List.forall_mem_cons] at hs
    rw [List.cons_append, takeHost]
    simp only [hs.1, ih hs.2, Bool.not_true, Bool.false_eq_true, and_false, or_self, if_false,
      ite_self, List.cons_append]

theorem takeHost_of_isHost (hh : IsHost h) :
    takeHost .plain false (h ++ ':' :: r) = (h, ':' :: r) := by
  cases hh with
  | name hne hs => exact takeHost_name hs
  | @address groups hgroups =>
    have hinner := takeHost_bracketed (r := r)
      (Ipv6.forall_mem_render (by decide) (by decide) groups)
    have hbracket : endsAuthority .plain '[' = false := by decide
    rw [List.append_assoc, List.append_assoc, List.singleton_append, List.singleton_append,
      takeHost]
    simp [hbracket, hinner]

/-! ## Ports -/

theorem le_ofDigitChars (digits : List Char) (n : Nat) : n ≤ Nat.ofDigitChars 10 digits n := by
  induction digits generalizing n with
  | nil => exact Nat.le_refl n
  | cons c digits ih =>
    rw [Nat.ofDigitChars_cons]
    exact Nat.le_trans (by omega) (ih _)

/-- Digits are read behind those read so far, as long as the port is not too great. -/
theorem portDigits_eq {digits : List Char} (hdigits : ∀ c ∈ digits, isDigit c = true)
    {n : Nat} (hn : Nat.ofDigitChars 10 digits n ≤ 65535) :
    portDigits (some n) digits = .ok (some (Nat.ofDigitChars 10 digits n), []) := by
  induction digits generalizing n with
  | nil => rfl
  | cons c digits ih =>
    rw [List.forall_mem_cons] at hdigits
    rw [Nat.ofDigitChars_cons] at hn ⊢
    -- What has been read so far is at most the whole number, and so not too great either.
    have hle := le_ofDigitChars digits (10 * n + (c.toNat - '0'.toNat))
    have hnext : n * 10 + (c.toNat - 48) = 10 * n + (c.toNat - '0'.toNat) := by
      rw [Nat.mul_comm]
      rfl
    rw [portDigits, if_pos hdigits.1, Option.getD_some]
    simp only [hnext, Nat.not_lt_of_le (Nat.le_trans hle hn), if_false, ih hdigits.2 hn]

/-- A port is read as it is written. -/
theorem portDigits_toDigits {n : Nat} (hn : n ≤ 65535) :
    portDigits none (Nat.toDigits 10 n) = .ok (some n, []) := by
  have hdigits : ∀ c ∈ Nat.toDigits 10 n, isDigit c = true := fun c hc => by
    have h := Nat.isDigit_of_mem_toDigits (by decide) (by decide) hc
    simpa only [isDigit, Char.isDigit, Char.le_def] using h
  have hnumber := Nat.ofDigitChars_ten_toDigits (n := n)
  have hread := portDigits_eq hdigits (hnumber.symm ▸ hn)
  rw [hnumber] at hread
  obtain ⟨c, digits, hc⟩ := List.exists_cons_of_ne_nil (Nat.toDigits_ne_nil (n := n) (b := 10))
  -- Before the first digit no number is as good as zero.
  have hfirst := hdigits c (hc ▸ List.mem_cons_self)
  rw [hc, portDigits, if_pos hfirst] at hread ⊢
  exact hread

/-! ## Authorities -/

/-- The host of an authority is settled, unless it is empty. -/
theorem isHost_of_readHostAndPort {port : Option Nat}
    (hh : readHostAndPort .plain s = .ok (h, port, r)) (hne : h ≠ []) : IsHost h := by
  rw [readHostAndPort] at hh
  generalize takeHost .plain false s = taken at hh
  obtain ⟨text, rest'⟩ := taken
  simp only [if_true] at hh
  cases hhost : opaqueHost text with
  | error e =>
    rw [hhost] at hh
    cases hh
  | ok host =>
    rw [hhost] at hh
    have heq : host = h := by grind
    exact isHost_of_opaqueHost (heq ▸ hhost) hne

/-- A settled host and a port are read as they are written. -/
theorem readHostAndPort_of_isHost (hh : IsHost h) {n : Nat} (hn : n ≤ 65535) :
    readHostAndPort .plain (h ++ ':' :: Nat.toDigits 10 n) = .ok (h, some n, []) := by
  have hne : h.isEmpty = false := List.isEmpty_eq_false_iff.2 hh.ne_nil
  rw [readHostAndPort, takeHost_of_isHost hh]
  simp only [if_true, opaqueHost_of_isHost hh, hne, Bool.false_eq_true, if_false,
    portDigits_toDigits hn]

/-- Where there is no sign for it, there is no user information. -/
theorem skipUserInfo_of_forall_ne (kind : SchemeKind) (hs : ∀ c ∈ s, c ≠ '@') :
    skipUserInfo kind s = .ok (false, s) := by
  have hnone : (s.takeWhile fun c => !endsAuthority kind c).reverse.dropWhile (· != '@') = [] :=
    List.dropWhile_eq_nil_iff.2 fun c hc =>
      bne_iff_ne.2 (hs c ((List.takeWhile_sublist _).subset (List.mem_reverse.1 hc)))
  rw [skipUserInfo, hnone]

end Testbed.Endpoint.Url
