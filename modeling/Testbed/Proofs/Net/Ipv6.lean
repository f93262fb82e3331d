import Testbed.Net.Ipv6
import Mathlib.Algebra.Group.Nat.Defs
import Mathlib.Data.List.Basic

/-!
# Printed addresses of eight groups

What is printed of eight groups is read as the same groups: their hexadecimal digits end where a
colon stands, and the run of zeros that printing leaves out is as long as what is missing of eight
when the other groups have been read.

* `isAddress_of_parse`: what is read is eight groups of sixteen bits;
* `parse_render`: what is printed of such groups is read as them.
-/

namespace Testbed.Net.Ipv6

/-- Eight groups of sixteen bits. -/
structure IsAddress (groups : List Nat) : Prop where
  /-- There are eight of them. -/
  length : groups.length = 8
  /-- Each has sixteen bits. -/
  lt : ∀ g ∈ groups, g < 65536

/-! ## Hexadecimal digits -/

theorem hexValue?_digitChar : ∀ d < 16, hexValue? (Nat.digitChar d) = some d := by decide

theorem hexValue?_lt {c : Char} {d : Nat} (h : hexValue? c = some d) : d < 16 := by
  have h0 : '0'.toNat = 48 := rfl
  have h9 : '9'.toNat = 57 := rfl
  have ha : 'a'.toNat = 97 := rfl
  have hf : 'f'.toNat = 102 := rfl
  have hA : 'A'.toNat = 65 := rfl
  have hF : 'F'.toNat = 70 := rfl
  simp only [hexValue?, Char.le_def, UInt32.le_iff_toNat_le, Char.toNat_val] at h
  split at h
  · rw [Option.some.injEq] at h
    omega
  · split at h
    · rw [Option.some.injEq] at h
      omega
    · split at h
      · rw [Option.some.injEq] at h
        omega
      · cases h

/-- Digits are written from the last one on: what holds of a digit, and is kept when one more is
    written, holds of a number as written. -/
theorem toDigits_induction {motive : Nat → List Char → Prop}
    (digit : ∀ d < 16, motive d [Nat.digitChar d])
    (more : ∀ n digits, ∀ d < 16, motive n digits →
      motive (n * 16 + d) (digits ++ [Nat.digitChar d])) (n : Nat) :
    motive n (Nat.toDigits 16 n) := by
  induction n using Nat.strongRecOn with
  | ind n ih =>
    by_cases hn : n < 16
    · rw [Nat.toDigits_of_lt_base hn]
      exact digit n hn
    · have hlast := more (n / 16) _ (n % 16) (Nat.mod_lt n (by decide)) (ih (n / 16) (by omega))
      rwa [Nat.div_add_mod', ← Nat.toDigits_of_base_le (by decide) (Nat.le_of_not_lt hn)] at hlast

/-- The characters that groups are printed with are hexadecimal digits. -/
theorem exists_digit_of_mem_toDigits {c : Char} {n : Nat} (hc : c ∈ Nat.toDigits 16 n) :
    ∃ d < 16, c = Nat.digitChar d := by
  refine toDigits_induction (motive := fun _ digits => ∀ c ∈ digits, ∃ d < 16, c = Nat.digitChar d)
    (fun d hd => ?_) (fun n digits d hd ih => ?_) n c hc
  · exact List.forall_mem_singleton.2 ⟨d, hd, rfl⟩
  · exact List.forall_mem_append.2 ⟨ih, List.forall_mem_singleton.2 ⟨d, hd, rfl⟩⟩

/-- The number that hexadecimal digits stand for, after the digits of `value`. -/
def hexNumber (value : Nat) (digits : List Char) : Nat :=
  digits.foldl (fun v c => v * 16 + (hexValue? c).getD 0) value

theorem hexNumber_toDigits (n : Nat) : hexNumber 0 (Nat.toDigits 16 n) = n := by
  refine toDigits_induction (motive := fun n digits => hexNumber 0 digits = n)
    (fun d hd => ?_) (fun n digits d hd ih => ?_) n
  · rw [hexNumber, List.foldl_cons, List.foldl_nil, hexValue?_digitChar d hd, Option.getD_some,
      Nat.zero_mul, Nat.zero_add]
  · rw [hexNumber] at ih
    rw [hexNumber, List.foldl_append, ih, List.foldl_cons, List.foldl_nil, hexValue?_digitChar d hd,
      Option.getD_some]

/-- All of at most `fuel` digits are read, and nothing behind them. -/
theorem hexDigits_append {digits rest : List Char} {fuel : Nat}
    (hdigits : ∀ c ∈ digits, hexValue? c ≠ none) (hrest : ∀ c ∈ rest.head?, hexValue? c = none)
    (hfuel : digits.length ≤ fuel) (count value : Nat) :
    hexDigits fuel count value (digits ++ rest) =
      (count + digits.length, hexNumber value digits, rest) := by
  induction digits generalizing fuel count value with
  | nil =>
    -- Reading stops for want of fuel, at the end, or at what is no digit.
    cases fuel with
    | zero => rfl
    | succ fuel =>
      cases rest with
      | nil => rfl
      | cons c rest => simp [hexDigits, hexNumber, hrest c rfl]
  | cons c digits ih =>
    obtain ⟨fuel, rfl⟩ := Nat.exists_eq_add_one.2 (Nat.zero_lt_of_lt hfuel)
    rw [List.forall_mem_cons] at hdigits
    obtain ⟨d, hd⟩ := Option.ne_none_iff_exists'.1 hdigits.1
    rw [List.cons_append, hexDigits]
    simp only [hd]
    rw [ih hdigits.2 (Nat.le_of_succ_le_succ hfuel), List.length_cons, hexNumber, hexNumber,
      List.foldl_cons, hd, Option.getD_some]
    congr 1
    omega

theorem hexDigits_toDigits {g : Nat} (hg : g < 65536) {rest : List Char}
    (hrest : ∀ c ∈ rest.head?, hexValue? c = none) :
    hexDigits 4 0 0 (Nat.toDigits 16 g ++ rest) = ((Nat.toDigits 16 g).length, g, rest) := by
  have hdigits : ∀ c ∈ Nat.toDigits 16 g, hexValue? c ≠ none := fun c hc => by
    obtain ⟨d, hd, rfl⟩ := exists_digit_of_mem_toDigits hc
    simp [hexValue?_digitChar d hd]
  have hlength : (Nat.toDigits 16 g).length ≤ 4 :=
    (Nat.length_toDigits_le_iff (by decide) (by decide)).2 hg
  rw [hexDigits_append hdigits hrest hlength, Nat.zero_add, hexNumber_toDigits]

/-! ## What is read -/

theorem hexDigits_lt (fuel count value : Nat) (s : List Char) :
    (hexDigits fuel count value s).2.1 < (value + 1) * 16 ^ fuel := by
  -- Each digit multiplies by sixteen what can come of the digits read so far.
  induction fuel generalizing count value s with
  | zero => simp [hexDigits]
  | succ fuel ih =>
    have hkept : value < (value + 1) * 16 ^ (fuel + 1) :=
      Nat.lt_of_lt_of_le (Nat.lt_succ_self value)
        (Nat.le_mul_of_pos_right (value + 1) (Nat.pow_pos (by decide)))
    cases s with
    | nil => exact hkept
    | cons c r =>
      rw [hexDigits]
      cases hd : hexValue? c with
      | none => exact hkept
      | some d =>
        have hlt := hexValue?_lt hd
        refine Nat.lt_of_lt_of_le (ih (count + 1) (value * 16 + d) r) ?_
        rw [Nat.pow_succ, Nat.mul_comm (16 ^ fuel), ← Nat.mul_assoc]
        exact Nat.mul_le_mul_right _ (by omega)

theorem octet_le {read : Option Nat} {s rest : List Char} {n : Nat}
    (hread : ∀ m ∈ read, m ≤ 255) (h : octet read s = some (n, rest)) : n ≤ 255 := by
  fun_induction octet read s with
  | case1 read =>
    obtain ⟨m, hm, heq⟩ := Option.map_eq_some_iff.1 h
    exact (Prod.mk.inj heq).1 ▸ hread m hm
  | case2 c r hc ih =>
    have hdigit := hc.2
    rw [Char.le_def, UInt32.le_iff_toNat_le, Char.toNat_val, Char.toNat_val] at hdigit
    refine ih (fun m hm => ?_) h
    rw [← Option.some.inj hm]
    exact Nat.le_trans (Nat.sub_le_sub_right hdigit 48) (by decide)
  | case3 => cases h
  | case4 => cases h
  | case5 c r hc m hm n hn ih => exact ih (fun m hm => Option.some.inj hm ▸ Nat.le_of_not_lt hn) h
  | case6 read c r hc =>
    obtain ⟨m, hm, heq⟩ := Option.map_eq_some_iff.1 h
    exact (Prod.mk.inj heq).1 ▸ hread m hm

theorem dotted_lt {s : List Char} {l : List Nat} (h : dotted s = some l) : ∀ g ∈ l, g < 65536 := by
  have hnone : ∀ m ∈ (none : Option Nat), m ≤ 255 := nofun
  rw [dotted] at h
  obtain ⟨⟨a, s⟩, ha, h⟩ := Option.bind_eq_some_iff.1 h
  dsimp only at h
  split at h
  case h_2 => cases h
  obtain ⟨⟨b, s⟩, hb, h⟩ := Option.bind_eq_some_iff.1 h
  dsimp only at h
  split at h
  case h_2 => cases h
  obtain ⟨⟨c, s⟩, hc, h⟩ := Option.bind_eq_some_iff.1 h
  dsimp only at h
  split at h
  case h_2 => cases h
  obtain ⟨⟨d, s⟩, hd, h⟩ := Option.bind_eq_some_iff.1 h
  have ha := octet_le hnone ha
  have hb := octet_le hnone hb
  have hc := octet_le hnone hc
  have hd := octet_le hnone hd
  dsimp only at h
  split at h
  · rw [← Option.some.inj h, List.forall_mem_cons, List.forall_mem_singleton]
    omega
  · cases h

theorem group_lt {s rest : List Char} {count value : Nat}
    (h : hexDigits 4 0 0 s = (count, value, rest)) : value < 65536 := by
  have hlt := hexDigits_lt 4 0 0 s
  rw [h] at hlt
  exact hlt

theorem readGroups_lt {fuel : Nat} {p q : Partial} {s : List Char}
    (hp : ∀ g ∈ p.groups, g < 65536) (h : readGroups fuel p s = some q) :
    ∀ g ∈ q.groups, g < 65536 := by
  fun_induction readGroups fuel p s with
  | case1 | case3 | case4 | case7 | case9 | case11 => cases h
  | case2 => exact Option.some.inj h ▸ hp
  | case5 _ _ _ _ _ ih => exact ih hp h
  | case6 _ _ _ _ _ _ _ _ hdigits =>
    rw [← Option.some.inj h]
    exact List.forall_mem_cons.2 ⟨group_lt hdigits, hp⟩
  | case8 =>
    obtain ⟨l, hl, rfl⟩ := Option.map_eq_some_iff.1 h
    exact List.forall_mem_append.2 ⟨fun g hg => dotted_lt hl g (List.mem_reverse.1 hg), hp⟩
  | case10 _ _ _ _ _ _ _ _ _ _ hdigits _ ih =>
    exact ih (List.forall_mem_cons.2 ⟨group_lt hdigits, hp⟩) h

theorem start?_groups {s rest : List Char} {p : Partial} (h : start? s = some (p, rest)) :
    p.groups = [] := by
  unfold start? at h
  split at h <;> cases h <;> rfl

theorem isAddress_of_complete? {p : Partial} (hp : ∀ g ∈ p.groups, g < 65536) {groups : List Nat}
    (h : p.complete? = some groups) : IsAddress groups := by
  have hread : ∀ g ∈ p.groups.reverse, g < 65536 := fun g hg => hp g (List.mem_reverse.1 hg)
  rw [Partial.complete?] at h
  generalize p.groups.reverse = read at h hread
  cases hgap : p.gap with
  | none =>
    rw [hgap] at h
    obtain ⟨hlength, heq⟩ := Option.ite_none_right_eq_some.1 h
    exact Option.some.inj heq ▸ ⟨hlength, hread⟩
  | some n =>
    rw [hgap] at h
    obtain ⟨hlength, heq⟩ := Option.ite_none_right_eq_some.1 h
    rw [← Option.some.inj heq]
    constructor
    · simp only [List.length_append, List.length_take, List.length_replicate, List.length_drop]
      omega
    · intro g hg
      rw [List.mem_append, List.mem_append] at hg
      obtain (hg | hg) | hg := hg
      · exact hread g (List.mem_of_mem_take hg)
      · exact List.eq_of_mem_replicate hg ▸ by decide
      · exact hread g (List.mem_of_mem_drop hg)

/-- What is read is eight groups of sixteen bits. -/
theorem isAddress_of_parse {s : List Char} {groups : List Nat} (h : parse s = some groups) :
    IsAddress groups := by
  obtain ⟨⟨p, rest⟩, hp, h⟩ := Option.bind_eq_some_iff.1 h
  obtain ⟨q, hq, h⟩ := Option.bind_eq_some_iff.1 h
  exact isAddress_of_complete? (readGroups_lt (start?_groups hp ▸ List.forall_mem_nil _) hq) h

/-! ## What is printed -/

theorem joined_singleton (g : Nat) : joined [g] = Nat.toDigits 16 g := List.intercalate_singleton

theorem joined_cons (g : Nat) {l : List Nat} (hl : l ≠ []) :
    joined (g :: l) = Nat.toDigits 16 g ++ ':' :: joined l := by
  rw [joined, List.map_cons, List.intercalate_cons_of_ne_nil (mt List.map_eq_nil_iff.1 hl),
    List.append_assoc, List.singleton_append, joined]

/-- A text of groups starts with a digit. -/
theorem exists_joined_eq {l : List Nat} (hl : l ≠ []) :
    ∃ c s, joined l = c :: s ∧ hexValue? c ≠ none := by
  obtain ⟨g, l, rfl⟩ := List.exists_cons_of_ne_nil hl
  obtain ⟨c, ds, hds⟩ := List.exists_cons_of_ne_nil (Nat.toDigits_ne_nil (n := g) (b := 16))
  obtain ⟨d, hd, rfl⟩ := exists_digit_of_mem_toDigits (hds ▸ List.mem_cons_self)
  have hdigit : hexValue? (Nat.digitChar d) ≠ none := by simp [hexValue?_digitChar d hd]
  by_cases hne : l = []
  · exact ⟨_, ds, by rw [hne, joined_singleton, hds], hdigit⟩
  · exact ⟨_, ds ++ ':' :: joined l, by rw [joined_cons g hne, hds, List.cons_append], hdigit⟩

theorem length_le_joined (l : List Nat) : l.length ≤ (joined l).length := by
  induction l with
  | nil => exact Nat.zero_le _
  | cons g l ih =>
    have hpos := Nat.length_toDigits_pos (b := 16) (n := g)
    by_cases hl : l = []
    · rw [hl, joined_singleton]
      exact hpos
    · rw [joined_cons g hl, List.length_cons, List.length_append, List.length_cons]
      omega

/-- What holds of a colon and of digits holds of groups as printed. -/
theorem forall_mem_joined {P : Char → Prop} (hcolon : P ':')
    (hdigit : ∀ d < 16, P (Nat.digitChar d)) (l : List Nat) : ∀ c ∈ joined l, P c := by
  have hgroup (g : Nat) : ∀ c ∈ Nat.toDigits 16 g, P c := fun c hc => by
    obtain ⟨d, hd, rfl⟩ := exists_digit_of_mem_toDigits hc
    exact hdigit d hd
  induction l with
  | nil => exact List.forall_mem_nil _
  | cons g l ih =>
    by_cases hl : l = []
    · rw [hl, joined_singleton]
      exact hgroup g
    · rw [joined_cons g hl]
      exact List.forall_mem_append.2 ⟨hgroup g, List.forall_mem_cons.2 ⟨hcolon, ih⟩⟩

variable {l : List Nat} {p : Partial} {g fuel : Nat} {r : List Char}

/-- The groups of `l` are read after those of `p`. -/
def Partial.add (p : Partial) (l : List Nat) : Partial := { p with groups := l.reverse ++ p.groups }

theorem Partial.add_add (p : Partial) (g : Nat) (l : List Nat) :
    (p.add [g]).add l = p.add (g :: l) := by
  simp [Partial.add]

theorem Partial.size_add (p : Partial) (l : List Nat) : (p.add l).size = p.size + l.length := by
  rw [Partial.add, Partial.size, Partial.size, List.length_append, List.length_reverse,
    Nat.add_comm l.length, Nat.add_right_comm]

theorem Partial.size_none (groups : List Nat) : (⟨groups, none⟩ : Partial).size = groups.length :=
  rfl

theorem Partial.size_some (groups : List Nat) (n : Nat) :
    (⟨groups, some n⟩ : Partial).size = groups.length + 1 := rfl

/-- What is read behind a group: nothing more at the end, and more groups behind a colon. -/
def readOn (fuel : Nat) (p : Partial) : List Char → Option Partial
  | [] => some p
  | _ :: r => if r.isEmpty then none else readGroups fuel p r

theorem readOn_colon (hr : r ≠ []) : readOn fuel p (':' :: r) = readGroups fuel p r :=
  if_neg fun h => hr (List.isEmpty_iff.1 h)

theorem head?_nil : ∀ c ∈ ([] : List Char).head?, c = ':' := fun _ hc => nomatch hc

theorem head?_colon (r : List Char) : ∀ c ∈ (':' :: r).head?, c = ':' :=
  fun _ hc => (Option.some.inj hc).symm

/-- The digits of a group are read, up to a colon or the end. -/
theorem readGroups_toDigits (hg : g < 65536) (hp : p.size < 8) {rest : List Char}
    (hrest : ∀ c ∈ rest.head?, c = ':') :
    readGroups (fuel + 1) p (Nat.toDigits 16 g ++ rest) = readOn fuel (p.add [g]) rest := by
  obtain ⟨c, ds, hds⟩ := List.exists_cons_of_ne_nil (Nat.toDigits_ne_nil (n := g) (b := 16))
  obtain ⟨d, hd, hc⟩ := exists_digit_of_mem_toDigits (hds ▸ List.mem_cons_self)
  have hcolon : c ≠ ':' := hc ▸ (by decide : ∀ d < 16, Nat.digitChar d ≠ ':') d hd
  have hdigits := hexDigits_toDigits hg fun c hc => hrest c hc ▸ (by decide : hexValue? ':' = none)
  -- The first digit tells that there is a group here and no second colon.
  rw [hds, List.cons_append] at hdigits
  rw [hds, List.cons_append, readGroups, if_neg (Nat.ne_of_lt hp), if_neg hcolon, hdigits]
  cases rest with
  | nil => rfl
  | cons colon r =>
    obtain rfl := hrest colon rfl
    rfl

/-- Groups are read one by one, as long as there is room for them. -/
theorem readGroups_joined_append (hne : l ≠ []) (hl : ∀ g ∈ l, g < 65536)
    (hp : p.size + l.length ≤ 8) {rest : List Char} (hrest : ∀ c ∈ rest.head?, c = ':') :
    readGroups (fuel + l.length) p (joined l ++ rest) = readOn fuel (p.add l) rest := by
  induction l generalizing p with
  | nil => exact absurd rfl hne
  | cons g l ih =>
    rw [List.forall_mem_cons] at hl
    rw [List.length_cons] at hp
    by_cases hne : l = []
    · rw [hne, joined_singleton]
      exact readGroups_toDigits hl.1 (by omega) hrest
    · have hsize : (p.add [g]).size + l.length ≤ 8 := by
        rw [Partial.size_add, List.length_singleton]
        omega
      have hmore : joined l ++ rest ≠ [] := by
        obtain ⟨c, s, hs, -⟩ := exists_joined_eq hne
        rw [hs]
        exact List.cons_ne_nil _ _
      rw [joined_cons g hne, List.append_assoc, List.cons_append, List.length_cons,
        ← Nat.add_assoc, readGroups_toDigits hl.1 (by omega) (head?_colon _), readOn_colon hmore,
        ih hne hl.2 hsize, Partial.add_add]

/-- All groups up to the end are read, if there are any. -/
theorem readGroups_joined (hl : ∀ g ∈ l, g < 65536) (hp : p.size + l.length ≤ 8)
    (hfuel : l.length < fuel) : readGroups fuel p (joined l) = some (p.add l) := by
  obtain ⟨more, rfl⟩ := Nat.exists_eq_add_of_lt hfuel
  by_cases hne : l = []
  · rw [hne]
    rfl
  · rw [← List.append_nil (joined l), Nat.add_assoc, Nat.add_comm l.length,
      readGroups_joined_append hne hl hp head?_nil, readOn]

/-! ## The run that is left out -/

theorem zeros_cons (g : Nat) (l : List Nat) :
    zeros (g :: l) = if g = 0 then zeros l + 1 else 0 := by
  by_cases hg : g = 0 <;> simp [zeros, hg]

/-- A list starts with as many zeros as are counted. -/
theorem eq_zeros_append (l : List Nat) : l = List.replicate (zeros l) 0 ++ l.drop (zeros l) := by
  induction l with
  | nil => rfl
  | cons g l ih =>
    rw [zeros_cons]
    by_cases hg : g = 0
    · rw [if_pos hg, hg, List.replicate_succ, List.cons_append, List.drop_succ_cons, ← ih]
    · rw [if_neg hg]
      rfl

/-- The best run is the one before, or the zeros at some place. -/
theorem longestRun_eq (place : Nat) (best : Nat × Nat) (l : List Nat) :
    longestRun place best l = best ∨
      ∃ i, longestRun place best l = (place + i, zeros (l.drop i)) := by
  induction l generalizing place best with
  | nil => exact .inl rfl
  | cons g l ih =>
    rw [longestRun]
    obtain h | ⟨i, h⟩ := ih (place + 1)
      (if best.2 < zeros (g :: l) then (place, zeros (g :: l)) else best)
    · rw [h]
      split
      · exact .inr ⟨0, rfl⟩
      · exact .inl rfl
    · exact .inr ⟨i + 1, by rw [h, Nat.add_right_comm, Nat.add_assoc, List.drop_succ_cons]⟩

/-- All groups are printed, or all but a run of zeros. -/
theorem render_cases (groups : List Nat) :
    render groups = joined groups ∨
      ∃ before after, ∃ n ≥ 2, groups = before ++ List.replicate n 0 ++ after ∧
        render groups = joined before ++ [':', ':'] ++ joined after := by
  rw [render]
  obtain h | ⟨i, h⟩ := longestRun_eq 0 (0, 0) groups
  · rw [h]
    exact .inl rfl
  · rw [h, Nat.zero_add]
    by_cases hn : zeros (groups.drop i) < 2
    · exact .inl (if_pos hn)
    · refine .inr ⟨groups.take i, groups.drop (i + zeros (groups.drop i)), zeros (groups.drop i),
        Nat.le_of_not_lt hn, ?_, if_neg hn⟩
      rw [List.append_assoc, ← List.drop_drop, ← eq_zeros_append, List.take_append_drop]

/-- What holds of a colon and of digits holds of an address as printed. -/
theorem forall_mem_render {P : Char → Prop} (hcolon : P ':')
    (hdigit : ∀ d < 16, P (Nat.digitChar d)) (groups : List Nat) : ∀ c ∈ render groups, P c := by
  have hjoined := forall_mem_joined hcolon hdigit
  obtain h | ⟨before, after, n, -, -, h⟩ := render_cases groups
  · rw [h]
    exact hjoined groups
  · rw [h, List.forall_mem_append, List.forall_mem_append]
    exact ⟨⟨hjoined before, List.forall_mem_cons.2 ⟨hcolon, List.forall_mem_singleton.2 hcolon⟩⟩,
      hjoined after⟩

/-! ## What is printed is read -/

theorem start?_joined_append (hl : l ≠ []) {s : List Char}
    (hlength : 2 ≤ (joined l ++ s).length) :
    start? (joined l ++ s) = some (⟨[], none⟩, joined l ++ s) := by
  obtain ⟨c, s', hs, hc⟩ := exists_joined_eq hl
  have hcolon : c ≠ ':' := fun h => hc (h ▸ rfl)
  rw [hs, List.cons_append] at hlength ⊢
  obtain ⟨d, s, hd⟩ := List.exists_cons_of_length_pos (Nat.lt_of_succ_lt_succ hlength)
  rw [hd]
  unfold start?
  split <;> simp_all

/-- Groups without a run that is left out are read as they are. -/
theorem parse_joined (h : IsAddress l) : parse (joined l) = some l := by
  have hprinted := length_le_joined l
  have hlength := h.length
  have hne : l ≠ [] := List.ne_nil_of_length_pos (hlength ▸ Nat.succ_pos 7)
  have hstart := start?_joined_append hne (s := []) (by rw [List.append_nil]; omega)
  rw [List.append_nil] at hstart
  have hread := readGroups_joined (p := ⟨[], none⟩) h.lt
    (Nat.le_of_eq ((Nat.zero_add _).trans hlength)) (Nat.lt_succ_of_le hprinted)
  rw [parse, hstart]
  simp only [Option.bind_eq_bind, Option.bind_some, hread]
  rw [Partial.complete?, Partial.add, List.append_nil, List.reverse_reverse]
  exact if_pos hlength

variable {before after : List Nat} {n : Nat}

/-- The second of two colons tells where groups are left out. -/
theorem readGroups_gap (hsize : before.length < 8) (r : List Char) :
    readGroups (fuel + 1) ⟨before.reverse, none⟩ (':' :: r) =
      readGroups fuel ⟨before.reverse, some before.length⟩ r := by
  have hp : (⟨before.reverse, none⟩ : Partial).size ≠ 8 := by
    rw [Partial.size_none, List.length_reverse]
    exact Nat.ne_of_lt hsize
  rw [readGroups, if_neg hp, if_pos rfl, List.length_reverse]
  rfl

/-- Zeros are put where the run was left out, up to eight groups. -/
theorem complete?_gap (hn : 0 < n) (hlength : before.length + n + after.length = 8) :
    ((⟨before.reverse, some before.length⟩ : Partial).add after).complete? =
      some (before ++ List.replicate n 0 ++ after) := by
  have hread : (after.reverse ++ before.reverse).reverse = before ++ after := by simp
  have hzeros : 8 - (before ++ after).length = n := by
    rw [List.length_append]
    omega
  rw [Partial.complete?, Partial.add, hread]
  dsimp only
  rw [hzeros, List.take_left, List.drop_left]
  exact if_pos (by rw [List.length_append]; omega)

/-- Two colons are read behind the groups before them, if there are any. -/
theorem parse_colons (hbefore : ∀ g ∈ before, g < 65536) (hlength : before.length < 8)
    (r : List Char) :
    ∃ fuel > r.length, parse (joined before ++ ':' :: ':' :: r) =
      (readGroups fuel ⟨before.reverse, some before.length⟩ r).bind Partial.complete? := by
  by_cases hne : before = []
  · -- An address that starts with the colons is read from behind them.
    exact ⟨r.length + 1, Nat.lt_succ_self _, by rw [hne]; rfl⟩
  · have hprinted := length_le_joined before
    have hstart := start?_joined_append hne (s := ':' :: ':' :: r)
      (by simp only [List.length_append, List.length_cons]; omega)
    have hsize : (⟨[], none⟩ : Partial).size + before.length ≤ 8 := by
      rw [Partial.size_none, List.length_nil]
      omega
    have hfuel : (joined before ++ ':' :: ':' :: r).length + 1 =
        (joined before).length - before.length + r.length + 2 + 1 + before.length := by
      simp only [List.length_append, List.length_cons]
      omega
    have hadd : (⟨[], none⟩ : Partial).add before = ⟨before.reverse, none⟩ := by
      rw [Partial.add, List.append_nil]
    refine ⟨(joined before).length - before.length + r.length + 2, by omega, ?_⟩
    rw [parse, hstart]
    simp only [Option.bind_eq_bind, Option.bind_some]
    rw [hfuel, readGroups_joined_append hne hbefore hsize (head?_colon _),
      readOn_colon (List.cons_ne_nil _ _), hadd, readGroups_gap hlength]

/-- What is printed of eight groups of sixteen bits is read as them. -/
theorem parse_render {groups : List Nat} (h : IsAddress groups) :
    parse (render groups) = some groups := by
  obtain hprinted | ⟨before, after, n, hn, rfl, hprinted⟩ := render_cases groups
  · rw [hprinted, parse_joined h]
  · have hlength := h.length
    have hlt := h.lt
    rw [List.length_append, List.length_append, List.length_replicate] at hlength
    rw [List.forall_mem_append, List.forall_mem_append] at hlt
    obtain ⟨fuel, hfuel, hparse⟩ :=
      parse_colons hlt.1.1 (by omega) (joined after)
    -- The run takes one place at least, so there is room for the groups behind it.
    have hsize : (⟨before.reverse, some before.length⟩ : Partial).size + after.length ≤ 8 := by
      rw [Partial.size_some, List.length_reverse]
      omega
    have hread := readGroups_joined hlt.2 hsize (Nat.lt_of_le_of_lt (length_le_joined after) hfuel)
    rw [hprinted, List.append_assoc, List.cons_append, List.singleton_append, hparse, hread,
      Option.bind_some, complete?_gap (Nat.lt_of_succ_lt hn) hlength]

end Testbed.Net.Ipv6
