import Testbed.Proofs.Json.Numeral
import Testbed.Proofs.Json.Quoted

/-!
# What is written

How values are written as JSON, told without a reader (`Spells`): scalars, and lists and objects
whose parts are written, with blanks around them (`Padded`) and nested no deeper than a given
depth. An object has all its entries, in their order and with repeated keys. A text is
written for a value if it is that of the value with blanks around it (`Value.IsWritten`).

* `reads_readValue`: the reader that keeps all entries reads just what is written, up to where
  it ends;
* `Value.isWritten_iff`: it reads a whole text as the value that the text is written for;
* `Value.IsWritten.unique`: there is one such value at most.
-/

namespace Testbed.Json

/-! ## Texts of values -/

/-- Blanks, or nothing. -/
def AreBlanks (w : Bytes) : Prop := ∀ b ∈ w, isBlank b = true

/-- The scalars as written. -/
inductive SpellsScalar : Value → Bytes → Prop
  | null : SpellsScalar .null (Bytes.ofString "null")
  | boolean (b : Bool) : SpellsScalar (.boolean b) (Bytes.ofString (if b then "true" else "false"))
  | number {n : Numeral} {x : Number} (h : n.value? = some x) : SpellsScalar (.number x) n.octets
  | string {text : String} {t : Bytes} (h : IsQuoted (Bytes.ofString text) t) :
    SpellsScalar (.string text) (34 :: (t ++ [34]))

section Parts

variable (P : Value → Bytes → Prop)

/-- A part with blanks around it. -/
def Padded (v : Value) (t : Bytes) : Prop :=
  ∃ w u w', t = w ++ (u ++ w') ∧ AreBlanks w ∧ AreBlanks w' ∧ P v u

/-- One or more items, with commas between them. -/
inductive SpellsItems : List Value → Bytes → Prop
  | one {v : Value} {t : Bytes} (hv : Padded P v t) : SpellsItems [v] t
  | cons {v : Value} {t : Bytes} {items : List Value} {u : Bytes} (hv : Padded P v t)
    (h : SpellsItems items u) : SpellsItems (v :: items) (t ++ 44 :: u)

/-- A key in quotes, a colon and a value, with blanks around them. -/
def SpellsEntry (key : String) (v : Value) (t : Bytes) : Prop :=
  ∃ w k w' u, t = w ++ 34 :: (k ++ 34 :: (w' ++ 58 :: u)) ∧ AreBlanks w ∧ AreBlanks w' ∧
    IsQuoted (Bytes.ofString key) k ∧ Padded P v u

/-- One or more entries, with commas between them; keys may be repeated. -/
inductive SpellsEntries : Object → Bytes → Prop
  | one {key : String} {v : Value} {t : Bytes} (hv : SpellsEntry P key v t) :
    SpellsEntries [(key, v)] t
  | cons {key : String} {v : Value} {t : Bytes} {entries : Object} {u : Bytes}
    (hv : SpellsEntry P key v t) (h : SpellsEntries entries u) :
    SpellsEntries ((key, v) :: entries) (t ++ 44 :: u)

/-- Arrays and objects as written, if their parts are written as `P` tells. -/
inductive SpellsCompound : Value → Bytes → Prop
  | emptyArray {w : Bytes} (hw : AreBlanks w) : SpellsCompound (.array []) (91 :: (w ++ [93]))
  | array {items : List Value} {t : Bytes} (h : SpellsItems P items t) :
    SpellsCompound (.array items) (91 :: (t ++ [93]))
  | emptyObject {w : Bytes} (hw : AreBlanks w) : SpellsCompound (.object []) (123 :: (w ++ [125]))
  | object {entries : Object} {t : Bytes} (h : SpellsEntries P entries t) :
    SpellsCompound (.object entries) (123 :: (t ++ [125]))

end Parts

/-- The octets are written for the value, with arrays and objects at most `depth` deep. -/
def Spells : (depth : Nat) → Value → Bytes → Prop
  | 0 => SpellsScalar
  | depth + 1 => fun v t => SpellsScalar v t ∨ SpellsCompound (Spells depth) v t

/-- A text is written for a value: it is the value, with all the entries of its objects in their
    order and with repeated keys, and blanks around it. -/
def Value.IsWritten (text : Bytes) (v : Value) : Prop := Padded (Spells nestingLimit) v text

/-! ## Blanks -/

variable {w s t rest : Bytes} {b : UInt8} {first : Bool}

theorem areBlanks_nil : AreBlanks [] := fun _ h => absurd h List.not_mem_nil

theorem AreBlanks.append {w' : Bytes} (hw : AreBlanks w) (hw' : AreBlanks w') :
    AreBlanks (w ++ w') := fun b hb => (List.mem_append.1 hb).elim (hw b) (hw' b)

theorem skipBlanks_append (hw : AreBlanks w) (s : Bytes) : skipBlanks (w ++ s) = skipBlanks s :=
  List.dropWhile_append_of_pos hw

theorem exists_blanks_append (s : Bytes) : ∃ w, AreBlanks w ∧ s = w ++ skipBlanks s :=
  ⟨s.takeWhile isBlank, fun _ hb => List.mem_takeWhile_imp hb, List.takeWhile_append_dropWhile.symm⟩

theorem ends_blanks_append (hw : AreBlanks w) (hs : Ends s) : Ends (w ++ s) := by
  cases w with
  | nil => exact hs
  | cons b w =>
    intro c hc
    obtain rfl : b = c := by simpa using hc
    have hb := hw b List.mem_cons_self
    refine ⟨?_, ?_, ?_, ?_⟩
    · by_contra hdigit
      rw [isBlank_of_isDigit (by simpa using hdigit)] at hb
      exact absurd hb (by simp)
    all_goals
      rintro rfl
      exact absurd hb (by decide)

/-- No number goes on with a comma or a closing bracket. -/
theorem ends_of_mem (hb : b ∈ ([44, 93, 125] : List UInt8)) (s : Bytes) : Ends (b :: s) := by
  intro c hc
  obtain rfl : b = c := by simpa using hc
  revert hb
  simp only [List.mem_cons, List.not_mem_nil, or_false]
  rintro (rfl | rfl | rfl) <;> decide

/-! ## Items -/

/-- What stands before an item that is read. -/
def comma (first : Bool) : Bytes := if first then [] else [44]

theorem nextItem_blanks (hw : AreBlanks w) (s : Bytes) :
    nextItem first (w ++ s) = nextItem first s := by
  rw [nextItem, skipBlanks_append hw, nextItem]

theorem nextItem_close (hw : AreBlanks w) (s : Bytes) :
    nextItem first (w ++ 93 :: s) = .ok (.close (93 :: s)) := by
  rw [nextItem_blanks hw]
  rfl

theorem nextItem_comma (hw : AreBlanks w) (hb : isBlank b = false) (hne : b ≠ 93) (s : Bytes) :
    nextItem first (comma first ++ (w ++ b :: s)) = .ok (.more (b :: s)) := by
  cases first with
  | true =>
    change nextItem true (w ++ b :: s) = _
    rw [nextItem_blanks hw, nextItem_first s hb hne]
  | false =>
    change nextItem false (44 :: (w ++ b :: s)) = _
    rw [nextItem, skipBlanks_of_not_blank _ (rfl : isBlank 44 = false)]
    simp [skipBlanks_append hw, skipBlanks_of_not_blank s hb, hne]

theorem exists_of_nextItem {step : Step} (h : nextItem first s = .ok step) :
    (∃ w t, step = .close (93 :: t) ∧ AreBlanks w ∧ s = w ++ 93 :: t) ∨
    ∃ w w' t, step = .more t ∧ AreBlanks w ∧ AreBlanks w' ∧
      s = w ++ (comma first ++ (w' ++ t)) := by
  obtain ⟨w, hw, hs⟩ := exists_blanks_append s
  rw [nextItem] at h
  cases hskip : skipBlanks s with
  | nil => simp [hskip] at h
  | cons b t =>
    rw [hskip] at hs
    simp only [hskip] at h
    split_ifs at h with hclose hfirst hcomma
    · exact .inl ⟨w, t, by rw [← Except.ok.inj h, hclose], hw, by rw [hs, hclose]⟩
    · subst hfirst
      exact .inr ⟨w, [], b :: t, (Except.ok.inj h).symm, hw, areBlanks_nil, hs⟩
    · obtain ⟨w', hw', ht⟩ := exists_blanks_append t
      cases hafter : skipBlanks t with
      | nil => simp [hafter] at h
      | cons c t' =>
        simp only [hafter] at h
        split_ifs at h with htrailing
        rw [hafter] at ht
        refine .inr ⟨w, w', c :: t', (Except.ok.inj h).symm, hw, hw', ?_⟩
        rw [hs, ht, hcomma, comma, if_neg hfirst]
        rfl

/-- A reader of parts reads what is written for them, after blanks and up to where it ends. -/
structure Reads (item : Bytes → Scan Value) (P : Value → Bytes → Prop) : Prop where
  blanks : ∀ ⦃w⦄, AreBlanks w → ∀ s, item (w ++ s) = item s
  sound : ∀ ⦃s v rest⦄, item s = .ok (v, rest) →
    ∃ w t, s = w ++ (t ++ rest) ∧ AreBlanks w ∧ P v t
  complete : ∀ ⦃v t rest⦄, P v t → Ends rest → item (t ++ rest) = .ok (v, rest)
  starts : ∀ ⦃v t⦄, P v t → ∃ b r, t = b :: r ∧ isBlank b = false ∧ b ≠ 93

section Parts

variable {item : Bytes → Scan Value} {P : Value → Bytes → Prop} (hitem : Reads item P)

theorem SpellsItems.blanks_append {items : List Value} (hw : AreBlanks w)
    (h : SpellsItems P items t) : SpellsItems P items (w ++ t) := by
  cases h with
  | one hv =>
    obtain ⟨w', u, w'', rfl, hw', hw'', hu⟩ := hv
    exact .one ⟨w ++ w', u, w'', by simp, hw.append hw', hw'', hu⟩
  | cons hv h =>
    obtain ⟨w', u, w'', rfl, hw', hw'', hu⟩ := hv
    rw [← List.append_assoc]
    exact .cons ⟨w ++ w', u, w'', by simp, hw.append hw', hw'', hu⟩ h

include hitem

omit hitem in
theorem readItems_blanks (hw : AreBlanks w) (s : Bytes) (fuel : Nat) (read : List Value) :
    readItems item fuel first read (w ++ s) = readItems item fuel first read s := by
  cases fuel with
  | zero => rfl
  | succ fuel => rw [readItems, nextItem_blanks hw, readItems]

/-- What is read as items up to the closing bracket is written for them. -/
theorem exists_of_readItems {fuel : Nat} {read l : List Value}
    (h : readItems item fuel first read s = .ok (l, rest)) :
    (∃ w, AreBlanks w ∧ s = w ++ 93 :: rest ∧ l = read.reverse) ∨
    ∃ w items t, AreBlanks w ∧ s = w ++ (comma first ++ (t ++ 93 :: rest)) ∧
      SpellsItems P items t ∧ l = read.reverse ++ items := by
  -- On the fuel; the blanks after an item are read with what follows it.
  induction fuel generalizing first read s with
  | zero => exact absurd h (by simp [readItems])
  | succ fuel ih =>
    rw [readItems] at h
    cases hstep : nextItem first s with
    | error f => simp [hstep] at h
    | ok step =>
      obtain ⟨w, t, rfl, hw, rfl⟩ | ⟨w, w', t, rfl, hw, hw', rfl⟩ := exists_of_nextItem hstep
      · simp only [hstep] at h
        obtain ⟨rfl, rfl⟩ := Prod.mk.inj (Except.ok.inj h)
        exact .inl ⟨w, hw, rfl, rfl⟩
      · simp only [hstep] at h
        cases hv : item t with
        | error f => simp [hv] at h
        | ok r =>
          obtain ⟨v, s'⟩ := r
          simp only [hv] at h
          obtain ⟨w'', u, rfl, hw'', hu⟩ := hitem.sound hv
          have hlead : AreBlanks (w' ++ w'') := hw'.append hw''
          obtain ⟨after, hafter, rfl, rfl⟩ | ⟨after, items, t, hafter, rfl, hitems, rfl⟩ := ih h
          · refine .inr ⟨w, [v], (w' ++ w'') ++ (u ++ after), hw, by simp, .one ?_, by simp⟩
            exact ⟨w' ++ w'', u, after, rfl, hlead, hafter, hu⟩
          · refine .inr ⟨w, v :: items, (w' ++ w'') ++ (u ++ after) ++ 44 :: t, hw, by simp [comma],
              .cons ?_ hitems, by simp⟩
            exact ⟨w' ++ w'', u, after, rfl, hlead, hafter, hu⟩

omit hitem in
/-- There are no more items than octets and the closing bracket. -/
theorem SpellsItems.length_le {items : List Value} (h : SpellsItems P items t) :
    items.length ≤ t.length + 1 := by
  induction h with
  | one => simp
  | cons _ _ ih =>
    simp only [List.length_cons, List.length_append]
    omega

/-- A part is read, and what follows it is read on. -/
theorem exists_readItems_padded {v : Value} (hv : Padded P v t) (hs : Ends s) (first : Bool)
    (fuel : Nat) (read : List Value) :
    ∃ w, AreBlanks w ∧ readItems item (fuel + 1) first read (comma first ++ (t ++ s)) =
      readItems item fuel false (v :: read) (w ++ s) := by
  obtain ⟨w, u, w', rfl, hw, hw', hu⟩ := hv
  obtain ⟨b, r, rfl, hb, hne⟩ := hitem.starts hu
  have hread := hitem.complete hu (ends_blanks_append hw' hs)
  have hstep : nextItem first (comma first ++ (w ++ (b :: r ++ (w' ++ s)))) =
      .ok (.more (b :: r ++ (w' ++ s))) := nextItem_comma hw hb hne _
  refine ⟨w', hw', ?_⟩
  rw [readItems, List.append_assoc, List.append_assoc, hstep]
  dsimp only
  rw [hread]

/-- What is written for items is read as them. -/
theorem readItems_of_spells {items : List Value} (h : SpellsItems P items t) (first : Bool)
    {fuel : Nat} (read : List Value) (hfuel : items.length < fuel) :
    readItems item fuel first read (comma first ++ (t ++ 93 :: rest)) =
      .ok (read.reverse ++ items, rest) := by
  induction h generalizing first fuel read with
  | @one v t hv =>
    obtain ⟨fuel, rfl⟩ : ∃ n, fuel = n + 2 := ⟨fuel - 2, by simp at hfuel; omega⟩
    obtain ⟨w, hw, hread⟩ :=
      exists_readItems_padded hitem hv (ends_of_mem (b := 93) (by simp) rest) first (fuel + 1) read
    rw [hread, readItems, nextItem_close hw]
    simp
  | @cons v t items u hv _ ih =>
    obtain ⟨fuel, rfl⟩ := Nat.exists_eq_succ_of_ne_zero (Nat.ne_of_gt (Nat.zero_lt_of_lt hfuel))
    obtain ⟨w, hw, hread⟩ :=
      exists_readItems_padded hitem hv (ends_of_mem (b := 44) (by simp) (u ++ 93 :: rest)) first
        fuel read
    have hrest := ih false (v :: read) (Nat.lt_of_succ_lt_succ hfuel)
    rw [List.append_assoc, List.cons_append, hread, readItems_blanks hw]
    exact hrest.trans (by simp)

end Parts

/-! ## Entries -/

theorem nextKey_blanks (hw : AreBlanks w) (s : Bytes) :
    nextKey first (w ++ s) = nextKey first s := by
  rw [nextKey, skipBlanks_append hw, nextKey]

theorem nextKey_close (hw : AreBlanks w) (s : Bytes) :
    nextKey first (w ++ 125 :: s) = .ok (.close (125 :: s)) := by
  rw [nextKey_blanks hw]
  rfl

theorem nextKey_comma (hw : AreBlanks w) (s : Bytes) :
    nextKey first (comma first ++ (w ++ 34 :: s)) = .ok (.more s) := by
  cases first with
  | true =>
    change nextKey true (w ++ 34 :: s) = _
    rw [nextKey_blanks hw]
    rfl
  | false =>
    change nextKey false (44 :: (w ++ 34 :: s)) = _
    rw [nextKey, skipBlanks_of_not_blank _ (rfl : isBlank 44 = false)]
    simp [skipBlanks_append hw, skipBlanks_of_not_blank s (rfl : isBlank 34 = false), openKey]

theorem openKey_eq_ok_iff {step : Step} :
    openKey s = .ok step ↔ ∃ t, step = .more t ∧ s = 34 :: t := by
  cases s with
  | nil => simp [openKey]
  | cons b s =>
    rw [openKey]
    split_ifs with hquote hclose
    · subst hquote
      simp [eq_comm]
    · simp [hquote]
    · simp [hquote]

theorem exists_of_nextKey {step : Step} (h : nextKey first s = .ok step) :
    (∃ w t, step = .close (125 :: t) ∧ AreBlanks w ∧ s = w ++ 125 :: t) ∨
    ∃ w w' t, step = .more t ∧ AreBlanks w ∧ AreBlanks w' ∧
      s = w ++ (comma first ++ (w' ++ 34 :: t)) := by
  obtain ⟨w, hw, hs⟩ := exists_blanks_append s
  rw [nextKey] at h
  cases hskip : skipBlanks s with
  | nil => simp [hskip] at h
  | cons b t =>
    rw [hskip] at hs
    simp only [hskip] at h
    split_ifs at h with hclose hfirst hcomma
    · exact .inl ⟨w, t, by rw [← Except.ok.inj h, hclose], hw, by rw [hs, hclose]⟩
    · subst hfirst
      obtain ⟨t', rfl, heq⟩ := openKey_eq_ok_iff.1 h
      exact .inr ⟨w, [], t', rfl, hw, areBlanks_nil, by rw [hs, heq]; rfl⟩
    · obtain ⟨w', hw', ht⟩ := exists_blanks_append t
      obtain ⟨t', rfl, heq⟩ := openKey_eq_ok_iff.1 h
      rw [heq] at ht
      refine .inr ⟨w, w', t', rfl, hw, hw', ?_⟩
      rw [hs, ht, hcomma, comma, if_neg hfirst]
      rfl

theorem skipColon_eq_ok_iff : skipColon s = .ok rest ↔ ∃ w, AreBlanks w ∧ s = w ++ 58 :: rest := by
  constructor
  · intro h
    obtain ⟨w, hw, hs⟩ := exists_blanks_append s
    rw [skipColon] at h
    cases hskip : skipBlanks s with
    | nil => simp [hskip] at h
    | cons b t =>
      simp only [hskip] at h
      split_ifs at h with hcolon
      exact ⟨w, hw, by rw [hs, hskip, hcolon, Except.ok.inj h]⟩
  · rintro ⟨w, hw, rfl⟩
    rw [skipColon, skipBlanks_append hw]
    rfl

section Parts

variable {item : Bytes → Scan Value} {P : Value → Bytes → Prop} (hitem : Reads item P)

theorem SpellsEntries.blanks_append {entries : Object} (hw : AreBlanks w)
    (h : SpellsEntries P entries t) : SpellsEntries P entries (w ++ t) := by
  cases h with
  | one hv =>
    obtain ⟨w', k, w'', u, rfl, hw', hw'', hk, hu⟩ := hv
    exact .one ⟨w ++ w', k, w'', u, by simp, hw.append hw', hw'', hk, hu⟩
  | cons hv h =>
    obtain ⟨w', k, w'', u, rfl, hw', hw'', hk, hu⟩ := hv
    rw [← List.append_assoc]
    exact .cons ⟨w ++ w', k, w'', u, by simp, hw.append hw', hw'', hk, hu⟩ h

theorem readEntries_blanks (hw : AreBlanks w) (s : Bytes) (fuel : Nat) (read : Object) :
    readEntries keepAll item fuel first read (w ++ s) =
      readEntries keepAll item fuel first read s := by
  cases fuel with
  | zero => rfl
  | succ fuel => rw [readEntries, nextKey_blanks hw, readEntries]

include hitem

/-- What is read as entries up to the closing brace is written for them. -/
theorem exists_of_readEntries {fuel : Nat} {read m : Object}
    (h : readEntries keepAll item fuel first read s = .ok (m, rest)) :
    (∃ w, AreBlanks w ∧ s = w ++ 125 :: rest ∧ m = read) ∨
    ∃ w entries t, AreBlanks w ∧ s = w ++ (comma first ++ (t ++ 125 :: rest)) ∧
      SpellsEntries P entries t ∧ m = read ++ entries := by
  induction fuel generalizing first read s with
  | zero => exact absurd h (by simp [readEntries])
  | succ fuel ih =>
    rw [readEntries] at h
    cases hstep : nextKey first s with
    | error f => simp [hstep] at h
    | ok step =>
      obtain ⟨w, t, rfl, hw, rfl⟩ | ⟨w, w', t, rfl, hw, hw', rfl⟩ := exists_of_nextKey hstep
      · simp only [hstep] at h
        obtain ⟨rfl, rfl⟩ := Prod.mk.inj (Except.ok.inj h)
        exact .inl ⟨w, hw, rfl, rfl⟩
      simp only [hstep] at h
      cases hkey : scanString t with
      | error f => simp [hkey] at h
      | ok r =>
        obtain ⟨key, s₁⟩ := r
        simp only [hkey] at h
        obtain ⟨k, rfl, hk⟩ := scanString_eq_ok_iff.1 hkey
        cases hcolon : skipColon s₁ with
        | error f => simp [hcolon] at h
        | ok s₂ =>
          simp only [hcolon] at h
          obtain ⟨w₁, hw₁, rfl⟩ := skipColon_eq_ok_iff.1 hcolon
          cases hv : item s₂ with
          | error f => simp [hv] at h
          | ok r =>
            obtain ⟨v, s₃⟩ := r
            simp only [hv] at h
            obtain ⟨w₂, u, rfl, hw₂, hu⟩ := hitem.sound hv
            -- The blanks after the value are read with what follows it.
            have hentry : ∀ after, AreBlanks after →
                SpellsEntry P key v (w' ++ 34 :: (k ++ 34 :: (w₁ ++ 58 :: (w₂ ++ (u ++ after))))) :=
              fun after hafter =>
                ⟨w', k, w₁, _, rfl, hw', hw₁, hk, w₂, u, after, rfl, hw₂, hafter, hu⟩
            obtain ⟨after, hafter, rfl, rfl⟩ | ⟨after, entries, t, hafter, rfl, hrest, rfl⟩ := ih h
            · exact .inr ⟨w, _, _, hw, by simp, .one (hentry after hafter), rfl⟩
            · exact .inr ⟨w, _, _, hw, by simp [comma], .cons (hentry after hafter) hrest,
                by simp [keepAll]⟩

omit hitem in
/-- There are no more entries than octets and the closing brace. -/
theorem SpellsEntries.length_le {entries : Object} (h : SpellsEntries P entries t) :
    entries.length ≤ t.length + 1 := by
  induction h with
  | one => simp
  | cons _ _ ih =>
    simp only [List.length_cons, List.length_append]
    omega

/-- An entry is read, and what follows it is read on. -/
theorem exists_readEntries_entry {key : String} {v : Value} (hv : SpellsEntry P key v t)
    (hs : Ends s) (first : Bool) (fuel : Nat) (read : Object) :
    ∃ w, AreBlanks w ∧ readEntries keepAll item (fuel + 1) first read (comma first ++ (t ++ s)) =
      readEntries keepAll item fuel false (read ++ [(key, v)]) (w ++ s) := by
  obtain ⟨w, k, w₁, _, rfl, hw, hw₁, hk, w₂, u, after, rfl, hw₂, hafter, hu⟩ := hv
  have hstep : nextKey first (comma first ++
      (w ++ 34 :: (k ++ 34 :: (w₁ ++ 58 :: (w₂ ++ (u ++ (after ++ s))))))) = .ok (.more _) :=
    nextKey_comma hw _
  have hkey : scanString (k ++ 34 :: (w₁ ++ 58 :: (w₂ ++ (u ++ (after ++ s))))) =
      .ok (key, w₁ ++ 58 :: (w₂ ++ (u ++ (after ++ s)))) := scanString_eq_ok_iff.2 ⟨k, rfl, hk⟩
  have hcolon : skipColon (w₁ ++ 58 :: (w₂ ++ (u ++ (after ++ s)))) =
      .ok (w₂ ++ (u ++ (after ++ s))) := skipColon_eq_ok_iff.2 ⟨w₁, hw₁, rfl⟩
  have hread : item (w₂ ++ (u ++ (after ++ s))) = .ok (v, after ++ s) := by
    rw [hitem.blanks hw₂, hitem.complete hu (ends_blanks_append hafter hs)]
  refine ⟨after, hafter, ?_⟩
  simp only [List.append_assoc, List.cons_append] at hstep ⊢
  rw [readEntries, hstep]
  dsimp only
  rw [hkey]
  dsimp only
  rw [hcolon]
  dsimp only
  rw [hread]
  rfl

/-- What is written for entries is read as them. -/
theorem readEntries_of_spells {entries : Object} (h : SpellsEntries P entries t) (first : Bool)
    {fuel : Nat} (read : Object) (hfuel : entries.length < fuel) :
    readEntries keepAll item fuel first read (comma first ++ (t ++ 125 :: rest)) =
      .ok (read ++ entries, rest) := by
  induction h generalizing first fuel read with
  | @one key v t hv =>
    obtain ⟨fuel, rfl⟩ : ∃ n, fuel = n + 2 := ⟨fuel - 2, by simp at hfuel; omega⟩
    obtain ⟨w, hw, hread⟩ := exists_readEntries_entry hitem hv
      (ends_of_mem (b := 125) (by simp) rest) first (fuel + 1) read
    rw [hread, readEntries, nextKey_close hw]
    rfl
  | @cons key v t entries u hv _ ih =>
    obtain ⟨fuel, rfl⟩ := Nat.exists_eq_succ_of_ne_zero (Nat.ne_of_gt (Nat.zero_lt_of_lt hfuel))
    obtain ⟨w, hw, hread⟩ := exists_readEntries_entry hitem hv
      (ends_of_mem (b := 44) (by simp) (u ++ 125 :: rest)) first fuel read
    have hrest := ih false (read ++ [(key, v)]) (Nat.lt_of_succ_lt_succ hfuel)
    rw [List.append_assoc, List.cons_append, hread, readEntries_blanks hw]
    exact hrest.trans (by simp)

end Parts

/-! ## Values -/

variable {v : Value} {depth : Nat}

theorem scanWord_eq_ok_iff {word : Bytes} : scanWord word s = .ok rest ↔ s = word ++ rest := by
  induction word generalizing s with
  | nil => simp [scanWord]
  | cons c word ih =>
    cases s with
    | nil => simp [scanWord]
    | cons b s =>
      rw [scanWord]
      split
      case isTrue hb => simp [ih, hb]
      case isFalse hb => simp [hb]

/-- What is made of something that is read was read before. -/
theorem exists_of_map {α β : Type} {r : Scan α} {f : α → β} {y : β}
    (h : (r.map fun (x, s) => (f x, s)) = .ok (y, rest)) : ∃ x, r = .ok (x, rest) ∧ y = f x := by
  rcases r with e | ⟨x, s⟩
  · exact absurd h (by simp [Except.map])
  · obtain ⟨rfl, rfl⟩ := Prod.mk.inj (Except.ok.inj h)
    exact ⟨x, rfl, rfl⟩

theorem eq_of_scanWord {word : Bytes} {v' : Value}
    (h : ((scanWord word s).map fun s => (v, s)) = .ok (v', rest)) : s = word ++ rest ∧ v' = v := by
  cases hword : scanWord word s with
  | error f => exact absurd h (by simp [hword, Except.map])
  | ok t =>
    rw [hword] at h
    obtain ⟨rfl, rfl⟩ := Prod.mk.inj (Except.ok.inj h)
    exact ⟨scanWord_eq_ok_iff.1 hword, rfl⟩

theorem SpellsScalar.spells (h : SpellsScalar v t) (depth : Nat) : Spells depth v t := by
  cases depth with
  | zero => exact h
  | succ depth => exact .inl h

/-- What is read as an array is written for one. -/
theorem exists_of_readArray {item : Bytes → Scan Value} {P : Value → Bytes → Prop}
    (hitem : Reads item P) {fuel : Nat} {items : List Value}
    (h : readItems item fuel true [] s = .ok (items, rest)) :
    ∃ t, 91 :: s = t ++ rest ∧ SpellsCompound P (.array items) t := by
  obtain ⟨w, hw, rfl, rfl⟩ | ⟨w, items, t, hw, rfl, hitems, rfl⟩ := exists_of_readItems hitem h
  · exact ⟨_, by simp, .emptyArray hw⟩
  · exact ⟨_, by simp [comma], .array (hitems.blanks_append hw)⟩

/-- What is read as an object is written for one. -/
theorem exists_of_readObject {item : Bytes → Scan Value} {P : Value → Bytes → Prop}
    (hitem : Reads item P) {fuel : Nat} {entries : Object}
    (h : readEntries keepAll item fuel true [] s = .ok (entries, rest)) :
    ∃ t, 123 :: s = t ++ rest ∧ SpellsCompound P (.object entries) t := by
  obtain ⟨w, hw, rfl, rfl⟩ | ⟨w, entries, t, hw, rfl, hentries, rfl⟩ :=
    exists_of_readEntries hitem h
  · exact ⟨_, by simp, .emptyObject hw⟩
  · exact ⟨_, by simp [comma], .object (hentries.blanks_append hw)⟩

/-- A value that is read is written where it was read, if this is so of its parts. -/
theorem exists_of_readValue
    (hparts : ∀ inner, depth = inner + 1 → Reads (readValue keepAll inner) (Spells inner))
    (h : readValue keepAll depth s = .ok (v, rest)) :
    ∃ w t, s = w ++ (t ++ rest) ∧ AreBlanks w ∧ Spells depth v t := by
  obtain ⟨w, hw, hs⟩ := exists_blanks_append s
  suffices ∃ t, skipBlanks s = t ++ rest ∧ Spells depth v t by
    obtain ⟨t, ht, hspells⟩ := this
    exact ⟨w, t, by rw [hs, ht], hw, hspells⟩
  rw [readValue] at h
  cases hskip : skipBlanks s with
  | nil => simp [hskip] at h
  | cons b r =>
    simp only [hskip] at h
    split_ifs at h with hnull htrue hfalse hminus hdigit hstring harray hobject
    · obtain ⟨rfl, rfl⟩ := eq_of_scanWord h
      exact ⟨_, by rw [hnull]; rfl, SpellsScalar.null.spells depth⟩
    · obtain ⟨rfl, rfl⟩ := eq_of_scanWord h
      exact ⟨_, by rw [htrue]; rfl, (SpellsScalar.boolean true).spells depth⟩
    · obtain ⟨rfl, rfl⟩ := eq_of_scanWord h
      exact ⟨_, by rw [hfalse]; rfl, (SpellsScalar.boolean false).spells depth⟩
    · obtain ⟨x, hx, rfl⟩ := exists_of_map h
      obtain ⟨n, hn, rfl, -, hvalue⟩ := scanNumber_eq_ok_iff.1 hx
      exact ⟨_, by simp [Numeral.octets, hn, hminus], (SpellsScalar.number hvalue).spells depth⟩
    · obtain ⟨x, hx, rfl⟩ := exists_of_map h
      obtain ⟨n, hn, heq, -, hvalue⟩ := scanNumber_eq_ok_iff.1 hx
      exact ⟨_, by simp [Numeral.octets, hn, heq], (SpellsScalar.number hvalue).spells depth⟩
    · obtain ⟨text, htext, rfl⟩ := exists_of_map h
      obtain ⟨t, rfl, ht⟩ := scanString_eq_ok_iff.1 htext
      exact ⟨_, by simp [hstring], (SpellsScalar.string ht).spells depth⟩
    · cases depth with
      | zero => exact absurd h (by simp)
      | succ inner =>
        obtain ⟨items, hitems, rfl⟩ := exists_of_map h
        obtain ⟨t, ht, hspells⟩ := exists_of_readArray (hparts inner rfl) hitems
        exact ⟨t, by rw [harray, ht], .inr hspells⟩
    · cases depth with
      | zero => exact absurd h (by simp)
      | succ inner =>
        obtain ⟨entries, hentries, rfl⟩ := exists_of_map h
        obtain ⟨t, ht, hspells⟩ := exists_of_readObject (hparts inner rfl) hentries
        exact ⟨t, by rw [hobject, ht], .inr hspells⟩

theorem Numeral.exists_magnitude_eq_cons (n : Numeral) :
    ∃ b r, n.magnitude = b :: r ∧ Bytes.isDigit b = true := by
  obtain ⟨b, r, hwhole⟩ := List.exists_cons_of_ne_nil n.whole.ne_nil
  exact ⟨b, _, by rw [Numeral.magnitude, hwhole]; rfl,
    n.whole.isDigit b (hwhole ▸ List.mem_cons_self)⟩

/-- No value begins with a blank or a closing bracket. -/
theorem exists_cons_of_spells (h : Spells depth v t) :
    ∃ b r, t = b :: r ∧ isBlank b = false ∧ b ≠ 93 := by
  have hscalar : SpellsScalar v t → ∃ b r, t = b :: r ∧ isBlank b = false ∧ b ≠ 93 := by
    intro h
    cases h with
    | null => exact ⟨110, _, rfl, rfl, by decide⟩
    | boolean b =>
      cases b with
      | false => exact ⟨102, _, rfl, rfl, by decide⟩
      | true => exact ⟨116, _, rfl, rfl, by decide⟩
    | @number n x _ =>
      obtain ⟨b, r, hmagnitude, hb⟩ := n.exists_magnitude_eq_cons
      rw [Numeral.octets]
      split
      · exact ⟨45, _, rfl, rfl, by decide⟩
      · exact ⟨b, r, hmagnitude, isBlank_of_isDigit hb, ne_of_isDigit hb rfl⟩
    | string => exact ⟨34, _, rfl, rfl, by decide⟩
  cases depth with
  | zero => exact hscalar h
  | succ depth =>
    rcases h with h | h
    · exact hscalar h
    cases h with
    | emptyArray | array => exact ⟨91, _, rfl, rfl, by decide⟩
    | emptyObject | object => exact ⟨123, _, rfl, rfl, by decide⟩

theorem stopsAt_of_ends (fraction : Option Numeral.Digits) (x : Option Numeral.Exponent)
    (hs : Ends s) : StopsAt fraction x s :=
  ⟨⟨fun b hb => (hs b hb).1, fun _ b hb => (hs b hb).2.2⟩, fun _ b hb => (hs b hb).2.1⟩

/-- A scalar is read from what is written for it. -/
theorem readValue_of_spellsScalar (h : SpellsScalar v t) (hrest : Ends rest) (depth : Nat) :
    readValue keepAll depth (t ++ rest) = .ok (v, rest) := by
  cases h with
  | null =>
    rw [readValue]
    rfl
  | boolean b =>
    cases b <;>
    · rw [readValue]
      rfl
  | @number n x hvalue =>
    have hscan : scanNumber n.negative (n.magnitude ++ rest) = .ok (x, rest) :=
      scanNumber_eq_ok_iff.2 ⟨n, rfl, rfl, stopsAt_of_ends _ _ hrest, hvalue⟩
    rw [Numeral.octets]
    split
    case isTrue hn =>
      rw [List.cons_append, readValue_minus, ← hn, hscan]
      rfl
    case isFalse hn =>
      obtain ⟨b, r, hmagnitude, hb⟩ := n.exists_magnitude_eq_cons
      rw [Bool.eq_false_of_not_eq_true hn, hmagnitude, List.cons_append] at hscan
      rw [hmagnitude, List.cons_append, readValue_digit keepAll depth _ hb, hscan]
      rfl
  | @string text t ht =>
    have hscan : scanString (t ++ [34] ++ rest) = .ok (text, rest) :=
      scanString_eq_ok_iff.2 ⟨t, by simp, ht⟩
    rw [List.cons_append, readValue]
    change (scanString (t ++ [34] ++ rest)).map _ = _
    rw [hscan]
    rfl

/-- An array or object is read from what is written for it, if this is so of the parts. -/
theorem readValue_of_spellsCompound {inner : Nat}
    (hinner : Reads (readValue keepAll inner) (Spells inner))
    (h : SpellsCompound (Spells inner) v t) (rest : Bytes) :
    readValue keepAll (inner + 1) (t ++ rest) = .ok (v, rest) := by
  cases h with
  | @emptyArray w hw =>
    rw [List.cons_append, readValue, List.append_assoc]
    change (readItems _ (_ + 1) true [] (w ++ 93 :: rest)).map _ = _
    rw [readItems, nextItem_close hw]
    rfl
  | @array items t h =>
    have hlength := h.length_le
    rw [List.cons_append, readValue, List.append_assoc]
    change (readItems _ (_ + 1) true [] (comma true ++ (t ++ 93 :: rest))).map _ = _
    rw [readItems_of_spells hinner h true [] (by simp; omega)]
    rfl
  | @emptyObject w hw =>
    rw [List.cons_append, readValue, List.append_assoc]
    change (readEntries _ _ (_ + 1) true [] (w ++ 125 :: rest)).map _ = _
    rw [readEntries, nextKey_close hw]
    rfl
  | @object entries t h =>
    have hlength := h.length_le
    rw [List.cons_append, readValue, List.append_assoc]
    change (readEntries _ _ (_ + 1) true [] (comma true ++ (t ++ 125 :: rest))).map _ = _
    rw [readEntries_of_spells hinner h true [] (by simp; omega)]
    rfl

theorem readValue_blanks (hw : AreBlanks w) (depth : Nat) (s : Bytes) :
    readValue keepAll depth (w ++ s) = readValue keepAll depth s := by
  rw [readValue, skipBlanks_append hw, readValue]

/-- The reader that keeps all entries reads just the values that are written. -/
theorem reads_readValue (depth : Nat) : Reads (readValue keepAll depth) (Spells depth) := by
  -- On the levels that are left; on the last one there are no parts.
  induction depth with
  | zero =>
    refine ⟨fun w hw => readValue_blanks hw 0, fun s v rest => ?_, fun v t rest => ?_,
      fun v t => exists_cons_of_spells⟩
    · exact exists_of_readValue fun _ h => absurd h (Nat.succ_ne_zero _).symm
    · exact fun h hrest => readValue_of_spellsScalar h hrest 0
  | succ depth ih =>
    refine ⟨fun w hw => readValue_blanks hw _, fun s v rest => ?_, fun v t rest h hrest => ?_,
      fun v t => exists_cons_of_spells⟩
    · refine exists_of_readValue fun inner h => ?_
      obtain rfl := Nat.succ.inj h
      exact ih
    · rcases h with h | h
      · exact readValue_of_spellsScalar h hrest _
      · exact readValue_of_spellsCompound ih h rest

theorem finish_eq_ok_iff : finish s = .ok () ↔ AreBlanks s := by
  rw [finish, AreBlanks, ← List.dropWhile_eq_nil_iff]
  change _ ↔ skipBlanks s = []
  cases skipBlanks s with
  | nil => simp
  | cons b s => simp

/-- A text is written for a value if it is read as the value, with all entries, to its end. -/
theorem Value.isWritten_iff {text : Bytes} : v.IsWritten text ↔
    ∃ s, readValue keepAll nestingLimit text = .ok (v, s) ∧ finish s = .ok () := by
  have hreads := reads_readValue nestingLimit
  constructor
  · rintro ⟨w, t, w', rfl, hw, hw', ht⟩
    have hends : Ends w' := by
      rw [← List.append_nil w']
      exact ends_blanks_append hw' fun b hb => absurd hb (by simp)
    exact ⟨w', by rw [hreads.blanks hw, hreads.complete ht hends], finish_eq_ok_iff.2 hw'⟩
  · rintro ⟨s, hread, hfinish⟩
    obtain ⟨w, t, rfl, hw, ht⟩ := hreads.sound hread
    exact ⟨w, t, s, rfl, hw, finish_eq_ok_iff.1 hfinish, ht⟩

/-- A text is written for one value. -/
theorem Value.IsWritten.unique {text : Bytes} {v' : Value} (h : v.IsWritten text)
    (h' : v'.IsWritten text) : v = v' := by
  obtain ⟨s, hread, -⟩ := isWritten_iff.1 h
  obtain ⟨s', hread', -⟩ := isWritten_iff.1 h'
  exact congrArg Prod.fst (Except.ok.inj (hread.symm.trans hread'))

end Testbed.Json
