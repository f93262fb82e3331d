import Testbed.Json.Reader
import Testbed.Proofs.Decimal.Finite
import Testbed.Proofs.Json.Reading

/-!
# What a reader may have read

A value that was read nests at most as deep as the reader allows, and the floating-point numbers
in it are finite (`Value.FitsIn`). The same is then true of its parts and of what is made of
them, one level deeper or less deep as the case may be.

* `fitsIn_readValue`: what a reader reads;
* `fitsIn_array_iff`, `fitsIn_object_iff`: a list and an object fit when their parts do.
-/

namespace Testbed.Json

/-- A whole number is finite, and a floating-point number if its pattern is that of one. -/
inductive Number.IsFinite : Number → Prop
  | integer (n : Int) (fits) : IsFinite (.integer n fits)
  | float {x : Decimal.Double} (h : x.IsFinite) : IsFinite (.float x)

/-- A value nests at most so deep, and the numbers in it are finite. -/
structure Value.FitsIn (n : Nat) (v : Value) : Prop where
  depth : v.depth ≤ n
  finite : ∀ x ∈ v.numbers, x.IsFinite

namespace Value

variable {n m : Nat} {v : Value}

theorem FitsIn.mono (h : v.FitsIn n) (hm : n ≤ m) : v.FitsIn m :=
  ⟨h.depth.trans hm, h.finite⟩

theorem fitsIn_null : null.FitsIn n := ⟨Nat.zero_le n, fun _ hx => absurd hx List.not_mem_nil⟩

theorem fitsIn_boolean (b : Bool) : (boolean b).FitsIn n :=
  ⟨Nat.zero_le n, fun _ hx => absurd hx List.not_mem_nil⟩

theorem fitsIn_string (s : String) : (string s).FitsIn n :=
  ⟨Nat.zero_le n, fun _ hx => absurd hx List.not_mem_nil⟩

theorem fitsIn_number {x : Number} (hx : x.IsFinite) : (number x).FitsIn n :=
  ⟨Nat.zero_le n, List.forall_mem_singleton.2 hx⟩

theorem depthItems_le_iff {items : List Value} :
    depthItems items ≤ n ↔ ∀ v ∈ items, v.depth ≤ n := by
  induction items with
  | nil => simp [depthItems]
  | cons v items ih => rw [depthItems, Nat.max_le, ih, List.forall_mem_cons]

theorem depthEntries_le_iff {entries : List (String × Value)} :
    depthEntries entries ≤ n ↔ ∀ e ∈ entries, e.2.depth ≤ n := by
  induction entries with
  | nil => simp [depthEntries]
  | cons e entries ih => rw [depthEntries, Nat.max_le, ih, List.forall_mem_cons]

theorem mem_numbersOfItems {x : Number} {items : List Value} :
    x ∈ numbersOfItems items ↔ ∃ v ∈ items, x ∈ v.numbers := by
  induction items with
  | nil => simp [numbersOfItems]
  | cons v items ih => simp [numbersOfItems, ih]

theorem mem_numbersOfEntries {x : Number} {entries : List (String × Value)} :
    x ∈ numbersOfEntries entries ↔ ∃ e ∈ entries, x ∈ e.2.numbers := by
  induction entries with
  | nil => simp [numbersOfEntries]
  | cons e entries ih => simp [numbersOfEntries, ih]

theorem fitsIn_array_iff {items : List Value} :
    (array items).FitsIn (n + 1) ↔ ∀ v ∈ items, v.FitsIn n := by
  constructor
  · intro h v hv
    refine ⟨depthItems_le_iff.1 (Nat.le_of_succ_le_succ h.depth) v hv, fun x hx => ?_⟩
    exact h.finite x (mem_numbersOfItems.2 ⟨v, hv, hx⟩)
  · intro h
    refine ⟨Nat.succ_le_succ (depthItems_le_iff.2 fun v hv => (h v hv).depth), fun x hx => ?_⟩
    obtain ⟨v, hv, hx⟩ := mem_numbersOfItems.1 hx
    exact (h v hv).finite x hx

theorem fitsIn_object_iff {entries : List (String × Value)} :
    (object entries).FitsIn (n + 1) ↔ ∀ e ∈ entries, e.2.FitsIn n := by
  constructor
  · intro h e he
    refine ⟨depthEntries_le_iff.1 (Nat.le_of_succ_le_succ h.depth) e he, fun x hx => ?_⟩
    exact h.finite x (mem_numbersOfEntries.2 ⟨e, he, hx⟩)
  · intro h
    refine ⟨Nat.succ_le_succ (depthEntries_le_iff.2 fun e he => (h e he).depth), fun x hx => ?_⟩
    obtain ⟨e, he, hx⟩ := mem_numbersOfEntries.1 hx
    exact (h e he).finite x hx

/-- The items of a list nest one level less deep. -/
theorem FitsIn.mem_array {items : List Value} (h : (array items).FitsIn n) {v : Value}
    (hv : v ∈ items) : v.FitsIn (n - 1) := by
  cases n with
  | zero => exact absurd h.depth (Nat.not_succ_le_zero _)
  | succ n => exact fitsIn_array_iff.1 h v hv

/-- The values of an object nest one level less deep. -/
theorem FitsIn.mem_object {entries : List (String × Value)} (h : (object entries).FitsIn n)
    {e : String × Value} (he : e ∈ entries) : e.2.FitsIn (n - 1) := by
  cases n with
  | zero => exact absurd h.depth (Nat.not_succ_le_zero _)
  | succ n => exact fitsIn_object_iff.1 h e he

end Value

/-! ## Numbers -/

open Decimal

/-- What a scan yields, if it yields anything, has a property. -/
def Scan.Yields {α : Type} (P : α → Prop) (r : Scan α) : Prop := ∀ x s, r = .ok (x, s) → P x

theorem Scan.yields_error {α : Type} {P : α → Prop} (f : Fault) :
    Scan.Yields P (.error f) := fun _ _ h => absurd h (by simp)

theorem Scan.yields_ok {α : Type} {P : α → Prop} {x : α} (hx : P x) (s : Bytes) :
    Scan.Yields P (.ok (x, s)) := fun _ _ h => (Prod.mk.inj (Except.ok.inj h)).1 ▸ hx

section Numbers

variable {negative : Bool} {significand : Nat}

theorem isFinite_sign {x : Double} (hx : x.IsFinite) :
    (Number.float (if negative then x.neg else x)).IsFinite := by
  cases negative with
  | true => exact .float (Double.isFinite_neg hx)
  | false => exact .float hx

theorem finite_assemble (exponent : Int) (s : Bytes) :
    (assemble negative significand exponent s).Yields Number.IsFinite := by
  rw [assemble]
  cases h : Double.ofDecimal? significand exponent with
  | none => exact Scan.yields_error _
  | some x => exact Scan.yields_ok (isFinite_sign (Double.isFinite_ofDecimal? h)) s

theorem isFinite_ofInt (n : Int) : (Number.ofInt n).IsFinite := by
  rw [Number.ofInt]
  split
  · exact .integer _ _
  · dsimp only
    have hx : (Double.ofNat n.natAbs).IsFinite := Double.isFinite_ofRatio _ _
    split
    · exact .float (Double.isFinite_neg hx)
    · exact .float hx

theorem isFinite_ofNat (n : Nat) : (Number.ofNat n).IsFinite := isFinite_ofInt n

theorem isFinite_wholeNumber (negative : Bool) (significand : Nat) :
    (wholeNumber negative significand).IsFinite := by
  cases negative with
  | false =>
    rw [wholeNumber, if_neg Bool.false_ne_true]
    exact isFinite_ofNat significand
  | true =>
    rw [wholeNumber, if_pos rfl]
    by_cases h : 0 < significand ∧ significand ≤ 9223372036854775808
    · rw [dif_pos h]
      exact .integer _ _
    · rw [dif_neg h]
      exact .float (Double.isFinite_neg (Double.isFinite_ofRatio _ _))

theorem finite_scanExponent (exponent : Int) (s : Bytes) :
    (scanExponent negative significand exponent s).Yields Number.IsFinite := by
  have hzero : (Number.float (if negative then Double.zero.neg else Double.zero)).IsFinite :=
    isFinite_sign Double.isFinite_zero
  unfold scanExponent
  split
  rename_i down s _
  cases s with
  | nil => exact Scan.yields_error _
  | cons b s =>
    dsimp only
    split
    · split
      · exact finite_assemble _ _
      · split
        · exact Scan.yields_error _
        · exact Scan.yields_ok hzero _
    · exact Scan.yields_error _

theorem finite_finishDecimal (exponent : Int) (s : Bytes) :
    (finishDecimal negative significand exponent s).Yields Number.IsFinite := by
  cases s with
  | nil => exact finite_assemble exponent []
  | cons b s =>
    rw [finishDecimal]
    split
    · exact finite_scanExponent exponent s
    · exact finite_assemble exponent (b :: s)

theorem finite_scanFraction (negative : Bool) (significand : Nat) (exponent : Int) (places : Nat)
    (s : Bytes) :
    (scanFraction negative significand exponent places s).Yields Number.IsFinite := by
  induction s generalizing significand exponent places with
  | nil =>
    cases places with
    | zero => exact Scan.yields_error _
    | succ places => exact finite_assemble exponent []
  | cons b s ih =>
    rw [scanFraction]
    split
    · dsimp only
      split
      · exact finite_finishDecimal exponent _
      · exact ih _ _ _
    · split
      · exact Scan.yields_error _
      · exact finite_finishDecimal exponent (b :: s)

theorem finite_scanLongInteger (exponent : Nat) (s : Bytes) :
    (scanLongInteger negative significand exponent s).Yields Number.IsFinite := by
  induction s generalizing exponent with
  | nil => exact finite_assemble exponent []
  | cons b s ih =>
    rw [scanLongInteger]
    split_ifs
    · exact ih (exponent + 1)
    · exact finite_scanFraction negative significand exponent 0 s
    · exact finite_scanExponent exponent s
    · exact finite_assemble exponent (b :: s)

theorem finite_finishInteger (s : Bytes) :
    (finishInteger negative significand s).Yields Number.IsFinite := by
  have hwhole := isFinite_wholeNumber negative significand
  cases s with
  | nil => exact Scan.yields_ok hwhole []
  | cons b s =>
    rw [finishInteger]
    split_ifs
    · exact finite_scanFraction negative significand 0 0 s
    · exact finite_scanExponent 0 s
    · exact Scan.yields_ok hwhole (b :: s)

theorem finite_scanDigits (negative : Bool) (significand : Nat) (s : Bytes) :
    (scanDigits negative significand s).Yields Number.IsFinite := by
  induction s generalizing significand with
  | nil => exact finite_finishInteger []
  | cons b s ih =>
    rw [scanDigits]
    split
    · dsimp only
      split
      · exact finite_scanLongInteger 1 s
      · exact ih _
    · exact finite_finishInteger (b :: s)

theorem finite_scanNumber (negative : Bool) (s : Bytes) :
    (scanNumber negative s).Yields Number.IsFinite := by
  cases s with
  | nil => exact Scan.yields_error _
  | cons b s =>
    rw [scanNumber.eq_def]
    dsimp only
    split_ifs
    · cases s with
      | nil => exact finite_finishInteger []
      | cons c s =>
        dsimp only
        split
        · exact Scan.yields_error _
        · exact finite_finishInteger (c :: s)
    · exact finite_scanDigits negative _ s
    · exact Scan.yields_error _

end Numbers

/-! ## Values -/

theorem Scan.Yields.map {α β : Type} {P : α → Prop} {Q : β → Prop} {r : Scan α} {f : α → β}
    (h : r.Yields P) (hf : ∀ x, P x → Q (f x)) :
    Scan.Yields Q (r.map fun (x, s) => (f x, s)) := by
  intro y s hy
  rcases r with e | ⟨x, s'⟩
  · exact absurd hy (by simp [Except.map])
  · obtain ⟨rfl, rfl⟩ := Prod.mk.inj (Except.ok.inj hy)
    exact hf x (h x _ rfl)

theorem yields_readItems {α : Type} {P : α → Prop} {item : Bytes → Scan α}
    (hitem : ∀ s, (item s).Yields P) (fuel : Nat) (first : Bool) (held : List α) (s : Bytes)
    (hheld : ∀ x ∈ held, P x) :
    (readItems item fuel first held s).Yields fun l => ∀ x ∈ l, P x := by
  induction fuel generalizing first held s with
  | zero => exact Scan.yields_error _
  | succ fuel ih =>
    rw [readItems]
    rcases nextItem first s with f | ⟨s⟩ | ⟨s⟩
    · exact Scan.yields_error f
    · dsimp only
      cases hv : item s with
      | error f => exact Scan.yields_error f
      | ok r =>
        obtain ⟨v, s'⟩ := r
        exact ih false (v :: held) s' (List.forall_mem_cons.2 ⟨hitem s v s' hv, hheld⟩)
    · exact Scan.yields_ok (fun x hx => hheld x (List.mem_reverse.1 hx)) _

theorem yields_readEntries {P : Value → Prop} {item : Bytes → Scan Value}
    (hitem : ∀ s, (item s).Yields P) (fuel : Nat) (first : Bool) (held : Object) (s : Bytes)
    (hheld : ∀ e ∈ held, P e.2) :
    (readEntries Entries.put item fuel first held s).Yields fun m => ∀ e ∈ m, P e.2 := by
  induction fuel generalizing first held s with
  | zero => exact Scan.yields_error _
  | succ fuel ih =>
    rw [readEntries]
    rcases nextKey first s with f | ⟨s⟩ | ⟨s⟩
    · exact Scan.yields_error f
    · dsimp only
      rcases scanString s with f | ⟨key, s⟩
      · exact Scan.yields_error f
      dsimp only
      rcases skipColon s with f | s
      · exact Scan.yields_error f
      dsimp only
      cases hv : item s with
      | error f => exact Scan.yields_error f
      | ok r =>
        obtain ⟨v, s'⟩ := r
        -- A repeated key takes the later value, and the other entries stay.
        refine ih false (Entries.put key v held) s' fun e he => ?_
        rcases Entries.mem_put he with rfl | he
        · exact hitem s v s' hv
        · exact hheld e he
    · exact Scan.yields_ok hheld _

/-- What is read nests at most as deep as the reader allows, if this is so of the parts. -/
theorem fitsIn_readValue_of_parts {depth : Nat}
    (hparts : ∀ inner, depth = inner + 1 → ∀ s,
      (readValue Entries.put inner s).Yields (Value.FitsIn inner)) (s : Bytes) :
    (readValue Entries.put depth s).Yields (Value.FitsIn depth) := by
  have hword : ∀ {v : Value}, v.FitsIn depth → ∀ word s,
      Scan.Yields (Value.FitsIn depth) ((scanWord word s).map fun s => (v, s)) := by
    intro v hv word s
    rcases scanWord word s with f | s
    · exact Scan.yields_error f
    · exact Scan.yields_ok hv s
  rw [readValue]
  rcases skipBlanks s with _ | ⟨b, s⟩
  · exact Scan.yields_error _
  dsimp only
  split_ifs
  · exact hword Value.fitsIn_null _ s
  · exact hword (Value.fitsIn_boolean true) _ s
  · exact hword (Value.fitsIn_boolean false) _ s
  · exact (finite_scanNumber true s).map fun _ => Value.fitsIn_number
  · exact (finite_scanNumber false (b :: s)).map fun _ => Value.fitsIn_number
  · rcases scanString s with f | ⟨t, s⟩
    · exact Scan.yields_error f
    · exact Scan.yields_ok (Value.fitsIn_string t) s
  · cases depth with
    | zero => exact Scan.yields_error _
    | succ inner =>
      have hitems := yields_readItems (hparts inner rfl) (s.length + 1) true [] s
        (fun _ hv => absurd hv List.not_mem_nil)
      exact hitems.map fun _ => Value.fitsIn_array_iff.2
  · cases depth with
    | zero => exact Scan.yields_error _
    | succ inner =>
      have hentries := yields_readEntries (hparts inner rfl) (s.length + 1) true [] s
        (fun _ he => absurd he List.not_mem_nil)
      exact hentries.map fun _ => Value.fitsIn_object_iff.2
  · exact Scan.yields_error _

theorem fitsIn_readValue (depth : Nat) (s : Bytes) :
    (readValue Entries.put depth s).Yields (Value.FitsIn depth) := by
  -- On the levels that are left; on the last one there are no parts.
  induction depth generalizing s with
  | zero => exact fitsIn_readValue_of_parts (fun _ h => absurd h (Nat.succ_ne_zero _).symm) s
  | succ depth ih =>
    refine fitsIn_readValue_of_parts (fun inner h => ?_) s
    obtain rfl := Nat.succ.inj h
    exact ih

/-- A text stands for a value that nests no deeper than a text may. -/
theorem fitsIn_of_read {text : Bytes} {v : Value} (h : Value.read text = .ok v) :
    v.FitsIn nestingLimit := by
  rw [Value.read] at h
  cases hread : readValue Entries.put nestingLimit text with
  | error f => simp [hread] at h
  | ok r =>
    obtain ⟨w, s⟩ := r
    simp only [hread] at h
    split at h
    case h_1 => exact absurd h (by simp)
    case h_2 =>
      obtain rfl := Except.ok.inj h
      exact fitsIn_readValue nestingLimit text w s hread

end Testbed.Json
