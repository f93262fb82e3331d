import Testbed.Json.Reader
import Testbed.Proofs.Entries
import Testbed.Proofs.Json.Lexemes
import Mathlib.Order.MinMax

/-!
# What is written reads back

A written value is read again, by every reader whose limit its nesting respects, up to where
it ends (`readValue_print`). It is read as the value that it was, if the value holds no
floating-point number and its objects are those that the reader builds from their entries
(`Value.IsExact`): every object if the reader keeps repeated keys, and those with distinct keys
if the last one counts.
-/

namespace Testbed.Json

/-! ## Exact values -/

namespace Value

mutual

/-- The numbers in a value, from left to right. -/
def numbers : Value → List Number
  | .number x => [x]
  | .array items => numbersOfItems items
  | .object entries => numbersOfEntries entries
  | _ => []

/-- The numbers in items. -/
def numbersOfItems : List Value → List Number
  | [] => []
  | v :: r => numbers v ++ numbersOfItems r

/-- The numbers in the values of entries. -/
def numbersOfEntries : List (String × Value) → List Number
  | [] => []
  | (_, v) :: r => numbers v ++ numbersOfEntries r

end

/-- Whether a value holds no floating-point number. -/
def IsFloatFree (v : Value) : Prop := ∀ x ∈ v.numbers, x.isInteger = true

mutual

/-- Whether every object in a value is what adding its entries one by one builds. -/
def IsBuiltBy (add : AddEntry) : Value → Prop
  | .array items => AreBuiltBy add items
  | .object entries =>
    entries.foldl (fun m e => add e.1 e.2 m) [] = entries ∧ AreEntriesBuiltBy add entries
  | _ => True

/-- Whether this holds of items. -/
def AreBuiltBy (add : AddEntry) : List Value → Prop
  | [] => True
  | v :: r => IsBuiltBy add v ∧ AreBuiltBy add r

/-- Whether this holds of the values of entries. -/
def AreEntriesBuiltBy (add : AddEntry) : List (String × Value) → Prop
  | [] => True
  | (_, v) :: r => IsBuiltBy add v ∧ AreEntriesBuiltBy add r

end

mutual

/-- Whether the keys of every object in a value are distinct. -/
def HasDistinctKeys : Value → Prop
  | .array items => HaveDistinctKeys items
  | .object entries => (Entries.keys entries).Nodup ∧ EntriesHaveDistinctKeys entries
  | _ => True

/-- Whether this holds of items. -/
def HaveDistinctKeys : List Value → Prop
  | [] => True
  | v :: r => HasDistinctKeys v ∧ HaveDistinctKeys r

/-- Whether this holds of the values of entries. -/
def EntriesHaveDistinctKeys : List (String × Value) → Prop
  | [] => True
  | (_, v) :: r => HasDistinctKeys v ∧ EntriesHaveDistinctKeys r

end

end Value

open Value

/-! ## Numbers -/

/-- Whether a number is read again from what is written of it; a whole number is read as
    itself. -/
def Number.Rereads (x : Number) : Prop :=
  ∃ y, (x.isInteger = true → y = x) ∧ ∀ (add : AddEntry) (depth : Nat) (s : Bytes), Ends s →
    readValue add depth (Bytes.ofString x.text ++ s) = .ok (.number y, s)

theorem skipBlanks_of_not_blank {b : UInt8} (s : Bytes) (hb : isBlank b = false) :
    skipBlanks (b :: s) = b :: s :=
  List.dropWhile_cons_of_neg (by simp [hb])

theorem readValue_minus (add : AddEntry) (depth : Nat) (s : Bytes) :
    readValue add depth (45 :: s) = (scanNumber true s).map fun (x, s) => (.number x, s) := by
  rw [readValue]
  rfl

theorem readValue_digit (add : AddEntry) (depth : Nat) {b : UInt8} (s : Bytes)
    (hb : Bytes.isDigit b = true) :
    readValue add depth (b :: s) =
      (scanNumber false (b :: s)).map fun (x, s) => (.number x, s) := by
  have hne : ∀ c, Bytes.isDigit c = false → b ≠ c := fun c hc => ne_of_isDigit hb hc
  rw [readValue, skipBlanks_of_not_blank s (isBlank_of_isDigit hb)]
  simp only [hne 110 rfl, hne 116 rfl, hne 102 rfl, hne 45 rfl, hb, if_false, if_true]

theorem ofString_repr (m : Nat) : Bytes.ofString (Nat.repr m) = digitOctets m := by
  rw [Nat.repr_eq_ofList_toDigits]
  exact Bytes.ofString_ofList fun c hc => (toNat_of_isNumeral (isNumeral_toDigits m c hc)).2

theorem wholeNumber_false {m : Nat} (h : m < 18446744073709551616) :
    wholeNumber false m = .integer m ⟨by omega, by omega⟩ := by
  rw [wholeNumber, if_neg Bool.false_ne_true, Number.ofNat, Number.ofInt,
    dif_pos ⟨by omega, by omega⟩]

theorem wholeNumber_true {m : Nat} (hpos : 0 < m) (h : m ≤ 9223372036854775808) :
    wholeNumber true m = .integer (-(m : Int)) ⟨by omega, by omega⟩ := by
  rw [wholeNumber, if_pos rfl, dif_pos ⟨hpos, h⟩]

/-- A whole number is read from what is written of it. -/
theorem rereads_integer (n : Int) (fits : -9223372036854775808 ≤ n ∧ n < 18446744073709551616) :
    (Number.integer n fits).Rereads := by
  refine ⟨_, fun _ => rfl, fun add depth s hs => ?_⟩
  rw [Number.text, Int.toString_eq_repr]
  cases n with
  | ofNat m =>
    have hm : m < 18446744073709551616 := by
      have := fits.2
      simp only [Int.ofNat_eq_natCast] at this
      omega
    obtain ⟨d, ds, hd⟩ := List.exists_cons_of_ne_nil (digitOctets_ne_nil m)
    have hdigit := isDigit_digitOctets m d (hd ▸ List.mem_cons_self)
    have hscan := scanNumber_digitOctets false (n := m) (Nat.le_of_lt_succ hm) hs
    rw [Int.repr, ofString_repr, hd, List.cons_append, readValue_digit add depth _ hdigit,
      ← List.cons_append, ← hd, hscan, wholeNumber_false hm]
    rfl
  | negSucc m =>
    have hm : m + 1 ≤ 9223372036854775808 := by
      have := fits.1
      omega
    have hminus : Bytes.ofString "-" = [45] := rfl
    have hscan := scanNumber_digitOctets true (n := m + 1)
      (Nat.le_trans hm (by decide)) hs
    rw [Int.repr, Bytes.ofString_append, ofString_repr, hminus, List.cons_append, List.nil_append,
      List.cons_append, readValue_minus, hscan, wholeNumber_true (Nat.succ_pos m) hm]
    rfl

/-! ## Steps -/

theorem nextItem_first {b : UInt8} (s : Bytes) (hb : isBlank b = false) (hne : b ≠ 93) :
    nextItem true (b :: s) = .ok (.more (b :: s)) := by
  rw [nextItem, skipBlanks_of_not_blank s hb]
  simp only [hne, if_false, if_true]

theorem nextItem_later {b : UInt8} (s : Bytes) (hb : isBlank b = false) (hne : b ≠ 93) :
    nextItem false (44 :: b :: s) = .ok (.more (b :: s)) := by
  have hcomma : isBlank 44 = false := rfl
  have hother : (44 : UInt8) ≠ 93 := by decide
  rw [nextItem, skipBlanks_of_not_blank (b :: s) hcomma]
  simp only [skipBlanks_of_not_blank s hb, hne, hother, Bool.false_eq_true, if_false, if_true]

theorem isBlank_of_isNumeral {c : Char} (h : isNumeral c = true) :
    isBlank (UInt8.ofNat c.toNat) = false ∧ UInt8.ofNat c.toNat ≠ 93 := by
  rw [isNumeral, Bool.or_eq_true] at h
  rcases h with h | h
  · have hdigit := isDigit_ofNat h
    exact ⟨isBlank_of_isDigit hdigit, ne_of_isDigit hdigit rfl⟩
  · simp only [List.mem_cons, List.not_mem_nil, or_false, decide_eq_true_iff] at h
    rcases h with rfl | rfl | rfl | rfl <;> decide

/-- What is written of a value begins with an octet that is neither blank nor a closing
    bracket. -/
theorem exists_print_eq_cons : ∀ v : Value, (∀ x ∈ v.numbers, x.Rereads) →
    ∃ b s, v.print = b :: s ∧ isBlank b = false ∧ b ≠ 93
  | .null, _ | .boolean true, _ | .boolean false, _ | .array [], _ | .object [], _ =>
    ⟨_, _, rfl, rfl, by decide⟩
  | .string s, _ => ⟨34, _, print_string s, rfl, by decide⟩
  | .array (v :: r), _ => ⟨91, _, print_array_cons v r, rfl, by decide⟩
  | .object ((k, v) :: r), _ => ⟨123, _, print_object_cons k v r, rfl, by decide⟩
  | .number x, h => by
    obtain ⟨y, _, hread⟩ := h x (List.mem_singleton_self x)
    rw [print_number, ofString_text]
    cases htext : x.text.toList with
    | nil =>
      -- Nothing cannot be read as a number.
      have hnil := hread keepAll 0 [] fun b hb => absurd hb (by simp)
      rw [ofString_text, htext] at hnil
      exact absurd hnil (by simp [readValue, skipBlanks])
    | cons c text =>
      have hc := isNumeral_text x c (htext ▸ List.mem_cons_self)
      exact ⟨_, _, rfl, isBlank_of_isNumeral hc⟩

theorem nextKey_first (k : String) (s : Bytes) :
    nextKey true (quoted k ++ s) = .ok (.more (escaped (Bytes.ofString k) ++ 34 :: s)) := by
  rw [quoted, List.cons_append, List.cons_append, List.append_assoc]
  rfl

theorem nextKey_later (k : String) (s : Bytes) :
    nextKey false (44 :: (quoted k ++ s)) =
      .ok (.more (escaped (Bytes.ofString k) ++ 34 :: s)) := by
  rw [quoted, List.cons_append, List.cons_append, List.append_assoc]
  rfl

theorem nextItem_print_first {v : Value} (hnum : ∀ x ∈ v.numbers, x.Rereads) (s : Bytes) :
    nextItem true (v.print ++ s) = .ok (.more (v.print ++ s)) := by
  obtain ⟨b, t, hprint, hb, hne⟩ := exists_print_eq_cons v hnum
  rw [hprint, List.cons_append, nextItem_first _ hb hne]

theorem nextItem_print_later {v : Value} (hnum : ∀ x ∈ v.numbers, x.Rereads) (s : Bytes) :
    nextItem false (44 :: (v.print ++ s)) = .ok (.more (v.print ++ s)) := by
  obtain ⟨b, t, hprint, hb, hne⟩ := exists_print_eq_cons v hnum
  rw [hprint, List.cons_append, nextItem_later _ hb hne]

theorem skipColon_colon (s : Bytes) : skipColon (58 :: s) = .ok s := rfl

theorem ends_itemsTail (r : List Value) (s : Bytes) : Ends (itemsTail r ++ s) := by
  cases r with
  | nil => simp [Ends, itemsTail, Bytes.isDigit]
  | cons v r => simp [Ends, itemsTail_cons, Bytes.isDigit]

theorem ends_entriesTail (r : List (String × Value)) (s : Bytes) : Ends (entriesTail r ++ s) := by
  cases r with
  | nil => simp [Ends, entriesTail, Bytes.isDigit]
  | cons e r =>
    obtain ⟨k, v⟩ := e
    simp [Ends, entriesTail_cons, Bytes.isDigit]

theorem length_le_itemsTail (r : List Value) : r.length < (itemsTail r).length := by
  induction r with
  | nil => exact Nat.zero_lt_one
  | cons v r ih =>
    rw [itemsTail_cons, List.length_cons, List.length_cons, List.length_append]
    omega

theorem length_le_entriesTail (r : List (String × Value)) : r.length < (entriesTail r).length := by
  induction r with
  | nil => exact Nat.zero_lt_one
  | cons e r ih =>
    rw [entriesTail_cons, List.length_cons, List.length_cons, List.length_append, List.length_cons,
      List.length_append]
    omega

/-! ## Values -/

variable (add : AddEntry)

/-- What is left of a list is read item by item. -/
theorem readItems_itemsTail_cons (item : Bytes → Scan Value) (fuel : Nat) (held : List Value)
    {v : Value} (hnum : ∀ x ∈ v.numbers, x.Rereads) (r : List Value) (s : Bytes) :
    readItems item (fuel + 1) false held (itemsTail (v :: r) ++ s) =
      (item (v.print ++ (itemsTail r ++ s))).bind fun p =>
        readItems item fuel false (p.1 :: held) p.2 := by
  rw [itemsTail_cons, List.cons_append, List.append_assoc, readItems, nextItem_print_later hnum]
  dsimp only
  cases item (v.print ++ (itemsTail r ++ s)) with
  | error f => rfl
  | ok p => rfl

/-- What is left of an object is read entry by entry. -/
theorem readEntries_entriesTail_cons (item : Bytes → Scan Value) (fuel : Nat) (held : Object)
    (k : String) (v : Value) (r : List (String × Value)) (s : Bytes) :
    readEntries add item (fuel + 1) false held (entriesTail ((k, v) :: r) ++ s) =
      (item (v.print ++ (entriesTail r ++ s))).bind fun p =>
        readEntries add item fuel false (add k p.1 held) p.2 := by
  rw [entriesTail_cons, List.cons_append, List.append_assoc, List.cons_append, List.append_assoc,
    readEntries, nextKey_later]
  simp only [scanString_escaped, skipColon_colon]
  cases item (v.print ++ (entriesTail r ++ s)) with
  | error f => rfl
  | ok p => rfl

/-- Of a list the first item is read one level further in, and then the others. -/
theorem readValue_array_cons (depth : Nat) {v : Value} (hnum : ∀ x ∈ v.numbers, x.Rereads)
    (r : List Value) (s : Bytes) :
    ∃ fuel, r.length < fuel ∧ readValue add (depth + 1) (print (.array (v :: r)) ++ s) =
      ((readValue add depth (v.print ++ (itemsTail r ++ s))).bind fun p =>
        readItems (readValue add depth) fuel false [p.1] p.2).map fun p => (.array p.1, p.2) := by
  have hlength := length_le_itemsTail r
  refine ⟨(v.print ++ (itemsTail r ++ s)).length, by simp only [List.length_append]; omega, ?_⟩
  rw [print_array_cons, List.cons_append, List.append_assoc, readValue]
  change (readItems (readValue add depth) (_ + 1) true [] _).map _ = _
  rw [readItems, nextItem_print_first hnum]
  dsimp only
  cases readValue add depth (v.print ++ (itemsTail r ++ s)) with
  | error f => rfl
  | ok p => rfl

/-- Of an object the first entry is read one level further in, and then the others. -/
theorem readValue_object_cons (depth : Nat) (k : String) (v : Value) (r : List (String × Value))
    (s : Bytes) :
    ∃ fuel, r.length < fuel ∧ readValue add (depth + 1) (print (.object ((k, v) :: r)) ++ s) =
      ((readValue add depth (v.print ++ (entriesTail r ++ s))).bind fun p =>
        readEntries add (readValue add depth) fuel false (add k p.1 []) p.2).map
          fun p => (.object p.1, p.2) := by
  have hlength := length_le_entriesTail r
  refine ⟨(quoted k ++ 58 :: (v.print ++ (entriesTail r ++ s))).length, ?_, ?_⟩
  · simp only [List.length_append, List.length_cons]
    omega
  · rw [print_object_cons, List.cons_append, List.append_assoc, List.cons_append,
      List.append_assoc, readValue]
    change (readEntries add (readValue add depth) (_ + 1) true [] _).map _ = _
    rw [readEntries, nextKey_first]
    simp only [scanString_escaped, skipColon_colon]
    cases readValue add depth (v.print ++ (entriesTail r ++ s)) with
    | error f => rfl
    | ok p => rfl

mutual

/-- A written value is read by a reader that lets as many arrays and objects nest as nest in
    it, up to where it ends; and as the value that it was if that is exact. -/
theorem readValue_print : ∀ (v : Value) (depth : Nat) (s : Bytes), v.depth ≤ depth → Ends s →
    (∀ x ∈ v.numbers, x.Rereads) → ∃ w, readValue add depth (v.print ++ s) = .ok (w, s) ∧
      (v.IsFloatFree → v.IsBuiltBy add → w = v)
  | .null, depth, s, _, _, _ => ⟨.null, by rw [readValue]; rfl, fun _ _ => rfl⟩
  | .boolean true, depth, s, _, _, _ => ⟨.boolean true, by rw [readValue]; rfl, fun _ _ => rfl⟩
  | .boolean false, depth, s, _, _, _ => ⟨.boolean false, by rw [readValue]; rfl, fun _ _ => rfl⟩
  | .number x, depth, s, _, hs, hnum => by
    obtain ⟨y, hy, hread⟩ := hnum x (List.mem_singleton_self x)
    refine ⟨.number y, by rw [print_number, hread add depth s hs], fun hfree _ => ?_⟩
    rw [hy (hfree x (List.mem_singleton_self x))]
  | .string t, depth, s, _, _, _ => by
    refine ⟨.string t, ?_, fun _ _ => rfl⟩
    rw [print_string, quoted, List.cons_append, List.cons_append, List.append_assoc, readValue]
    change (scanString (escaped (Bytes.ofString t) ++ 34 :: s)).map _ = _
    rw [scanString_escaped]
    rfl
  | .array [], depth + 1, s, _, _, _ => ⟨.array [], by rw [readValue]; rfl, fun _ _ => rfl⟩
  | .array (v :: r), depth + 1, s, hd, _, hnum => by
    rw [Value.depth, depthItems, Nat.add_le_add_iff_right, Nat.max_le] at hd
    rw [numbers, numbersOfItems, List.forall_mem_append] at hnum
    obtain ⟨w, hv, hw⟩ :=
      readValue_print v depth (itemsTail r ++ s) hd.1 (ends_itemsTail r s) hnum.1
    obtain ⟨fuel, hfuel, hread⟩ := readValue_array_cons add depth hnum.1 r s
    obtain ⟨ws, hr, hws⟩ := readItems_itemsTail r depth fuel [w] s hd.2 hfuel hnum.2
    refine ⟨.array (w :: ws), ?_, fun hfree hbuilt => ?_⟩
    · rw [hread, hv]
      exact congrArg (Except.map _) hr
    · rw [IsFloatFree, numbers, numbersOfItems, List.forall_mem_append] at hfree
      rw [hw hfree.1 hbuilt.1, hws hfree.2 hbuilt.2]
  | .object [], depth + 1, s, _, _, _ => ⟨.object [], by rw [readValue]; rfl, fun _ _ => rfl⟩
  | .object ((k, v) :: r), depth + 1, s, hd, _, hnum => by
    rw [Value.depth, depthEntries, Nat.add_le_add_iff_right, Nat.max_le] at hd
    rw [numbers, numbersOfEntries, List.forall_mem_append] at hnum
    obtain ⟨w, hv, hw⟩ := readValue_print v depth (entriesTail r ++ s) hd.1 (ends_entriesTail r s)
      hnum.1
    obtain ⟨fuel, hfuel, hread⟩ := readValue_object_cons add depth k v r s
    obtain ⟨m, hr, hm⟩ := readEntries_entriesTail r depth fuel (add k w []) s hd.2 hfuel hnum.2
    refine ⟨.object m, ?_, fun hfree hbuilt => ?_⟩
    · rw [hread, hv]
      exact congrArg (Except.map _) hr
    · rw [IsFloatFree, numbers, numbersOfEntries, List.forall_mem_append] at hfree
      rw [IsBuiltBy, AreEntriesBuiltBy] at hbuilt
      rw [hm hfree.2 hbuilt.2.2, hw hfree.1 hbuilt.2.1]
      exact congrArg Value.object hbuilt.1

theorem readItems_itemsTail : ∀ (r : List Value) (depth fuel : Nat) (held : List Value) (s : Bytes),
    depthItems r ≤ depth → r.length < fuel → (∀ x ∈ numbersOfItems r, x.Rereads) →
    ∃ ws, readItems (readValue add depth) fuel false held (itemsTail r ++ s) =
        .ok (held.reverse ++ ws, s) ∧
      ((∀ x ∈ numbersOfItems r, x.isInteger = true) → AreBuiltBy add r → ws = r)
  | [], depth, fuel + 1, held, s, _, _, _ => by
    refine ⟨[], ?_, fun _ _ => rfl⟩
    rw [List.append_nil]
    rfl
  | v :: r, depth, fuel + 1, held, s, hd, hfuel, hnum => by
    rw [depthItems, Nat.max_le] at hd
    rw [numbersOfItems, List.forall_mem_append] at hnum
    obtain ⟨w, hv, hw⟩ :=
      readValue_print v depth (itemsTail r ++ s) hd.1 (ends_itemsTail r s) hnum.1
    obtain ⟨ws, hr, hws⟩ := readItems_itemsTail r depth fuel (w :: held) s hd.2
      (Nat.lt_of_succ_lt_succ hfuel) hnum.2
    refine ⟨w :: ws, ?_, fun hfree hbuilt => ?_⟩
    · rw [readItems_itemsTail_cons _ fuel held hnum.1, hv]
      refine hr.trans ?_
      rw [List.reverse_cons, List.append_assoc, List.singleton_append]
    · rw [numbersOfItems, List.forall_mem_append] at hfree
      rw [hw hfree.1 hbuilt.1, hws hfree.2 hbuilt.2]

theorem readEntries_entriesTail : ∀ (r : List (String × Value)) (depth fuel : Nat) (held : Object)
    (s : Bytes), depthEntries r ≤ depth → r.length < fuel →
    (∀ x ∈ numbersOfEntries r, x.Rereads) →
    ∃ m, readEntries add (readValue add depth) fuel false held (entriesTail r ++ s) = .ok (m, s) ∧
      ((∀ x ∈ numbersOfEntries r, x.isInteger = true) → AreEntriesBuiltBy add r →
        m = r.foldl (fun m e => add e.1 e.2 m) held)
  | [], depth, fuel + 1, held, s, _, _, _ => ⟨held, rfl, fun _ _ => rfl⟩
  | (k, v) :: r, depth, fuel + 1, held, s, hd, hfuel, hnum => by
    rw [depthEntries, Nat.max_le] at hd
    rw [numbersOfEntries, List.forall_mem_append] at hnum
    obtain ⟨w, hv, hw⟩ := readValue_print v depth (entriesTail r ++ s) hd.1 (ends_entriesTail r s)
      hnum.1
    obtain ⟨m, hr, hm⟩ := readEntries_entriesTail r depth fuel (add k w held) s hd.2
      (Nat.lt_of_succ_lt_succ hfuel) hnum.2
    refine ⟨m, ?_, fun hfree hbuilt => ?_⟩
    · rw [readEntries_entriesTail_cons, hv]
      exact hr
    · rw [numbersOfEntries, List.forall_mem_append] at hfree
      rw [hm hfree.2 hbuilt.2, hw hfree.1 hbuilt.1]
      rfl

end

/-! ## Values that nest too deep -/

theorem readValue_zero_array (s : Bytes) :
    readValue add 0 (91 :: s) = .error (.next .recursionLimit (91 :: s)) := by
  rw [readValue]
  rfl

theorem readValue_zero_object (s : Bytes) :
    readValue add 0 (123 :: s) = .error (.next .recursionLimit (123 :: s)) := by
  rw [readValue]
  rfl

mutual

/-- A written value in which more arrays and objects nest than the reader lets is refused for
    that. -/
theorem readValue_print_of_deep : ∀ (v : Value) (depth : Nat) (s : Bytes), depth < v.depth →
    (∀ x ∈ v.numbers, x.Rereads) →
    ∃ f, readValue add depth (v.print ++ s) = .error f ∧ f.reason = .recursionLimit
  | .null, _, _, hd, _ | .boolean _, _, _, hd, _ | .number _, _, _, hd, _
  | .string _, _, _, hd, _ => absurd hd (Nat.not_lt_zero _)
  | .array [], 0, s, _, _ => by
    rw [print_array_nil]
    exact ⟨_, readValue_zero_array add _, rfl⟩
  | .array [], depth + 1, s, hd, _ => absurd hd (by simp [Value.depth, depthItems])
  | .array (v :: r), 0, s, _, _ => by
    rw [print_array_cons]
    exact ⟨_, readValue_zero_array add _, rfl⟩
  | .array (v :: r), depth + 1, s, hd, hnum => by
    rw [Value.depth, depthItems, Nat.add_lt_add_iff_right, lt_max_iff] at hd
    rw [numbers, numbersOfItems, List.forall_mem_append] at hnum
    obtain ⟨fuel, hfuel, hread⟩ := readValue_array_cons add depth hnum.1 r s
    rw [hread]
    rcases Nat.lt_or_ge depth v.depth with hdeep | hle
    · obtain ⟨f, hv, hf⟩ := readValue_print_of_deep v depth (itemsTail r ++ s) hdeep hnum.1
      rw [hv]
      exact ⟨f, rfl, hf⟩
    · -- The first item is read, and one of the others is refused.
      obtain ⟨w, hv, _⟩ := readValue_print add v depth (itemsTail r ++ s) hle
        (ends_itemsTail r s) hnum.1
      obtain ⟨f, hr, hf⟩ := readItems_itemsTail_of_deep r depth fuel [w] s
        (hd.resolve_left (Nat.not_lt.2 hle)) hfuel hnum.2
      rw [hv]
      exact ⟨f, congrArg (Except.map _) hr, hf⟩
  | .object [], 0, s, _, _ => by
    rw [print_object_nil]
    exact ⟨_, readValue_zero_object add _, rfl⟩
  | .object [], depth + 1, s, hd, _ => absurd hd (by simp [Value.depth, depthEntries])
  | .object ((k, v) :: r), 0, s, _, _ => by
    rw [print_object_cons]
    exact ⟨_, readValue_zero_object add _, rfl⟩
  | .object ((k, v) :: r), depth + 1, s, hd, hnum => by
    rw [Value.depth, depthEntries, Nat.add_lt_add_iff_right, lt_max_iff] at hd
    rw [numbers, numbersOfEntries, List.forall_mem_append] at hnum
    obtain ⟨fuel, hfuel, hread⟩ := readValue_object_cons add depth k v r s
    rw [hread]
    rcases Nat.lt_or_ge depth v.depth with hdeep | hle
    · obtain ⟨f, hv, hf⟩ := readValue_print_of_deep v depth (entriesTail r ++ s) hdeep hnum.1
      rw [hv]
      exact ⟨f, rfl, hf⟩
    · obtain ⟨w, hv, _⟩ := readValue_print add v depth (entriesTail r ++ s) hle
        (ends_entriesTail r s) hnum.1
      obtain ⟨f, hr, hf⟩ := readEntries_entriesTail_of_deep r depth fuel (add k w []) s
        (hd.resolve_left (Nat.not_lt.2 hle)) hfuel hnum.2
      rw [hv]
      exact ⟨f, congrArg (Except.map _) hr, hf⟩

theorem readItems_itemsTail_of_deep : ∀ (r : List Value) (depth fuel : Nat) (held : List Value)
    (s : Bytes), depth < depthItems r → r.length < fuel →
    (∀ x ∈ numbersOfItems r, x.Rereads) →
    ∃ f, readItems (readValue add depth) fuel false held (itemsTail r ++ s) = .error f ∧
      f.reason = .recursionLimit
  | v :: r, depth, fuel + 1, held, s, hd, hfuel, hnum => by
    rw [depthItems, lt_max_iff] at hd
    rw [numbersOfItems, List.forall_mem_append] at hnum
    rw [readItems_itemsTail_cons _ fuel held hnum.1]
    rcases Nat.lt_or_ge depth v.depth with hdeep | hle
    · obtain ⟨f, hv, hf⟩ := readValue_print_of_deep v depth (itemsTail r ++ s) hdeep hnum.1
      rw [hv]
      exact ⟨f, rfl, hf⟩
    · obtain ⟨w, hv, _⟩ := readValue_print add v depth (itemsTail r ++ s) hle
        (ends_itemsTail r s) hnum.1
      obtain ⟨f, hr, hf⟩ := readItems_itemsTail_of_deep r depth fuel (w :: held) s
        (hd.resolve_left (Nat.not_lt.2 hle)) (Nat.lt_of_succ_lt_succ hfuel) hnum.2
      rw [hv]
      exact ⟨f, hr, hf⟩

theorem readEntries_entriesTail_of_deep : ∀ (r : List (String × Value)) (depth fuel : Nat)
    (held : Object) (s : Bytes), depth < depthEntries r → r.length < fuel →
    (∀ x ∈ numbersOfEntries r, x.Rereads) →
    ∃ f, readEntries add (readValue add depth) fuel false held (entriesTail r ++ s) = .error f ∧
      f.reason = .recursionLimit
  | (k, v) :: r, depth, fuel + 1, held, s, hd, hfuel, hnum => by
    rw [depthEntries, lt_max_iff] at hd
    rw [numbersOfEntries, List.forall_mem_append] at hnum
    rw [readEntries_entriesTail_cons]
    rcases Nat.lt_or_ge depth v.depth with hdeep | hle
    · obtain ⟨f, hv, hf⟩ := readValue_print_of_deep v depth (entriesTail r ++ s) hdeep hnum.1
      rw [hv]
      exact ⟨f, rfl, hf⟩
    · obtain ⟨w, hv, _⟩ := readValue_print add v depth (entriesTail r ++ s) hle
        (ends_entriesTail r s) hnum.1
      obtain ⟨f, hr, hf⟩ := readEntries_entriesTail_of_deep r depth fuel (add k w held) s
        (hd.resolve_left (Nat.not_lt.2 hle)) (Nat.lt_of_succ_lt_succ hfuel) hnum.2
      rw [hv]
      exact ⟨f, hr, hf⟩

end

variable {add} {v w : Value}

theorem rereads_of_isFloatFree (hfree : v.IsFloatFree) : ∀ x ∈ v.numbers, x.Rereads := by
  intro x hx
  cases x with
  | integer n fits => exact rereads_integer n fits
  | float x => exact absurd (hfree _ hx) Bool.false_ne_true

/-- An exact value is read as it was written, from a text that goes on where it ends. -/
theorem readValue_print_eq {depth : Nat} (hd : v.depth ≤ depth) (hfree : v.IsFloatFree)
    (hbuilt : v.IsBuiltBy add) {s : Bytes} (hs : Ends s) :
    readValue add depth (v.print ++ s) = .ok (v, s) := by
  obtain ⟨w, hread, hw⟩ := readValue_print add v depth s hd hs (rereads_of_isFloatFree hfree)
  rw [hread, hw hfree hbuilt]

theorem foldl_keepAll (entries held : Object) :
    entries.foldl (fun m e => keepAll e.1 e.2 m) held = held ++ entries := by
  induction entries generalizing held with
  | nil => exact (List.append_nil held).symm
  | cons e entries ih =>
    rw [List.foldl_cons, ih, keepAll, List.append_assoc]
    rfl

theorem foldl_put (entries held : Object) (h : (Entries.keys (held ++ entries)).Nodup) :
    entries.foldl (fun m e => Entries.put e.1 e.2 m) held = held ++ entries := by
  induction entries generalizing held with
  | nil => exact (List.append_nil held).symm
  | cons e entries ih =>
    have hnew : e.1 ∉ Entries.keys held := by
      rw [Entries.keys, List.map_append, List.nodup_append] at h
      exact fun he => h.2.2 e.1 he e.1 List.mem_cons_self rfl
    rw [List.foldl_cons, Entries.put_of_not_mem hnew, ih, List.append_assoc]
    · rfl
    · rwa [List.append_assoc]

mutual

/-- A reader of which the last of repeated keys counts builds the objects whose keys are
    distinct. -/
theorem isBuiltBy_put : ∀ v : Value, v.HasDistinctKeys → v.IsBuiltBy Entries.put
  | .null, _ | .boolean _, _ | .number _, _ | .string _, _ => trivial
  | .array items, h => areBuiltBy_put items h
  | .object entries, h => ⟨foldl_put entries [] h.1, areEntriesBuiltBy_put entries h.2⟩

theorem areBuiltBy_put : ∀ r : List Value, HaveDistinctKeys r → AreBuiltBy Entries.put r
  | [], _ => trivial
  | v :: r, h => ⟨isBuiltBy_put v h.1, areBuiltBy_put r h.2⟩

theorem areEntriesBuiltBy_put : ∀ r : List (String × Value), EntriesHaveDistinctKeys r →
    AreEntriesBuiltBy Entries.put r
  | [], _ => trivial
  | (_, v) :: r, h => ⟨isBuiltBy_put v h.1, areEntriesBuiltBy_put r h.2⟩

end

mutual

/-- A reader that keeps repeated keys builds every object. -/
theorem isBuiltBy_keepAll : ∀ v : Value, v.IsBuiltBy keepAll
  | .null | .boolean _ | .number _ | .string _ => trivial
  | .array items => areBuiltBy_keepAll items
  | .object entries => by
    have hkept := foldl_keepAll entries []
    exact ⟨hkept, areEntriesBuiltBy_keepAll entries⟩

theorem areBuiltBy_keepAll : ∀ r : List Value, AreBuiltBy keepAll r
  | [] => trivial
  | v :: r => ⟨isBuiltBy_keepAll v, areBuiltBy_keepAll r⟩

theorem areEntriesBuiltBy_keepAll : ∀ r : List (String × Value), AreEntriesBuiltBy keepAll r
  | [] => trivial
  | (_, v) :: r => ⟨isBuiltBy_keepAll v, areEntriesBuiltBy_keepAll r⟩

end

theorem ends_nil : Ends [] := fun b hb => absurd hb (by simp)

/-- Different values are written differently, floating-point numbers apart. -/
theorem print_inj (hv : v.IsFloatFree) (hw : w.IsFloatFree) (h : v.print = w.print) : v = w := by
  have hread := readValue_print_eq (Nat.le_max_left v.depth w.depth) hv (isBuiltBy_keepAll v)
    ends_nil
  have hread' := readValue_print_eq (Nat.le_max_right v.depth w.depth) hw (isBuiltBy_keepAll w)
    ends_nil
  rw [h, hread'] at hread
  exact (Prod.mk.inj (Except.ok.inj hread)).1.symm

/-! ## Whole texts -/

theorem read_of_readValue {text : Bytes}
    (h : readValue Entries.put nestingLimit text = .ok (v, [])) : Value.read text = .ok v := by
  rw [Value.read, h]
  rfl

/-- A written value that nests no deeper than a text may is read again. -/
theorem exists_read_print (hd : v.depth ≤ nestingLimit) (hnum : ∀ x ∈ v.numbers, x.Rereads) :
    ∃ w, Value.read v.print = .ok w := by
  obtain ⟨w, hread, _⟩ := readValue_print Entries.put v nestingLimit [] hd ends_nil hnum
  rw [List.append_nil] at hread
  exact ⟨w, read_of_readValue hread⟩

/-- It is read as the value that it was if there are no floating-point numbers in it and no
    repeated keys. -/
theorem read_print (hd : v.depth ≤ nestingLimit) (hfree : v.IsFloatFree)
    (hkeys : v.HasDistinctKeys) : Value.read v.print = .ok v := by
  have hread := readValue_print_eq hd hfree (isBuiltBy_put v hkeys) ends_nil
  rw [List.append_nil] at hread
  exact read_of_readValue hread

/-- A written value that nests deeper is refused for that. -/
theorem read_print_of_deep (hd : nestingLimit < v.depth) (hnum : ∀ x ∈ v.numbers, x.Rereads) :
    ∃ f, Value.read v.print = .error f ∧ f.reason = .recursionLimit := by
  obtain ⟨f, hread, hf⟩ := readValue_print_of_deep Entries.put v nestingLimit [] hd hnum
  rw [List.append_nil] at hread
  exact ⟨f.locate v.print, by rw [Value.read, hread], hf⟩

end Testbed.Json
