import Testbed.Json.Printer
import Mathlib.Data.List.Basic

/-!
# What is written

The writer pushes octets backwards; here is what it writes, from the front. A written value
is made of the written values in it, and holds no control character, hence no line feed.

* `pushValue_eq`: what is pushed stands behind what was there;
* `print_array_cons`, `print_object_cons`: lists and objects as written;
* `isNumeral_text`: numbers are written with digits, signs, points and the letter `e`;
* `isPrintable_print`: every octet written is at least that of the blank.
-/

namespace Testbed

namespace Bytes

theorem ofString_append (s t : String) : ofString (s ++ t) = ofString s ++ ofString t := by
  simp [ofString]

/-- The octets of ASCII characters are their numbers. -/
theorem ofString_ofList {l : List Char} (h : ∀ c ∈ l, c.toNat ≤ 127) :
    ofString (String.ofList l) = l.map fun c => UInt8.ofNat c.toNat := by
  have hencode : ofString (String.ofList l) = l.flatMap String.utf8EncodeChar := by
    simp [ofString, List.utf8Encode]
  rw [hencode]
  induction l with
  | nil => rfl
  | cons c l ih =>
    rw [List.forall_mem_cons] at h
    have hc : String.utf8EncodeChar c = [UInt8.ofNat c.toNat] := by
      rw [String.utf8EncodeChar]
      exact if_pos h.1
    rw [List.flatMap_cons, hc, List.map_cons, ih h.2 (by simp [ofString, List.utf8Encode])]
    rfl

end Bytes

namespace Json

open Printer

/-- The octets of a string as they stand between its quotes. -/
def escaped (octets : Bytes) : Bytes := octets.flatMap escapeOctet

/-- A string as written. -/
def quoted (s : String) : Bytes := 34 :: escaped (Bytes.ofString s) ++ [34]

/-- What stands after the first item of a list. -/
def itemsTail (items : List Value) : Bytes := (items.flatMap fun v => 44 :: v.print) ++ [93]

/-- What stands after the first entry of an object. -/
def entriesTail (entries : List (String × Value)) : Bytes :=
  (entries.flatMap fun e => 44 :: quoted e.1 ++ 58 :: e.2.print) ++ [125]

namespace Printer

theorem push_eq (s out : Bytes) : push s out = s.reverse ++ out := List.reverseAux_eq

theorem pushEscaped_eq (octets out : Bytes) :
    pushEscaped octets out = (escaped octets).reverse ++ out := by
  induction octets generalizing out with
  | nil => rfl
  | cons b r ih =>
    rw [pushEscaped, ih, push_eq, escaped, escaped, List.flatMap_cons, List.reverse_append,
      List.append_assoc]

theorem pushString_eq (s : String) (out : Bytes) :
    pushString s out = (quoted s).reverse ++ out := by
  rw [pushString, pushEscaped_eq, quoted]
  simp

mutual

/-- A value is pushed onto what was written before without looking at it. -/
theorem pushValue_append : ∀ (v : Value) (out : Bytes), pushValue v out = pushValue v [] ++ out
  | .null, out => by simp [pushValue, push_eq]
  | .boolean true, out => by simp [pushValue, push_eq]
  | .boolean false, out => by simp [pushValue, push_eq]
  | .number x, out => by simp [pushValue, push_eq]
  | .string s, out => by simp [pushValue, pushString_eq]
  | .array [], out => rfl
  | .array (v :: r), out => by
    rw [pushValue, pushValue, pushItems_append, pushValue_append v (91 :: out),
      pushItems_append r (pushValue v [91]), pushValue_append v [91]]
    simp
  | .object [], out => rfl
  | .object ((k, v) :: r), out => by
    rw [pushValue, pushValue, pushEntries_append,
      pushValue_append v (58 :: pushString k (123 :: out)),
      pushEntries_append r (pushValue v (58 :: pushString k [123])),
      pushValue_append v (58 :: pushString k [123]), pushString_eq, pushString_eq]
    simp

theorem pushItems_append : ∀ (r : List Value) (out : Bytes), pushItems r out = pushItems r [] ++ out
  | [], out => rfl
  | v :: r, out => by
    rw [pushItems, pushItems, pushItems_append r (pushValue v (44 :: out)),
      pushItems_append r (pushValue v [44]), pushValue_append v (44 :: out),
      pushValue_append v [44]]
    simp

theorem pushEntries_append : ∀ (r : List (String × Value)) (out : Bytes),
    pushEntries r out = pushEntries r [] ++ out
  | [], out => rfl
  | (k, v) :: r, out => by
    rw [pushEntries, pushEntries,
      pushEntries_append r (pushValue v (58 :: pushString k (44 :: out))),
      pushEntries_append r (pushValue v (58 :: pushString k [44])),
      pushValue_append v (58 :: pushString k (44 :: out)),
      pushValue_append v (58 :: pushString k [44]), pushString_eq, pushString_eq]
    simp

end

/-- What is pushed is the value as written, last octet first. -/
theorem pushValue_eq (v : Value) (out : Bytes) : pushValue v out = v.print.reverse ++ out := by
  rw [Value.print, List.reverse_reverse, pushValue_append]

theorem pushItems_eq (r : List Value) (out : Bytes) :
    pushItems r out = (itemsTail r).reverse ++ out := by
  induction r generalizing out with
  | nil => rfl
  | cons v r ih => simp [pushItems, ih, pushValue_eq, itemsTail]

theorem pushEntries_eq (r : List (String × Value)) (out : Bytes) :
    pushEntries r out = (entriesTail r).reverse ++ out := by
  induction r generalizing out with
  | nil => rfl
  | cons e r ih => simp [pushEntries, ih, pushValue_eq, pushString_eq, entriesTail]

end Printer

theorem itemsTail_cons (v : Value) (r : List Value) :
    itemsTail (v :: r) = 44 :: (v.print ++ itemsTail r) := by
  simp [itemsTail]

theorem entriesTail_cons (k : String) (v : Value) (r : List (String × Value)) :
    entriesTail ((k, v) :: r) = 44 :: (quoted k ++ 58 :: (v.print ++ entriesTail r)) := by
  simp [entriesTail]

namespace Value

theorem print_number (x : Number) : print (.number x) = Bytes.ofString x.text := by
  rw [print, pushValue, push_eq, List.append_nil, List.reverse_reverse]

theorem print_string (s : String) : print (.string s) = quoted s := by
  rw [print, pushValue, pushString_eq, List.append_nil, List.reverse_reverse]

theorem print_array_nil : print (.array []) = [91, 93] := rfl

theorem print_object_nil : print (.object []) = [123, 125] := rfl

theorem print_array_cons (v : Value) (r : List Value) :
    print (.array (v :: r)) = 91 :: (v.print ++ itemsTail r) := by
  rw [print, pushValue, pushItems_eq, pushValue_eq]
  simp

theorem print_object_cons (k : String) (v : Value) (r : List (String × Value)) :
    print (.object ((k, v) :: r)) = 123 :: (quoted k ++ 58 :: (v.print ++ entriesTail r)) := by
  rw [print, pushValue, pushEntries_eq, pushValue_eq, pushString_eq]
  simp

end Value

/-! ## Numbers as written -/

/-- The characters that numbers are written with. -/
def isNumeral (c : Char) : Bool := c.isDigit || c ∈ ['-', '+', '.', 'e']

theorem isNumeral_of_isDigit {c : Char} (h : c.isDigit = true) : isNumeral c = true := by
  rw [isNumeral, h, Bool.true_or]

theorem toNat_of_isNumeral {c : Char} (h : isNumeral c = true) :
    32 ≤ c.toNat ∧ c.toNat ≤ 127 := by
  rw [isNumeral, Bool.or_eq_true] at h
  rcases h with h | h
  · rw [Char.isDigit, Bool.and_eq_true, decide_eq_true_iff, decide_eq_true_iff] at h
    have h₁ : 48 ≤ c.toNat := h.1
    have h₂ : c.toNat ≤ 57 := h.2
    omega
  · simp only [List.mem_cons, List.not_mem_nil, or_false, decide_eq_true_iff] at h
    rcases h with rfl | rfl | rfl | rfl <;> decide

theorem isNumeral_toDigits (n : Nat) : ∀ c ∈ Nat.toDigits 10 n, isNumeral c = true := fun _ hc =>
  isNumeral_of_isDigit (Nat.isDigit_of_mem_toDigits (by decide) (by decide) hc)

section Decimal

open Decimal

theorem isNumeral_render (layout : Shortest.Layout) (d : Digits) :
    ∀ c ∈ (layout.render d).toList, isNumeral c = true := by
  have hzeros : ∀ n, ∀ c ∈ List.replicate n '0', isNumeral c = true := fun n c hc =>
    (List.eq_of_mem_replicate hc) ▸ rfl
  have htext := isNumeral_toDigits d.digits
  rw [Shortest.Layout.render]
  split
  case isTrue =>
    split
    case isTrue =>
      rw [String.toList_ofList, List.forall_mem_append, List.forall_mem_append]
      exact ⟨⟨List.all_eq_true.1 rfl, hzeros _⟩, htext⟩
    case isFalse =>
      split
      case isTrue =>
        rw [String.toList_ofList, List.forall_mem_append, List.forall_mem_append]
        exact ⟨⟨htext, hzeros _⟩, List.all_eq_true.1 rfl⟩
      case isFalse =>
        rw [String.toList_ofList, List.forall_mem_append, List.forall_mem_append]
        exact ⟨⟨fun c hc => htext c (List.mem_of_mem_take hc), List.all_eq_true.1 rfl⟩,
          fun c hc => htext c (List.mem_of_mem_drop hc)⟩
  case isFalse =>
    rw [String.toList_ofList, List.forall_mem_append, List.forall_mem_append,
      List.forall_mem_append]
    refine ⟨⟨⟨?_, List.all_eq_true.1 rfl⟩, ?_⟩, isNumeral_toDigits _⟩
    case refine_2 =>
      split
      · exact List.all_eq_true.1 rfl
      · exact List.all_eq_true.1 rfl
    split
    case h_1 heq => rwa [heq] at htext
    case h_2 heq =>
      rw [heq, List.forall_mem_cons] at htext
      exact List.forall_mem_cons.2 ⟨htext.1, List.forall_mem_cons.2 ⟨rfl, htext.2⟩⟩
    case h_3 => exact fun c hc => absurd hc List.not_mem_nil

theorem isNumeral_format (layout : Shortest.Layout) (x : Double) :
    ∀ c ∈ (Shortest.format layout x).toList, isNumeral c = true := by
  have hmagnitude : ∀ c ∈ (if x.isZero then "0.0" else
      layout.render (Shortest.digits x)).toList, isNumeral c = true := by
    split
    case isTrue => exact List.all_eq_true.1 (by decide)
    case isFalse => exact isNumeral_render layout _
  rw [Shortest.format]
  split
  case isTrue =>
    rw [String.toList_append, List.forall_mem_append]
    exact ⟨List.all_eq_true.1 (by decide), hmagnitude⟩
  case isFalse => exact hmagnitude

end Decimal

theorem isNumeral_text (x : Number) : ∀ c ∈ x.text.toList, isNumeral c = true := by
  cases x with
  | float x => exact isNumeral_format _ x
  | integer n fits =>
    rw [Number.text, Int.toString_eq_repr]
    cases n with
    | ofNat m =>
      rw [Int.repr, Nat.toList_repr]
      exact isNumeral_toDigits m
    | negSucc m =>
      rw [Int.repr, String.toList_append, List.forall_mem_append, Nat.toList_repr]
      exact ⟨List.all_eq_true.1 (by decide), isNumeral_toDigits _⟩

theorem ofString_text (x : Number) :
    Bytes.ofString x.text = x.text.toList.map fun c => UInt8.ofNat c.toNat := by
  have hoctets := Bytes.ofString_ofList fun c hc => (toNat_of_isNumeral (isNumeral_text x c hc)).2
  rwa [String.ofList_toList] at hoctets

/-! ## No control characters -/

/-- Whether no octet is a control character. -/
def IsPrintable (octets : Bytes) : Prop := ∀ b ∈ octets, 32 ≤ b

theorem IsPrintable.nil : IsPrintable [] := fun _ h => absurd h List.not_mem_nil

theorem IsPrintable.of_all {s : Bytes} (h : (s.all fun b => 32 ≤ b) = true) : IsPrintable s :=
  fun b hb => of_decide_eq_true (List.all_eq_true.1 h b hb)

theorem IsPrintable.append {s t : Bytes} (hs : IsPrintable s) (ht : IsPrintable t) :
    IsPrintable (s ++ t) :=
  List.forall_mem_append.2 ⟨hs, ht⟩

theorem IsPrintable.cons {b : UInt8} {s : Bytes} (hb : 32 ≤ b) (hs : IsPrintable s) :
    IsPrintable (b :: s) :=
  List.forall_mem_cons.2 ⟨hb, hs⟩

theorem IsPrintable.lineFeed_not_mem {s : Bytes} (h : IsPrintable s) : Bytes.lineFeed ∉ s :=
  fun hs => absurd (h _ hs) (by decide)

theorem isPrintable_text (x : Number) : IsPrintable (Bytes.ofString x.text) := by
  rw [ofString_text]
  intro b hb
  obtain ⟨c, hc, rfl⟩ := List.mem_map.1 hb
  obtain ⟨hlow, hhigh⟩ := toNat_of_isNumeral (isNumeral_text x c hc)
  rw [UInt8.le_iff_toNat_le, UInt8.toNat_ofNat_of_lt' (Nat.lt_of_le_of_lt hhigh (by decide))]
  exact hlow

theorem le_hexDigit : ∀ n < 16, 32 ≤ hexDigit n := by decide

theorem isPrintable_escapeOctet (b : UInt8) : IsPrintable (escapeOctet b) := by
  rw [escapeOctet]
  split
  case h_1 letter h =>
    have hletter : 32 ≤ letter := by
      unfold escapeLetter? at h
      split_ifs at h <;> cases h <;> decide
    exact .cons (by decide) (.cons hletter .nil)
  case h_2 =>
    split
    case isTrue hlt =>
      have hb : b.toNat < 32 := hlt
      have hhex := le_hexDigit (b.toNat / 16) (by omega)
      have hhex' := le_hexDigit (b.toNat % 16) (by omega)
      have hfixed : IsPrintable [92, 117, 48, 48] := .of_all rfl
      exact hfixed.append (.cons hhex (.cons hhex' .nil))
    case isFalse hle =>
      exact .cons (UInt8.not_lt.1 hle) .nil

theorem isPrintable_quoted (s : String) : IsPrintable (quoted s) := by
  have hquote : IsPrintable [34] := .cons (by decide) .nil
  refine .append (.cons (by decide) fun b hb => ?_) hquote
  obtain ⟨octet, _, hb⟩ := List.mem_flatMap.1 hb
  exact isPrintable_escapeOctet octet b hb

mutual

/-- A written value holds no control character. -/
theorem isPrintable_print : ∀ v : Value, IsPrintable v.print
  | .null | .boolean true | .boolean false | .array [] | .object [] => .of_all rfl
  | .number x => by
    rw [Value.print_number]
    exact isPrintable_text x
  | .string s => by
    rw [Value.print_string]
    exact isPrintable_quoted s
  | .array (v :: r) => by
    rw [Value.print_array_cons]
    exact .cons (by decide) ((isPrintable_print v).append (isPrintable_itemsTail r))
  | .object ((k, v) :: r) => by
    rw [Value.print_object_cons]
    exact .cons (by decide) ((isPrintable_quoted k).append (.cons (by decide)
      ((isPrintable_print v).append (isPrintable_entriesTail r))))

theorem isPrintable_itemsTail : ∀ r : List Value, IsPrintable (itemsTail r)
  | [] => .cons (by decide) .nil
  | v :: r => by
    rw [itemsTail_cons]
    exact .cons (by decide) ((isPrintable_print v).append (isPrintable_itemsTail r))

theorem isPrintable_entriesTail : ∀ r : List (String × Value), IsPrintable (entriesTail r)
  | [] => .cons (by decide) .nil
  | (k, v) :: r => by
    rw [entriesTail_cons]
    exact .cons (by decide) ((isPrintable_quoted k).append (.cons (by decide)
      ((isPrintable_print v).append (isPrintable_entriesTail r))))

end

end Json

end Testbed
