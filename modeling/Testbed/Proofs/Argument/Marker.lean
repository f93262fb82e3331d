import Testbed.Handle
import Testbed.Json.Value
import Mathlib.Data.List.Basic

/-!
# Markers in values

Which handles a value speaks of. A marker may stand anywhere in a value, except as a key
of an object, and may be filled with zeros (`Handle.IsMarker`).

* `Value.texts`: the texts that occur in a value, from left to right;
* `Value.canonical`: the value with every marker written without zeros in front;
* `ofMarker?_eq_some_iff`: which texts are markers, and of which handle.
-/

namespace Testbed

/-- The text is a marker of the handle: `@` and decimal digits that denote its number,
    with any number of zeros in front. -/
def Handle.IsMarker (h : Handle) (text : String) : Prop :=
  ∃ digits, text.toList = '@' :: digits ∧ digits ≠ [] ∧ digits.all Handle.isDigit = true ∧
    Handle.decimal digits = h.number.toNat

theorem Handle.ofMarker?_eq_some_iff {text : String} {h : Handle} :
    Handle.ofMarker? text = some h ↔ h.IsMarker text := by
  constructor
  · intro ht
    rw [Handle.ofMarker?] at ht
    split at ht
    case h_1 digits hl =>
      split at ht
      case isTrue hd =>
        obtain rfl := Option.some.inj ht
        refine ⟨digits, hl, hd.1, hd.2.1, ?_⟩
        rw [UInt64.toNat_ofNat_of_lt' hd.2.2]
      case isFalse => exact absurd ht (by simp)
    case h_2 => exact absurd ht (by simp)
  · rintro ⟨digits, hl, hne, hd, hn⟩
    have hlt : Handle.decimal digits < UInt64.size := hn ▸ h.number.toNat_lt
    simp only [Handle.ofMarker?, hl]
    rw [if_pos ⟨hne, hd, hlt⟩, hn, UInt64.ofNat_toNat]

namespace Json.Value

mutual

/-- The texts that occur in a value, at any depth, from left to right; keys are not
    among them. -/
def texts : Value → List String
  | .string s => [s]
  | .array items => textsOfItems items
  | .object entries => textsOfEntries entries
  | _ => []

/-- The texts that occur in items. -/
def textsOfItems : List Value → List String
  | [] => []
  | v :: r => texts v ++ textsOfItems r

/-- The texts that occur in the values of entries. -/
def textsOfEntries : List (String × Value) → List String
  | [] => []
  | (_, v) :: r => texts v ++ textsOfEntries r

end

theorem mem_textsOfEntries {text : String} {m : List (String × Value)} :
    text ∈ textsOfEntries m ↔ ∃ e ∈ m, text ∈ e.2.texts := by
  induction m with
  | nil => simp [textsOfEntries]
  | cons e r ih =>
    obtain ⟨k, v⟩ := e
    simp [textsOfEntries, ih]

/-- A text as it is written: a marker without zeros in front. -/
def canonicalText (s : String) : String :=
  match Handle.ofMarker? s with
  | some h => h.marker
  | none => s

mutual

/-- A value with every marker written without zeros in front. -/
def canonical : Value → Value
  | .string s => .string (canonicalText s)
  | .array items => .array (canonicalItems items)
  | .object entries => .object (canonicalEntries entries)
  | v => v

/-- Items with every marker written without zeros in front. -/
def canonicalItems : List Value → List Value
  | [] => []
  | v :: r => canonical v :: canonicalItems r

/-- Entries with every marker in their values written without zeros in front. -/
def canonicalEntries : List (String × Value) → List (String × Value)
  | [] => []
  | (k, v) :: r => (k, canonical v) :: canonicalEntries r

end

end Json.Value

end Testbed
