import Testbed.Argument.Access
import Testbed.Protocol.Request
import Testbed.Proofs.Argument.Image
import Testbed.Proofs.Json.Nesting

/-!
# How deep arguments nest

A request line holds an object, its arguments stand in an object in that, and so each of them
nests two levels less deep than a text may (`Request.fitsIn_of_parse`). To resolve an argument
replaces texts in it, which changes neither how deep it nests nor the numbers in it; what is
made of it in JSON fits where the argument did.

* `Arguments.FitsIn`: resolved arguments of which this is so, and what is read of them.
-/

namespace Testbed

open Json

namespace Argument

variable {n : Nat} {r : Registry}

/-! ## Images -/

mutual

/-- What becomes of a value when it is resolved and told again fits where the value did. -/
theorem fitsIn_toJson_image :
    ∀ (v : Value) {n : Nat}, v.FitsIn n → (image r v).toJson.FitsIn n
  | .null, _, h | .boolean _, _, h | .number _, _, h => h
  | .string text, n, _ => by
    rw [image]
    rcases imageText_eq (r := r) text with ⟨o, ho, _⟩ | ⟨hs, _⟩
    · rw [ho]
      exact Value.fitsIn_string _
    · rw [hs]
      exact Value.fitsIn_string _
  | .array items, 0, h => absurd h.depth (Nat.not_succ_le_zero _)
  | .array items, n + 1, h =>
    Value.fitsIn_array_iff.2 (fitsIn_itemsToJson_image items (Value.fitsIn_array_iff.1 h))
  | .object entries, 0, h => absurd h.depth (Nat.not_succ_le_zero _)
  | .object entries, n + 1, h =>
    Value.fitsIn_object_iff.2 (fitsIn_entriesToJson_image entries (Value.fitsIn_object_iff.1 h))

theorem fitsIn_itemsToJson_image : ∀ (items : List Value) {n : Nat}, (∀ v ∈ items, v.FitsIn n) →
    ∀ v ∈ Resolved.itemsToJson (imageItems r items), v.FitsIn n
  | [], _, _ => fun v hv => absurd hv List.not_mem_nil
  | v :: items, n, h => by
    rw [List.forall_mem_cons] at h
    rw [imageItems, Resolved.itemsToJson, List.forall_mem_cons]
    exact ⟨fitsIn_toJson_image v h.1, fitsIn_itemsToJson_image items h.2⟩

theorem fitsIn_entriesToJson_image : ∀ (entries : List (String × Value)) {n : Nat},
    (∀ e ∈ entries, e.2.FitsIn n) →
    ∀ e ∈ Resolved.entriesToJson (imageEntries r entries), e.2.FitsIn n
  | [], _, _ => fun e he => absurd he List.not_mem_nil
  | (k, v) :: entries, n, h => by
    rw [List.forall_mem_cons] at h
    rw [imageEntries, Resolved.entriesToJson, List.forall_mem_cons]
    exact ⟨fitsIn_toJson_image v h.1, fitsIn_entriesToJson_image entries h.2⟩

end

/-! ## Resolved arguments -/

namespace Arguments

variable {a : Arguments} {name : String}

/-- What resolved arguments are in JSON nests at most so deep, with finite numbers. -/
def FitsIn (n : Nat) (a : Arguments) : Prop := ∀ e ∈ a.values, e.2.toJson.FitsIn n

/-- Resolved arguments fit where the arguments of the request did. -/
theorem fitsIn_of_resolve {signature : Signature} {bag : Bag} (hbag : ∀ e ∈ bag, e.2.FitsIn n)
    (ha : resolve r signature bag = .ok a) : a.FitsIn n := by
  obtain ⟨_, rfl⟩ := resolve_eq_ok_arguments_iff.1 ha
  intro e he
  obtain ⟨e', he', rfl⟩ := List.mem_map.1 he
  exact fitsIn_toJson_image e'.2 (hbag e' he')

theorem FitsIn.get? (h : a.FitsIn n) {v : Resolved} (hv : a.get? name = some v) :
    v.toJson.FitsIn n := by
  rw [Arguments.get?, raw?] at hv
  cases hraw : Entries.get? name a.values with
  | none => simp [hraw] at hv
  | some w =>
    simp only [hraw] at hv
    split at hv
    case isTrue => exact absurd hv (by simp)
    case isFalse =>
      obtain rfl := Option.some.inj hv
      exact h (name, w) (Entries.mem_of_get? hraw)

/-- What a reader yields it has extracted from the argument of the name. -/
theorem typed_eq_ok_some_iff {α : Type} {expected : String} {extract : Resolved → Option α}
    {x : α} : a.typed name expected extract = .ok (some x) ↔
      ∃ v, a.get? name = some v ∧ extract v = some x := by
  rw [typed]
  cases a.get? name with
  | none => simp
  | some v => cases hx : extract v <;> simp [hx]

/-- The entries of a mapping among the arguments nest one level less deep. -/
theorem FitsIn.mapping? (h : a.FitsIn n) {content : Option (List (String × Resolved))}
    (hc : a.mapping? name = .ok content) :
    ∀ e ∈ Resolved.entriesToJson (content.getD []), e.2.FitsIn (n - 1) := by
  cases content with
  | none => exact fun e he => absurd he List.not_mem_nil
  | some entries =>
    -- Only a mapping has entries to extract.
    obtain ⟨v, hv, hentries⟩ := typed_eq_ok_some_iff.1 hc
    cases v with
    | mapping entries' =>
      obtain rfl := Option.some.inj hentries
      exact fun e he => (h.get? hv).mem_object he
    | null | boolean | number | string | object | sequence => exact absurd hentries nofun

/-- The items of a sequence among the arguments nest one level less deep. -/
theorem FitsIn.sequence? (h : a.FitsIn n) {content : Option (List Resolved)}
    (hc : a.sequence? name = .ok content) :
    ∀ v ∈ Resolved.itemsToJson (content.getD []), v.FitsIn (n - 1) := by
  cases content with
  | none => exact fun v hv => absurd hv List.not_mem_nil
  | some items =>
    obtain ⟨v, hv, hitems⟩ := typed_eq_ok_some_iff.1 hc
    cases v with
    | sequence items' =>
      obtain rfl := Option.some.inj hitems
      exact fun w hw => (h.get? hv).mem_array hw
    | null | boolean | number | string | object | mapping => exact absurd hitems nofun

end Arguments

end Argument

/-! ## Requests -/

namespace Protocol.Request

variable {request : Request}

theorem fitsIn_of_ofObject {n : Nat} {entries : Json.Object} (he : ∀ e ∈ entries, e.2.FitsIn n)
    (h : ofObject entries = .ok request) : ∀ e ∈ request.arguments, e.2.FitsIn (n - 1) := by
  rw [ofObject] at h
  split at h
  case h_1 => exact absurd h nofun
  case h_2 =>
    split at h
    case h_1 name bag hname hbag =>
      obtain rfl := Except.ok.inj h
      exact fun e hmem => (he _ (Entries.mem_of_get? hbag)).mem_object hmem
    case h_2 =>
      obtain rfl := Except.ok.inj h
      exact fun e hmem => absurd hmem List.not_mem_nil
    case h_3 => exact absurd h nofun

/-- The arguments of a request nest two levels less deep than a text may. -/
theorem fitsIn_of_parse {line : Bytes} (h : parse line = .ok request) :
    ∀ e ∈ request.arguments, e.2.FitsIn (nestingLimit - 2) := by
  rw [parse] at h
  split at h
  case isTrue => exact absurd h nofun
  case isFalse =>
    cases hread : Value.read (Bytes.trimEnd line) with
    | error f => exact absurd (hread ▸ h) nofun
    | ok v =>
      rw [hread] at h
      cases v with
      | object entries =>
        exact fitsIn_of_ofObject (fun e he => (fitsIn_of_read hread).mem_object he) h
      | null | boolean | number | string | array => exact absurd h nofun

end Protocol.Request

end Testbed
