import Testbed.Argument.Access
import Testbed.Proofs.Argument.Resolve

/-!
# Reading resolved arguments

What a method reads from the arguments of a bag about which there is no complaint: for each
declared parameter, a reader of its kind finds what the bag gives to it. A required
parameter is always found; of an integer it remains to be seen whether it is negative.

* `typed_of_get?_eq_none` and the lemmas after it: what each reader finds under a name;
* `liveObject_arguments` and the lemmas after it: what it finds under a declared parameter.
-/

namespace Testbed.Argument

open Json

/-! ## Readers -/

namespace Arguments

variable {a : Arguments} {name : String}

theorem typed_of_get?_eq_none {α : Type} {expected : String} {extract : Resolved → Option α}
    (h : a.get? name = none) : a.typed name expected extract = .ok none := by
  simp only [typed, h]

theorem require_of_get? {v : Resolved} (h : a.get? name = some v) : a.require name = .ok v := by
  simp only [require, h]

theorem string?_of_get? {s : String} (h : a.get? name = some (.string s)) :
    a.string? name = .ok (some s) := by
  simp only [string?, typed, h]

theorem string_of_get? {s : String} (h : a.get? name = some (.string s)) :
    a.string name = .ok s := by
  rw [string, string?_of_get? h, required]

theorem sequence?_of_get? {items : List Resolved} (h : a.get? name = some (.sequence items)) :
    a.sequence? name = .ok (some items) := by
  simp only [sequence?, typed, h]

theorem mapping?_of_get? {entries : List (String × Resolved)}
    (h : a.get? name = some (.mapping entries)) : a.mapping? name = .ok (some entries) := by
  simp only [mapping?, typed, h]

theorem liveObject_of_get? {o : LiveObject} (h : a.get? name = some (.object o)) :
    a.liveObject name = .ok o := by
  simp only [liveObject, typed, h, required]

theorem object_of_get? {o : LiveObject} (h : a.get? name = some (.object o)) (type : ObjectType) :
    a.object type name =
      if o.object.type = type then .ok o.object
      else .error (.typeMismatch name type.tag.name o.tag.name) := by
  by_cases ht : o.object.type = type <;> simp [object, liveObject_of_get? h, LiveObject.as, ht]

theorem natural?_of_get? {n : Int} {fits : -9223372036854775808 ≤ n ∧ n < 18446744073709551616}
    (h : a.get? name = some (.number (.integer n fits))) :
    a.natural? name =
      if 0 ≤ n then .ok (some n.toNat)
      else .error (.typeMismatch name "non-negative integer" "number") := by
  by_cases hn : 0 ≤ n <;> simp [natural?, typed, h, Number.natural?, Resolved.kindName, hn]

theorem natural_of_get? {n : Int} {fits : -9223372036854775808 ≤ n ∧ n < 18446744073709551616}
    (h : a.get? name = some (.number (.integer n fits))) :
    a.natural name =
      if 0 ≤ n then .ok n.toNat
      else .error (.typeMismatch name "non-negative integer" "number") := by
  rw [natural, natural?_of_get? h]
  split <;> rfl

end Arguments

/-! ## Arguments of a bag -/

variable {r : Registry} {signature : Signature} {bag : Bag} {name : String} {v : Value}

theorem get?_arguments_of_present (hv : Entries.get? name bag = some v)
    (hn : v.isNull = false) : (arguments r bag).get? name = some (image r v) := by
  rw [Arguments.get?, Arguments.raw?, arguments, Entries.get?_mapValues, hv]
  simp [isNull_image, hn]

theorem get?_arguments_of_missing (hn : (Entries.get? name bag).all Value.isNull = true) :
    (arguments r bag).get? name = none := by
  rw [Arguments.get?, Arguments.raw?, arguments, Entries.get?_mapValues]
  cases hv : Entries.get? name bag with
  | none => rfl
  | some v =>
    rw [hv] at hn
    simp only [Option.map_some, isNull_image]
    exact if_pos hn

/-- A live object is found under the name of an argument that is its marker. -/
theorem liveObject_of_named {text : String} {tag : Tag}
    (hv : Entries.get? name bag = some (.string text))
    (hn : r.directory.named? text = some tag) :
    ∃ h o, Handle.ofMarker? text = some h ∧ Entries.get? h r.live = some o ∧ o.tag = tag ∧
      (arguments r bag).liveObject name = .ok o := by
  rcases imageText_eq (r := r) text with ⟨o, ho, ht, h, hm, hg⟩ | ⟨_, ht⟩
  · refine ⟨h, o, hm, hg, by simpa [hn] using ht.symm, ?_⟩
    exact Arguments.liveObject_of_get? (by rw [get?_arguments_of_present hv rfl, image, ho])
  · simp [hn] at ht

section Complaint

variable (name) (hc : r.directory.complaint? signature bag = none)
include hc

/-- A live object is found under a parameter that asks for any. -/
theorem liveObject_arguments (hp : signature.param? name = some ⟨name, .anyObject, true⟩) :
    ∃ text h o, Entries.get? name bag = some (.string text) ∧ Handle.ofMarker? text = some h ∧
      Entries.get? h r.live = some o ∧ (arguments r bag).liveObject name = .ok o := by
  obtain ⟨v, hv, _, hf⟩ := Directory.exists_fits_of_complaint? hc hp
  cases v with
  | string text =>
    obtain ⟨tag, hn⟩ := Option.isSome_iff_exists.1 hf
    obtain ⟨h, o, hm, hg, _, hl⟩ := liveObject_of_named hv hn
    exact ⟨text, h, o, hv, hm, hg, hl⟩
  | null | boolean | number | array | object => simp [Directory.fits] at hf

/-- A live object of the right kind is found under a parameter that asks for a kind. -/
theorem liveObject_arguments_of_tag {tag : Tag}
    (hp : signature.param? name = some ⟨name, .object tag, true⟩) :
    ∃ text h o, Entries.get? name bag = some (.string text) ∧ Handle.ofMarker? text = some h ∧
      Entries.get? h r.live = some o ∧ o.tag = tag ∧
      (arguments r bag).liveObject name = .ok o := by
  obtain ⟨v, hv, _, hf⟩ := Directory.exists_fits_of_complaint? hc hp
  cases v with
  | string text => exact ⟨text, by simpa [hv] using liveObject_of_named hv (of_decide_eq_true hf)⟩
  | null | boolean | number | array | object => simp [Directory.fits] at hf

/-- A text is found under a parameter that asks for one. -/
theorem string_arguments (hp : signature.param? name = some ⟨name, .string, true⟩) :
    ∃ text, Entries.get? name bag = some (.string text) ∧
      (arguments r bag).string name = .ok text := by
  obtain ⟨v, hv, hnull, hf⟩ := Directory.exists_fits_of_complaint? hc hp
  cases v with
  | string text =>
    rcases imageText_eq (r := r) text with ⟨o, _, hn, _⟩ | ⟨hs, _⟩
    · simp [Directory.fits, hn] at hf
    · refine ⟨text, hv, Arguments.string_of_get? ?_⟩
      rw [get?_arguments_of_present hv hnull, image, hs]
  | null | boolean | number | array | object => simp [Directory.fits] at hf

/-- An integer is found under a parameter that asks for one, and serves where a natural
    number is wanted unless it is negative. -/
theorem natural_arguments (hp : signature.param? name = some ⟨name, .integer, true⟩) :
    ∃ n fits, Entries.get? name bag = some (.number (.integer n fits)) ∧
      (arguments r bag).natural name =
        if 0 ≤ n then .ok n.toNat
        else .error (.typeMismatch name "non-negative integer" "number") := by
  obtain ⟨v, hv, hnull, hf⟩ := Directory.exists_fits_of_complaint? hc hp
  cases v with
  | number x =>
    cases x with
    | integer n fits =>
      exact ⟨n, fits, hv, Arguments.natural_of_get? (get?_arguments_of_present hv hnull)⟩
    | float x => simp [Directory.fits, Number.isInteger] at hf
  | null | boolean | string | array | object => simp [Directory.fits] at hf

/-- What is given to a parameter for a mapping is found, or nothing is given to it. -/
theorem mapping?_arguments (hp : signature.param? name = some ⟨name, .mapping, false⟩) :
    (∃ m, Entries.get? name bag = some (.object m) ∧
      (arguments r bag).mapping? name = .ok (some (imageEntries r m))) ∨
    ((Entries.get? name bag).all Value.isNull = true ∧
      (arguments r bag).mapping? name = .ok none) := by
  rcases Directory.fits_or_missing_of_complaint? hc hp with ⟨v, hv, hnull, hf⟩ | hn
  · cases v with
    | object m =>
      exact .inl ⟨m, hv, Arguments.mapping?_of_get? (get?_arguments_of_present hv hnull)⟩
    | null | boolean | number | string | array => simp [Directory.fits] at hf
  · exact .inr ⟨hn, Arguments.typed_of_get?_eq_none (get?_arguments_of_missing hn)⟩

/-- What is given to a parameter for a sequence is found, or nothing is given to it. -/
theorem sequence?_arguments (hp : signature.param? name = some ⟨name, .sequence, false⟩) :
    (∃ l, Entries.get? name bag = some (.array l) ∧
      (arguments r bag).sequence? name = .ok (some (imageItems r l))) ∨
    ((Entries.get? name bag).all Value.isNull = true ∧
      (arguments r bag).sequence? name = .ok none) := by
  rcases Directory.fits_or_missing_of_complaint? hc hp with ⟨v, hv, hnull, hf⟩ | hn
  · cases v with
    | array l =>
      exact .inl ⟨l, hv, Arguments.sequence?_of_get? (get?_arguments_of_present hv hnull)⟩
    | null | boolean | number | string | object => simp [Directory.fits] at hf
  · exact .inr ⟨hn, Arguments.typed_of_get?_eq_none (get?_arguments_of_missing hn)⟩

end Complaint

end Testbed.Argument
