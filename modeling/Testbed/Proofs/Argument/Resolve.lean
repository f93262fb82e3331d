import Testbed.Proofs.Argument.Check
import Testbed.Proofs.Registry.Labels

/-!
# What resolving comes to

Resolving a value yields its image, which has its shape and holds a live object where the
value has a marker (`image`), unless a marker names nothing; resolving a bag yields the
image of every argument, unless there is a complaint about the bag.

* `resolveValue_eq`, `resolve_eq`: what resolving a value and a bag comes to;
* `toJson_image`: the image in JSON is the value with its markers in canonical form.
-/

namespace Testbed

/-- Which handles of a registry are live, and the kind of the object that each names. -/
def Registry.directory (r : Registry) : Argument.Directory :=
  fun h => (Entries.get? h r.live).map LiveObject.tag

namespace Argument

open Json

variable (r : Registry)

/-- The image of a text: the live object that it names, or itself. -/
def imageText (text : String) : Resolved :=
  match (Handle.ofMarker? text).bind fun h => Entries.get? h r.live with
  | some object => .object object
  | none => .string text

mutual

/-- The image of a value: each marker of a live object is replaced by the object. -/
def image : Value → Resolved
  | .null => .null
  | .boolean b => .boolean b
  | .number x => .number x
  | .string text => imageText r text
  | .array items => .sequence (imageItems items)
  | .object entries => .mapping (imageEntries entries)

/-- The images of items. -/
def imageItems : List Value → List Resolved
  | [] => []
  | v :: l => image v :: imageItems l

/-- The images of the values of entries. -/
def imageEntries : List (String × Value) → List (String × Resolved)
  | [] => []
  | (k, v) :: l => (k, image v) :: imageEntries l

end

variable {r} {name : String}

/-! ## Values -/

theorem directory_isNone (h : Handle) :
    (r.directory h).isNone = (Entries.get? h r.live).isNone := by
  rw [Registry.directory, Option.isNone_map]

theorem resolveText_eq (text : String) :
    resolveText r name text =
      match r.directory.dead? (.string text) with
      | some h => .error (.unknownHandle name h)
      | none => .ok (imageText r text) := by
  rw [resolveText, Directory.dead?, Directory.deadAmong?, Value.texts, imageText]
  cases hm : Handle.ofMarker? text with
  | none => simp [hm]
  | some h =>
    cases hg : Entries.get? h r.live with
    | none => simp [hm, hg, directory_isNone, Registry.resolve, Error.ofHandle]
    | some o => simp [hm, hg, directory_isNone, Registry.resolve]

mutual

/-- Resolving a value fails at the first marker that names nothing, and yields the image of
    the value where there is none. -/
theorem resolveValue_eq : ∀ v : Value, resolveValue r name v =
    match r.directory.dead? v with
    | some h => .error (.unknownHandle name h)
    | none => .ok (image r v)
  | .null | .boolean _ | .number _ => rfl
  | .string text => by rw [resolveValue, resolveText_eq, image]
  | .array items => by
    rw [resolveValue, resolveItems_eq items, image, Directory.dead?, Value.texts]
    cases r.directory.deadAmong? (Value.textsOfItems items) <;> rfl
  | .object entries => by
    rw [resolveValue, resolveEntries_eq entries, image, Directory.dead?, Value.texts]
    cases r.directory.deadAmong? (Value.textsOfEntries entries) <;> rfl

theorem resolveItems_eq : ∀ items : List Value, resolveItems r name items =
    match r.directory.deadAmong? (Value.textsOfItems items) with
    | some h => .error (.unknownHandle name h)
    | none => .ok (imageItems r items)
  | [] => rfl
  | v :: l => by
    rw [resolveItems, resolveValue_eq v, resolveItems_eq l, Value.textsOfItems,
      Directory.deadAmong?_append, Directory.dead?, imageItems]
    cases r.directory.deadAmong? v.texts with
    | some h => rfl
    | none => cases r.directory.deadAmong? (Value.textsOfItems l) <;> rfl

theorem resolveEntries_eq : ∀ entries : List (String × Value), resolveEntries r name entries =
    match r.directory.deadAmong? (Value.textsOfEntries entries) with
    | some h => .error (.unknownHandle name h)
    | none => .ok (imageEntries r entries)
  | [] => rfl
  | (k, v) :: l => by
    rw [resolveEntries, resolveValue_eq v, resolveEntries_eq l, Value.textsOfEntries,
      Directory.deadAmong?_append, Directory.dead?, imageEntries]
    cases r.directory.deadAmong? v.texts with
    | some h => rfl
    | none => cases r.directory.deadAmong? (Value.textsOfEntries l) <;> rfl

end

/-! ## The shape of images -/

theorem imageText_eq (text : String) :
    (∃ o, imageText r text = .object o ∧ r.directory.named? text = some o.tag ∧
      ∃ h, Handle.ofMarker? text = some h ∧ Entries.get? h r.live = some o) ∨
    (imageText r text = .string text ∧ r.directory.named? text = none) := by
  rw [imageText, Directory.named?]
  cases hm : Handle.ofMarker? text with
  | none => exact .inr ⟨rfl, rfl⟩
  | some h =>
    cases hg : Entries.get? h r.live with
    | none => exact .inr ⟨by simp [hg], by simp [Registry.directory, hg]⟩
    | some o => exact .inl ⟨o, by simp [hg], by simp [Registry.directory, hg], h, rfl, hg⟩

theorem isNull_image (v : Value) : (image r v).isNull = v.isNull := by
  cases v with
  | string text =>
    rw [image]
    rcases imageText_eq (r := r) text with ⟨o, ho, _⟩ | ⟨hs, _⟩
    · rw [ho]; rfl
    · rw [hs]; rfl
  | null | boolean | number | array | object => rfl

theorem kindName_image (v : Value) : (image r v).kindName = r.directory.kindName v := by
  cases v with
  | string text =>
    rw [image, Directory.kindName]
    rcases imageText_eq (r := r) text with ⟨o, ho, hn, _⟩ | ⟨hs, hn⟩
    · rw [ho, hn]; rfl
    · rw [hs, hn]; rfl
  | null | boolean | number | array | object => rfl

theorem accepts_image (kind : Kind) (v : Value) :
    kind.accepts (image r v) = r.directory.fits kind v := by
  cases v with
  | string text =>
    rw [image]
    rcases imageText_eq (r := r) text with ⟨o, ho, hn, _⟩ | ⟨hs, hn⟩
    · rw [ho]; cases kind <;> simp [Kind.accepts, Directory.fits, hn]
    · rw [hs]; cases kind <;> simp [Kind.accepts, Directory.fits, hn]
  | null | boolean | number | array | object => cases kind <;> rfl

theorem admits_image (p : Param) (v : Value) :
    p.admits (image r v) = r.directory.admits p v := by
  rw [Param.admits, Directory.admits, isNull_image, accepts_image]

/-! ## Bags -/

/-- The resolved arguments of a bag without fault. -/
def arguments (r : Registry) (bag : Bag) : Arguments := ⟨Entries.mapValues (image r) bag⟩

variable {signature : Signature} {bag : Bag}

theorem resolveArgument_eq (raw : Value) :
    resolveArgument r signature name raw =
      match r.directory.fault? signature (name, raw) with
      | some e => .error e
      | none => .ok (image r raw) := by
  rw [resolveArgument, resolveValue_eq, Directory.fault?]
  cases r.directory.dead? raw with
  | some h => rfl
  | none =>
    cases signature.param? name with
    | none => rfl
    | some p =>
      simp only [admits_image, Param.complaint, kindName_image]
      cases r.directory.admits p raw <;> rfl

theorem resolveBag_eq : resolveBag r signature bag =
    match bag.findSome? (r.directory.fault? signature) with
    | some e => .error e
    | none => .ok (Entries.mapValues (image r) bag) := by
  induction bag with
  | nil => rfl
  | cons argument bag ih =>
    obtain ⟨name, raw⟩ := argument
    rw [resolveBag, resolveArgument_eq, ih, List.findSome?_cons]
    cases r.directory.fault? signature (name, raw) with
    | some e => rfl
    | none => cases List.findSome? (r.directory.fault? signature) bag <;> rfl

theorem firstMissing?_eq : signature.firstMissing? bag =
    signature.find? fun p => p.required && (Entries.get? p.name bag).all Value.isNull := by
  rw [Signature.firstMissing?]
  congr 1
  funext p
  rw [Bag.supplies]
  cases Entries.get? p.name bag <;> simp

/-- Resolving a bag reports what is wrong with it, and yields the images of its arguments
    where nothing is. -/
theorem resolve_eq : resolve r signature bag =
    match r.directory.complaint? signature bag with
    | some e => .error e
    | none => .ok (arguments r bag) := by
  rw [resolve, firstMissing?_eq, resolveBag_eq, Directory.complaint?]
  cases signature.find? fun p => p.required && (Entries.get? p.name bag).all Value.isNull with
  | some p => rfl
  | none => cases bag.findSome? (r.directory.fault? signature) <;> rfl

/-! ## Images in JSON -/

theorem toJson_imageText (hr : r.Labelled) {text : String}
    (hd : r.directory.dead? (.string text) = none) :
    (imageText r text).toJson = .string (Value.canonicalText text) := by
  rcases imageText_eq (r := r) text with ⟨o, ho, _, h, hm, hg⟩ | ⟨hs, hn⟩
  · rw [ho, Resolved.toJson, hr hg, Value.canonicalText, hm]
  · -- A marker that is not dead names an object, so the text is no marker.
    have hm : Handle.ofMarker? text = none := by
      cases hm : Handle.ofMarker? text with
      | none => rfl
      | some h =>
        simp [Directory.named?, hm] at hn
        simp [Directory.dead?, Directory.deadAmong?, Value.texts, hm, hn] at hd
    rw [hs, Resolved.toJson, Value.canonicalText, hm]

mutual

/-- The image of a value in JSON is the value with its markers in canonical form. -/
theorem toJson_image (hr : r.Labelled) :
    ∀ v : Value, r.directory.dead? v = none → (image r v).toJson = v.canonical
  | .null, _ | .boolean _, _ | .number _, _ => rfl
  | .string _, hd => by rw [image, toJson_imageText hr hd, Value.canonical]
  | .array items, hd => by
    rw [Directory.dead?, Value.texts] at hd
    rw [image, Resolved.toJson, itemsToJson_image hr items hd, Value.canonical]
  | .object entries, hd => by
    rw [Directory.dead?, Value.texts] at hd
    rw [image, Resolved.toJson, entriesToJson_image hr entries hd, Value.canonical]

theorem itemsToJson_image (hr : r.Labelled) : ∀ items : List Value,
    r.directory.deadAmong? (Value.textsOfItems items) = none →
    Resolved.itemsToJson (imageItems r items) = Value.canonicalItems items
  | [], _ => rfl
  | v :: l, hd => by
    rw [Value.textsOfItems, Directory.deadAmong?_append, Option.or_eq_none_iff] at hd
    rw [imageItems, Resolved.itemsToJson, toJson_image hr v hd.1, itemsToJson_image hr l hd.2,
      Value.canonicalItems]

theorem entriesToJson_image (hr : r.Labelled) : ∀ entries : List (String × Value),
    r.directory.deadAmong? (Value.textsOfEntries entries) = none →
    Resolved.entriesToJson (imageEntries r entries) = Value.canonicalEntries entries
  | [], _ => rfl
  | (k, v) :: l, hd => by
    rw [Value.textsOfEntries, Directory.deadAmong?_append, Option.or_eq_none_iff] at hd
    rw [imageEntries, Resolved.entriesToJson, toJson_image hr v hd.1,
      entriesToJson_image hr l hd.2, Value.canonicalEntries]

end

end Argument

end Testbed
