import Testbed.Argument.Resolve
import Testbed.Proofs.Argument.Marker
import Testbed.Proofs.Entries

/-!
# What is wrong with arguments

Whether a bag of raw arguments serves a signature depends on no more than which handles
are live and of which kind the objects are that they name (`Directory`). Of all that is
wrong with a bag, `complaint?` tells what a driver is told: a required argument that is
missing, and otherwise the first argument at fault, of which a marker that names nothing
counts before a wrong shape.
-/

namespace Testbed.Argument

open Json

/-- What counts as missing is absent or `null`. -/
theorem eq_none_or_null {v? : Option Value} (h : v?.all Value.isNull = true) :
    v? = none ∨ v? = some .null := by
  rcases v? with _ | (_ | _ | _ | _ | _ | _)
  case some.null => exact .inr rfl
  case none => exact .inl rfl
  all_goals exact absurd h (by simp [Value.isNull])

/-- What does not count as missing is a value. -/
theorem exists_of_present {v? : Option Value} (h : v?.all Value.isNull = false) :
    ∃ v, v? = some v ∧ v.isNull = false := by
  cases v? with
  | none => exact absurd h (by simp)
  | some v => exact ⟨v, rfl, h⟩

/-- Which handles are live, and the kind of the object that each names. -/
abbrev Directory := Handle → Option Tag

namespace Directory

variable (dir : Directory)

/-- The kind of the live object that a text names, if it is a marker of one. -/
def named? (text : String) : Option Tag := (Handle.ofMarker? text).bind dir

/-- What a value is for a driver: its shape, or the kind of the object that it names. -/
def kindName : Value → String
  | .null => "null"
  | .boolean _ => "boolean"
  | .number _ => "number"
  | .string text =>
    match dir.named? text with
    | some tag => tag.name
    | none => "string"
  | .array _ => "sequence"
  | .object _ => "mapping"

/-- Whether a value has a shape. -/
def fits : Kind → Value → Bool
  | .any, _ => true
  | .boolean, .boolean _ => true
  | .number, .number _ => true
  | .integer, .number x => x.isInteger
  | .string, .string text => (dir.named? text).isNone
  | .sequence, .array _ => true
  | .mapping, .object _ => true
  | .object tag, .string text => dir.named? text = some tag
  | .anyObject, .string text => (dir.named? text).isSome
  | _, _ => false

/-- Whether a value serves a parameter: `null` does for an optional one. -/
def admits (p : Param) (v : Value) : Bool := (v.isNull && !p.required) || dir.fits p.kind v

/-- The first marker among texts that names nothing. -/
def deadAmong? (texts : List String) : Option Handle :=
  (texts.filterMap Handle.ofMarker?).find? fun h => (dir h).isNone

/-- The first marker in a value that names nothing. -/
def dead? (v : Value) : Option Handle := dir.deadAmong? v.texts

/-- What is wrong with an argument. -/
def fault? (signature : Signature) (argument : String × Value) : Option Error :=
  match dir.dead? argument.2 with
  | some h => some (.unknownHandle argument.1 h)
  | none =>
    match signature.param? argument.1 with
    | none => none
    | some p =>
      if dir.admits p argument.2 then none
      else some (.typeMismatch p.name p.kind.text (dir.kindName argument.2))

/-- What a driver is told to be wrong with a bag. -/
def complaint? (signature : Signature) (bag : Bag) : Option Error :=
  match signature.find? fun p => p.required && (Entries.get? p.name bag).all Value.isNull with
  | some p => some (.missing p.name)
  | none => bag.findSome? (dir.fault? signature)

variable {dir} {signature : Signature} {bag : Bag} {name : String} {kind : Kind} {p : Param}
  {v : Value}

theorem deadAmong?_append (l l' : List String) :
    dir.deadAmong? (l ++ l') = (dir.deadAmong? l).or (dir.deadAmong? l') := by
  rw [deadAmong?, List.filterMap_append, List.find?_append, deadAmong?, deadAmong?]

/-- No marker in an argument of a bag without fault names nothing. -/
theorem dead?_eq_none_of_complaint? (h : dir.complaint? signature bag = none)
    {argument : String × Value} (ha : argument ∈ bag) : dir.dead? argument.2 = none := by
  rw [complaint?] at h
  split at h
  case h_1 => exact absurd h (by simp)
  case h_2 =>
    have hf := List.findSome?_eq_none_iff.1 h argument ha
    rw [fault?] at hf
    split at hf
    case h_1 => exact absurd hf (by simp)
    case h_2 hd => exact hd

/-- A dead marker anywhere in a bag is enough for a complaint. -/
theorem complaint?_of_dead {h : Handle} (hdead : dir h = none) {text : String}
    (hm : h.IsMarker text) (ht : text ∈ Value.textsOfEntries bag) :
    ∃ e, dir.complaint? signature bag = some e := by
  cases hc : dir.complaint? signature bag with
  | some e => exact ⟨e, rfl⟩
  | none =>
    -- No marker in any argument is dead then, but this one is.
    obtain ⟨argument, ha, ht⟩ := Value.mem_textsOfEntries.1 ht
    have hd := dead?_eq_none_of_complaint? hc ha
    rw [dead?, deadAmong?, List.find?_eq_none] at hd
    have hh := hd h (List.mem_filterMap.2 ⟨text, ht, Handle.ofMarker?_eq_some_iff.2 hm⟩)
    exact absurd hdead (by simpa using hh)

/-- What a bag without fault gives to a declared parameter serves it. -/
theorem admits_of_complaint? (h : dir.complaint? signature bag = none)
    (hp : signature.param? name = some p) (hv : Entries.get? name bag = some v) :
    dir.admits p v = true := by
  rw [complaint?] at h
  split at h
  case h_1 => exact absurd h (by simp)
  case h_2 =>
    have hf := List.findSome?_eq_none_iff.1 h _ (Entries.mem_of_get? hv)
    rw [fault?] at hf
    split at hf
    case h_1 => exact absurd hf (by simp)
    case h_2 =>
      rw [hp] at hf
      by_contra ha
      simp [ha] at hf

/-- A bag without fault gives a required parameter a value of its shape. -/
theorem exists_fits_of_complaint? (h : dir.complaint? signature bag = none)
    (hp : signature.param? name = some ⟨name, kind, true⟩) :
    ∃ v, Entries.get? name bag = some v ∧ v.isNull = false ∧ dir.fits kind v = true := by
  have hmem : ⟨name, kind, true⟩ ∈ signature := List.mem_of_find?_eq_some hp
  have hsupplied : (Entries.get? name bag).all Value.isNull = false := by
    rw [complaint?] at h
    split at h
    case h_1 => exact absurd h (by simp)
    case h_2 hnone => simpa using List.find?_eq_none.1 hnone _ hmem
  obtain ⟨v, hv, hnull⟩ := exists_of_present hsupplied
  have ha := admits_of_complaint? h hp hv
  rw [admits, hnull] at ha
  exact ⟨v, hv, hnull, by simpa using ha⟩

/-- A bag without fault gives an optional parameter a value of its shape, or nothing. -/
theorem fits_or_missing_of_complaint? (h : dir.complaint? signature bag = none)
    (hp : signature.param? name = some ⟨name, kind, false⟩) :
    (∃ v, Entries.get? name bag = some v ∧ v.isNull = false ∧ dir.fits kind v = true) ∨
    (Entries.get? name bag).all Value.isNull = true := by
  cases hv : Entries.get? name bag with
  | none => exact .inr rfl
  | some v =>
    have ha := admits_of_complaint? h hp hv
    rw [admits] at ha
    cases hn : v.isNull with
    | true => exact .inr (by simpa using hn)
    | false => exact .inl ⟨v, rfl, hn, by simpa [hn] using ha⟩

end Directory

end Testbed.Argument
