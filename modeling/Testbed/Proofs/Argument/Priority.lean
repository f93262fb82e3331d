import Testbed.Proofs.Argument.Image

/-!
# Which fault is reported

More than one thing may be wrong with the arguments of a request, but a driver is told of one
only. What is required and missing comes first, in the order of the declarations, and the
registry is not asked for it. After that the arguments count in the driver's order, and of one
argument a marker that names nothing counts before a wrong shape.

* `IsFault`: what is wrong with an argument, said of the images of values;
* `dead?_eq_some_iff`: the first marker that names nothing, from left to right;
* `first_fault_is_reported`: the error with which arguments do not resolve.
-/

namespace Testbed.Argument

open Json

/-- The bag gives the name nothing, or `null`. -/
def Bag.Lacks (name : String) (bag : Bag) : Prop :=
  Entries.get? name bag = none ∨ Entries.get? name bag = some .null

/-- The parameter is required, and the bag does not give it a value. -/
def Param.IsMissing (bag : Bag) (p : Param) : Prop := p.required = true ∧ bag.Lacks p.name

/-- The handle has a marker in the value and names nothing, and every marker to the left of
    it names a live object. -/
def IsFirstDead (r : Registry) (v : Value) (h : Handle) : Prop :=
  ∃ before text after, v.texts = before ++ text :: after ∧ h.IsMarker text ∧
    r.resolve h = .error (.unknown h) ∧
    ∀ earlier ∈ before, ∀ g : Handle, g.IsMarker earlier → ∃ o, r.resolve g = .ok o

/-- What is wrong with an argument: its first marker that names nothing, or, if it has an
    image, that this is not what the first parameter declared under its name asks for. -/
inductive IsFault (r : Registry) (signature : Signature) (name : String) (raw : Value) :
    Error → Prop
  | dead {h : Handle} (hd : IsFirstDead r raw h) :
    IsFault r signature name raw (.unknownHandle name h)
  | mismatch {p : Param} {v : Resolved} (hp : signature.DeclaresFirst name p)
    (hv : IsImage r raw v) (hkind : p.kind.accepts v = false)
    (hnull : p.required = true ∨ v ≠ .null) :
    IsFault r signature name raw (.typeMismatch name p.kind.text v.kindName)

variable {r : Registry} {signature : Signature} {bag : Bag} {name : String} {raw : Value}

/-! ## Single arguments -/

theorem resolve_eq_error_iff {h : Handle} {e : HandleError} :
    r.resolve h = .error e ↔ Entries.get? h r.live = none ∧ e = .unknown h := by
  rw [Registry.resolve]
  cases Entries.get? h r.live <;> simp [eq_comm]

theorem dead?_eq_some_iff {h : Handle} : r.directory.dead? raw = some h ↔ IsFirstDead r raw h := by
  have hlive : ∀ text : String, (Handle.ofMarker? text).any (fun g => (r.directory g).isNone) =
      false ↔ ∀ g : Handle, g.IsMarker text → ∃ o, r.resolve g = .ok o := by
    intro text
    simp only [← Handle.ofMarker?_eq_some_iff, resolve_eq_ok_iff]
    cases Handle.ofMarker? text with
    | none => simp
    | some g => simp [directory_isNone, Option.isSome_iff_exists]
  rw [Directory.dead?, Directory.deadAmong?, List.find?_filterMap, Option.bind_eq_some_iff]
  constructor
  · rintro ⟨text, hfind, hm⟩
    obtain ⟨hdead, before, after, htexts, hbefore⟩ := List.find?_eq_some_iff_append.1 hfind
    rw [hm, Option.any_some, directory_isNone, Option.isNone_iff_eq_none] at hdead
    refine ⟨before, text, after, htexts, Handle.ofMarker?_eq_some_iff.1 hm,
      resolve_eq_error_iff.2 ⟨hdead, rfl⟩, fun earlier he => ?_⟩
    exact (hlive earlier).1 (by simpa using hbefore earlier he)
  · rintro ⟨before, text, after, htexts, hm, hdead, hbefore⟩
    rw [← Handle.ofMarker?_eq_some_iff] at hm
    refine ⟨text, List.find?_eq_some_iff_append.2 ⟨?_, before, after, htexts, ?_⟩, hm⟩
    · rw [hm, Option.any_some, directory_isNone, (resolve_eq_error_iff.1 hdead).1,
        Option.isNone_none]
    · intro earlier he
      rw [Bool.not_eq_true', hlive]
      exact hbefore earlier he

/-- The first parameter declared under a name has the name. -/
theorem name_of_param? {p : Param} (hp : signature.param? name = some p) : p.name = name := by
  simpa using List.find?_some hp

theorem admits_eq_false_iff {p : Param} {v : Resolved} :
    p.admits v = false ↔ p.kind.accepts v = false ∧ (p.required = true ∨ v ≠ .null) := by
  have hnull : v.isNull = false ↔ v ≠ .null := by cases v <;> simp [Resolved.isNull]
  rw [Param.admits, Bool.or_eq_false_iff, Bool.and_eq_false_iff, hnull, Bool.not_eq_false',
    and_comm, or_comm]

theorem fault?_eq_some_iff {e : Error} :
    r.directory.fault? signature (name, raw) = some e ↔ IsFault r signature name raw e := by
  constructor
  · intro h
    rw [Directory.fault?] at h
    cases hd : r.directory.dead? raw with
    | some g =>
      simp only [hd, Option.some.injEq] at h
      exact h ▸ .dead (dead?_eq_some_iff.1 hd)
    | none =>
      simp only [hd] at h
      cases hp : signature.param? name with
      | none => simp [hp] at h
      | some p =>
        simp only [hp, ← admits_image, ← kindName_image] at h
        split at h
        case isTrue => exact absurd h (by simp)
        case isFalse ha =>
          obtain rfl := Option.some.inj h
          obtain ⟨hkind, hnull⟩ := admits_eq_false_iff.1 (Bool.eq_false_iff.2 ha)
          rw [name_of_param? hp]
          exact .mismatch (param?_eq_some_iff.1 hp) ((isImage_iff raw _).2 ⟨hd, rfl⟩) hkind hnull
  · rintro (hd | ⟨hp, hv, hkind, hnull⟩)
    · rw [Directory.fault?, dead?_eq_some_iff.2 hd]
    · rw [← param?_eq_some_iff] at hp
      obtain ⟨hd, rfl⟩ := (isImage_iff raw _).1 hv
      have ha := admits_eq_false_iff.2 ⟨hkind, hnull⟩
      simp only [Directory.fault?, hd, hp, ← admits_image, ← kindName_image, ha]
      rw [if_neg Bool.false_ne_true, name_of_param? hp]

/-! ## Bags -/

theorem lacks_iff : bag.Lacks name ↔ (Entries.get? name bag).all Value.isNull = true := by
  refine ⟨?_, eq_none_or_null⟩
  rintro (h | h) <;> simp [h, Value.isNull]

theorem isMissing_iff {p : Param} :
    (p.required && (Entries.get? p.name bag).all Value.isNull) = true ↔ p.IsMissing bag := by
  rw [Bool.and_eq_true, ← lacks_iff, Param.IsMissing]

/-- Nothing that is required is missing when no parameter is the first such. -/
theorem find?_isMissing_eq_none_iff :
    signature.find? (fun p => p.required && (Entries.get? p.name bag).all Value.isNull) = none ↔
      ∀ p ∈ signature, ¬p.IsMissing bag := by
  rw [List.find?_eq_none]
  exact forall₂_congr fun p _ => not_congr isMissing_iff

theorem find?_isMissing_eq_some_iff {p : Param} :
    signature.find? (fun p => p.required && (Entries.get? p.name bag).all Value.isNull) = some p ↔
      ∃ earlier later, signature = earlier ++ p :: later ∧ p.IsMissing bag ∧
        ∀ q ∈ earlier, ¬q.IsMissing bag := by
  rw [List.find?_eq_some_iff_append, isMissing_iff]
  simp only [Bool.not_eq_true', ← Bool.not_eq_true, isMissing_iff]
  constructor
  · rintro ⟨hp, earlier, later, hsignature, hearlier⟩
    exact ⟨earlier, later, hsignature, hp, hearlier⟩
  · rintro ⟨earlier, later, hsignature, hp, hearlier⟩
    exact ⟨hp, earlier, later, hsignature, hearlier⟩

theorem findSome?_fault?_eq_some_iff {e : Error} :
    bag.findSome? (r.directory.fault? signature) = some e ↔
      ∃ earlier name raw later, bag = earlier ++ (name, raw) :: later ∧
        (∀ argument ∈ earlier, ∀ e', ¬IsFault r signature argument.1 argument.2 e') ∧
        IsFault r signature name raw e := by
  have hnone : ∀ argument : String × Value, r.directory.fault? signature argument = none ↔
      ∀ e', ¬IsFault r signature argument.1 argument.2 e' := fun argument => by
    rw [Option.eq_none_iff_forall_ne_some]
    exact forall_congr' fun e' => not_congr fault?_eq_some_iff
  rw [List.findSome?_eq_some_iff]
  constructor
  · rintro ⟨earlier, ⟨name, raw⟩, later, hbag, hfault, hearlier⟩
    exact ⟨earlier, name, raw, later, hbag, fun a ha => (hnone a).1 (hearlier a ha),
      fault?_eq_some_iff.1 hfault⟩
  · rintro ⟨earlier, name, raw, later, hbag, hearlier, hfault⟩
    exact ⟨earlier, (name, raw), later, hbag, fault?_eq_some_iff.2 hfault,
      fun a ha => (hnone a).2 (hearlier a ha)⟩

theorem complaint?_eq_some_iff {dir : Directory} {e : Error} :
    dir.complaint? signature bag = some e ↔
      (∃ p, signature.find? (fun p => p.required && (Entries.get? p.name bag).all Value.isNull) =
        some p ∧ e = .missing p.name) ∨
      (signature.find? (fun p => p.required && (Entries.get? p.name bag).all Value.isNull) = none ∧
        bag.findSome? (dir.fault? signature) = some e) := by
  rw [Directory.complaint?]
  cases signature.find? fun p => p.required && (Entries.get? p.name bag).all Value.isNull with
  | some p => simp [eq_comm]
  | none => simp

theorem resolve_eq_error_complaint_iff {e : Error} :
    resolve r signature bag = .error e ↔ r.directory.complaint? signature bag = some e := by
  rw [resolve_eq]
  cases r.directory.complaint? signature bag <;> simp

/-- Arguments that do not resolve are refused with one error. When required parameters are
    missing, it is that the first of them is, in the order of the declarations and whatever
    else is wrong. Otherwise it is about the first argument at fault, in the driver's order:
    its first marker that names nothing, from left to right, or, if all its markers name live
    objects, that its image is not of the kind declared under its name. The look-up of a
    handle fails in no other way than that it names nothing. -/
theorem first_fault_is_reported (r : Registry) (signature : Signature) (bag : Bag) :
    (∀ e, resolve r signature bag = .error e ↔
      (∃ earlier p later, signature = earlier ++ p :: later ∧ p.IsMissing bag ∧
        (∀ q ∈ earlier, ¬q.IsMissing bag) ∧ e = .missing p.name) ∨
      ((∀ p ∈ signature, ¬p.IsMissing bag) ∧
        ∃ earlier name raw later, bag = earlier ++ (name, raw) :: later ∧
          (∀ argument ∈ earlier, ∀ e', ¬IsFault r signature argument.1 argument.2 e') ∧
          IsFault r signature name raw e)) ∧
    ∀ h e, r.resolve h = .error e → e = .unknown h := by
  refine ⟨fun e => ?_, fun h e he => (resolve_eq_error_iff.1 he).2⟩
  rw [resolve_eq_error_complaint_iff, complaint?_eq_some_iff, find?_isMissing_eq_none_iff,
    findSome?_fault?_eq_some_iff]
  refine or_congr_left ?_
  constructor
  · rintro ⟨p, hp, he⟩
    obtain ⟨earlier, later, hsignature, hmissing, hearlier⟩ := find?_isMissing_eq_some_iff.1 hp
    exact ⟨earlier, p, later, hsignature, hmissing, hearlier, he⟩
  · rintro ⟨earlier, p, later, hsignature, hmissing, hearlier, he⟩
    exact ⟨p, find?_isMissing_eq_some_iff.2 ⟨earlier, later, hsignature, hmissing, hearlier⟩, he⟩

-- Both arguments are at fault. The driver gave the second one first, and it is reported.
example :
    let r := (({} : Registry).register ⟨0, .dictionary⟩).2
    resolve r [⟨"items", .sequence, true⟩, ⟨"target", .object ⟨"array"⟩, false⟩]
        [("target", .string "@01"), ("items", .array [.string "@9"])] =
      .error (.typeMismatch "target" "array" "dictionary") := rfl

end Testbed.Argument
