import Testbed.Proofs.Argument.Resolve
import Testbed.Proofs.Dispatcher.Invocation

/-!
# When arguments resolve

A value turns into its image, which is told here by its shape alone and not by the way in
which it is reached (`IsImage`). Arguments resolve just when nothing that is required is
missing, no marker in them names nothing, and what is declared gets what it asks for; they
resolve to their images, and the registry is only read.

* `isImage_iff`: a value without dead markers has one image, and others have none;
* `param?_eq_some_iff`: the parameter that is looked up is the first declared under its name;
* `complaint?_eq_none_iff`: what it takes that there is no complaint about a bag;
* `resolve_succeeds_exactly`: when a bag resolves, and to what.
-/

namespace Testbed.Argument

open Json

mutual

/-- The image of a value. It has the shape of the value, with the scalars and the texts that
    are no markers in their places, and for each marker the live object that the registry
    has under the handle. -/
inductive IsImage (r : Registry) : Value → Resolved → Prop
  | null : IsImage r .null .null
  | boolean (b : Bool) : IsImage r (.boolean b) (.boolean b)
  | number (x : Number) : IsImage r (.number x) (.number x)
  | text {text : String} (hm : ∀ h : Handle, ¬h.IsMarker text) :
    IsImage r (.string text) (.string text)
  | marker {text : String} {h : Handle} {o : LiveObject} (hm : h.IsMarker text)
    (ho : r.resolve h = .ok o) : IsImage r (.string text) (.object o)
  | sequence {items : List Value} {images : List Resolved} (h : AreImages r items images) :
    IsImage r (.array items) (.sequence images)
  | mapping {entries : List (String × Value)} {images : List (String × Resolved)}
    (h : AreEntryImages r entries images) : IsImage r (.object entries) (.mapping images)

/-- The images of items, one for each and in their order. -/
inductive AreImages (r : Registry) : List Value → List Resolved → Prop
  | nil : AreImages r [] []
  | cons {v : Value} {image : Resolved} {items : List Value} {images : List Resolved}
    (hv : IsImage r v image) (h : AreImages r items images) :
    AreImages r (v :: items) (image :: images)

/-- The images of entries, one for each, under the same keys and in their order. -/
inductive AreEntryImages (r : Registry) : List (String × Value) → List (String × Resolved) → Prop
  | nil : AreEntryImages r [] []
  | cons {key : String} {v : Value} {image : Resolved} {entries : List (String × Value)}
    {images : List (String × Resolved)} (hv : IsImage r v image)
    (h : AreEntryImages r entries images) :
    AreEntryImages r ((key, v) :: entries) ((key, image) :: images)

end

variable {r : Registry} {name : String} {signature : Signature} {bag : Bag}

/-! ## Images -/

theorem resolve_eq_ok_iff {h : Handle} {o : LiveObject} :
    r.resolve h = .ok o ↔ Entries.get? h r.live = some o := by
  rw [Registry.resolve]
  cases Entries.get? h r.live <;> simp

theorem ofMarker?_eq_none_iff {text : String} :
    Handle.ofMarker? text = none ↔ ∀ h : Handle, ¬h.IsMarker text := by
  rw [Option.eq_none_iff_forall_ne_some]
  exact forall_congr' fun h => not_congr Handle.ofMarker?_eq_some_iff

theorem dead?_string_eq_none_iff {text : String} :
    r.directory.dead? (.string text) = none ↔
      ∀ h, Handle.ofMarker? text = some h → ∃ o, Entries.get? h r.live = some o := by
  rw [Directory.dead?, Directory.deadAmong?, Value.texts]
  cases hm : Handle.ofMarker? text with
  | none => simp [hm]
  | some h =>
    cases hg : Entries.get? h r.live with
    | none => simp [hm, hg, directory_isNone]
    | some o => simp [hm, hg, directory_isNone]

theorem isImage_string_iff {text : String} {v : Resolved} :
    IsImage r (.string text) v ↔
      r.directory.dead? (.string text) = none ∧ v = imageText r text := by
  rw [dead?_string_eq_none_iff, imageText]
  constructor
  · intro h
    cases h with
    | text hm => simp [ofMarker?_eq_none_iff.2 hm]
    | marker hm ho =>
      have hg := resolve_eq_ok_iff.1 ho
      simp [Handle.ofMarker?_eq_some_iff.2 hm, hg]
  · rintro ⟨hlive, rfl⟩
    cases hm : Handle.ofMarker? text with
    | none => exact .text (ofMarker?_eq_none_iff.1 hm)
    | some h =>
      obtain ⟨o, hg⟩ := hlive h hm
      simp only [Option.bind_some, hg]
      exact .marker (Handle.ofMarker?_eq_some_iff.1 hm) (resolve_eq_ok_iff.2 hg)

mutual

/-- A value in which no marker names nothing has its image and no other. -/
theorem isImage_iff : ∀ (v : Value) (w : Resolved),
    IsImage r v w ↔ r.directory.dead? v = none ∧ w = image r v
  | .null, w => ⟨fun | .null => ⟨rfl, rfl⟩, fun ⟨_, hw⟩ => hw ▸ .null⟩
  | .boolean b, w => ⟨fun | .boolean _ => ⟨rfl, rfl⟩, fun ⟨_, hw⟩ => hw ▸ .boolean b⟩
  | .number x, w => ⟨fun | .number _ => ⟨rfl, rfl⟩, fun ⟨_, hw⟩ => hw ▸ .number x⟩
  | .string text, w => by rw [isImage_string_iff, image]
  | .array items, w => by
    rw [Directory.dead?, Value.texts, image]
    constructor
    · rintro (_ | _ | _ | _ | _ | h | _)
      obtain ⟨hd, rfl⟩ := (areImages_iff items _).1 h
      exact ⟨hd, rfl⟩
    · rintro ⟨hd, rfl⟩
      exact .sequence ((areImages_iff items _).2 ⟨hd, rfl⟩)
  | .object entries, w => by
    rw [Directory.dead?, Value.texts, image]
    constructor
    · rintro (_ | _ | _ | _ | _ | _ | h)
      obtain ⟨hd, rfl⟩ := (areEntryImages_iff entries _).1 h
      exact ⟨hd, rfl⟩
    · rintro ⟨hd, rfl⟩
      exact .mapping ((areEntryImages_iff entries _).2 ⟨hd, rfl⟩)

theorem areImages_iff : ∀ (items : List Value) (images : List Resolved),
    AreImages r items images ↔
      r.directory.deadAmong? (Value.textsOfItems items) = none ∧ images = imageItems r items
  | [], images => ⟨fun | .nil => ⟨rfl, rfl⟩, fun ⟨_, hw⟩ => hw ▸ .nil⟩
  | v :: items, images => by
    rw [Value.textsOfItems, Directory.deadAmong?_append, Option.or_eq_none_iff, imageItems]
    constructor
    · rintro (_ | ⟨hv, h⟩)
      obtain ⟨hdv, rfl⟩ := (isImage_iff v _).1 hv
      obtain ⟨hd, rfl⟩ := (areImages_iff items _).1 h
      exact ⟨⟨hdv, hd⟩, rfl⟩
    · rintro ⟨⟨hdv, hd⟩, rfl⟩
      exact .cons ((isImage_iff v _).2 ⟨hdv, rfl⟩) ((areImages_iff items _).2 ⟨hd, rfl⟩)

theorem areEntryImages_iff :
    ∀ (entries : List (String × Value)) (images : List (String × Resolved)),
    AreEntryImages r entries images ↔
      r.directory.deadAmong? (Value.textsOfEntries entries) = none ∧
        images = imageEntries r entries
  | [], images => ⟨fun | .nil => ⟨rfl, rfl⟩, fun ⟨_, hw⟩ => hw ▸ .nil⟩
  | (key, v) :: entries, images => by
    rw [Value.textsOfEntries, Directory.deadAmong?_append, Option.or_eq_none_iff, imageEntries]
    constructor
    · rintro (_ | ⟨hv, h⟩)
      obtain ⟨hdv, rfl⟩ := (isImage_iff v _).1 hv
      obtain ⟨hd, rfl⟩ := (areEntryImages_iff entries _).1 h
      exact ⟨⟨hdv, hd⟩, rfl⟩
    · rintro ⟨⟨hdv, hd⟩, rfl⟩
      exact .cons ((isImage_iff v _).2 ⟨hdv, rfl⟩) ((areEntryImages_iff entries _).2 ⟨hd, rfl⟩)

end

/-- Rewriting the values of entries is what the image of a mapping does. -/
theorem imageEntries_eq (entries : List (String × Value)) :
    imageEntries r entries = Entries.mapValues (image r) entries := by
  induction entries with
  | nil => rfl
  | cons e entries ih =>
    obtain ⟨key, v⟩ := e
    rw [imageEntries, ih]
    rfl

/-! ## Declarations -/

/-- Of the parameters that a signature declares under the name, this is the first. -/
def Signature.DeclaresFirst (signature : Signature) (name : String) (p : Param) : Prop :=
  ∃ earlier later, signature = earlier ++ p :: later ∧ p.name = name ∧
    ∀ q ∈ earlier, q.name ≠ name

theorem param?_eq_some_iff {p : Param} :
    signature.param? name = some p ↔ signature.DeclaresFirst name p := by
  rw [Signature.param?, List.find?_eq_some_iff_append, decide_eq_true_eq]
  simp only [Bool.not_eq_true', decide_eq_false_iff_not]
  constructor
  · rintro ⟨hname, earlier, later, hsignature, hearlier⟩
    exact ⟨earlier, later, hsignature, hname, hearlier⟩
  · rintro ⟨earlier, later, hsignature, hname, hearlier⟩
    exact ⟨hname, earlier, later, hsignature, hearlier⟩

/-! ## Complaints -/

/-- Every marker among texts names a live object. -/
theorem deadAmong?_eq_none_iff {texts : List String} :
    r.directory.deadAmong? texts = none ↔
      ∀ text ∈ texts, ∀ h : Handle, h.IsMarker text → ∃ o, r.resolve h = .ok o := by
  rw [Directory.deadAmong?, List.find?_eq_none]
  constructor
  · intro hlive text ht h hm
    have hh := hlive h (List.mem_filterMap.2 ⟨text, ht, Handle.ofMarker?_eq_some_iff.2 hm⟩)
    rw [directory_isNone, Option.isNone_iff_eq_none] at hh
    obtain ⟨o, ho⟩ := Option.ne_none_iff_exists'.1 hh
    exact ⟨o, resolve_eq_ok_iff.2 ho⟩
  · intro hlive h hh
    obtain ⟨text, ht, hm⟩ := List.mem_filterMap.1 hh
    obtain ⟨o, ho⟩ := hlive text ht h (Handle.ofMarker?_eq_some_iff.1 hm)
    rw [directory_isNone, resolve_eq_ok_iff.1 ho]
    simp

theorem fault?_eq_none_iff {raw : Value} :
    r.directory.fault? signature (name, raw) = none ↔
      r.directory.dead? raw = none ∧
        ∀ p, signature.param? name = some p → p.admits (image r raw) = true := by
  rw [Directory.fault?]
  cases r.directory.dead? raw with
  | some h => simp
  | none =>
    cases signature.param? name with
    | none => simp
    | some p => simp [admits_image]

theorem all_isNull_eq_false_iff {v? : Option Value} :
    v?.all Value.isNull = false ↔ ∃ v, v? = some v ∧ v ≠ .null := by
  cases v? with
  | none => simp
  | some v => cases v <;> simp [Value.isNull]

/-- There is no complaint about a bag when what is required is there and no argument is at
    fault. -/
theorem complaint?_eq_none_iff :
    r.directory.complaint? signature bag = none ↔
      (∀ p ∈ signature, p.required = true → ∃ v, Entries.get? p.name bag = some v ∧ v ≠ .null) ∧
      ∀ argument ∈ bag, r.directory.fault? signature argument = none := by
  have hsupplied : (∀ p ∈ signature, p.required = true →
      ∃ v, Entries.get? p.name bag = some v ∧ v ≠ .null) ↔
      signature.find? (fun p => p.required && (Entries.get? p.name bag).all Value.isNull) =
        none := by
    rw [List.find?_eq_none]
    refine forall₂_congr fun p _ => ?_
    rw [← all_isNull_eq_false_iff]
    cases p.required <;> simp
  rw [hsupplied, Directory.complaint?]
  cases signature.find? fun p => p.required && (Entries.get? p.name bag).all Value.isNull with
  | some p => simp
  | none => simp [List.findSome?_eq_none_iff]

theorem resolve_eq_ok_arguments_iff {a : Arguments} :
    resolve r signature bag = .ok a ↔
      r.directory.complaint? signature bag = none ∧ a = arguments r bag := by
  rw [resolve_eq]
  cases r.directory.complaint? signature bag with
  | some e => simp
  | none => simp [eq_comm]

/-- What is declared gets what it asks for, said of the image of the argument. -/
theorem admits_image_iff {raw : Value} (hd : r.directory.dead? raw = none) (p : Param) :
    p.admits (image r raw) = true ↔
      ∃ v, IsImage r raw v ∧ (p.kind.accepts v = true ∨ (p.required = false ∧ v = .null)) := by
  have hnull : ∀ v : Resolved, v.isNull = true ↔ v = .null := fun v => by
    cases v <;> simp [Resolved.isNull]
  have hadmits : p.admits (image r raw) = true ↔ p.kind.accepts (image r raw) = true ∨
      (p.required = false ∧ image r raw = .null) := by
    rw [← hnull, Param.admits, Bool.or_eq_true, Bool.and_eq_true, Bool.not_eq_true', and_comm,
      or_comm]
  rw [hadmits]
  constructor
  · exact fun h => ⟨_, (isImage_iff raw _).2 ⟨hd, rfl⟩, h⟩
  · rintro ⟨v, hv, h⟩
    obtain ⟨_, rfl⟩ := (isImage_iff raw v).1 hv
    exact h

/-- No argument is at fault when the markers name live objects and what is declared gets what
    it asks for. -/
theorem forall_fault?_eq_none_iff :
    (∀ argument ∈ bag, r.directory.fault? signature argument = none) ↔
      (∀ text ∈ Value.textsOfEntries bag, ∀ h : Handle, h.IsMarker text →
        ∃ o, r.resolve h = .ok o) ∧
      ∀ name raw, (name, raw) ∈ bag → ∀ p, signature.DeclaresFirst name p →
        ∃ v, IsImage r raw v ∧ (p.kind.accepts v = true ∨ (p.required = false ∧ v = .null)) := by
  have hlive : (∀ text ∈ Value.textsOfEntries bag, ∀ h : Handle, h.IsMarker text →
      ∃ o, r.resolve h = .ok o) ↔ ∀ argument ∈ bag, r.directory.dead? argument.2 = none := by
    simp only [Value.mem_textsOfEntries, Directory.dead?, deadAmong?_eq_none_iff]
    exact ⟨fun h argument ha text ht => h text ⟨argument, ha, ht⟩,
      fun h text ⟨argument, ha, ht⟩ => h argument ha text ht⟩
  simp only [hlive, ← param?_eq_some_iff]
  constructor
  · intro h
    refine ⟨fun argument ha => (fault?_eq_none_iff.1 (h argument ha)).1, ?_⟩
    intro name raw ha p hp
    obtain ⟨hd, hadmits⟩ := fault?_eq_none_iff.1 (h _ ha)
    exact (admits_image_iff hd p).1 (hadmits p hp)
  · rintro ⟨hd, h⟩ ⟨name, raw⟩ ha
    exact fault?_eq_none_iff.2 ⟨hd _ ha, fun p hp =>
      (admits_image_iff (hd _ ha) p).2 (h name raw ha p hp)⟩

/-! ## Bags -/

/-- The arguments of a bag without complaint are the images of what the bag holds. -/
theorem areEntryImages_arguments (h : r.directory.complaint? signature bag = none) :
    AreEntryImages r bag (arguments r bag).values := by
  refine (areEntryImages_iff bag _).2 ⟨?_, (imageEntries_eq bag).symm⟩
  rw [deadAmong?_eq_none_iff]
  exact (forall_fault?_eq_none_iff.1 (complaint?_eq_none_iff.1 h).2).1

theorem AreEntryImages.keys_eq {entries : List (String × Value)}
    {images : List (String × Resolved)} (h : AreEntryImages r entries images) :
    Entries.keys images = Entries.keys entries := by
  obtain ⟨_, rfl⟩ := (areEntryImages_iff entries images).1 h
  rw [imageEntries_eq, Entries.keys, Entries.mapValues, List.map_map]
  rfl

/-- A request whose arguments do not resolve leaves all as it was. -/
theorem dispatch_of_unresolved {σ : Type} {d : Dispatcher σ} {method : String} {m : Method σ}
    {e : Error} (hm : d.router.lookup method = .ok m)
    (he : resolve d.world.registry m.signature bag = .error e) :
    d.dispatch method bag = (.error (.argument e), d) := by
  simp only [Dispatcher.dispatch, hm, he]

/-- A handler whose arguments resolved finds the registry against which they did. -/
theorem dispatch_of_resolved {σ : Type} {d : Dispatcher σ} {method : String} {m : Method σ}
    {a : Arguments} (hm : d.router.lookup method = .ok m)
    (ha : resolve d.world.registry m.signature bag = .ok a) :
    ∃ w, w.registry = d.world.registry ∧ w.heap = d.world.heap ∧ w.state = d.world.state ∧
      d.dispatch method bag = (((m.handler a >>= Dispatcher.respond).run w).1,
        { d with world := ((m.handler a >>= Dispatcher.respond).run w).2 }) := by
  refine ⟨d.world.tell (Dispatcher.invoking method a), rfl, rfl, rfl, ?_⟩
  simp only [Dispatcher.dispatch, hm, ha]
  rfl

/-- A bag resolves just when it gives every required parameter a value that is not `null`,
    every marker at any depth of any argument names a live object, and each argument of a
    declared name serves the first parameter of that name. It resolves to the images of its
    arguments, under their names and in their order. The registry is only read: a request
    whose arguments do not resolve leaves all as it was, and where they do the handler finds
    the registry against which they were resolved. -/
theorem resolve_succeeds_exactly (r : Registry) (signature : Signature) (bag : Bag) :
    ((∃ a, resolve r signature bag = .ok a) ↔
      (∀ p ∈ signature, p.required = true → ∃ v, Entries.get? p.name bag = some v ∧ v ≠ .null) ∧
      (∀ text ∈ Value.textsOfEntries bag, ∀ h : Handle, h.IsMarker text →
        ∃ o, r.resolve h = .ok o) ∧
      (∀ name raw, (name, raw) ∈ bag → ∀ p, signature.DeclaresFirst name p →
        ∃ v, IsImage r raw v ∧ (p.kind.accepts v = true ∨ (p.required = false ∧ v = .null)))) ∧
    (∀ a, resolve r signature bag = .ok a →
      Entries.keys a.values = Entries.keys bag ∧ AreEntryImages r bag a.values) ∧
    (∀ (σ : Type) (d : Dispatcher σ) (method : String) (m : Method σ),
      d.router.lookup method = .ok m → d.world.registry = r → m.signature = signature →
      (∀ e, resolve r signature bag = .error e →
        d.dispatch method bag = (.error (.argument e), d)) ∧
      ∀ a, resolve r signature bag = .ok a →
        ∃ w, w.registry = r ∧ w.heap = d.world.heap ∧ w.state = d.world.state ∧
          d.dispatch method bag = (((m.handler a >>= Dispatcher.respond).run w).1,
            { d with world := ((m.handler a >>= Dispatcher.respond).run w).2 })) := by
  refine ⟨?_, ?_, ?_⟩
  case refine_1 =>
    rw [← forall_fault?_eq_none_iff, ← complaint?_eq_none_iff]
    constructor
    · rintro ⟨a, ha⟩
      exact (resolve_eq_ok_arguments_iff.1 ha).1
    · intro h
      exact ⟨_, resolve_eq_ok_arguments_iff.2 ⟨h, rfl⟩⟩
  case refine_2 =>
    intro a ha
    obtain ⟨hc, rfl⟩ := resolve_eq_ok_arguments_iff.1 ha
    have himages := areEntryImages_arguments hc
    exact ⟨himages.keys_eq, himages⟩
  case refine_3 =>
    rintro σ d method m hm rfl rfl
    exact ⟨fun e he => dispatch_of_unresolved hm he, fun a ha => dispatch_of_resolved hm ha⟩

end Testbed.Argument
