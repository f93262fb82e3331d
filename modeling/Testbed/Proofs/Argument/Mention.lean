import Testbed.Proofs.Argument.Image
import Testbed.Proofs.Registry.Account

/-!
# What resolving depends on

To resolve arguments the registry is asked for the handles that they mention and for no others,
so nothing else in it shows in the outcome: not what other handles name, nor what is registered
or released besides.

* `resolve_congr`: registries that know the same under the handles mentioned;
* `resolve_after`: a registry before and after operations that spare what is mentioned;
* `resolution_depends_on_mentioned_handles`: both, for all that a registry can come to.
-/

namespace Testbed

open Json

/-- A marker of the handle is among the texts of the bag, at any depth of any argument. -/
def Argument.Bag.Mentions (h : Handle) (bag : Argument.Bag) : Prop :=
  ∃ text ∈ Value.textsOfEntries bag, h.IsMarker text

namespace Registry

variable {r r' : Registry} {h : Handle}

/-- Both registries have no object under the handle, or they have the same. -/
def AgreeOn (h : Handle) (r r' : Registry) : Prop :=
  (r.contains h = false ∧ r'.contains h = false) ∨
    ∃ o o', r.resolve h = .ok o ∧ r'.resolve h = .ok o' ∧ o.object = o'.object

/-- The operation neither issues a handle that the bag mentions nor drops an object that the
    bag mentions. -/
def Operation.Spares (bag : Argument.Bag) (r : Registry) : Operation → Prop
  | register _ => ¬bag.Mentions r.next
  | release h => bag.Mentions h → r.contains h = false
  | clear => ∀ h, bag.Mentions h → r.contains h = false
  | resolve _ | contains _ => True

/-- Registries that agree on a handle answer alike for it: what they have under it carries the
    handle in both. -/
theorem AgreeOn.resolve_eq (ha : AgreeOn h r r') (hr : r.Labelled) (hr' : r'.Labelled) :
    r.resolve h = r'.resolve h := by
  rcases ha with ⟨hc, hc'⟩ | ⟨o, o', ho, ho', he⟩
  · rw [(unknown_iff.2 hc).resolve, (unknown_iff.2 hc').resolve]
  · have hh : o.handle = o'.handle := by
      rw [hr (Argument.resolve_eq_ok_iff.1 ho), hr' (Argument.resolve_eq_ok_iff.1 ho')]
    rw [ho, ho']
    cases o
    cases o'
    simp_all

variable {bag : Argument.Bag} {op : Operation} {later : List Operation}

/-- An operation that spares a bag leaves what the handles name that the bag mentions. -/
theorem get?_apply_of_spares (hs : op.Spares bag r) (hm : bag.Mentions h) :
    Entries.get? h (op.apply r).live = Entries.get? h r.live := by
  cases op with
  | register o =>
    have hne : h ≠ r.next := fun he => hs (he ▸ hm)
    rw [Operation.apply, get?_register, if_neg hne]
  | release g =>
    rw [Operation.apply, get?_release]
    split
    case isTrue hg =>
      subst hg
      exact (Entries.contains_eq_false_iff.1 (hs hm)).symm
    case isFalse => rfl
  | clear => exact (Entries.contains_eq_false_iff.1 (hs h hm)).symm
  | resolve | contains => rfl

/-- So do operations one after the other. -/
theorem get?_after_of_spares
    (hs : ∀ past op rest, later = past ++ op :: rest → op.Spares bag (r.after past))
    (hm : bag.Mentions h) : Entries.get? h (r.after later).live = Entries.get? h r.live := by
  induction later generalizing r with
  | nil => rfl
  | cons op later ih =>
    have hop : op.Spares bag r := hs [] op later rfl
    have hlater := fun past op' rest (hl : later = past ++ op' :: rest) =>
      hs (op :: past) op' rest (by rw [hl, List.cons_append])
    rw [after_cons, ih hlater, get?_apply_of_spares hop hm]

end Registry

namespace Argument

variable {r r' : Registry} {signature : Signature} {bag : Bag} {name : String}

/-! ## Two registries -/

theorem resolveText_congr {text : String}
    (ha : ∀ h : Handle, h.IsMarker text → r.resolve h = r'.resolve h) :
    resolveText r name text = resolveText r' name text := by
  rw [resolveText, resolveText]
  cases ho : Handle.ofMarker? text with
  | none => rfl
  | some h => simp only [ha h (Handle.ofMarker?_eq_some_iff.1 ho)]

mutual

/-- A value resolves alike in registries that answer alike for the markers in it. -/
theorem resolveValue_congr : ∀ v : Value,
    (∀ text ∈ v.texts, ∀ h : Handle, h.IsMarker text → r.resolve h = r'.resolve h) →
    resolveValue r name v = resolveValue r' name v
  | .null, _ | .boolean _, _ | .number _, _ => rfl
  | .string text, ha => by
    rw [resolveValue, resolveValue, resolveText_congr (ha text (List.mem_singleton_self text))]
  | .array items, ha => by rw [resolveValue, resolveValue, resolveItems_congr items ha]
  | .object entries, ha => by rw [resolveValue, resolveValue, resolveEntries_congr entries ha]

theorem resolveItems_congr : ∀ items : List Value,
    (∀ text ∈ Value.textsOfItems items, ∀ h : Handle, h.IsMarker text →
      r.resolve h = r'.resolve h) →
    resolveItems r name items = resolveItems r' name items
  | [], _ => rfl
  | v :: items, ha => by
    rw [Value.textsOfItems, List.forall_mem_append] at ha
    rw [resolveItems, resolveItems, resolveValue_congr v ha.1, resolveItems_congr items ha.2]

theorem resolveEntries_congr : ∀ entries : List (String × Value),
    (∀ text ∈ Value.textsOfEntries entries, ∀ h : Handle, h.IsMarker text →
      r.resolve h = r'.resolve h) →
    resolveEntries r name entries = resolveEntries r' name entries
  | [], _ => rfl
  | (_, v) :: entries, ha => by
    rw [Value.textsOfEntries, List.forall_mem_append] at ha
    rw [resolveEntries, resolveEntries, resolveValue_congr v ha.1,
      resolveEntries_congr entries ha.2]

end

theorem resolveBag_congr
    (ha : ∀ text ∈ Value.textsOfEntries bag, ∀ h : Handle, h.IsMarker text →
      r.resolve h = r'.resolve h) :
    resolveBag r signature bag = resolveBag r' signature bag := by
  induction bag with
  | nil => rfl
  | cons argument bag ih =>
    rw [Value.textsOfEntries, List.forall_mem_append] at ha
    rw [resolveBag, resolveBag, resolveArgument, resolveArgument, resolveValue_congr _ ha.1,
      ih ha.2]

/-- Arguments resolve alike in registries that answer alike for the handles they mention. -/
theorem resolve_congr (ha : ∀ h, bag.Mentions h → r.resolve h = r'.resolve h) :
    resolve r signature bag = resolve r' signature bag := by
  rw [resolve, resolve, resolveBag_congr fun text ht h hm => ha h ⟨text, ht, hm⟩]

/-! ## One registry over time -/

/-- Arguments resolve alike before and after operations that spare them. -/
theorem resolve_after {later : List Registry.Operation}
    (hs : ∀ past op rest, later = past ++ op :: rest → op.Spares bag (r.after past)) :
    resolve (r.after later) signature bag = resolve r signature bag := by
  refine resolve_congr fun h hm => ?_
  rw [Registry.resolve, Registry.get?_after_of_spares hs hm, Registry.resolve]

/-- What is mentioned in arguments that resolve is live. -/
theorem contains_of_mentions {a : Arguments} (ha : resolve r signature bag = .ok a) {h : Handle}
    (hm : bag.Mentions h) : r.contains h = true := by
  obtain ⟨text, ht, hm⟩ := hm
  have hc := (resolve_eq_ok_arguments_iff.1 ha).1
  obtain ⟨o, ho⟩ :=
    (forall_fault?_eq_none_iff.1 (complaint?_eq_none_iff.1 hc).2).1 text ht h hm
  rw [Registry.contains, Entries.contains, resolve_eq_ok_iff.1 ho, Option.isSome_some]

/-- Registrations spare arguments that resolve: the handles they get are new. -/
theorem spares_of_register {history : List Registry.Operation} {objects : List Object}
    {a : Arguments} (ha : resolve (({} : Registry).after history) signature bag = .ok a)
    (hfew : Registry.registrations history + objects.length < UInt64.size)
    (past : List Registry.Operation) (op : Registry.Operation) (rest : List Registry.Operation)
    (hl : objects.map .register = past ++ op :: rest) :
    op.Spares bag ((({} : Registry).after history).after past) := by
  obtain ⟨o, _, rfl⟩ : ∃ o ∈ objects, .register o = op :=
    List.mem_map.1 (hl ▸ List.mem_append_right past List.mem_cons_self)
  intro hm
  have hissued : Registry.Issued _ (history ++ past) :=
    (Registry.issued_of_contains (contains_of_mentions ha hm)).append
  have hcount : Registry.registrations past ≤ past.length := List.countP_le_length
  have hlength : objects.length = past.length + (rest.length + 1) := by
    rw [← List.length_map Registry.Operation.register, hl, List.length_append, List.length_cons]
  have hlt := hissued.lt_next (by rw [Registry.registrations_append]; omega)
  rw [Registry.after_append] at hlt
  exact absurd hlt (UInt64.lt_irrefl _)

/-- The outcome of resolving depends on no handle that is not mentioned. Consider registries
    that any two histories lead to. If for each handle that a bag mentions both have nothing,
    or the same object, then the bag resolves alike in both, be it to arguments or to an error.
    So the outcome stays the same whatever is registered under handles that the bag does not
    mention and whatever objects are released that it does not mention; and once a bag
    resolves, nothing that is registered later changes this. -/
theorem resolution_depends_on_mentioned_handles (history : List Registry.Operation)
    (signature : Signature) (bag : Bag) :
    let r := ({} : Registry).after history
    (∀ history', (∀ h, bag.Mentions h → r.AgreeOn h (({} : Registry).after history')) →
      resolve r signature bag = resolve (({} : Registry).after history') signature bag) ∧
    (∀ later, (∀ past op rest, later = past ++ op :: rest → op.Spares bag (r.after past)) →
      resolve (r.after later) signature bag = resolve r signature bag) ∧
    ∀ a (objects : List Object), resolve r signature bag = .ok a →
      Registry.registrations history + objects.length < UInt64.size →
      resolve (r.after (objects.map .register)) signature bag = .ok a := by
  intro r
  refine ⟨fun history' hagree => ?_, fun later hs => resolve_after hs, fun a objects ha hfew => ?_⟩
  · exact resolve_congr fun h hm => (hagree h hm).resolve_eq (Registry.labelled_after _)
      (Registry.labelled_after _)
  · rw [← ha]
    exact resolve_after (spares_of_register ha hfew)

/-- A marker of the handle that is issued next is unknown before the registration, and names
    the object after it. -/
theorem registering_can_change_outcome :
    let o : Object := ⟨0, .dictionary⟩
    resolve (({} : Registry).after []) [] [("x", .string "@1")] =
        .error (.unknownHandle "x" ⟨1⟩) ∧
      resolve (({} : Registry).after [.register o]) [] [("x", .string "@1")] =
        .ok ⟨[("x", .object ⟨⟨1⟩, o⟩)]⟩ ∧
      resolve (({} : Registry).after [.register o]) [] [("x", .string "@1")] ≠
        resolve (({} : Registry).after []) [] [("x", .string "@1")] := by
  intro o
  have hbefore : resolve (({} : Registry).after []) [] [("x", .string "@1")] =
    .error (.unknownHandle "x" ⟨1⟩) := rfl
  have hafter : resolve (({} : Registry).after [.register o]) [] [("x", .string "@1")] =
    .ok ⟨[("x", .object ⟨⟨1⟩, o⟩)]⟩ := rfl
  refine ⟨hbefore, hafter, ?_⟩
  rw [hbefore, hafter]
  exact nofun

end Argument

end Testbed
