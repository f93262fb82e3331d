import Testbed.Proofs.Argument.Rendering
import Testbed.Proofs.Collection.Arguments
import Testbed.Proofs.Collection.Calls
import Testbed.Proofs.Method.Services
import Testbed.Proofs.Registry.Account

/-!
# What is kept is in canonical form

A marker that a driver gives is resolved before it is kept, so what is inside objects has no
marker but the ones by which handles are told. This holds in every state that a dispatcher comes
to, as long as others who make objects, or write to them, stick to it as well; together with two
facts about live objects, that each is on the heap and carries its handle, it is what makes a
world tidy (`World.IsTidy`).

* `World.IsTidy.perform`: commands that stick to it leave a tidy world tidy;
* `isTidy_builtin`, `isTidy_collections`, `isTidy_services`: the methods leave it so;
* `isTidy_events`, `isTidy_build`: a dispatcher with such methods lives in a tidy world.
-/

namespace Testbed

open Argument Protocol Json Method

variable {σ : Type}

/-! ## Canonical form -/

namespace Json.Value

theorem canonicalText_canonicalText (text : String) :
    canonicalText (canonicalText text) = canonicalText text := by
  refine canonicalText_eq_self_iff.2 fun h hm => ?_
  rw [canonicalText] at hm ⊢
  cases hg : Handle.ofMarker? text with
  | none =>
    simp only [hg] at hm
    exact absurd hm (ofMarker?_eq_none_iff.1 hg h)
  | some g =>
    simp only [hg] at hm
    have hself := Handle.ofMarker?_eq_some_iff.2 (Handle.isMarker_marker g)
    rw [Handle.ofMarker?_eq_some_iff.2 hm] at hself
    rw [Option.some.inj hself]

mutual

/-- The canonical form of a value is in canonical form. -/
theorem canonical_canonical : ∀ v : Value, v.canonical.canonical = v.canonical
  | .null | .boolean _ | .number _ => rfl
  | .string text => by rw [canonical, canonical, canonicalText_canonicalText]
  | .array items => by rw [canonical, canonical, canonicalItems_canonicalItems items]
  | .object entries => by rw [canonical, canonical, canonicalEntries_canonicalEntries entries]

theorem canonicalItems_canonicalItems : ∀ items : List Value,
    canonicalItems (canonicalItems items) = canonicalItems items
  | [] => rfl
  | v :: items => by
    rw [canonicalItems, canonicalItems, canonical_canonical v, canonicalItems_canonicalItems items]

theorem canonicalEntries_canonicalEntries : ∀ entries : List (String × Value),
    canonicalEntries (canonicalEntries entries) = canonicalEntries entries
  | [] => rfl
  | (key, v) :: entries => by
    rw [canonicalEntries, canonicalEntries, canonical_canonical v,
      canonicalEntries_canonicalEntries entries]

end

theorem canonicalEntries_put (key : String) (v : Value) (entries : List (String × Value)) :
    canonicalEntries (Entries.put key v entries) =
      Entries.put key v.canonical (canonicalEntries entries) := by
  induction entries with
  | nil => rfl
  | cons e entries ih =>
    obtain ⟨key', v'⟩ := e
    rw [canonicalEntries, Entries.put, Entries.put]
    split
    · rfl
    · rw [canonicalEntries, ih]

theorem canonicalItems_concat (items : List Value) (v : Value) :
    canonicalItems (items ++ [v]) = canonicalItems items ++ [v.canonical] := by
  induction items with
  | nil => rfl
  | cons w items ih => rw [List.cons_append, canonicalItems, canonicalItems, ih, List.cons_append]

end Json.Value

/-- What is inside an object is in canonical form. -/
structure Contents.IsCanonical (c : Contents) : Prop where
  entries : Value.canonicalEntries c.entries = c.entries
  items : Value.canonicalItems c.items = c.items

namespace Contents

theorem isCanonical_hidden : hidden.IsCanonical := ⟨rfl, rfl⟩

theorem isCanonical_dictionary {entries : Json.Object}
    (h : Value.canonicalEntries entries = entries) : (dictionary entries).IsCanonical := ⟨h, rfl⟩

theorem isCanonical_array {items : List Value} (h : Value.canonicalItems items = items) :
    (array items).IsCanonical := ⟨rfl, h⟩

end Contents

/-- The arguments that are kept are brought into canonical form. -/
theorem canonicalEntries_entriesAt (name : String) (bag : Bag) :
    Value.canonicalEntries (Store.Operation.entriesAt name bag) =
      Store.Operation.entriesAt name bag := by
  rw [Store.Operation.entriesAt]
  split
  · exact Value.canonicalEntries_canonicalEntries _
  · rfl

theorem canonicalItems_itemsAt (name : String) (bag : Bag) :
    Value.canonicalItems (Store.Operation.itemsAt name bag) = Store.Operation.itemsAt name bag := by
  rw [Store.Operation.itemsAt]
  split
  · exact Value.canonicalItems_canonicalItems _
  · rfl

theorem canonical_valueAt (name : String) (bag : Bag) :
    (Store.Operation.valueAt name bag).canonical = Store.Operation.valueAt name bag :=
  Value.canonical_canonical _

/-! ## Tidy worlds -/

namespace Heap

variable {heap : Heap} {c : Contents}

/-- What is inside all objects is in canonical form. -/
def IsCanonical (heap : Heap) : Prop := ∀ o, (heap.contents o).IsCanonical

theorem IsCanonical.allocate (hh : heap.IsCanonical) (hc : c.IsCanonical) (type : ObjectType) :
    (heap.allocate type c).2.IsCanonical := by
  intro o
  rw [Heap.allocate, contents, Array.getElem?_push]
  split
  · exact hc
  · exact hh o

theorem IsCanonical.store (hh : heap.IsCanonical) (hc : c.IsCanonical) (o : Object) :
    (heap.store o c).IsCanonical := by
  intro p
  by_cases hid : o.id = p.id
  · rw [Heap.store, contents, ← hid, Array.getElem?_setIfInBounds_self]
    split
    · exact hc
    · exact Contents.isCanonical_hidden
  · rw [contents_store_of_ne hid]
    exact hh p

end Heap

/-- Live objects carry their handles and are on the heap, and what is inside objects is in
    canonical form. -/
structure World.IsTidy (w : World σ) : Prop where
  labelled : w.registry.Labelled
  allocated : ∀ ⦃h o⦄, w.registry.resolve h = .ok o → o.object.id < w.heap.cells.size
  canonical : w.heap.IsCanonical

/-- A new world is tidy. -/
theorem World.isTidy_new (state : σ) : ({ state } : World σ).IsTidy :=
  ⟨Registry.labelled_empty,
    fun _ _ ho => absurd (resolve_eq_ok_iff.1 ho).symm (Option.some_ne_none _),
    fun _ => Contents.isCanonical_hidden⟩

/-- A command registers what is on the heap, and keeps what is in canonical form. -/
def Command.IsTidy (w : World σ) : Command σ → Prop
  | register o => o.id < w.heap.cells.size
  | create _ c | store _ c => c.IsCanonical
  | resolve _ | release _ | clear | contains _ | size | contents _ | state | setState _ | tell _ =>
    True

namespace World.IsTidy

variable {w : World σ} (hw : w.IsTidy)
include hw

/-- The objects are all that matters. -/
theorem of_objects {w' : World σ} (hregistry : w'.registry = w.registry)
    (hheap : w'.heap = w.heap) : w'.IsTidy := by
  refine ⟨hregistry ▸ hw.labelled, fun h o ho => ?_, hheap ▸ hw.canonical⟩
  rw [hheap]
  exact hw.allocated (hregistry ▸ ho)

theorem setJournal (journal : Journal) : { w with journal }.IsTidy := hw.of_objects rfl rfl

theorem register {o : Object} (ho : o.id < w.heap.cells.size) :
    { w with registry := (w.registry.register o).2 }.IsTidy := by
  refine ⟨hw.labelled.register o, fun h p hp => ?_, hw.canonical⟩
  rw [resolve_eq_ok_iff, Registry.get?_register] at hp
  split at hp
  case isTrue => exact Option.some.inj hp ▸ ho
  case isFalse => exact hw.allocated (resolve_eq_ok_iff.2 hp)

theorem release (g : Handle) : { w with registry := (w.registry.release g).2 }.IsTidy := by
  refine ⟨hw.labelled.release g, fun h p hp => ?_, hw.canonical⟩
  rw [resolve_eq_ok_iff, Registry.get?_release] at hp
  split at hp
  case isTrue => exact absurd hp (by simp)
  case isFalse => exact hw.allocated (resolve_eq_ok_iff.2 hp)

theorem clear : { w with registry := w.registry.clear.2 }.IsTidy :=
  ⟨.clear, fun _ _ hp => absurd (resolve_eq_ok_iff.1 hp).symm (Option.some_ne_none _), hw.canonical⟩

theorem allocate (type : ObjectType) {c : Contents} (hc : c.IsCanonical) :
    { w with heap := (w.heap.allocate type c).2 }.IsTidy := by
  refine ⟨hw.labelled, fun h p hp => ?_, hw.canonical.allocate hc type⟩
  rw [Heap.allocate, Array.size_push]
  exact Nat.lt_succ_of_lt (hw.allocated hp)

theorem store (o : Object) {c : Contents} (hc : c.IsCanonical) :
    { w with heap := w.heap.store o c }.IsTidy := by
  refine ⟨hw.labelled, fun h p hp => ?_, hw.canonical.store hc o⟩
  rw [Heap.store, Array.size_setIfInBounds]
  exact hw.allocated hp

/-- A command that sticks to it leaves a tidy world tidy. -/
theorem perform {c : Command σ} (hc : c.IsTidy w) : (World.perform c w).2.IsTidy := by
  cases c with
  | register o => exact (hw.register hc).setJournal _
  | release g =>
    have hg := hw.release g
    rw [World.perform]
    cases hr : w.registry.release g with
    | mk result r =>
      rw [hr] at hg
      cases result with
      | ok tag => exact hg.setJournal _
      | error e => exact hw
  | clear => exact hw.clear.setJournal _
  | create type c => exact hw.allocate type hc
  | store o c => exact hw.store o hc
  | setState s => exact hw.of_objects rfl rfl
  | tell e => exact hw.setJournal _
  | resolve | contains | size | contents | state => exact hw

end World.IsTidy

/-! ## Methods -/

/-- A handler leaves a tidy world, and an object that it yields is on the heap. -/
structure World.LeftTidy (x : Except Failure Outcome × World σ) : Prop where
  world : x.2.IsTidy
  object : ∀ o, x.1 = .ok (.object o) → o.id < x.2.heap.cells.size

/-- Run on arguments that resolved in a tidy world, the method leaves it tidy. -/
def Method.IsTidy (m : Method σ) : Prop :=
  ∀ (w : World σ) (bag : Bag) (a : Arguments), w.IsTidy →
    Argument.resolve w.registry m.signature bag = .ok a → World.LeftTidy ((m.handler a).run w)

namespace World.IsTidy

variable {w : World σ} (hw : w.IsTidy)
include hw

/-- A handler that yields no object has only to leave the world tidy. -/
theorem leftTidy {outcome : Except Failure Outcome} (ho : ∀ o, outcome ≠ .ok (.object o)) :
    World.LeftTidy (outcome, w) :=
  ⟨hw, fun o h => absurd h (ho o)⟩

/-- A handler that only tells a value leaves the world as it is. -/
theorem leftTidy_of_value {p : Action σ (Except Failure Outcome)} {v : Value}
    (hp : p.run w = (.ok (.value v), w)) : World.LeftTidy (p.run w) := by
  rw [hp]
  exact hw.leftTidy (by simp)

/-- A new object with insides in canonical form may be yielded. -/
theorem leftTidy_allocate (type : ObjectType) {c : Contents} (hc : c.IsCanonical) :
    World.LeftTidy (.ok (.object ⟨w.heap.cells.size, type⟩),
      { w with heap := (w.heap.allocate type c).2 }) := by
  refine ⟨hw.allocate type hc, fun o ho => ?_⟩
  obtain rfl := Outcome.object.inj (Except.ok.inj ho)
  rw [Heap.allocate, Array.size_push]
  exact Nat.lt_succ_self _

omit hw in
/-- To answer registers what the handler yields. -/
theorem respond {x : Except Failure Outcome × World σ} (hx : World.LeftTidy x) :
    ((Dispatcher.respond x.1).run x.2).2.IsTidy := by
  obtain ⟨outcome, w'⟩ := x
  cases outcome with
  | error e => exact hx.world
  | ok outcome =>
    cases outcome with
    | void | value v => exact hx.world
    | object o => exact (hx.world.register (hx.object o rfl)).setJournal _

end World.IsTidy

namespace Method

theorem isTidy_builtin {m : Method σ} (hm : m ∈ Builtin.table) : m.IsTidy := by
  intro w bag a hw _
  rcases List.mem_cons.1 hm with rfl | hm
  case inl =>
    change World.LeftTidy ((Builtin.release a).run w)
    rw [Builtin.release]
    cases a.liveObject "object" with
    | error e => exact hw.leftTidy (by simp)
    | ok o =>
      have hreleased : ((Action.release o.handle).run w).2.IsTidy :=
        hw.perform (c := .release o.handle) trivial
      simp only [Action.run_bind]
      cases hx : (Action.release o.handle).run w with
      | mk result w' =>
        rw [hx] at hreleased
        cases result with
        | error e => exact hreleased.leftTidy (by simp)
        | ok tag => exact (hreleased.setJournal _).leftTidy (by simp)
  obtain rfl := List.mem_singleton.1 hm
  exact (hw.clear.setJournal _).leftTidy (by simp)

namespace Collections

variable {a : Arguments}

/-- A handler that is not given the object that it asks for fails. -/
theorem leftTidy_of_object {w : World σ} (hw : w.IsTidy) {type : ObjectType} {name : String}
    {next : Object → Action σ (Except Failure Outcome)}
    (h : ∀ o, a.object type name = .ok o → World.LeftTidy ((withObject type name a next).run w)) :
    World.LeftTidy ((withObject type name a next).run w) := by
  cases ho : a.object type name with
  | error e =>
    rw [withObject_of_error ho]
    exact hw.leftTidy (by simp)
  | ok o => exact h o ho

theorem isTidy_dictionarySetValue :
    Method.IsTidy (σ := σ)
      ⟨"dictionary_setValue", [dictionaryParam, keyParam, valueParam], dictionarySetValue⟩ := by
  intro w bag a hw ha
  obtain ⟨hc, rfl⟩ := resolve_eq_ok_arguments_iff.1 ha
  obtain ⟨key, _, hk⟩ := string_arguments "key" hc rfl
  refine leftTidy_of_object hw fun o ho => ?_
  have hput : Value.canonicalEntries (Entries.put key
      (storedValue "value" (arguments w.registry bag)) (w.heap.contents o).entries) =
      Entries.put key (storedValue "value" (arguments w.registry bag))
        (w.heap.contents o).entries := by
    rw [storedValue_of_labelled "value" hw.labelled hc, Value.canonicalEntries_put,
      canonical_valueAt, (hw.canonical o).entries]
  change World.LeftTidy ((dictionarySetValue _).run w)
  rw [run_dictionarySetValue w ho hk]
  exact (hw.store o (Contents.isCanonical_dictionary hput)).leftTidy (by simp)

theorem isTidy_arrayAddValue :
    Method.IsTidy (σ := σ) ⟨"array_addValue", [arrayParam, valueParam], arrayAddValue⟩ := by
  intro w bag a hw ha
  obtain ⟨hc, rfl⟩ := resolve_eq_ok_arguments_iff.1 ha
  refine leftTidy_of_object hw fun o ho => ?_
  have hconcat : Value.canonicalItems
      ((w.heap.contents o).items ++ [storedValue "value" (arguments w.registry bag)]) =
      (w.heap.contents o).items ++ [storedValue "value" (arguments w.registry bag)] := by
    rw [storedValue_of_labelled "value" hw.labelled hc, Value.canonicalItems_concat,
      canonical_valueAt, (hw.canonical o).items]
  change World.LeftTidy ((arrayAddValue _).run w)
  rw [run_arrayAddValue w ho]
  exact (hw.store o (Contents.isCanonical_array hconcat)).leftTidy (by simp)

theorem isTidy_arrayGetValue :
    Method.IsTidy (σ := σ)
      ⟨"array_getValue", [arrayParam, ⟨"index", .integer, true⟩], arrayGetValue⟩ := by
  intro w bag a hw ha
  refine leftTidy_of_object hw fun o ho => ?_
  change World.LeftTidy ((arrayGetValue _).run w)
  cases hi : a.natural "index" with
  | error e =>
    rw [run_arrayGetValue_of_negative w ho hi]
    exact hw.leftTidy (by simp)
  | ok index =>
    rw [run_arrayGetValue w ho hi]
    cases (w.heap.contents o).items[index]? with
    | some v => exact hw.leftTidy (by simp)
    | none => exact hw.leftTidy (by simp)

theorem isTidy_collections {m : Method σ} (hm : m ∈ Collections.table) : m.IsTidy := by
  simp only [Collections.table, List.mem_cons, List.not_mem_nil, or_false] at hm
  rcases hm with rfl | rfl | rfl | rfl | rfl | rfl | rfl | rfl | rfl
  · intro w bag a hw ha
    obtain ⟨hc, rfl⟩ := resolve_eq_ok_arguments_iff.1 ha
    obtain ⟨content, hcontent, hentries⟩ := mapping?_of_labelled "content" hw.labelled hc rfl
    rw [run_dictionaryCreate w hcontent, hentries]
    exact hw.leftTidy_allocate _
      (Contents.isCanonical_dictionary (canonicalEntries_entriesAt _ bag))
  · exact isTidy_dictionarySetValue
  · intro w bag a hw ha
    obtain ⟨hc, rfl⟩ := resolve_eq_ok_arguments_iff.1 ha
    obtain ⟨key, _, hk⟩ := string_arguments "key" hc rfl
    exact leftTidy_of_object hw fun o ho => hw.leftTidy_of_value (run_dictionaryGetValue w ho hk)
  · intro w bag a hw _
    exact leftTidy_of_object hw fun o ho => hw.leftTidy_of_value (run_dictionaryCount w ho)
  · intro w bag a hw _
    exact leftTidy_of_object hw fun o ho => hw.leftTidy_of_value (run_dictionaryToMap w ho)
  · intro w bag a hw ha
    obtain ⟨hc, rfl⟩ := resolve_eq_ok_arguments_iff.1 ha
    obtain ⟨content, hcontent, hitems⟩ := sequence?_of_labelled "content" hw.labelled hc rfl
    rw [run_arrayCreate w hcontent, hitems]
    exact hw.leftTidy_allocate _ (Contents.isCanonical_array (canonicalItems_itemsAt _ bag))
  · exact isTidy_arrayAddValue
  · exact isTidy_arrayGetValue
  · intro w bag a hw _
    exact leftTidy_of_object hw fun o ho => hw.leftTidy_of_value (run_arrayCount w ho)

end Collections

/-- The methods of services have nothing to do with objects. -/
theorem isTidy_services {ω : Type} (os : Service.OperatingSystem ω) (config : Config)
    {m : Method (Service.Supervision ω)} (hm : m ∈ Services.table os config) : m.IsTidy := by
  intro w bag a hw _
  have hsupervise : ∀ {α : Type} (p : Service.Procedure α),
      (Services.supervise os p).Keeps World.perform World.IsTidy fun _ => True := by
    intro α p w' hw'
    obtain ⟨hregistry, hheap⟩ := Services.keepsObjects_supervise os p w'
    exact ⟨hw'.of_objects hregistry hheap, trivial⟩
  obtain ⟨hleft, hanswered⟩ := Services.keeps_services (fun _ => hsupervise _)
    (fun _ => hsupervise _) (fun _ => hsupervise _) hm a w hw
  change Services.Answered ((m.handler a).run w).1 at hanswered
  refine ⟨hleft, fun o ho => ?_⟩
  rw [ho] at hanswered
  cases hanswered

/-- Run on resolved arguments in a tidy world, each method of the feature leaves it tidy. -/
def Feature.IsTidy (f : Feature σ) : Prop := ∀ m ∈ f.table, m.IsTidy

end Method

/-! ## Dispatchers -/

namespace Dispatcher

/-- The world is tidy, and the methods leave it so. -/
structure IsTidy (d : Dispatcher σ) : Prop where
  world : d.world.IsTidy
  methods : ∀ name m, d.router.lookup name = .ok m → m.IsTidy

/-- Others who act on the registry and on objects stick to what keeps a world tidy, and so do
    the methods that are installed. -/
def Event.IsTidy : Event σ → Dispatcher σ → Prop
  | command c, d => c.IsTidy d.world
  | install f, _ => f.IsTidy
  | request _ _, _ | releaseAll, _ => True

/-- Each of the events is such, in the state in which it happens. -/
def AreTidy : List (Event σ) → Dispatcher σ → Prop
  | [], _ => True
  | e :: r, d => e.IsTidy d ∧ AreTidy r (e.apply d)

variable {d : Dispatcher σ}

theorem isTidy_install (hd : d.IsTidy) {f : Feature σ} (hf : f.IsTidy) : (d.install f).IsTidy := by
  obtain ⟨journal, hw⟩ := world_install f d
  refine ⟨?_, fun name m hm => ?_⟩
  · rw [hw]
    exact hd.world.setJournal journal
  · rcases mem_or_lookup_of_install hm with hnew | hold
    · exact hf m hnew
    · exact hd.methods name m hold

theorem isTidy_apply (hd : d.IsTidy) {e : Event σ} (he : e.IsTidy d) : (e.apply d).IsTidy := by
  cases e with
  | request method bag =>
    rw [Event.apply]
    cases hi : d.invocation? method bag with
    | none =>
      obtain ⟨e, he⟩ := dispatch_of_not_invoked hi
      rw [he]
      exact hd
    | some call =>
      obtain ⟨m, a⟩ := call
      obtain ⟨hl, ha⟩ := invocation?_eq_some_iff.1 hi
      rw [dispatch_of_invocation? hi]
      have hleft := hd.methods _ m hl (d.world.tell (invoking method a)) bag a
        (hd.world.setJournal _) ha
      refine ⟨?_, hd.methods⟩
      change ((m.handler a >>= respond).run (d.world.tell (invoking method a))).2.IsTidy
      rw [Action.run_bind]
      exact World.IsTidy.respond hleft
  | command c => exact ⟨hd.world.perform he, hd.methods⟩
  | releaseAll =>
    have hclear : (Action.clear.run d.world).2.IsTidy := hd.world.perform (c := .clear) trivial
    refine ⟨?_, hd.methods⟩
    rw [Event.apply, Dispatcher.releaseAll]
    dsimp only
    split
    · exact hclear.setJournal _
    · exact hclear
  | install f => exact isTidy_install hd he

/-- What a dispatcher lives through leaves it tidy. -/
theorem isTidy_events (hd : d.IsTidy) {events : List (Event σ)} (hevents : AreTidy events d) :
    (d.after events).IsTidy := by
  induction events generalizing d with
  | nil => exact hd
  | cons e events ih => exact ih (isTidy_apply hd hevents.1) hevents.2

theorem isTidy_foldl_install (hd : d.IsTidy) {features : List (Feature σ)}
    (hfeatures : ∀ f ∈ features, f.IsTidy) : (features.foldl install d).IsTidy := by
  induction features generalizing d with
  | nil => exact hd
  | cons f features ih =>
    rw [List.forall_mem_cons] at hfeatures
    exact ih (isTidy_install hd hfeatures.1) hfeatures.2

/-- A new dispatcher is tidy if its features are, and the world it is given. -/
theorem isTidy_build {features : List (Feature σ)} (hfeatures : ∀ f ∈ features, f.IsTidy)
    {w : World σ} (hw : w.IsTidy) : (build features w).IsTidy := by
  obtain ⟨journal, hbuild⟩ := build_eq features w
  rw [hbuild]
  refine isTidy_foldl_install ⟨hw.setJournal journal, fun name m hm => ?_⟩ hfeatures
  rcases Router.mem_or_get?_of_merge (Router.lookup_eq_ok_iff.1 hm) with hbuiltin | hnone
  · exact isTidy_builtin hbuiltin
  · exact absurd hnone (by simp)

end Dispatcher

end Testbed
