import Testbed.Proofs.Collection.Canonical
import Testbed.Proofs.Collection.Keys

/-!
# Copies of dictionaries

A driver copies a dictionary by making a new one with all that the old one tells. What is told is
resolved on the way back, so a copy can be made as long as the markers therein, at any depth, name
live objects; and it is exact, because what is kept is in canonical form. The copy is an object of
its own.

* `dispatch_dictionaryCreate`: what the request for a new dictionary comes to;
* `after_updates`: what is set in one object changes no other;
* `copies_are_exact_and_apart`: when a copy is made, what it holds, and what changes it.
-/

namespace Testbed

open Argument Protocol Json Method

variable {σ : Type}

/-! ## Making a dictionary -/

/-- Content can be at fault only for a marker in it that names nothing. -/
theorem complaint?_of_content_eq_none_iff {r : Registry} {content : List (String × Value)} :
    r.directory.complaint? [⟨"content", .mapping, false⟩] [("content", .object content)] = none ↔
      ∀ text ∈ Value.textsOfEntries content, ∀ g : Handle, g.IsMarker text →
        ∃ o, r.resolve g = .ok o := by
  rw [complaint?_eq_none_iff, ← deadAmong?_eq_none_iff]
  constructor
  · rintro ⟨_, hfault⟩
    exact (fault?_eq_none_iff.1 (hfault _ (List.mem_singleton_self _))).1
  · intro hd
    have hadmits : ∀ p, Signature.param? "content" [⟨"content", .mapping, false⟩] = some p →
        p.admits (image r (.object content)) = true := by
      rintro p ⟨⟩
      rfl
    exact ⟨by simp, List.forall_mem_singleton.2 (fault?_eq_none_iff.2 ⟨hd, hadmits⟩)⟩

/-- A bag that sets a key of a dictionary names it by its handle. -/
def Argument.Bag.Sets (h : Handle) (bag : Bag) : Prop :=
  ∃ text, Entries.get? "dictionary" bag = some (.string text) ∧ h.IsMarker text

namespace Dispatcher

open Collections

section Requests

variable {d : Dispatcher σ} (hd : d.router.ServesCollections)
include hd

/-- A new dictionary holds what it is given, in canonical form, and gets the next handle. -/
theorem dispatch_dictionaryCreate (hl : d.world.registry.Labelled)
    {content : List (String × Value)}
    (hc : d.world.registry.directory.complaint? [⟨"content", .mapping, false⟩]
      [("content", .object content)] = none) :
    ∃ journal, d.dispatch "dictionary_create" [("content", .object content)] =
      (.ok (.handle d.world.registry.next ObjectType.dictionary.tag),
        { d with world := { d.world with
          registry := (d.world.registry.register ⟨d.world.heap.cells.size, .dictionary⟩).2
          heap := (d.world.heap.allocate .dictionary
            (.dictionary (Value.canonicalEntries content))).2
          journal } }) := by
  obtain ⟨journal, hx⟩ := dispatch_of_no_complaint hd mem_dictionaryCreate hc
  obtain ⟨kept, hkept, hentries⟩ := mapping?_of_labelled "content" hl hc rfl
  have hgiven : Store.Operation.entriesAt "content" [("content", .object content)] =
      Value.canonicalEntries content := rfl
  rw [hx, Action.run_bind, run_dictionaryCreate _ hkept, hentries, hgiven]
  exact ⟨_, rfl⟩

/-- To set a key changes what is inside no object but the one that is named. -/
theorem dispatch_dictionarySetValue (bag : Bag) :
    ∃ heap journal, (d.dispatch "dictionary_setValue" bag).2 =
        { d with world := { d.world with heap, journal } } ∧
      ∀ p : Object, (∀ o, bag.Names "dictionary" o d.world.registry → o.object.id ≠ p.id) →
        heap.contents p = d.world.heap.contents p := by
  cases hc : d.world.registry.directory.complaint? [dictionaryParam, keyParam, valueParam] bag with
  | some e =>
    have hrefused : d.dispatch "dictionary_setValue" bag = (.error (.argument e), d) :=
      dispatch_of_complaint hd mem_dictionarySetValue hc
    exact ⟨d.world.heap, d.world.journal, by rw [hrefused], fun _ _ => rfl⟩
  | none =>
    obtain ⟨journal, hx⟩ := dispatch_of_no_complaint hd mem_dictionarySetValue hc
    obtain ⟨o, hnames, _⟩ := exists_names_of_complaint "dictionary" hc rfl
    obtain ⟨key, _, hk⟩ := string_arguments "key" hc rfl
    by_cases ht : o.object.type = .dictionary
    · rw [hx, Action.run_bind, run_dictionarySetValue _ (object_of_names hnames ht) hk]
      exact ⟨_, _, rfl, fun p hp => Heap.contents_store_of_ne (hp o hnames) _⟩
    · -- An object of another type with the same tag is left alone.
      have ho := Arguments.object_of_get? (get?_of_names hnames) .dictionary
      rw [if_neg ht] at ho
      have hrun : ∀ w : World σ, (dictionarySetValue (arguments d.world.registry bag)).run w =
          (.error (.argument _), w) := fun w => by
        rw [dictionarySetValue, withObject_of_error ho, Action.run_pure]
      rw [hx, Action.run_bind, hrun]
      exact ⟨d.world.heap, journal, rfl, fun _ _ => rfl⟩

end Requests

/-- What is set in one object changes no other, whatever becomes of the requests. -/
theorem after_updates {d : Dispatcher σ} (hd : d.router.ServesCollections) {h : Handle}
    {o : LiveObject} (hr : d.world.registry.resolve h = .ok o) {updates : List Bag}
    (hsets : ∀ bag ∈ updates, bag.Sets h) :
    ∃ heap journal, d.after (updates.map (Event.request "dictionary_setValue")) =
        { d with world := { d.world with heap, journal } } ∧
      ∀ p : Object, o.object.id ≠ p.id → heap.contents p = d.world.heap.contents p := by
  induction updates generalizing d with
  | nil => exact ⟨d.world.heap, d.world.journal, rfl, fun _ _ => rfl⟩
  | cons bag updates ih =>
    rw [List.forall_mem_cons] at hsets
    obtain ⟨heap, journal, hx, hsame⟩ := dispatch_dictionarySetValue hd bag
    obtain ⟨heap', journal', hx', hsame'⟩ :=
      ih (d := { d with world := { d.world with heap, journal } }) hd hr hsets.2
    refine ⟨heap', journal', ?_, fun p hp => (hsame' p hp).trans (hsame p fun q hq => ?_)⟩
    · rw [List.map_cons, Dispatcher.after, Event.apply, hx, hx']
    · obtain ⟨text, hv, hm⟩ := hsets.1
      have hnames : bag.Names "dictionary" o d.world.registry := ⟨text, h, hv, hm, hr⟩
      rwa [hq.unique hnames]

/-- So a dictionary tells the same after something was set in another object. -/
theorem dictionaryToMap_after_updates {d : Dispatcher σ} (hd : d.router.ServesCollections)
    {h g : Handle} {o p : LiveObject} {text : String}
    (hr : d.world.registry.resolve h = .ok o) (hp : d.world.registry.resolve g = .ok p)
    (ht : p.object.type = .dictionary) (hm : g.IsMarker text) (hne : o.object.id ≠ p.object.id)
    {updates : List Bag} (hsets : ∀ bag ∈ updates, bag.Sets h) :
    ((d.after (updates.map (Event.request "dictionary_setValue"))).dispatch "dictionary_toMap"
        [("dictionary", .string text)]).1 =
      .ok (.value (.object (d.world.heap.contents p.object).entries)) := by
  obtain ⟨heap, journal, hupdated, hsame⟩ := after_updates hd hr hsets
  obtain ⟨_, hshown⟩ := dispatch_dictionaryToMap
    (d := { d with world := { d.world with heap, journal } }) hd hm hp ht
  rw [hupdated, hshown, ← hsame p.object hne]

/-- A copy tells the same as the dictionary from which it was made, and either goes on to do so
    when the other one is changed. -/
theorem copy_of_dictionary {d : Dispatcher σ} (hd : d.router.ServesCollections)
    (htidy : d.world.IsTidy) {h : Handle} {o : LiveObject} {text : String}
    (hr : d.world.registry.resolve h = .ok o) (ht : o.object.type = .dictionary)
    (hm : h.IsMarker text) (hnew : h ≠ d.world.registry.next)
    (hc : d.world.registry.directory.complaint? [⟨"content", .mapping, false⟩]
      [("content", .object (d.world.heap.contents o.object).entries)] = none) :
    let shown := (d.world.heap.contents o.object).entries
    let copy := d.world.registry.next
    let copying := d.dispatch "dictionary_create" [("content", .object shown)]
    copying.1 = .ok (.handle copy ObjectType.dictionary.tag) ∧
    ∀ updates : List Bag,
      let updated := copying.2.after (updates.map (Event.request "dictionary_setValue"))
      ((∀ bag ∈ updates, bag.Sets h) →
        (updated.dispatch "dictionary_toMap" [("dictionary", .string copy.marker)]).1 =
          .ok (.value (.object shown))) ∧
      ((∀ bag ∈ updates, bag.Sets copy) →
        (updated.dispatch "dictionary_toMap" [("dictionary", .string text)]).1 =
          .ok (.value (.object shown))) := by
  intro shown copy copying
  obtain ⟨journal, hx⟩ := dispatch_dictionaryCreate hd htidy.labelled hc
  -- The copy is beyond all that is on the heap, under a handle that names nothing else.
  let made : Object := ⟨d.world.heap.cells.size, .dictionary⟩
  let copied : Dispatcher σ := { d with world := { d.world with
    registry := (d.world.registry.register made).2
    heap := (d.world.heap.allocate .dictionary (.dictionary (Value.canonicalEntries shown))).2
    journal } }
  have hcopying : copying = (.ok (.handle copy ObjectType.dictionary.tag), copied) := hx
  have hold : copied.world.registry.resolve h = .ok o := by
    rw [resolve_eq_ok_iff, Registry.get?_register, if_neg hnew]
    exact resolve_eq_ok_iff.1 hr
  have hmade : copied.world.registry.resolve copy = .ok ⟨copy, made⟩ :=
    Registry.resolve_register made d.world.registry
  have hlt : o.object.id < made.id := htidy.allocated hr
  have hkept : (copied.world.heap.contents o.object).entries = shown :=
    congrArg Contents.entries (Heap.contents_allocate_of_lt hlt .dictionary _)
  have hgiven : (copied.world.heap.contents made).entries = shown :=
    (congrArg Contents.entries (Heap.contents_allocate_self .dictionary _)).trans
      (htidy.canonical o.object).entries
  rw [hcopying]
  refine ⟨rfl, fun updates => ⟨fun hsets => ?_, fun hsets => ?_⟩⟩
  · rw [dictionaryToMap_after_updates (d := copied) hd hold hmade rfl (Handle.isMarker_marker copy)
      (Nat.ne_of_lt hlt) hsets, hgiven]
  · rw [dictionaryToMap_after_updates (d := copied) hd hmade hold ht hm (Nat.ne_of_gt hlt) hsets,
      hkept]

/-- Consider any state of a dispatcher that has collections among its features, none of the later
    ones with methods of their names, and whose other features, like all others who act on
    objects, keep what is in canonical form; there were fewer than `2 ^ 64 - 1` registrations.
    Any live dictionary tells what it holds. A new dictionary can be made of that just when every
    marker therein, at any depth, names a live object. Then it gets a handle greater than all
    that were issued, it tells the same as the old one, in the same order, and whatever is set
    in one of the two later on, the other one tells the same as before. -/
theorem copies_are_exact_and_apart (before later : List (Feature σ))
    (hbefore : ∀ f ∈ before, f.IsTidy)
    (hlater : ∀ f ∈ later, f.SparesCollections ∧ f.IsTidy) (w : World σ) (hw : w.IsTidy)
    (prior : List Registry.Operation) (hprior : w.registry = ({} : Registry).after prior)
    (events : List (Event σ)) (hevents : ∀ e ∈ events, e.SparesCollections)
    (htidy : AreTidy events (build (before ++ Collections.feature :: later) w))
    (hfew : Registry.registrations
      (prior ++ (build (before ++ Collections.feature :: later) w).operations events) <
        UInt64.size - 1) :
    let d := (build (before ++ Collections.feature :: later) w).after events
    ∀ h o text, d.world.registry.resolve h = .ok o → o.object.type = .dictionary →
      h.IsMarker text →
      ∃ shown, (d.dispatch "dictionary_toMap" [("dictionary", .string text)]).1 =
          .ok (.value (.object shown)) ∧
        let copying := d.dispatch "dictionary_create" [("content", .object shown)]
        ((∃ reply, copying.1 = .ok reply) ↔
          ∀ t ∈ Value.textsOfEntries shown, ∀ g : Handle, g.IsMarker t →
            ∃ p, d.world.registry.resolve g = .ok p) ∧
        ∀ reply, copying.1 = .ok reply →
          ∃ copy, reply = .handle copy ObjectType.dictionary.tag ∧
            (∀ g, Registry.Issued g
              (prior ++ (build (before ++ Collections.feature :: later) w).operations events) →
                g.number < copy.number) ∧
            ∀ updates : List Bag,
              let updated := copying.2.after (updates.map (Event.request "dictionary_setValue"))
              ((∀ bag ∈ updates, bag.Sets h) →
                (updated.dispatch "dictionary_toMap" [("dictionary", .string copy.marker)]).1 =
                  .ok (.value (.object shown))) ∧
              ((∀ bag ∈ updates, bag.Sets copy) →
                (updated.dispatch "dictionary_toMap" [("dictionary", .string text)]).1 =
                  .ok (.value (.object shown))) := by
  intro d h o text hr ht hm
  let history := prior ++ (build (before ++ Collections.feature :: later) w).operations events
  have hd : d.router.ServesCollections :=
    servesCollections_after before (fun f hf => (hlater f hf).1) w hevents
  have hd' : d.IsTidy := by
    refine isTidy_events (isTidy_build (fun f hf => ?_) hw) htidy
    rcases List.mem_append.1 hf with hf | hf
    · exact hbefore f hf
    · rcases List.mem_cons.1 hf with rfl | hf
      · exact fun m hm => isTidy_collections hm
      · exact (hlater f hf).2
  have hregistry : d.world.registry = ({} : Registry).after history := by
    obtain ⟨journal, hworld⟩ := world_build (before ++ Collections.feature :: later) w
    rw [registry_after, hworld, Registry.after_append, ← hprior]
  have hfresh : ∀ g, Registry.Issued g history → g.number < d.world.registry.next.number :=
    fun g hg => hregistry ▸ hg.lt_next hfew
  have hnew : h ≠ d.world.registry.next := by
    have hlive : (({} : Registry).after history).contains h = true := by
      rw [← hregistry, Registry.contains, Entries.contains, resolve_eq_ok_iff.1 hr]
      rfl
    rintro rfl
    exact absurd (hfresh _ (Registry.issued_of_contains hlive)) (UInt64.lt_irrefl _)
  obtain ⟨_, hshown⟩ := dispatch_dictionaryToMap hd hm hr ht
  refine ⟨(d.world.heap.contents o.object).entries, by rw [hshown], ?_⟩
  have hcopy := copy_of_dictionary hd hd'.world hr ht hm hnew
  intro copying
  cases hc : d.world.registry.directory.complaint? [⟨"content", .mapping, false⟩]
      [("content", .object (d.world.heap.contents o.object).entries)] with
  | some e =>
    have hrefused : copying = (.error (.argument e), d) :=
      dispatch_of_complaint hd mem_dictionaryCreate hc
    rw [hrefused, ← complaint?_of_content_eq_none_iff, hc]
    simp
  | none =>
    obtain ⟨hmade, happart⟩ := hcopy hc
    have hreply : copying.1 =
        .ok (.handle d.world.registry.next ObjectType.dictionary.tag) := hmade
    refine ⟨?_, fun reply h => ⟨d.world.registry.next, ?_, hfresh, happart⟩⟩
    · rw [← complaint?_of_content_eq_none_iff, hc]
      exact ⟨fun _ => rfl, fun _ => ⟨_, hreply⟩⟩
    · exact Except.ok.inj (h.symm.trans hreply)

/-- A dictionary that holds itself, under a marker with a zero, is copied; to change the old one
    leaves the copy as it is. -/
theorem dictionary_that_holds_itself_is_copied :
    let events : List (Event Unit) := [.request "dictionary_create" [],
      .request "dictionary_setValue" [("dictionary", .string "@1"), ("key", .string "self"),
        ("value", .array [.string "@01"])]]
    let start : Dispatcher Unit := build ([] ++ Collections.feature :: []) { state := () }
    let shown : List (String × Value) := [("self", .array [.string "@1"])]
    let copying := (start.after events).dispatch "dictionary_create" [("content", .object shown)]
    let update : Bag := [("dictionary", .string "@1"), ("key", .string "self")]
    AreTidy events start ∧
      Registry.registrations ([] ++ start.operations events) < UInt64.size - 1 ∧
      copying.1 = .ok (.handle ⟨2⟩ ObjectType.dictionary.tag) ∧
      ((copying.2.after [.request "dictionary_setValue" update]).dispatch "dictionary_toMap"
        [("dictionary", .string "@2")]).1 = .ok (.value (.object shown)) := by
  intro events start shown copying update
  have htidy : AreTidy events start := ⟨trivial, trivial, trivial⟩
  have hops : start.operations events = [.register ⟨0, .dictionary⟩] := rfl
  have hfew : Registry.registrations ([] ++ start.operations events) < UInt64.size - 1 := by
    rw [hops]
    decide
  have hm : Handle.IsMarker ⟨1⟩ "@1" := Handle.isMarker_marker ⟨1⟩
  have hreply : copying.1 = .ok (.handle ⟨2⟩ ObjectType.dictionary.tag) := rfl
  obtain ⟨shown', hshown, _, hcopy⟩ := copies_are_exact_and_apart [] [] (by simp) (by simp)
    { state := () } (World.isTidy_new ()) [] rfl events (by simp [events, Event.SparesCollections])
    htidy hfew ⟨1⟩ ⟨⟨1⟩, ⟨0, .dictionary⟩⟩ "@1" rfl rfl hm
  obtain rfl : shown' = shown :=
    (Value.object.inj (Reply.value.inj (Except.ok.inj hshown))).symm
  obtain ⟨copy, hcopied, _, hupdates⟩ := hcopy _ hreply
  obtain rfl : ⟨2⟩ = copy := (Reply.handle.inj hcopied).1
  have hsets : ∀ bag ∈ [update], bag.Sets ⟨1⟩ := List.forall_mem_singleton.2 ⟨"@1", rfl, hm⟩
  exact ⟨htidy, hfew, hreply, (hupdates [update]).1 hsets⟩

end Dispatcher

end Testbed
