import Testbed.Method.Collections
import Testbed.Proofs.Dispatcher.History

/-!
# Dispatchers with collections

The methods of collections stay what they are in a dispatcher that has them among others, as
long as no feature that comes later has methods of the same names.

* `servesCollections_after`: in every state that such a dispatcher comes to, each of the
  methods is found under its name.
-/

namespace Testbed

open Argument Protocol Method

variable {σ : Type}

/-- A feature has no method with the name of one of collections. -/
def Method.Feature.SparesCollections (f : Feature σ) : Prop :=
  ∀ m ∈ Collections.table (σ := σ), m.name ∉ f.table.names

/-- Under the names of the methods of collections are these methods. -/
def Method.Router.ServesCollections (r : Router σ) : Prop :=
  ∀ m ∈ Collections.table, r.lookup m.name = .ok m

namespace Dispatcher

/-- An event installs no method with the name of one of collections. -/
def Event.SparesCollections : Event σ → Prop
  | install f => f.SparesCollections
  | request _ _ | command _ | releaseAll => True

variable {d : Dispatcher σ}

theorem lookup_install_of_not_mem {name : String} {f : Feature σ} (hn : name ∉ f.table.names) :
    (d.install f).router.lookup name = d.router.lookup name := by
  have hget : Entries.get? name (d.install f).router.methods =
      Entries.get? name d.router.methods := Router.get?_merge_of_not_mem hn _
  rw [Router.lookup, Router.lookup, hget]

/-- Under a name is a method of the feature, or the one from before. -/
theorem mem_or_lookup_of_install {name : String} {f : Feature σ} {m : Method σ}
    (hm : (d.install f).router.lookup name = .ok m) :
    m ∈ f.table ∨ d.router.lookup name = .ok m :=
  (Router.mem_or_get?_of_merge (Router.lookup_eq_ok_iff.1 hm)).imp_right Router.lookup_eq_ok_iff.2

theorem servesCollections_install (d : Dispatcher σ) :
    (d.install Collections.feature).router.ServesCollections := by
  intro m hm
  have hnodup : (Collections.table (σ := σ)).names.Nodup := by
    change ["dictionary_create", "dictionary_setValue", "dictionary_getValue", "dictionary_count",
      "dictionary_toMap", "array_create", "array_addValue", "array_getValue", "array_count"].Nodup
    decide
  exact Router.lookup_eq_ok_iff.2 (Router.get?_merge_of_mem hnodup hm _)

theorem servesCollections_install_of_spares (hd : d.router.ServesCollections) {f : Feature σ}
    (hf : f.SparesCollections) : (d.install f).router.ServesCollections :=
  fun m hm => (lookup_install_of_not_mem (hf m hm)).trans (hd m hm)

theorem servesCollections_foldl_install (hd : d.router.ServesCollections)
    {later : List (Feature σ)} (hlater : ∀ f ∈ later, f.SparesCollections) :
    (later.foldl install d).router.ServesCollections := by
  induction later generalizing d with
  | nil => exact hd
  | cons f later ih =>
    rw [List.forall_mem_cons] at hlater
    exact ih (servesCollections_install_of_spares hd hlater.1) hlater.2

theorem servesCollections_build (before : List (Feature σ)) {later : List (Feature σ)}
    (hlater : ∀ f ∈ later, f.SparesCollections) (w : World σ) :
    (build (before ++ Collections.feature :: later) w).router.ServesCollections := by
  obtain ⟨journal, hbuild⟩ := build_eq (before ++ Collections.feature :: later) w
  rw [hbuild, List.foldl_append, List.foldl_cons]
  exact servesCollections_foldl_install (servesCollections_install _) hlater

theorem servesCollections_apply (hd : d.router.ServesCollections) {e : Event σ}
    (he : e.SparesCollections) : (e.apply d).router.ServesCollections := by
  cases e with
  | request method bag =>
    rw [Event.apply, router_dispatch]
    exact hd
  | command c => exact hd
  | releaseAll => exact hd
  | install f => exact servesCollections_install_of_spares hd he

theorem servesCollections_events (hd : d.router.ServesCollections) {events : List (Event σ)}
    (hevents : ∀ e ∈ events, e.SparesCollections) : (d.after events).router.ServesCollections := by
  induction events generalizing d with
  | nil => exact hd
  | cons e events ih =>
    rw [List.forall_mem_cons] at hevents
    exact ih (servesCollections_apply hd hevents.1) hevents.2

/-- The methods of collections are found in every state that a dispatcher comes to which has
    them, and gets no others of their names later. -/
theorem servesCollections_after (before : List (Feature σ)) {later : List (Feature σ)}
    (hlater : ∀ f ∈ later, f.SparesCollections) (w : World σ) {events : List (Event σ)}
    (hevents : ∀ e ∈ events, e.SparesCollections) :
    ((build (before ++ Collections.feature :: later) w).after
      events).router.ServesCollections :=
  servesCollections_events (servesCollections_build before hlater w) hevents

end Dispatcher

end Testbed
