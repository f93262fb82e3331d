import Testbed.Dispatcher
import Testbed.Proofs.Entries

/-!
# What a router finds

A router that is built from tables in which no name occurs twice holds exactly the methods
of those tables, each under its name.

* `mem_of_lookup`, `lookup_of_not_mem`: a look-up finds methods of the table, and nothing for
  other names;
* `get?_merge_of_mem`, `get?_merge_of_not_mem`: what a table makes of the methods before it;
* `methods_build`, `world_build`: the methods of a new dispatcher, and its world.
-/

namespace Testbed

open Method

variable {σ : Type}

namespace Method

/-- A table by the names of its methods. -/
def Table.byName (t : Table σ) : Entries String (Method σ) := t.map fun m : Method σ => (m.name, m)

theorem Table.keys_byName (t : Table σ) : Entries.keys t.byName = t.names := by
  rw [Entries.keys, byName, List.map_map]
  rfl

theorem Table.byName_append (t t' : Table σ) :
    Table.byName (t ++ t') = t.byName ++ t'.byName :=
  List.map_append

namespace Router

/-- Methods with new names are added in order. -/
theorem merge_of_nodup (methods : Entries String (Method σ)) (t : Table σ)
    (h : (Entries.keys methods ++ t.names).Nodup) :
    (merge methods t).1 = methods ++ t.byName := by
  induction t generalizing methods with
  | nil => exact (List.append_nil _).symm
  | cons m t ih =>
    have hput : Entries.put m.name m methods = methods ++ [(m.name, m)] := by
      refine Entries.put_of_not_mem fun hm => ?_
      exact List.disjoint_of_nodup_append h hm List.mem_cons_self
    rw [merge, hput, ih, List.append_assoc]
    · rfl
    · rw [Entries.keys, List.map_append, List.append_assoc]
      exact h

/-- A table leaves the methods of names that it does not have. -/
theorem get?_merge_of_not_mem {name : String} {t : Table σ} (hn : name ∉ t.names)
    (methods : Entries String (Method σ)) :
    Entries.get? name (merge methods t).1 = Entries.get? name methods := by
  induction t generalizing methods with
  | nil => rfl
  | cons m t ih =>
    rw [Table.names, List.map_cons, List.mem_cons, not_or] at hn
    exact (ih hn.2 _).trans (Entries.get?_put_of_ne hn.1 m methods)

/-- A table in which no name occurs twice puts each of its methods under its name. -/
theorem get?_merge_of_mem {t : Table σ} (ht : t.names.Nodup) {m : Method σ} (hm : m ∈ t)
    (methods : Entries String (Method σ)) :
    Entries.get? m.name (merge methods t).1 = some m := by
  induction t generalizing methods with
  | nil => exact absurd hm List.not_mem_nil
  | cons m' t ih =>
    rw [Table.names, List.map_cons, List.nodup_cons] at ht
    rcases List.mem_cons.1 hm with rfl | hm
    · exact (get?_merge_of_not_mem ht.1 _).trans (Entries.get?_put_self m.name m methods)
    · exact ih ht.2 hm _

/-- Under a name is a method of the table, or the one from before. -/
theorem mem_or_get?_of_merge {name : String} {t : Table σ} {methods : Entries String (Method σ)}
    {m : Method σ} (h : Entries.get? name (merge methods t).1 = some m) :
    m ∈ t ∨ Entries.get? name methods = some m := by
  induction t generalizing methods with
  | nil => exact .inr h
  | cons m' t ih =>
    rcases ih h with hm | hm
    · exact .inl (List.mem_cons_of_mem _ hm)
    · by_cases hname : name = m'.name
      · rw [hname, Entries.get?_put_self] at hm
        exact .inl (Option.some.inj hm ▸ List.mem_cons_self)
      · rw [Entries.get?_put_of_ne hname] at hm
        exact .inr hm

variable {r : Router σ} {t : Table σ} {name : String}

theorem lookup_eq_ok_iff {m : Method σ} :
    r.lookup name = .ok m ↔ Entries.get? name r.methods = some m := by
  rw [lookup]
  cases Entries.get? name r.methods <;> simp

theorem mem_of_lookup (hr : r.methods = t.byName) {m : Method σ} (h : r.lookup name = .ok m) :
    m ∈ t := by
  rw [lookup, hr] at h
  cases hg : Entries.get? name t.byName with
  | none => simp [hg] at h
  | some m' =>
    obtain rfl : m' = m := by simpa [hg] using h
    obtain ⟨m, hm, he⟩ := List.mem_map.1 (Entries.mem_of_get? hg)
    exact (Prod.mk.inj he).2 ▸ hm

theorem lookup_of_not_mem (hr : r.methods = t.byName) (hn : name ∉ t.names) :
    r.lookup name = .error (.methodNotFound name) := by
  rw [lookup, hr, Entries.get?_eq_none_iff.2 (by rwa [Table.keys_byName])]

end Router

end Method

namespace Dispatcher

theorem methods_install (d : Dispatcher σ) (f : Feature σ)
    (h : (Entries.keys d.router.methods ++ f.table.names).Nodup) :
    (d.install f).router.methods = d.router.methods ++ f.table.byName :=
  Router.merge_of_nodup _ _ h

theorem methods_foldl_install (features : List (Feature σ)) (d : Dispatcher σ)
    (h : (Entries.keys d.router.methods ++
      (features.flatMap Feature.table).map Method.name).Nodup) :
    (features.foldl install d).router.methods =
      d.router.methods ++ Table.byName (features.flatMap Feature.table) := by
  induction features generalizing d with
  | nil => exact (List.append_nil _).symm
  | cons f features ih =>
    rw [List.flatMap_cons, List.map_append, ← List.append_assoc] at h
    have hf := methods_install d f (List.Nodup.of_append_left h)
    rw [List.foldl_cons, ih, hf, List.flatMap_cons, Table.byName_append, List.append_assoc]
    rwa [hf, Entries.keys, List.map_append, ← Entries.keys, ← Entries.keys, Table.keys_byName]

theorem world_tellAll (entries : List Entry) (w : World σ) :
    ∃ journal, tellAll entries w = { w with journal } := by
  induction entries generalizing w with
  | nil => exact ⟨w.journal, rfl⟩
  | cons e entries ih => exact ih (w.tell e)

theorem world_install (f : Feature σ) (d : Dispatcher σ) :
    ∃ journal, (d.install f).world = { d.world with journal } :=
  world_tellAll _ d.world

theorem world_foldl_install (features : List (Feature σ)) (d : Dispatcher σ) :
    ∃ journal, (features.foldl install d).world = { d.world with journal } := by
  induction features generalizing d with
  | nil => exact ⟨d.world.journal, rfl⟩
  | cons f features ih =>
    obtain ⟨journal, hf⟩ := world_install f d
    obtain ⟨journal', h⟩ := ih (d.install f)
    exact ⟨journal', h.trans (by rw [hf])⟩

/-- A dispatcher is built by installing the features after the built-in methods. -/
theorem build_eq (features : List (Feature σ)) (w : World σ) :
    ∃ journal, build features w = features.foldl install
      ⟨⟨(Router.merge [] Builtin.table).1, true⟩, { w with journal }⟩ := by
  obtain ⟨journal, h⟩ := world_tellAll (Router.report "static" "installed built-in methods"
    (Builtin.table (σ := σ)).length (Router.merge [] (Builtin.table (σ := σ))).2) w
  exact ⟨journal, by rw [← h]; rfl⟩

/-- What is told while a dispatcher is built is all that its world gets. -/
theorem world_build (features : List (Feature σ)) (w : World σ) :
    ∃ journal, (build features w).world = { w with journal } := by
  have hfold : ∀ d : Dispatcher σ, (∃ journal, d.world = { w with journal }) →
      ∃ journal, (features.foldl install d).world = { w with journal } := by
    rintro d ⟨journal, hd⟩
    obtain ⟨journal', h⟩ := world_foldl_install features d
    exact ⟨journal', h.trans (by rw [hd])⟩
  exact hfold _ (world_tellAll _ w)

/-- A new dispatcher has the built-in methods and those of its features, each under its
    name, if no name occurs twice. -/
theorem methods_build (features : List (Feature σ)) (w : World σ)
    (h : (Table.names (Builtin.table ++ features.flatMap Feature.table)).Nodup) :
    (build features w).router.methods =
      Table.byName (Builtin.table ++ features.flatMap Feature.table) := by
  rw [Table.names, List.map_append] at h
  change (features.foldl install _).router.methods = _
  rw [methods_foldl_install, Table.byName_append]
  · rfl
  · exact h

end Dispatcher

end Testbed
