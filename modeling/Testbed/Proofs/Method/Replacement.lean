import Testbed.Proofs.Method.Installation

/-!
# Methods that are replaced

Further methods replace those whose names they take, and these names are told. A name is taken
by a method from before, or by an earlier one of the same table, so that a name which a table
has several times is told each time but perhaps the first.

* `merge_snd`: what is told can be read off the names alone;
* `length_keys_merge`: each method of a table is told or adds a name;
* `replaced_methods_are_told`: both for the methods of a router, and when nothing is told.
-/

namespace Testbed.Method

variable {σ : Type}

/-- The names in a list that are among those `before` or occur earlier in the list, in order
    and as often as they do so. -/
def overwritten (before names : List String) : List String :=
  (names.zipIdx.filter fun e => e.1 ∈ before ∨ e.1 ∈ names.take e.2).map Prod.fst

theorem overwritten_cons (before : List String) (name : String) (names : List String) :
    overwritten before (name :: names) =
      if name ∈ before then name :: overwritten (name :: before) names
      else overwritten (name :: before) names := by
  -- Behind the first name all places are one further on, and it counts as one from before.
  have htail : ((names.zipIdx 1).filter fun e =>
      e.1 ∈ before ∨ e.1 ∈ (name :: names).take e.2).map Prod.fst =
      overwritten (name :: before) names := by
    rw [List.zipIdx_succ, List.filter_map, List.map_map]
    refine congrArg (List.map Prod.fst) (List.filter_congr fun e _ => ?_)
    simp only [Function.comp_apply, List.take_succ_cons, List.mem_cons, or_assoc, or_left_comm]
  rw [overwritten, List.zipIdx_cons, List.filter_cons]
  simp only [List.take_zero, List.not_mem_nil, or_false, decide_eq_true_eq]
  split
  · rw [List.map_cons, htail]
  · exact htail

/-- Of the names from before only the set counts. -/
theorem overwritten_congr {before before' : List String}
    (h : ∀ name, name ∈ before ↔ name ∈ before') (names : List String) :
    overwritten before names = overwritten before' names := by
  simp only [overwritten, h]

theorem overwritten_eq_nil_iff {before names : List String} :
    overwritten before names = [] ↔ names.Nodup ∧ ∀ name ∈ names, name ∉ before := by
  induction names generalizing before with
  | nil => simp [overwritten]
  | cons name names ih =>
    rw [overwritten_cons]
    split
    case isTrue h => simp [h]
    case isFalse h =>
      rw [ih, List.nodup_cons]
      grind

namespace Router

/-- What is told of a table are the names in it that are overwritten. -/
theorem merge_snd (methods : Entries String (Method σ)) (t : Table σ) :
    (merge methods t).2 = overwritten (Entries.keys methods) t.names := by
  induction t generalizing methods with
  | nil => rfl
  | cons m t ih =>
    have hkeys : ∀ name, name ∈ Entries.keys (Entries.put m.name m methods) ↔
        name ∈ m.name :: Entries.keys methods := by
      intro name
      rw [Entries.keys_put]
      split <;> grind
    rw [Table.names, List.map_cons, overwritten_cons, ← overwritten_congr hkeys, ← Table.names,
      ← ih, merge]
    simp only [Entries.contains_iff]

/-- Each method of a table is told to replace another one, or adds a name. -/
theorem length_keys_merge (methods : Entries String (Method σ)) (t : Table σ) :
    (Entries.keys (merge methods t).1).length + (merge methods t).2.length =
      (Entries.keys methods).length + t.length := by
  induction t generalizing methods with
  | nil => rfl
  | cons m t ih =>
    have ht := ih (Entries.put m.name m methods)
    rw [Entries.keys_put] at ht
    simp only [merge, Entries.contains_iff, List.length_cons]
    split at ht
    case isTrue h =>
      rw [if_pos h, List.length_cons]
      omega
    case isFalse h =>
      rw [List.length_append, List.length_singleton] at ht
      rw [if_neg h]
      omega

theorem length_names (r : Router σ) : r.names.length = (Entries.keys r.methods).length :=
  List.length_mergeSort _

/-- What is told when further methods are installed: the names of those whose names stood for
    a method already, or for an earlier one of the same table, in the order of the table.

    So each method is told or adds a name to the router, and nothing is told if and only if
    the names are different from each other and new. -/
theorem replaced_methods_are_told (r : Router σ) (t : Table σ) :
    let told := (r.extend t).2
    told = overwritten r.names t.names ∧
      (r.extend t).1.names.length + told.length = r.names.length + t.length ∧
      (told = [] ↔ t.names.Nodup ∧ ∀ name ∈ t.names, name ∉ r.names) := by
  intro told
  have htold : told = overwritten r.names t.names :=
    (merge_snd r.methods t).trans (overwritten_congr (fun _ => mem_names_iff.symm) t.names)
  refine ⟨htold, ?_, ?_⟩
  · rw [length_names, length_names]
    exact length_keys_merge r.methods t
  · rw [htold]
    exact overwritten_eq_nil_iff

end Router

end Testbed.Method
