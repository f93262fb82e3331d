import Testbed.Proofs.Bytes
import Testbed.Proofs.Method.Router

/-!
# Histories of a router

A router lives through installations: of the built-in methods, which are taken once, and of
further methods, which are always taken. What it then holds can be told from the methods that
were taken, one table after the other (`Router.taken`): each name stands for the last of them
that has it.

* `Router.methods_after`: the router is the map that those methods build;
* `router_follows_installations`: what is found, carried out and listed after a history.
-/

namespace Testbed.Method

open Protocol

variable {σ : Type}

/-- A method is the last of its name in a table. -/
def Table.IsLast (name : String) (m : Method σ) (t : Table σ) : Prop :=
  ∃ earlier later, t = earlier ++ m :: later ∧ m.name = name ∧ name ∉ Table.names later

theorem Table.isLast_iff {name : String} {m : Method σ} {t : Table σ} :
    t.IsLast name m ↔ ∃ earlier later : Entries String (Method σ),
      t.byName = earlier ++ (name, m) :: later ∧ name ∉ Entries.keys later := by
  constructor
  · rintro ⟨earlier, later, rfl, rfl, hn⟩
    refine ⟨Table.byName earlier, Table.byName later, Table.byName_append _ _, ?_⟩
    rwa [Table.keys_byName]
  · rintro ⟨earlier, later, ht, hn⟩
    obtain ⟨earlier, rest, rfl, rfl, hrest⟩ := List.map_eq_append_iff.1 ht
    obtain ⟨m', later, rfl, hm, rfl⟩ := List.map_eq_cons_iff.1 hrest
    obtain ⟨rfl, rfl⟩ := Prod.mk.inj hm
    exact ⟨earlier, later, rfl, rfl, by rwa [← Table.keys_byName]⟩

/-- A call that installs methods. -/
inductive Installation (σ : Type)
  /-- The built-in methods are installed. -/
  | builtin (table : Table σ)
  /-- Further methods are installed. -/
  | extension (table : Table σ)

/-- Whether a call is for the built-in methods. -/
def Installation.isBuiltin : Installation σ → Bool
  | builtin _ => true
  | extension _ => false

/-- The router after a call; one that is refused leaves it as it is. -/
def Installation.apply : Installation σ → Router σ → Router σ
  | builtin table, r => (r.installBuiltin table).elim r Prod.fst
  | extension table, r => (r.extend table).1

namespace Router

/-- The router after calls. -/
def after (calls : List (Installation σ)) (r : Router σ) : Router σ :=
  calls.foldl (fun r c => c.apply r) r

/-- The methods that are taken, in order: those of all tables but of the built-in ones that
    come after a built-in one. `builtin` tells whether there was one before. -/
def taken (builtin : Bool) : List (Installation σ) → Table σ
  | [] => []
  | .builtin table :: r => if builtin then taken true r else table ++ taken true r
  | .extension table :: r => table ++ taken builtin r

/-- Methods are installed one after the other. -/
theorem merge_eq_foldl (methods : Entries String (Method σ)) (t : Table σ) :
    (merge methods t).1 = t.byName.foldl (fun ms e => Entries.put e.1 e.2 ms) methods := by
  induction t generalizing methods with
  | nil => rfl
  | cons m t ih => exact ih _

/-- The map that a table builds grows by the methods that are taken. -/
theorem merge_ofList (t t' : Table σ) :
    (merge (Entries.ofList t.byName) t').1 = Entries.ofList (Table.byName (t ++ t')) := by
  rw [merge_eq_foldl, Table.byName_append, Entries.ofList, Entries.ofList, List.foldl_append]

/-- The router is the map that the methods build that were taken, and remembers whether there
    were built-in ones. -/
theorem after_eq (calls : List (Installation σ)) (t : Table σ) (builtin : Bool) :
    after calls ⟨Entries.ofList t.byName, builtin⟩ =
      ⟨Entries.ofList (Table.byName (t ++ taken builtin calls)),
        builtin || calls.any Installation.isBuiltin⟩ := by
  induction calls generalizing t builtin with
  | nil => simp [after, taken]
  | cons c calls ih =>
    rw [after, List.foldl_cons, ← after]
    cases c with
    | extension table =>
      have happly : (Installation.extension table).apply ⟨Entries.ofList t.byName, builtin⟩ =
          ⟨Entries.ofList (Table.byName (t ++ table)), builtin⟩ := by
        rw [← merge_ofList]
        rfl
      rw [happly, ih, taken, List.append_assoc]
      rfl
    | builtin table =>
      cases builtin with
      | true => exact ih t true
      | false =>
        have happly : (Installation.builtin table).apply ⟨Entries.ofList t.byName, false⟩ =
            ⟨Entries.ofList (Table.byName (t ++ table)), true⟩ := by
          rw [← merge_ofList]
          rfl
        rw [happly, ih, taken, List.append_assoc]
        rfl

/-- The methods that a new router takes. -/
abbrev installed (calls : List (Installation σ)) : Table σ := taken false calls

theorem after_new (calls : List (Installation σ)) :
    after calls {} =
      ⟨Entries.ofList (installed calls).byName, calls.any Installation.isBuiltin⟩ :=
  after_eq calls [] false

section History

variable {calls : List (Installation σ)} {name : String} {m : Method σ}

theorem builtinInstalled_after_iff :
    (after calls {}).builtinInstalled = true ↔ ∃ t, .builtin t ∈ calls := by
  rw [after_new, List.any_eq_true]
  constructor
  · rintro ⟨c, hc, hbuiltin⟩
    cases c with
    | builtin t => exact ⟨t, hc⟩
    | extension t => exact absurd hbuiltin Bool.false_ne_true
  · rintro ⟨t, ht⟩
    exact ⟨.builtin t, ht, rfl⟩

theorem installBuiltin_eq_none_iff {table : Table σ} {r : Router σ} :
    r.installBuiltin table = none ↔ r.builtinInstalled = true := by
  rw [installBuiltin]
  split
  case isTrue h => simp [h]
  case isFalse h => simp [h]

theorem lookup_after_eq_ok_iff :
    (after calls {}).lookup name = .ok m ↔ (installed calls).IsLast name m := by
  rw [Table.isLast_iff, ← Entries.get?_ofList_eq_some_iff, after_new, lookup]
  cases Entries.get? name (Entries.ofList (installed calls).byName) with
  | none => simp
  | some m' => simp

theorem mem_keys_after_iff :
    name ∈ Entries.keys (after calls {}).methods ↔ name ∈ (installed calls).names := by
  rw [after_new, Entries.mem_keys_ofList_iff, Table.keys_byName]

theorem nodup_keys_after (calls : List (Installation σ)) :
    (Entries.keys (after calls {}).methods).Nodup := by
  rw [after_new]
  exact Entries.nodup_keys_ofList _

end History

variable {r : Router σ} {name : String}

theorem lookup_eq_error_iff :
    r.lookup name = .error (.methodNotFound name) ↔ name ∉ Entries.keys r.methods := by
  rw [← Entries.get?_eq_none_iff, lookup]
  cases Entries.get? name r.methods with
  | none => simp
  | some m => simp

theorem contains_iff : r.contains name = true ↔ ∃ m, r.lookup name = .ok m := by
  rw [contains, Entries.contains, lookup]
  cases Entries.get? name r.methods with
  | none => simp
  | some m => simp

theorem mem_names_iff : name ∈ r.names ↔ name ∈ Entries.keys r.methods := List.mem_mergeSort

/-- What a router comes to after any calls that install methods.

    A built-in table is refused if and only if there was one before, and then nothing changes.
    A name stands for the last method that has it among those that were taken, table after
    table; a name that none has is not found. To carry out a name is to run the handler of its
    method, and nothing else. The names are listed once each, in the order of their octets. -/
theorem router_follows_installations (calls : List (Installation σ)) :
    let r := after calls {}
    let methods := installed calls
    (∀ table, (r.installBuiltin table = none ↔ ∃ t, .builtin t ∈ calls) ∧
      (r.installBuiltin table = none → after (calls ++ [.builtin table]) {} = r)) ∧
    (∀ name m, r.lookup name = .ok m ↔ methods.IsLast name m) ∧
    (∀ name, r.lookup name = .error (.methodNotFound name) ↔ name ∉ methods.names) ∧
    (∀ name, r.contains name = true ↔ ∃ m, r.lookup name = .ok m) ∧
    (∀ name m arguments, methods.IsLast name m → r.dispatch name arguments = m.handler arguments) ∧
    (∀ name arguments, name ∉ methods.names →
      r.dispatch name arguments = pure (.error (.methodNotFound name))) ∧
    r.names.Pairwise (fun a b => Bytes.ofString a < Bytes.ofString b) ∧
    ∀ name, name ∈ r.names ↔ name ∈ methods.names := by
  intro r methods
  have hunknown : ∀ name, r.lookup name = .error (.methodNotFound name) ↔ name ∉ methods.names :=
    fun name => lookup_eq_error_iff.trans (not_congr mem_keys_after_iff)
  refine ⟨fun table => ⟨?_, fun hrefused => ?_⟩, fun name m => lookup_after_eq_ok_iff, hunknown,
    fun name => contains_iff, fun name m arguments hm => ?_, fun name arguments hn => ?_, ?_,
    fun name => mem_names_iff.trans mem_keys_after_iff⟩
  · exact installBuiltin_eq_none_iff.trans builtinInstalled_after_iff
  · rw [after, List.foldl_append]
    exact congrArg (Option.elim · r Prod.fst) hrefused
  · simp only [dispatch, lookup_after_eq_ok_iff.2 hm, r]
  · simp only [dispatch, (hunknown name).2 hn]
  · exact Bytes.pairwise_lt_mergeSort (nodup_keys_after calls)

end Router

end Testbed.Method
