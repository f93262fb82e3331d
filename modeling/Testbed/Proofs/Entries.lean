import Testbed.Entries
import Mathlib.Data.List.Basic
import Mathlib.Data.List.Induction
import Mathlib.Data.List.Nodup

/-!
# Laws of maps in insertion order

What setting, removing and rewriting entries does to a map, beyond what stands beside the
definitions.

* `get?_erase`: what is left after a key is removed;
* `get?_mapValues`, `put_mapValues`, `erase_mapValues`: rewriting all values commutes with
  the other operations;
* `mapValues_eq_put`: rewriting that changes the value of one key only sets that key;
* `get?_ofList`, `mem_keys_ofList_iff`: in a map that is built from settings each key holds
  what it was set to last.
-/

namespace Testbed.Entries

variable {κ ν μ : Type} [DecidableEq κ] {k l : κ} {v : ν} {m : Entries κ ν}

theorem get?_cons (k l : κ) (v : ν) (m : Entries κ ν) :
    get? k ((l, v) :: m) = if l = k then some v else get? k m := rfl

theorem contains_eq_false_iff : contains k m = false ↔ get? k m = none := by
  rw [contains, Option.isSome_eq_false_iff, Option.isNone_iff_eq_none]

theorem contains_iff : contains k m = true ↔ k ∈ keys m := by
  rw [← Bool.not_eq_false, contains_eq_false_iff, get?_eq_none_iff, not_not]

theorem mem_of_get? (h : get? k m = some v) : (k, v) ∈ m := by
  induction m with
  | nil => simp at h
  | cons e r ih =>
    obtain ⟨l, w⟩ := e
    rw [get?_cons] at h
    split at h
    case isTrue hl =>
      obtain rfl := Option.some.inj h
      exact hl ▸ List.mem_cons_self
    case isFalse => exact List.mem_cons_of_mem _ (ih h)

omit [DecidableEq κ] in
theorem mem_keys_of_mem {e : κ × ν} (h : e ∈ m) : e.1 ∈ keys m := List.mem_map_of_mem h

theorem get?_of_mem (hm : (keys m).Nodup) (h : (k, v) ∈ m) : get? k m = some v := by
  induction m with
  | nil => exact absurd h List.not_mem_nil
  | cons e r ih =>
    obtain ⟨l, w⟩ := e
    rw [keys, List.map_cons, List.nodup_cons] at hm
    rw [get?_cons]
    rcases List.mem_cons.1 h with he | hr
    · obtain ⟨rfl, rfl⟩ := Prod.mk.inj he
      rw [if_pos rfl]
    · have hne : l ≠ k := by
        rintro rfl
        have hl := mem_keys_of_mem hr
        exact hm.1 hl
      rw [if_neg hne]
      exact ih hm.2 hr

theorem put_of_not_mem (h : k ∉ keys m) : put k v m = m ++ [(k, v)] := by
  induction m with
  | nil => rfl
  | cons e r ih =>
    obtain ⟨l, w⟩ := e
    rw [keys, List.map_cons, List.mem_cons, not_or] at h
    rw [put, if_neg fun hl => h.1 hl.symm, ih h.2, List.cons_append]

theorem nodup_keys_put (v : ν) (hm : (keys m).Nodup) : (keys (put k v m)).Nodup := by
  rw [keys_put]
  split
  case isTrue => exact hm
  case isFalse hk => exact List.nodup_append.2 ⟨hm, List.nodup_singleton k, by grind⟩

theorem mem_put {e : κ × ν} (h : e ∈ put k v m) : e = (k, v) ∨ e ∈ m := by
  induction m with
  | nil => exact .inl (List.mem_singleton.1 h)
  | cons a r ih =>
    obtain ⟨l, w⟩ := a
    rw [put] at h
    split at h
    case isTrue hl =>
      rcases List.mem_cons.1 h with he | hr
      · exact .inl (hl ▸ he)
      · exact .inr (List.mem_cons_of_mem _ hr)
    case isFalse =>
      rcases List.mem_cons.1 h with he | hr
      · exact .inr (he ▸ List.mem_cons_self)
      · exact (ih hr).imp_right (List.mem_cons_of_mem _)

/-! ## Removing -/

theorem mem_erase {e : κ × ν} : e ∈ erase k m ↔ e ∈ m ∧ e.1 ≠ k := by
  simp [erase]

theorem get?_erase_self (k : κ) (m : Entries κ ν) : get? k (erase k m) = none := by
  rw [get?_eq_none_iff, keys]
  rintro h
  obtain ⟨e, he, hk⟩ := List.mem_map.1 h
  exact (mem_erase.1 he).2 hk

theorem get?_erase_of_ne (h : l ≠ k) (m : Entries κ ν) : get? l (erase k m) = get? l m := by
  induction m with
  | nil => rfl
  | cons e r ih =>
    obtain ⟨j, w⟩ := e
    by_cases hj : j = k
    · have : erase k ((j, w) :: r) = erase k r := by simp [erase, hj]
      rw [this, ih, get?_cons, if_neg fun hl : j = l => h (hl.symm.trans hj)]
    · have : erase k ((j, w) :: r) = (j, w) :: erase k r := by simp [erase, hj]
      rw [this, get?_cons, get?_cons, ih]

theorem get?_erase (k l : κ) (m : Entries κ ν) :
    get? l (erase k m) = if l = k then none else get? l m := by
  split
  case isTrue h => exact h ▸ get?_erase_self k m
  case isFalse h => exact get?_erase_of_ne h m

theorem nodup_keys_erase (k : κ) (hm : (keys m).Nodup) : (keys (erase k m)).Nodup :=
  (List.filter_sublist.map Prod.fst).nodup hm

/-- Removing a key that is present takes away one entry. -/
theorem length_erase (hm : (keys m).Nodup) (h : (k, v) ∈ m) :
    m.length = (erase k m).length + 1 := by
  induction m with
  | nil => exact absurd h List.not_mem_nil
  | cons e r ih =>
    obtain ⟨l, w⟩ := e
    rw [keys, List.map_cons, List.nodup_cons] at hm
    by_cases hl : l = k
    · -- The key does not occur a second time.
      have hr : erase k r = r := List.filter_eq_self.2 fun e he => by
        have hne : e.1 ≠ k := by
          rintro rfl
          have hk := mem_keys_of_mem he
          exact hm.1 (hl ▸ hk)
        simp [hne]
      have : erase k ((l, w) :: r) = erase k r := by simp [erase, hl]
      rw [this, hr, List.length_cons]
    · have : erase k ((l, w) :: r) = (l, w) :: erase k r := by simp [erase, hl]
      have hr : (k, v) ∈ r := (List.mem_cons.1 h).resolve_left fun he => hl (Prod.mk.inj he).1.symm
      rw [this, List.length_cons, List.length_cons, ih hm.2 hr]

/-! ## Rewriting values -/

/-- The map with each value rewritten. -/
def mapValues (f : ν → μ) (m : Entries κ ν) : Entries κ μ := m.map fun e => (e.1, f e.2)

variable (f : ν → μ)

omit [DecidableEq κ] in
theorem length_mapValues (m : Entries κ ν) : (mapValues f m).length = m.length :=
  List.length_map _

theorem get?_mapValues (k : κ) (m : Entries κ ν) :
    get? k (mapValues f m) = (get? k m).map f := by
  induction m with
  | nil => rfl
  | cons e r ih =>
    obtain ⟨l, w⟩ := e
    rw [mapValues, List.map_cons, get?_cons, get?_cons, ← mapValues, ih]
    split <;> rfl

theorem put_mapValues (k : κ) (v : ν) (m : Entries κ ν) :
    put k (f v) (mapValues f m) = mapValues f (put k v m) := by
  induction m with
  | nil => rfl
  | cons e r ih =>
    obtain ⟨l, w⟩ := e
    rw [mapValues, List.map_cons, put, put, ← mapValues, ih]
    split <;> rfl

theorem erase_mapValues (k : κ) (m : Entries κ ν) :
    erase k (mapValues f m) = mapValues f (erase k m) := by
  rw [erase, mapValues, List.filter_map]
  rfl

omit [DecidableEq κ] in
theorem mapValues_congr {f g : ν → μ} (h : ∀ e ∈ m, g e.2 = f e.2) :
    mapValues g m = mapValues f m :=
  List.map_congr_left fun e he => by rw [h e he]

/-- Rewriting in a new way, which differs for one key only, sets the value of that key. -/
theorem mapValues_eq_put {f g : ν → μ} (hm : (keys m).Nodup) (hk : get? k m = some v)
    (h : ∀ e ∈ m, e.1 ≠ k → g e.2 = f e.2) :
    mapValues g m = put k (g v) (mapValues f m) := by
  induction m with
  | nil => simp at hk
  | cons e r ih =>
    obtain ⟨l, w⟩ := e
    rw [keys, List.map_cons, List.nodup_cons] at hm
    have hr : ∀ e ∈ r, e.1 ≠ k → g e.2 = f e.2 := fun e he => h e (List.mem_cons_of_mem _ he)
    rw [get?_cons] at hk
    rw [mapValues, List.map_cons, mapValues, List.map_cons, put, ← mapValues, ← mapValues]
    split at hk
    case isTrue hl =>
      obtain rfl := Option.some.inj hk
      have hne : ∀ e ∈ r, e.1 ≠ k := by
        rintro e he rfl
        have he := mem_keys_of_mem he
        exact hm.1 (hl ▸ he)
      rw [if_pos hl, mapValues_congr fun e he => hr e he (hne e he)]
    case isFalse hl => rw [if_neg hl, ih hm.2 hk hr, h _ List.mem_cons_self hl]

/-! ## Building -/

theorem get?_eq_some_iff_append :
    get? k m = some v ↔ ∃ before after, m = before ++ (k, v) :: after ∧ k ∉ keys before := by
  induction m with
  | nil => simp
  | cons e r ih =>
    obtain ⟨l, w⟩ := e
    rw [get?_cons]
    constructor
    · intro h
      split at h
      case isTrue hl =>
        obtain rfl := Option.some.inj h
        exact ⟨[], r, by rw [hl, List.nil_append], List.not_mem_nil⟩
      case isFalse hl =>
        obtain ⟨before, after, rfl, hk⟩ := ih.1 h
        refine ⟨(l, w) :: before, after, rfl, ?_⟩
        rw [keys, List.map_cons, List.mem_cons, not_or]
        exact ⟨Ne.symm hl, hk⟩
    · rintro ⟨before, after, h, hk⟩
      cases before with
      | nil =>
        obtain ⟨he, rfl⟩ := List.cons_eq_cons.1 h
        obtain ⟨rfl, rfl⟩ := Prod.mk.inj he
        exact if_pos rfl
      | cons e' before =>
        obtain ⟨rfl, rfl⟩ := List.cons_eq_cons.1 h
        rw [keys, List.map_cons, List.mem_cons, not_or] at hk
        rw [if_neg (Ne.symm hk.1)]
        exact ih.2 ⟨before, after, rfl, hk.2⟩

variable {l : List (κ × ν)}

theorem ofList_concat (l : List (κ × ν)) (e : κ × ν) :
    ofList (l ++ [e]) = put e.1 e.2 (ofList l) := by
  rw [ofList, List.foldl_append]
  rfl

/-- Each key holds what it was set to last. -/
theorem get?_ofList (k : κ) (l : List (κ × ν)) : get? k (ofList l) = get? k l.reverse := by
  induction l using List.reverseRecOn with
  | nil => rfl
  | append_singleton l e ih =>
    rw [ofList_concat, List.reverse_append, List.reverse_singleton, List.singleton_append,
      get?_cons, ← ih]
    split
    case isTrue h => rw [h, get?_put_self]
    case isFalse h => rw [get?_put_of_ne (Ne.symm h)]

theorem get?_ofList_eq_some_iff :
    get? k (ofList l) = some v ↔
      ∃ earlier later, l = earlier ++ (k, v) :: later ∧ k ∉ keys later := by
  rw [get?_ofList, get?_eq_some_iff_append]
  constructor
  · rintro ⟨before, after, h, hk⟩
    refine ⟨after.reverse, before.reverse, ?_, by simpa [keys] using hk⟩
    simpa using congrArg List.reverse h
  · rintro ⟨earlier, later, rfl, hk⟩
    exact ⟨later.reverse, earlier.reverse, by simp, by simpa [keys] using hk⟩

theorem mem_keys_ofList_iff : k ∈ keys (ofList l) ↔ k ∈ keys l := by
  have hnone := get?_eq_none_iff (k := k) (m := ofList l)
  rw [get?_ofList, get?_eq_none_iff] at hnone
  simpa [keys] using (not_iff_not.1 hnone).symm

theorem nodup_keys_ofList (l : List (κ × ν)) : (keys (ofList l)).Nodup := by
  induction l using List.reverseRecOn with
  | nil => exact List.nodup_nil
  | append_singleton l e ih =>
    rw [ofList_concat]
    exact nodup_keys_put e.2 ih

end Testbed.Entries
