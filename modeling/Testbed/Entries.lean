/-!
# Maps in insertion order

A finite map as the list of its entries, in the order in which the keys came.
Setting a key that is present replaces its value where it stands; a new key goes
to the end. So a map is printed and listed in the order in which it was built.

* `Entries.get?_put_self`, `Entries.get?_put_of_ne`: what a key holds after `put`;
* `Entries.keys_put`: `put` keeps the order of the keys and adds a new one at the end.
-/

namespace Testbed

/-- A finite map, in insertion order. -/
abbrev Entries (κ ν : Type) := List (κ × ν)

namespace Entries

variable {κ ν : Type} [DecidableEq κ]

/-- The value of a key. -/
def get? (k : κ) : Entries κ ν → Option ν
  | [] => none
  | (k', v) :: r => if k' = k then some v else get? k r

/-- Whether a key is present. -/
def contains (k : κ) (m : Entries κ ν) : Bool := (get? k m).isSome

/-- Sets the value of a key. -/
def put (k : κ) (v : ν) : Entries κ ν → Entries κ ν
  | [] => [(k, v)]
  | (k', v') :: r => if k' = k then (k', v) :: r else (k', v') :: put k v r

/-- Removes a key. -/
def erase (k : κ) (m : Entries κ ν) : Entries κ ν := m.filter fun e => e.1 ≠ k

/-- The keys, in order. -/
def keys (m : Entries κ ν) : List κ := m.map Prod.fst

/-- The map that a list of settings builds, later ones winning. -/
def ofList (l : List (κ × ν)) : Entries κ ν := l.foldl (fun m e => put e.1 e.2 m) []

@[simp] theorem get?_nil (k : κ) : get? k ([] : Entries κ ν) = none := rfl

theorem get?_put_self (k : κ) (v : ν) (m : Entries κ ν) : get? k (put k v m) = some v := by
  induction m with
  | nil => simp [put, get?]
  | cons e r ih =>
    obtain ⟨k', v'⟩ := e
    by_cases h : k' = k <;> simp [put, get?, h, ih]

theorem get?_put_of_ne {k l : κ} (h : l ≠ k) (v : ν) (m : Entries κ ν) :
    get? l (put k v m) = get? l m := by
  induction m with
  | nil => simp [put, get?, h.symm]
  | cons e r ih =>
    obtain ⟨k', v'⟩ := e
    by_cases hk : k' = k
    · subst hk
      simp [put, get?, h.symm]
    · simp [put, get?, hk, ih]

theorem get?_eq_none_iff {k : κ} {m : Entries κ ν} : get? k m = none ↔ k ∉ keys m := by
  induction m with
  | nil => simp [keys]
  | cons e r ih =>
    obtain ⟨k', v'⟩ := e
    by_cases h : k' = k
    · simp [get?, keys, h]
    · simp only [get?, h, if_false, ih, keys, List.map_cons, List.mem_cons, not_or]
      exact ⟨fun hr => ⟨fun he => h he.symm, hr⟩, fun hr => hr.2⟩

theorem keys_put (k : κ) (v : ν) (m : Entries κ ν) :
    keys (put k v m) = if k ∈ keys m then keys m else keys m ++ [k] := by
  induction m with
  | nil => simp [put, keys]
  | cons e r ih =>
    obtain ⟨k', v'⟩ := e
    by_cases h : k' = k
    · simp [put, keys, h]
    · have h' : ¬k = k' := fun he => h he.symm
      simp only [put, h, if_false, keys, List.map_cons] at ih ⊢
      rw [ih]
      by_cases hm : k ∈ List.map Prod.fst r <;> simp [hm, h']

end Entries

end Testbed
