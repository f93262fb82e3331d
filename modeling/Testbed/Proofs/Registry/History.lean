import Testbed.Proofs.Registry.Labels
import Mathlib.Data.List.Induction

/-!
# Histories of a registry

A registry that starts empty is determined by the operations carried out on it, its
history. Handles are counted up, so as long as the counter does not run over, a handle is
live only between its registration and the operation that drops it, and never again.

* `Registry.Issued`, `Registry.Dropped`: what a history did to a handle;
* `issued_of_contains`: a live handle was issued;
* `unknown_of_dropped`: a handle that was dropped stays unknown.
-/

namespace Testbed.Registry

/-- An operation on a registry. -/
inductive Operation
  | register (object : Object)
  | resolve (handle : Handle)
  | contains (handle : Handle)
  | release (handle : Handle)
  | clear
  deriving DecidableEq

/-- The registry after an operation. -/
def Operation.apply : Operation → Registry → Registry
  | register object, r => (r.register object).2
  | resolve _, r => r
  | contains _, r => r
  | release handle, r => (r.release handle).2
  | clear, r => r.clear.2

/-- The registry after a history. -/
def after (history : List Operation) (r : Registry) : Registry :=
  history.foldl (fun r op => op.apply r) r

/-- Whether an operation is a registration. -/
def Operation.isRegistration : Operation → Bool
  | register _ => true
  | _ => false

/-- By how much an operation moves the counter. -/
def Operation.weight (op : Operation) : Nat := if op.isRegistration then 1 else 0

/-- The number of registrations in a history. -/
def registrations (history : List Operation) : Nat := history.countP Operation.isRegistration

/-- A registration of the history was given the handle. -/
def Issued (h : Handle) (history : List Operation) : Prop :=
  ∃ past object later, history = past ++ .register object :: later ∧
    (({} : Registry).after past).next = h

/-- The handle was live, and the history released it or forgot all objects. -/
def Dropped (h : Handle) (history : List Operation) : Prop :=
  ∃ past op later, history = past ++ op :: later ∧ (op = .release h ∨ op = .clear) ∧
    (({} : Registry).after past).contains h = true

/-- Whatever a registry is asked about the handle, it answers that it is unknown. -/
structure Unknown (h : Handle) (r : Registry) : Prop where
  resolve : r.resolve h = .error (.unknown h)
  contains : r.contains h = false
  release : r.release h = (.error (.unknown h), r)

variable {h : Handle} {r : Registry} {history past later : List Operation}

theorem unknown_iff : r.Unknown h ↔ r.contains h = false := by
  refine ⟨Unknown.contains, fun hc => ?_⟩
  have hg := Entries.contains_eq_false_iff.1 hc
  exact ⟨by rw [Registry.resolve, hg], hc, by rw [Registry.release, hg]⟩

/-! ## Single operations -/

theorem contains_register (o : Object) :
    (r.register o).2.contains h = (decide (h = r.next) || r.contains h) := by
  by_cases hn : h = r.next
  · subst hn
    simp [register, contains, Entries.contains, next, Entries.get?_put_self]
  · have := Entries.get?_put_of_ne hn ⟨r.next, o⟩ r.live
    simp only [next] at this hn
    simp [register, contains, Entries.contains, next, this, hn]

/-- The object that was registered is the one that its handle names. -/
theorem resolve_register (o : Object) (r : Registry) :
    (r.register o).2.resolve r.next = .ok ⟨r.next, o⟩ := by
  rw [resolve, register, next, Entries.get?_put_self]

theorem contains_release (g : Handle) :
    (r.release g).2.contains h = (decide (h ≠ g) && r.contains h) := by
  rw [release]
  split
  case h_1 => by_cases hg : h = g <;> simp [contains, Entries.contains, Entries.get?_erase, hg]
  case h_2 hn =>
    by_cases hg : h = g
    · subst hg
      simp [contains, Entries.contains, hn]
    · simp [hg]

theorem contains_clear : (r.clear).2.contains h = false := rfl

theorem lastIssued_release (g : Handle) : (r.release g).2.lastIssued = r.lastIssued := by
  rw [release]
  split <;> rfl

/-! ## The counter -/

theorem after_append : r.after (past ++ later) = (r.after past).after later :=
  List.foldl_append

theorem after_cons (op : Operation) : r.after (op :: later) = (op.apply r).after later := rfl

/-- Whatever was done to a registry that started empty, its objects carry their handles. -/
theorem labelled_after (history : List Operation) : (({} : Registry).after history).Labelled := by
  induction history using List.reverseRecOn with
  | nil => exact labelled_empty
  | append_singleton past op ih =>
    rw [after_append]
    cases op with
    | register o => exact ih.register o
    | resolve | contains => exact ih
    | release h => exact ih.release h
    | clear => exact Labelled.clear

theorem registrations_append :
    registrations (past ++ later) = registrations past + registrations later :=
  List.countP_append

theorem registrations_cons (op : Operation) :
    registrations (op :: later) = op.weight + registrations later := by
  rw [registrations, List.countP_cons, Nat.add_comm, ← registrations, Operation.weight]

theorem toNat_next (hfew : r.lastIssued.toNat + 1 < UInt64.size) :
    r.next.number.toNat = r.lastIssued.toNat + 1 := by
  rw [next, UInt64.toNat_add, UInt64.toNat_one,
    Nat.mod_eq_of_lt (by simpa [UInt64.size] using hfew)]

/-- An operation moves the counter by one if it is a registration. -/
theorem toNat_lastIssued_apply (op : Operation)
    (hfew : r.lastIssued.toNat + op.weight < UInt64.size) :
    (op.apply r).lastIssued.toNat = r.lastIssued.toNat + op.weight := by
  cases op with
  | register o => exact toNat_next hfew
  | release g => exact congrArg UInt64.toNat (lastIssued_release g)
  | resolve | contains | clear => rfl

/-- The counter moves by the number of registrations, as long as it does not run over. -/
theorem toNat_lastIssued_after
    (hfew : r.lastIssued.toNat + registrations history < UInt64.size) :
    (r.after history).lastIssued.toNat = r.lastIssued.toNat + registrations history := by
  induction history generalizing r with
  | nil => rfl
  | cons op history ih =>
    rw [registrations_cons] at hfew ⊢
    have hop := toNat_lastIssued_apply (r := r) op (by omega)
    rw [after_cons, ih (by omega), hop]
    omega

/-- The counter of a registry that started empty is the number of registrations. -/
theorem toNat_lastIssued_fresh (hfew : registrations history < UInt64.size) :
    (({} : Registry).after history).lastIssued.toNat = registrations history := by
  have hz : ({} : Registry).lastIssued.toNat = 0 := rfl
  rw [toNat_lastIssued_after (by omega), hz, Nat.zero_add]

/-- An issued handle carries the number of the registration that it was issued to. -/
theorem Issued.bounds (hi : Issued h history) (hfew : registrations history < UInt64.size) :
    1 ≤ h.number.toNat ∧ h.number.toNat ≤ registrations history := by
  obtain ⟨past, o, later, rfl, rfl⟩ := hi
  have hw : (Operation.register o).weight = 1 := rfl
  rw [registrations_append, registrations_cons] at hfew ⊢
  have hl : (({} : Registry).after past).lastIssued.toNat = registrations past :=
    toNat_lastIssued_fresh (by omega)
  rw [toNat_next (by omega), hl]
  omega

/-- The handle that comes next is greater than all that were issued. -/
theorem Issued.lt_next (hi : Issued h history) (hfew : registrations history < UInt64.size - 1) :
    h.number < (({} : Registry).after history).next.number := by
  have hl : (({} : Registry).after history).lastIssued.toNat = registrations history :=
    toNat_lastIssued_fresh (by omega)
  have hle := (hi.bounds (by omega)).2
  rw [UInt64.lt_iff_toNat_lt, toNat_next (by omega), hl]
  omega

/-! ## Live handles -/

theorem Issued.append (hi : Issued h past) : Issued h (past ++ later) := by
  obtain ⟨p, o, l, rfl, hn⟩ := hi
  exact ⟨p, o, l ++ later, by simp, hn⟩

/-- A handle that is live was issued. -/
theorem issued_of_contains (hc : (({} : Registry).after history).contains h = true) :
    Issued h history := by
  -- By the last operation: what is live after it was registered by it, or live before.
  induction history using List.reverseRecOn with
  | nil => simp [after, contains, Entries.contains] at hc
  | append_singleton past op ih =>
    rw [after_append, after_cons] at hc
    cases op with
    | register o =>
      simp only [after, List.foldl_nil, Operation.apply, contains_register, Bool.or_eq_true,
        decide_eq_true_eq] at hc
      rcases hc with hn | hc
      · exact ⟨past, o, [], rfl, hn.symm⟩
      · exact (ih hc).append
    | release g =>
      simp only [after, List.foldl_nil, Operation.apply, contains_release, Bool.and_eq_true] at hc
      exact (ih hc.2).append
    | resolve | contains => exact (ih hc).append
    | clear => simp [after, Operation.apply, contains_clear] at hc

/-- A handle with a number that was counted past is never live again. -/
theorem contains_after_of_le (hle : h.number.toNat ≤ r.lastIssued.toNat)
    (hno : r.contains h = false)
    (hfew : r.lastIssued.toNat + registrations later < UInt64.size) :
    (r.after later).contains h = false := by
  -- Every operation keeps both: the counter is past the number, and the handle is not live.
  induction later generalizing r with
  | nil => exact hno
  | cons op later ih =>
    rw [registrations_cons] at hfew
    have hop := toNat_lastIssued_apply (r := r) op (by omega)
    rw [after_cons]
    refine ih (by omega) ?_ (by omega)
    cases op with
    | register o =>
      have hn : h ≠ r.next := by
        rintro rfl
        have hw : (Operation.register o).weight = 1 := rfl
        rw [toNat_next (by omega)] at hle
        omega
      simp [Operation.apply, contains_register, hno, hn]
    | release g => simp [Operation.apply, contains_release, hno]
    | resolve | contains => exact hno
    | clear => exact contains_clear

/-- A handle that was dropped is unknown from then on. -/
theorem unknown_of_dropped (hd : Dropped h history)
    (hfew : registrations history < UInt64.size) : (({} : Registry).after history).Unknown h := by
  obtain ⟨past, op, later, rfl, hop, hc⟩ := hd
  rw [registrations_append, registrations_cons] at hfew
  have hw : op.weight = 0 := by rcases hop with rfl | rfl <;> rfl
  have hle := ((issued_of_contains hc).bounds (by omega)).2
  have hl : (({} : Registry).after past).lastIssued.toNat = registrations past :=
    toNat_lastIssued_fresh (by omega)
  -- The drop removes the handle and leaves the counter, which is past the handle's number.
  have hgone : (op.apply (({} : Registry).after past)).contains h = false := by
    rcases hop with rfl | rfl
    · simp [Operation.apply, contains_release]
    · exact contains_clear
  have hsame : (op.apply (({} : Registry).after past)).lastIssued =
      (({} : Registry).after past).lastIssued := by
    rcases hop with rfl | rfl
    · exact lastIssued_release h
    · rfl
  rw [unknown_iff, after_append, after_cons]
  exact contains_after_of_le (by rw [hsame]; omega) hgone (by rw [hsame]; omega)

/-- A handle that was never issued is unknown. -/
theorem unknown_of_not_issued (hi : ¬Issued h history) :
    (({} : Registry).after history).Unknown h := by
  rw [unknown_iff, ← Bool.not_eq_true]
  exact fun hc => hi (issued_of_contains hc)

end Testbed.Registry
