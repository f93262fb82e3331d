import Testbed.Proofs.Registry.History
import Mathlib.Algebra.GroupWithZero.Nat

/-!
# The account of a registry

What is live after a history can be told from the history alone: an object is live under
the handle with the number of its registration, until the handle is released or all objects
are forgotten (`Registry.IsLive`). Every registration is accounted for: its object is live,
or it was released, or it was among those forgotten together.

* `get?_after_iff`: what is kept after a history;
* `registrations_eq`: the account of all registrations;
* `registry_follows_history`: what a registry answers after a history.
-/

namespace Testbed.Registry

/-- What an operation is answered. -/
inductive Answer
  /-- The handle of a registration. -/
  | issued (handle : Handle)
  /-- What a look-up found. -/
  | found (result : Except HandleError LiveObject)
  /-- Whether a handle is live. -/
  | known (live : Bool)
  /-- What a release found. -/
  | released (result : Except HandleError Tag)
  /-- How many objects were forgotten together. -/
  | cleared (count : Nat)

/-- What a registry answers to an operation. -/
def Operation.answer : Operation → Registry → Answer
  | register object, r => .issued (r.register object).1
  | resolve handle, r => .found (r.resolve handle)
  | contains handle, r => .known (r.contains handle)
  | release handle, r => .released (r.release handle).1
  | clear, r => .cleared r.clear.1

/-- The answers to the operations of a history, in order. -/
def answers : List Operation → Registry → List Answer
  | [], _ => []
  | op :: later, r => op.answer r :: answers later (op.apply r)

namespace Answer

/-- The answer of an operation that failed. -/
def IsFailure : Answer → Prop
  | found (.error _) | released (.error _) => True
  | _ => False

/-- Whether an object was released. -/
def isRelease : Answer → Bool
  | released (.ok _) => true
  | _ => false

/-- How many objects were forgotten together. -/
def forgotten : Answer → Nat
  | cleared count => count
  | _ => 0

end Answer

/-- The object was registered as the one that the handle's number counts, and since then
    the handle was not released, nor were all objects forgotten. -/
def IsLive (h : Handle) (o : Object) (history : List Operation) : Prop :=
  ∃ past later, history = past ++ .register o :: later ∧
    h.number.toNat = registrations past + 1 ∧ .release h ∉ later ∧ .clear ∉ later

variable {h : Handle} {o : Object} {r : Registry} {history past later : List Operation}

/-! ## Single operations -/

theorem after_concat (op : Operation) : r.after (past ++ [op]) = op.apply (r.after past) :=
  after_append

theorem get?_register (o : Object) :
    Entries.get? h (r.register o).2.live =
      if h = r.next then some ⟨r.next, o⟩ else Entries.get? h r.live := by
  rw [register, ← next]
  split
  case isTrue hn => rw [hn, Entries.get?_put_self]
  case isFalse hn => rw [Entries.get?_put_of_ne hn]

theorem get?_release (g : Handle) :
    Entries.get? h (r.release g).2.live = if h = g then none else Entries.get? h r.live := by
  rw [release]
  split
  case h_1 => rw [Entries.get?_erase]
  case h_2 hg =>
    split
    case isTrue h => rw [h, hg]
    case isFalse => rfl

/-- An operation that fails changes nothing. -/
theorem apply_of_failure {op : Operation} (hf : (op.answer r).IsFailure) : op.apply r = r := by
  cases op with
  | release g =>
    rw [Operation.answer, release] at hf
    rw [Operation.apply, release]
    cases hg : Entries.get? g r.live with
    | none => rfl
    | some e => simp [hg, Answer.IsFailure] at hf
  | resolve | contains => rfl
  | register | clear => exact absurd hf id

/-! ## Live objects -/

theorem not_isLive_nil : ¬IsLive h o [] := by
  rintro ⟨past, later, hl, _⟩
  exact absurd hl (by simp)

/-- The handle of a live object counts one of the registrations. -/
theorem IsLive.bounds (hl : IsLive h o history) :
    1 ≤ h.number.toNat ∧ h.number.toNat ≤ registrations history := by
  obtain ⟨past, later, rfl, hn, _⟩ := hl
  have hw : (Operation.register o).weight = 1 := rfl
  rw [registrations_append, registrations_cons, hn, hw]
  omega

/-- What is live after one more operation was registered by it, or it was live before and
    was not dropped by it. -/
theorem isLive_concat_iff {op : Operation} :
    IsLive h o (past ++ [op]) ↔
      (op = .register o ∧ h.number.toNat = registrations past + 1) ∨
      (IsLive h o past ∧ op ≠ .release h ∧ op ≠ .clear) := by
  constructor
  · rintro ⟨p, l, hl, hn, hrel, hclr⟩
    rcases List.eq_nil_or_concat l with rfl | ⟨l, last, rfl⟩
    · obtain ⟨rfl, hop⟩ := List.append_inj' hl rfl
      obtain rfl := List.singleton_inj.1 hop
      exact .inl ⟨rfl, hn⟩
    · rw [List.concat_eq_append, ← List.cons_append, ← List.append_assoc] at hl
      obtain ⟨rfl, hop⟩ := List.append_inj' hl rfl
      obtain rfl := List.singleton_inj.1 hop
      simp only [List.concat_eq_append, List.mem_append, List.mem_singleton, not_or] at hrel hclr
      exact .inr ⟨⟨p, l, rfl, hn, hrel.1, hclr.1⟩, Ne.symm hrel.2, Ne.symm hclr.2⟩
  · rintro (⟨rfl, hn⟩ | ⟨⟨p, l, rfl, hn, hrel, hclr⟩, hop, hop'⟩)
    · exact ⟨past, [], rfl, hn, List.not_mem_nil, List.not_mem_nil⟩
    · refine ⟨p, l ++ [op], by simp, hn, ?_, ?_⟩
      · simp [hrel, Ne.symm hop]
      · simp [hclr, Ne.symm hop']

/-- The next registration is counted by the next handle. -/
theorem eq_next_iff (hfew : registrations past + 1 < UInt64.size) :
    h = (({} : Registry).after past).next ↔ h.number.toNat = registrations past + 1 := by
  have hl : (({} : Registry).after past).lastIssued.toNat = registrations past :=
    toNat_lastIssued_fresh (by omega)
  have hn : (({} : Registry).after past).next.number.toNat = registrations past + 1 := by
    rw [toNat_next (by omega), hl]
  constructor
  · rintro rfl
    exact hn
  · intro hh
    rw [← hn] at hh
    exact congrArg Handle.mk (UInt64.toNat_inj.1 hh)

/-- What is kept under a handle after a history is the object that is live under it, with
    the handle. -/
theorem get?_after_iff (hfew : registrations history < UInt64.size) {e : LiveObject} :
    Entries.get? h (({} : Registry).after history).live = some e ↔
      e.handle = h ∧ IsLive h e.object history := by
  -- By the last operation.
  induction history using List.reverseRecOn generalizing e with
  | nil => simp [after, not_isLive_nil]
  | append_singleton past op ih =>
    rw [registrations_append, registrations_cons] at hfew
    replace ih := fun e => @ih (by omega) e
    rw [after_concat, isLive_concat_iff]
    cases op with
    | register o =>
      have hnext := eq_next_iff (h := h) hfew
      rw [Operation.apply, get?_register]
      by_cases hn : h = (({} : Registry).after past).next
      · -- The handle is new, so nothing was live under it.
        have hnum := hnext.1 hn
        have hnot : ∀ o, ¬IsLive h o past := fun o hl => by
          have := hl.bounds.2
          omega
        rw [if_pos hn, ← hn]
        simp only [Option.some.injEq, Operation.register.injEq, hnum, hnot, and_true, false_and,
          or_false]
        constructor
        · rintro rfl
          exact ⟨rfl, rfl⟩
        · rintro ⟨rfl, rfl⟩
          rfl
      · have hnum : ¬h.number.toNat = registrations past + 1 := fun hh => hn (hnext.2 hh)
        rw [if_neg hn, ih]
        simp only [hnum, and_false, false_or, ne_eq, reduceCtorEq, not_false_eq_true, and_true]
    | release g =>
      rw [Operation.apply, get?_release]
      by_cases hg : h = g
      · simp [hg]
      · rw [if_neg hg, ih]
        simp [Ne.symm hg]
    | resolve | contains => simp [Operation.apply, ih]
    | clear => simp [Operation.apply, clear]

theorem resolve_after_iff (hfew : registrations history < UInt64.size) {e : LiveObject} :
    (({} : Registry).after history).resolve h = .ok e ↔
      e.handle = h ∧ IsLive h e.object history := by
  rw [← get?_after_iff hfew, resolve]
  cases Entries.get? h (({} : Registry).after history).live <;> simp

theorem contains_after_iff (hfew : registrations history < UInt64.size) :
    (({} : Registry).after history).contains h = true ↔ ∃ o, IsLive h o history := by
  rw [contains, Entries.contains, Option.isSome_iff_exists]
  simp only [get?_after_iff hfew]
  constructor
  · rintro ⟨e, -, hl⟩
    exact ⟨e.object, hl⟩
  · rintro ⟨o, hl⟩
    exact ⟨⟨h, o⟩, rfl, hl⟩

theorem release_after_iff (hfew : registrations history < UInt64.size) {tag : Tag} :
    ((({} : Registry).after history).release h).1 = .ok tag ↔
      ∃ o, IsLive h o history ∧ o.tag = tag := by
  have hget : ((({} : Registry).after history).release h).1 = .ok tag ↔
      ∃ e, Entries.get? h (({} : Registry).after history).live = some e ∧ e.tag = tag := by
    rw [release]
    cases Entries.get? h (({} : Registry).after history).live <;> simp
  simp only [hget, get?_after_iff hfew]
  constructor
  · rintro ⟨e, ⟨-, hl⟩, ht⟩
    exact ⟨e.object, hl, ht⟩
  · rintro ⟨o, hl, ht⟩
    exact ⟨⟨h, o⟩, ⟨rfl, hl⟩, ht⟩

/-- What is kept was registered, whatever was registered since. -/
theorem register_mem_of_live {e : LiveObject}
    (he : Entries.get? h (({} : Registry).after history).live = some e) :
    .register e.object ∈ history := by
  -- By the last operation: only a registration adds an object.
  induction history using List.reverseRecOn with
  | nil => simp [after] at he
  | append_singleton past op ih =>
    rw [after_concat] at he
    rw [List.mem_append, List.mem_singleton]
    cases op with
    | register o =>
      rw [Operation.apply, get?_register] at he
      split at he
      case isTrue => exact .inr (Option.some.inj he ▸ rfl)
      case isFalse => exact .inl (ih he)
    | release g =>
      rw [Operation.apply, get?_release] at he
      split at he
      case isTrue => exact absurd he (by simp)
      case isFalse => exact .inl (ih he)
    | resolve | contains => exact .inl (ih he)
    | clear => exact absurd he.symm (Option.some_ne_none _)

/-! ## The account -/

/-- No handle occurs twice. -/
theorem nodup_keys_after (history : List Operation) :
    (Entries.keys (({} : Registry).after history).live).Nodup := by
  induction history using List.reverseRecOn with
  | nil => exact List.nodup_nil
  | append_singleton past op ih =>
    rw [after_concat]
    cases op with
    | register o => exact Entries.nodup_keys_put _ ih
    | release g =>
      rw [Operation.apply, release]
      split
      case h_1 => exact Entries.nodup_keys_erase g ih
      case h_2 => exact ih
    | resolve | contains => exact ih
    | clear => exact List.nodup_nil

/-- A registration adds one live object. -/
theorem size_register (hfew : registrations past + 1 < UInt64.size) (o : Object) :
    ((({} : Registry).after past).register o).2.size = (({} : Registry).after past).size + 1 := by
  have hnew : (({} : Registry).after past).next ∉
      Entries.keys (({} : Registry).after past).live := by
    rw [← Entries.get?_eq_none_iff, Option.eq_none_iff_forall_ne_some]
    intro e he
    have := ((get?_after_iff (by omega)).1 he).2.bounds.2
    have := (eq_next_iff hfew).1 rfl
    omega
  rw [register, ← next, size, Entries.put_of_not_mem hnew, List.length_append]
  rfl

/-- A release that succeeds takes away one live object, and any other none. -/
theorem size_release (hr : (Entries.keys r.live).Nodup) (g : Handle) :
    r.size = (r.release g).2.size +
      if (Operation.answer (.release g) r).isRelease then 1 else 0 := by
  rw [Operation.answer, release]
  cases hg : Entries.get? g r.live with
  | none => simp [Answer.isRelease]
  | some e => exact Entries.length_erase hr (Entries.mem_of_get? hg)

theorem answers_concat (op : Operation) :
    answers (past ++ [op]) r = answers past r ++ [op.answer (r.after past)] := by
  induction past generalizing r with
  | nil => rfl
  | cons op' past ih => rw [List.cons_append, answers, ih, answers, after_cons, List.cons_append]

/-- Every registration is accounted for: its object is live, or was released, or was
    forgotten together with others. -/
theorem registrations_eq (hfew : registrations history < UInt64.size) :
    registrations history = (({} : Registry).after history).size +
      (answers history {}).countP Answer.isRelease +
      ((answers history {}).map Answer.forgotten).sum := by
  induction history using List.reverseRecOn with
  | nil => rfl
  | append_singleton past op ih =>
    rw [registrations_append, registrations_cons] at hfew
    replace ih := ih (by omega)
    have hnil : registrations [] = 0 := rfl
    rw [registrations_append, registrations_cons, hnil, after_concat, answers_concat,
      List.countP_append, List.map_append, List.sum_append, List.countP_singleton,
      List.map_singleton, List.sum_singleton]
    cases op with
    | register o =>
      have hsize := @size_register past hfew o
      simp only [Operation.weight, Operation.isRegistration, Operation.apply, Operation.answer,
        Answer.isRelease, Answer.forgotten] at hsize ⊢
      simp only [if_true, Bool.false_eq_true, if_false]
      omega
    | release g =>
      have hsize := size_release (nodup_keys_after past) g
      simp only [Operation.weight, Operation.isRegistration, Operation.apply, Operation.answer,
        Answer.forgotten, Bool.false_eq_true, if_false] at hsize ⊢
      omega
    | resolve | contains =>
      simp only [Operation.weight, Operation.isRegistration, Operation.apply, Operation.answer,
        Answer.isRelease, Answer.forgotten, Bool.false_eq_true, if_false]
      omega
    | clear =>
      have hempty : (({} : Registry).after past).clear.2.size = 0 := rfl
      have hcount : (({} : Registry).after past).clear.1 = (({} : Registry).after past).size := rfl
      simp only [Operation.weight, Operation.isRegistration, Operation.apply, Operation.answer,
        Answer.isRelease, Answer.forgotten, Bool.false_eq_true, if_false, hempty, hcount]
      omega

/-! ## What a registry answers -/

/-- What is kept carries its handle, which counts one of the registrations. -/
theorem bounds_of_mem_live (hfew : registrations history < UInt64.size) {e : LiveObject}
    (he : (h, e) ∈ (({} : Registry).after history).live) :
    e.handle = h ∧ 1 ≤ h.number.toNat ∧ h.number.toNat ≤ registrations history := by
  have hget := Entries.get?_of_mem (nodup_keys_after history) he
  obtain ⟨hh, hl⟩ := (get?_after_iff hfew).1 hget
  exact ⟨hh, hl.bounds⟩

/-- Consider a registry after a history of fewer than `2 ^ 64 - 1` registrations. The next
    registration gets the handle that counts it, whatever was released. What is kept
    carries its handle, which counts a registration. A handle leads to the object whose
    registration it counts, with its tag, as long as it was neither released nor all objects
    were forgotten since then; it can be released in just that case, and otherwise it is
    unknown. What fails changes nothing. And the registrations are as many as the live
    objects, those that were released, and those that were forgotten together. -/
theorem registry_follows_history (history : List Operation)
    (hfew : registrations history < UInt64.size - 1) :
    let r := ({} : Registry).after history
    (∀ o, (r.register o).1.number.toNat = registrations history + 1) ∧
    (∀ h e, (h, e) ∈ r.live →
      e.handle = h ∧ 1 ≤ h.number.toNat ∧ h.number.toNat ≤ registrations history) ∧
    (∀ h e, r.resolve h = .ok e ↔ e.handle = h ∧ IsLive h e.object history) ∧
    (∀ h, r.contains h = true ↔ ∃ o, IsLive h o history) ∧
    (∀ h tag, (r.release h).1 = .ok tag ↔ ∃ o, IsLive h o history ∧ o.tag = tag) ∧
    (∀ h, (∀ o, ¬IsLive h o history) → r.Unknown h) ∧
    (∀ op : Operation, (op.answer r).IsFailure → op.apply r = r) ∧
    registrations history = r.size + (answers history {}).countP Answer.isRelease +
      ((answers history {}).map Answer.forgotten).sum := by
  intro r
  have hfew' : registrations history < UInt64.size := by omega
  have hcontains : ∀ h, r.contains h = true ↔ ∃ o, IsLive h o history :=
    fun h => contains_after_iff hfew'
  refine ⟨fun o => (eq_next_iff (by omega)).1 rfl, fun h e he => bounds_of_mem_live hfew' he,
    fun h e => resolve_after_iff hfew', hcontains, fun h tag => release_after_iff hfew', ?_,
    fun op hf => apply_of_failure hf, registrations_eq hfew'⟩
  intro h hno
  rw [unknown_iff, ← Bool.not_eq_true, hcontains]
  exact fun ⟨o, hl⟩ => hno o hl

/-- An object that is registered twice is live under two handles; the second leads to it
    after the first is released, and the next registration is the third. -/
theorem shared_object_outlives_handle :
    let o : Object := ⟨0, .dictionary⟩
    let history : List Operation := [.register o, .register o, .release ⟨1⟩]
    registrations history < UInt64.size - 1 ∧
      (({} : Registry).after history).resolve ⟨2⟩ = .ok ⟨⟨2⟩, o⟩ ∧
      ((({} : Registry).after history).register o).1.number.toNat = 3 := by
  intro o history
  have hfew : registrations history < UInt64.size - 1 := by decide
  have hlive : IsLive ⟨2⟩ o history :=
    ⟨[.register o], [.release ⟨1⟩], rfl, rfl, by decide, by decide⟩
  obtain ⟨hnext, _, hresolve, _⟩ := registry_follows_history history hfew
  exact ⟨hfew, (hresolve ⟨2⟩ _).2 ⟨rfl, hlive⟩, hnext o⟩

end Testbed.Registry
