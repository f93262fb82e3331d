import Testbed.Method.Builtin
import Testbed.Method.Collections
import Testbed.Proofs.World

/-!
# Methods that fail

A handler of the built-in methods or of collections reads all its arguments before it acts,
so one that fails has done nothing (`allOrNothing_builtin`, `allOrNothing_collections`).
-/

namespace Testbed

open Protocol Method

variable {σ : Type}

/-- An action that fails leaves the world as it was. -/
def Action.AllOrNothing (a : Action σ (Except Failure Outcome)) : Prop :=
  ∀ w e, (a.run w).1 = .error e → (a.run w).2 = w

namespace Action.AllOrNothing

theorem pure (x : Except Failure Outcome) :
    AllOrNothing (Pure.pure x : Action σ (Except Failure Outcome)) :=
  fun _ _ _ => rfl

/-- An action that never fails. -/
theorem of_ok {a : Action σ (Except Failure Outcome)} (h : ∀ w, ∃ x, (a.run w).1 = .ok x) :
    a.AllOrNothing := by
  intro w e he
  obtain ⟨x, hx⟩ := h w
  rw [hx] at he
  exact absurd he (by simp)

end Action.AllOrNothing

namespace Method.Collections

open Testbed.Action

theorem allOrNothing_withObject {type : ObjectType} {name : String}
    {arguments : Argument.Arguments} {next : Object → Action σ (Except Failure Outcome)}
    (h : ∀ o, (next o).AllOrNothing) : (withObject type name arguments next).AllOrNothing := by
  rw [withObject]
  cases arguments.object type name with
  | error e => exact .pure _
  | ok o => exact h o

end Method.Collections

namespace Method

open Testbed.Action Collections

theorem allOrNothing_builtin {m : Method σ} (hm : m ∈ Builtin.table)
    (arguments : Argument.Arguments) : (m.handler arguments).AllOrNothing := by
  rcases List.mem_cons.1 hm with rfl | hm
  case inl =>
    change (Builtin.release arguments).AllOrNothing
    rw [Builtin.release]
    cases arguments.liveObject "object" with
    | error e => exact .pure _
    | ok o =>
      intro w e he
      simp only [run_bind] at he ⊢
      cases hr : ((release o.handle).run w).1 with
      | error e' => exact run_release_of_error hr
      | ok tag => simp [hr, run_bind] at he
  rcases List.mem_singleton.1 hm with rfl
  exact .of_ok fun w => ⟨_, rfl⟩

theorem allOrNothing_collections {m : Method σ} (hm : m ∈ Collections.table)
    (arguments : Argument.Arguments) : (m.handler arguments).AllOrNothing := by
  simp only [Collections.table, List.mem_cons, List.not_mem_nil, or_false] at hm
  rcases hm with rfl | rfl | rfl | rfl | rfl | rfl | rfl | rfl | rfl
  · change (dictionaryCreate arguments).AllOrNothing
    rw [dictionaryCreate]
    cases arguments.mapping? "content" with
    | error e => exact .pure _
    | ok content => exact .of_ok fun w => ⟨_, rfl⟩
  · refine allOrNothing_withObject fun o => ?_
    cases arguments.string "key" with
    | error e => exact .pure _
    | ok key => exact .of_ok fun w => ⟨_, rfl⟩
  · refine allOrNothing_withObject fun o => ?_
    cases arguments.string "key" with
    | error e => exact .pure _
    | ok key => exact .of_ok fun w => ⟨_, rfl⟩
  · exact allOrNothing_withObject fun o => .of_ok fun w => ⟨_, rfl⟩
  · exact allOrNothing_withObject fun o => .of_ok fun w => ⟨_, rfl⟩
  · change (arrayCreate arguments).AllOrNothing
    rw [arrayCreate]
    cases arguments.sequence? "content" with
    | error e => exact .pure _
    | ok content => exact .of_ok fun w => ⟨_, rfl⟩
  · exact allOrNothing_withObject fun o => .of_ok fun w => ⟨_, rfl⟩
  · refine allOrNothing_withObject fun o => ?_
    cases arguments.natural "index" with
    | error e => exact .pure _
    | ok index =>
      -- The index may still be too great, but then nothing was done before either.
      intro w e _
      simp only [run_bind]
      cases ((items o).run w).1[index]? <;> rfl
  · exact allOrNothing_withObject fun o => .of_ok fun w => ⟨_, rfl⟩

end Method

end Testbed
