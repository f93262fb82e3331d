import Testbed.World

/-!
# Runs of actions

What the commands of an action come to when it is run, one after the other.
-/

namespace Testbed.Action

variable {σ α β : Type} (w : World σ)

theorem run_bind (a : Action σ α) (f : α → Action σ β) :
    (a >>= f).run w = (f (a.run w).1).run (a.run w).2 :=
  Program.run_bind World.perform a f w

@[simp] theorem run_pure (x : α) : (pure x : Action σ α).run w = (x, w) := rfl

@[simp] theorem run_tell (e : Entry) : (tell e).run w = ((), w.tell e) := rfl

@[simp] theorem run_register (o : Object) :
    (register o).run w =
      ((w.registry.register o).1,
        { w with registry := (w.registry.register o).2 }.tell
          (World.registered (w.registry.register o).1 o)) := rfl

@[simp] theorem run_clear :
    (clear : Action σ Nat).run w =
      (w.registry.size,
        { w with registry := w.registry.clear.2 }.tell (World.cleared w.registry.size)) := rfl

@[simp] theorem run_create (type : ObjectType) (c : Contents) :
    (create type c).run w =
      ((w.heap.allocate type c).1, { w with heap := (w.heap.allocate type c).2 }) := rfl

@[simp] theorem run_store (o : Object) (c : Contents) :
    (store o c).run w = ((), { w with heap := w.heap.store o c }) := rfl

@[simp] theorem run_state : (state : Action σ σ).run w = (w.state, w) := rfl

@[simp] theorem run_setState (s : σ) : (setState s).run w = ((), { w with state := s }) := rfl

variable {w} {h : Handle} {tag : Tag}

theorem run_release_of_live {r : Registry} (hr : w.registry.release h = (.ok tag, r)) :
    (release h).run w = (.ok tag, { w with registry := r }.tell (World.released h tag)) := by
  simp only [run, release, Program.issue, Program.run, World.perform, hr]

/-- A release that fails changes nothing. -/
theorem run_release_of_error {e : HandleError} (he : ((release h).run w).1 = .error e) :
    ((release h).run w).2 = w := by
  simp only [run, release, Program.issue, Program.run, World.perform] at he ⊢
  split at he
  case h_1 => exact absurd he (by simp)
  case h_2 => rfl

end Testbed.Action
