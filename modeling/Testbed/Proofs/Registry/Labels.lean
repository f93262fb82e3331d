import Testbed.Proofs.Entries
import Testbed.Registry

/-!
# Labels of live objects

A live object carries the handle under which it is kept (`Registry.Labelled`), and every
operation on the registry keeps this so.
-/

namespace Testbed.Registry

/-- The handle that the next registration gets. -/
def next (r : Registry) : Handle := ⟨r.lastIssued + 1⟩

/-- Every live object carries the handle under which it is kept. -/
def Labelled (r : Registry) : Prop := ∀ ⦃h o⦄, Entries.get? h r.live = some o → o.handle = h

variable {r : Registry}

theorem labelled_empty : Labelled {} := fun _ _ h => by simp at h

theorem Labelled.register (hr : r.Labelled) (object : Object) :
    (r.register object).2.Labelled := by
  intro h o ho
  by_cases hn : h = r.next
  · subst hn
    simp only [Registry.register, next, Entries.get?_put_self, Option.some.injEq] at ho
    exact ho ▸ rfl
  · rw [Registry.register, ← next, Entries.get?_put_of_ne hn] at ho
    exact hr ho

theorem Labelled.release (hr : r.Labelled) (g : Handle) : (r.release g).2.Labelled := by
  rw [Registry.release]
  split
  case h_1 =>
    intro h o ho
    rw [Entries.get?_erase] at ho
    split at ho
    case isTrue => exact absurd ho (by simp)
    case isFalse => exact hr ho
  case h_2 => exact hr

theorem Labelled.clear : (r.clear).2.Labelled := fun _ _ h => by simp [Registry.clear] at h

end Testbed.Registry
