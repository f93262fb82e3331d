import Testbed.Proofs.Dispatcher.Invocation
import Testbed.Proofs.Method.Router
import Testbed.Proofs.Program
import Testbed.Proofs.Registry.History

/-!
# Histories of a dispatcher

A dispatcher lives through requests, through what others who hold its registry do to it,
through the release of all objects and through the installation of features. All of that
reaches the registry as a history of operations (`Dispatcher.operations`), those that
handlers carry out in the midst of a request among them.

* `registry_after`: the registry is what its history makes of it;
* `gone_handle_is_refused`: a handle that was dropped, or was never issued, is unknown to
  the registry, and no request that speaks of it invokes a handler.
-/

namespace Testbed

open Argument Protocol

variable {σ α : Type}

/-- The operation on the registry that a command is, if it is one. -/
def Command.operation? : Command σ → Option Registry.Operation
  | register object => some (.register object)
  | resolve handle => some (.resolve handle)
  | contains handle => some (.contains handle)
  | release handle => some (.release handle)
  | clear => some .clear
  | _ => none

/-- The operations on the registry that an action carries out. -/
def Action.operations (a : Action σ α) (w : World σ) : List Registry.Operation :=
  (a.issued World.perform w).filterMap Command.operation?

theorem World.registry_perform (c : Command σ) (w : World σ) :
    (World.perform c w).2.registry =
      (c.operation?.elim id Registry.Operation.apply) w.registry := by
  cases c with
  | release handle =>
    simp only [World.perform, Command.operation?, Option.elim, Registry.Operation.apply,
      Registry.release]
    cases Entries.get? handle w.registry.live <;> rfl
  | register | resolve | clear | contains | size | create | contents | store | state | setState
    | tell => rfl

/-- The registry follows the operations that an action carries out on it. -/
theorem Action.registry_run (a : Action σ α) (w : World σ) :
    (a.run w).2.registry = w.registry.after (a.operations w) := by
  rw [Action.run, Program.view_run World.registry_perform, Action.operations, Registry.after,
    List.foldl_filterMap]
  congr 1
  funext r c
  cases c.operation? <;> rfl

namespace Dispatcher

/-- What a dispatcher lives through. -/
inductive Event (σ : Type)
  /-- A driver's request. -/
  | request (method : String) (bag : Bag)
  /-- Someone else who holds the registry and the objects acts on them. -/
  | command (c : Command σ)
  /-- All objects are forgotten. -/
  | releaseAll
  /-- The methods of a feature are added. -/
  | install (feature : Method.Feature σ)

namespace Event

/-- The dispatcher after an event. -/
def apply : Event σ → Dispatcher σ → Dispatcher σ
  | request method bag, d => (d.dispatch method bag).2
  | command c, d => { d with world := (World.perform c d.world).2 }
  | releaseAll, d => d.releaseAll.2
  | install feature, d => d.install feature

/-- The operations on the registry that an event comes to. -/
def operations : Event σ → Dispatcher σ → List Registry.Operation
  | request method bag, d =>
    match d.invocation? method bag with
    | some (m, arguments) => (invoke m method arguments).operations d.world
    | none => []
  | command c, _ => c.operation?.toList
  | releaseAll, _ => [.clear]
  | install _, _ => []

end Event

/-- The dispatcher after events. -/
def after : List (Event σ) → Dispatcher σ → Dispatcher σ
  | [], d => d
  | e :: r, d => after r (e.apply d)

/-- The operations on the registry that events come to, in order. -/
def operations : List (Event σ) → Dispatcher σ → List Registry.Operation
  | [], _ => []
  | e :: r, d => e.operations d ++ operations r (e.apply d)

theorem Event.registry_apply (e : Event σ) (d : Dispatcher σ) :
    (e.apply d).world.registry = d.world.registry.after (e.operations d) := by
  cases e with
  | request method bag =>
    rw [apply, operations]
    cases hi : d.invocation? method bag with
    | none =>
      -- Only handlers act on the registry.
      obtain ⟨e, he⟩ := dispatch_of_not_invoked hi
      rw [he]
      rfl
    | some call =>
      rw [dispatch_of_invocation? hi]
      exact Action.registry_run _ _
  | command c =>
    simp only [apply, operations, World.registry_perform]
    cases c.operation? <;> rfl
  | releaseAll =>
    simp only [apply, operations, Dispatcher.releaseAll]
    split <;> rfl
  | install feature =>
    obtain ⟨journal, hw⟩ := world_install feature d
    rw [apply, hw]
    rfl

/-- The registry is what its history makes of it. -/
theorem registry_after (events : List (Event σ)) (d : Dispatcher σ) :
    (d.after events).world.registry = d.world.registry.after (d.operations events) := by
  induction events generalizing d with
  | nil => rfl
  | cons e r ih => rw [after, ih, Event.registry_apply, operations, Registry.after_append]

/-- A handle is gone after a history that dropped it, and before it is ever issued. -/
def Gone (h : Handle) (history : List Registry.Operation) : Prop :=
  Registry.Dropped h history ∨ ¬Registry.Issued h history

theorem Gone.unknown {h : Handle} {history : List Registry.Operation} (hg : Gone h history)
    (hfew : Registry.registrations history < UInt64.size) :
    (({} : Registry).after history).Unknown h :=
  hg.elim (Registry.unknown_of_dropped · hfew) Registry.unknown_of_not_issued

/-- No use after release. Consider a history of fewer than `2 ^ 64 - 1` registrations. At
    each of its points, in the midst of a request or not, a handle that was dropped before
    or was not issued yet is unknown. And whenever a request finds it so, a marker of the
    handle, filled with zeros or not, at any depth of any argument, declared or not, keeps
    every handler from being invoked: the request is refused and changes nothing. -/
theorem gone_handle_is_refused (d : Dispatcher σ) (prior : List Registry.Operation)
    (hd : d.world.registry = ({} : Registry).after prior) (events : List (Event σ))
    (hfew : Registry.registrations (prior ++ d.operations events) < UInt64.size - 1)
    (h : Handle) :
    (∀ past, past <+: prior ++ d.operations events → Gone h past →
      (({} : Registry).after past).Unknown h) ∧
    (Gone h (prior ++ d.operations events) →
      (d.after events).world.registry.Unknown h ∧
      ∀ method bag text, h.IsMarker text → text ∈ Json.Value.textsOfEntries bag →
        (d.after events).invocation? method bag = none ∧
        ∃ e, (d.after events).dispatch method bag = (.error e, d.after events)) := by
  refine ⟨fun past hp hg => hg.unknown ?_, fun hg => ?_⟩
  · obtain ⟨later, hl⟩ := hp
    rw [← hl, Registry.registrations_append] at hfew
    omega
  · have hu : (d.after events).world.registry.Unknown h := by
      rw [registry_after, hd, ← Registry.after_append]
      exact hg.unknown (by omega)
    refine ⟨hu, fun method bag text hm ht => ?_⟩
    have hi : (d.after events).invocation? method bag = none :=
      invocation?_of_dead hu.contains hm ht
    exact ⟨hi, dispatch_of_not_invoked hi⟩

/-- An object is registered and released by its driver; a later request that fills the
    marker with zeros and hides it in an undeclared argument is refused. -/
theorem released_handle_is_refused :
    let d : Dispatcher Unit := build [] { state := () }
    let events : List (Event Unit) := [.command (.register ⟨0, .dictionary⟩),
      .request "release" [("object", .string "@1")]]
    d.world.registry = ({} : Registry).after [] ∧
      Registry.registrations ([] ++ d.operations events) < UInt64.size - 1 ∧
      Gone ⟨1⟩ ([] ++ d.operations events) ∧
      (d.after events).invocation? "flushMemory" [("note", .array [.string "@001"])] = none := by
  intro d events
  have hops : d.operations events = [.register ⟨0, .dictionary⟩, .release ⟨1⟩] := rfl
  have hfew : Registry.registrations ([] ++ d.operations events) < UInt64.size - 1 := by
    rw [hops]
    decide
  have hgone : Gone ⟨1⟩ ([] ++ d.operations events) :=
    .inl ⟨[.register ⟨0, .dictionary⟩], .release ⟨1⟩, [], hops, .inl rfl, rfl⟩
  have hmark : Handle.IsMarker ⟨1⟩ "@001" := ⟨['0', '0', '1'], rfl, by decide, rfl, rfl⟩
  have hrefused := (gone_handle_is_refused d [] rfl events hfew ⟨1⟩).2 hgone
  exact ⟨rfl, hfew, hgone, (hrefused.2 _ _ _ hmark (List.mem_singleton_self _)).1⟩

end Dispatcher

end Testbed
