import Testbed.Dispatcher
import Testbed.Proofs.Argument.Resolve
import Testbed.Proofs.World

/-!
# Which handler a request invokes

A request invokes a handler when look-up and resolution both succeed, and then the one of
the method that was looked up, with the resolved arguments (`Dispatcher.invocation?`).

* `dispatch_of_invocation?`, `dispatch_of_not_invoked`: a request is served by running the
  handler that it invokes, and refused without a trace where it invokes none;
* `invocation?_of_dead`: a marker of a handle that names nothing keeps every handler from
  being invoked;
* `handler_of_error`: a request that is answered with an error was refused without a trace,
  or its handler failed.
-/

namespace Testbed.Dispatcher

open Argument Protocol

variable {σ : Type} {method : String} {bag : Bag} {d : Dispatcher σ}

/-- The handler that a request invokes, as that of a method, and the arguments it gets. -/
def invocation? (method : String) (bag : Bag) (d : Dispatcher σ) :
    Option (Method σ × Arguments) :=
  match d.router.lookup method with
  | .error _ => none
  | .ok m =>
    match Argument.resolve d.world.registry m.signature bag with
    | .error _ => none
    | .ok arguments => some (m, arguments)

theorem invocation?_eq_some_iff {m : Method σ} {arguments : Arguments} :
    d.invocation? method bag = some (m, arguments) ↔ d.router.lookup method = .ok m ∧
      Argument.resolve d.world.registry m.signature bag = .ok arguments := by
  rw [invocation?]
  cases d.router.lookup method with
  | error e => simp
  | ok m' =>
    simp only [Except.ok.injEq]
    constructor
    · intro h
      cases hr : Argument.resolve d.world.registry m'.signature bag with
      | error e => simp [hr] at h
      | ok a =>
        simp only [hr, Option.some.injEq, Prod.mk.injEq] at h
        obtain ⟨rfl, rfl⟩ := h
        exact ⟨rfl, hr⟩
    · rintro ⟨rfl, hr⟩
      simp only [hr]

theorem dispatch_of_invocation? {m : Method σ} {arguments : Arguments}
    (h : d.invocation? method bag = some (m, arguments)) :
    d.dispatch method bag =
      (((invoke m method arguments).run d.world).1,
        { d with world := ((invoke m method arguments).run d.world).2 }) := by
  obtain ⟨hl, hr⟩ := invocation?_eq_some_iff.1 h
  simp only [dispatch, hl, hr]

/-- A request that invokes no handler is refused and changes nothing. -/
theorem dispatch_of_not_invoked (h : d.invocation? method bag = none) :
    ∃ e, d.dispatch method bag = (.error e, d) := by
  rw [invocation?] at h
  cases hl : d.router.lookup method with
  | error e => exact ⟨e, by simp only [dispatch, hl]⟩
  | ok m =>
    cases hr : Argument.resolve d.world.registry m.signature bag with
    | error e => exact ⟨.argument e, by simp only [dispatch, hl, hr]⟩
    | ok a => simp [hl, hr] at h

/-- A marker of a handle that names nothing, anywhere in the arguments, keeps every handler
    from being invoked. -/
theorem invocation?_of_dead {h : Handle} (hdead : d.world.registry.contains h = false)
    {text : String} (hm : h.IsMarker text) (ht : text ∈ Json.Value.textsOfEntries bag) :
    d.invocation? method bag = none := by
  rw [invocation?]
  cases d.router.lookup method with
  | error e => rfl
  | ok m =>
    have hdir : d.world.registry.directory h = none := by
      rw [Registry.directory, Entries.contains_eq_false_iff.1 hdead, Option.map_none]
    obtain ⟨e, he⟩ : ∃ e, d.world.registry.directory.complaint? m.signature bag = some e :=
      Directory.complaint?_of_dead hdir hm ht
    simp only [resolve_eq, he]

/-! ## Requests that fail -/

theorem router_dispatch (method : String) (bag : Bag) (d : Dispatcher σ) :
    (d.dispatch method bag).2.router = d.router := by
  cases hi : d.invocation? method bag with
  | none =>
    obtain ⟨e, he⟩ := dispatch_of_not_invoked hi
    rw [he]
  | some call => rw [dispatch_of_invocation? hi]

/-- An outcome is never answered with an error. -/
theorem respond_ok (outcome : Outcome) (w : World σ) :
    ∃ r, ((respond (.ok outcome)).run w).1 = .ok r := by
  cases outcome with
  | void => exact ⟨_, rfl⟩
  | value v => exact ⟨_, rfl⟩
  | object o => exact ⟨_, rfl⟩

/-- A request that is answered with an error has left the dispatcher as it was, or it is the
    handler that failed. -/
theorem handler_of_error {e : Failure} (he : (d.dispatch method bag).1 = .error e) :
    (d.dispatch method bag).2 = d ∨ ∃ m arguments, d.router.lookup method = .ok m ∧
      (m.handler arguments).run (d.world.tell (invoking method arguments)) =
        (.error e, (d.dispatch method bag).2.world) := by
  cases hi : d.invocation? method bag with
  | none =>
    obtain ⟨e', he'⟩ := dispatch_of_not_invoked hi
    exact .inl (by rw [he'])
  | some call =>
    obtain ⟨m, arguments⟩ := call
    refine .inr ⟨m, arguments, (invocation?_eq_some_iff.1 hi).1, ?_⟩
    rw [dispatch_of_invocation? hi] at he ⊢
    change ((m.handler arguments >>= respond).run _).1 = _ at he
    change _ = (_, ((m.handler arguments >>= respond).run _).2)
    rw [Action.run_bind] at he ⊢
    generalize (m.handler arguments).run _ = outcome at he ⊢
    obtain ⟨outcome, w⟩ := outcome
    cases outcome with
    | error e' =>
      obtain rfl : e' = e := Except.error.inj he
      rfl
    | ok outcome =>
      obtain ⟨r, hr⟩ := respond_ok outcome w
      simp only [hr] at he
      exact absurd he (by simp)

end Testbed.Dispatcher
