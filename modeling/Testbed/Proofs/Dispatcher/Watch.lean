import Testbed.Proofs.Dispatcher.History

/-!
# Which handlers run, and when

To tell how often handlers run, a dispatcher is watched: beside the state of the features a
record is kept, in which each handler writes down its call before it does anything else, and
which shows nowhere else (`Dispatcher.watched`).

* `Action.run_watched`: what an action does is the same whether or not a record is kept;
* `dispatch_watched`: a watched dispatcher serves requests as it does unwatched, and a request
  adds to the record the call that it invokes, if there is one;
* `dispatch_invokes_once_and_registers_last`: the handler of a request runs once, and an object
  that it yields is registered after all that the handler did.
-/

namespace Testbed

open Argument Protocol

variable {σ ν α : Type}

/-! ## Keeping a record -/

/-- The world, with a record kept beside the state of the features. -/
def World.beside (record : ν) (w : World σ) : World (σ × ν) where
  registry := w.registry
  heap := w.heap
  state := (w.state, record)
  journal := w.journal

/-- A command, as it is issued where a record is kept: the record is left alone. -/
def Command.watched : (c : Command σ) → Action (σ × ν) c.Answer
  | .register object => Action.register object
  | .resolve handle => Action.resolve handle
  | .release handle => Action.release handle
  | .clear => Action.clear
  | .contains handle => Action.contains handle
  | .size => Action.size
  | .create type c => Action.create type c
  | .contents object => Action.contents object
  | .store object c => Action.store object c
  | .state => do
    let both ← Action.state
    pure both.1
  | .setState s => do
    let both ← Action.state
    Action.setState (s, both.2)
  | .tell entry => Action.tell entry

/-- An action, as it is carried out where a record is kept. -/
def Action.watched : Action σ α → Action (σ × ν) α
  | .done a => pure a
  | .step c next => c.watched >>= fun r => Action.watched (next r)

variable {record : ν}

theorem Command.run_watched (c : Command σ) (w : World σ) :
    (c.watched).run (w.beside record) =
      ((World.perform c w).1, (World.perform c w).2.beside record) := by
  cases c with
  | release handle =>
    change World.perform (.release handle) (w.beside record) = _
    rcases hr : w.registry.release handle with ⟨_ | tag, registry⟩ <;>
      simp only [World.perform, World.beside, World.tell, hr] <;> rfl
  | _ => rfl

/-- A record that is kept changes nothing else. -/
theorem Action.run_watched (a : Action σ α) (w : World σ) :
    a.watched.run (w.beside record) = ((a.run w).1, (a.run w).2.beside record) := by
  induction a generalizing w with
  | done a => rfl
  | step c next ih =>
    rw [watched, run_bind, Command.run_watched, ih]
    rfl

/-- The method, with a handler that first writes down its call. -/
def Method.watched (m : Method σ) : Method (σ × List (Method σ × Arguments)) where
  name := m.name
  signature := m.signature
  handler arguments := do
    let both ← Action.state
    Action.setState (both.1, both.2 ++ [(m, arguments)])
    (m.handler arguments).watched

/-- A watched handler writes down its call, and does what it does unwatched. -/
theorem Method.run_watched (m : Method σ) (arguments : Arguments) (w : World σ)
    (record : List (Method σ × Arguments)) :
    (m.watched.handler arguments).run (w.beside record) =
      (((m.handler arguments).run w).1,
        ((m.handler arguments).run w).2.beside (record ++ [(m, arguments)])) :=
  Action.run_watched (m.handler arguments) w

namespace Dispatcher

/-- The dispatcher, with handlers that write down their calls in a record. -/
def watched (record : List (Method σ × Arguments)) (d : Dispatcher σ) :
    Dispatcher (σ × List (Method σ × Arguments)) where
  router := ⟨Entries.mapValues Method.watched d.router.methods, d.router.builtinInstalled⟩
  world := d.world.beside record

variable {record : List (Method σ × Arguments)} {d : Dispatcher σ} {method : String} {bag : Bag}

theorem lookup_watched (record : List (Method σ × Arguments)) (d : Dispatcher σ)
    (method : String) :
    (d.watched record).router.lookup method = (d.router.lookup method).map Method.watched := by
  rw [Method.Router.lookup, Method.Router.lookup, watched, Entries.get?_mapValues]
  cases Entries.get? method d.router.methods <;> rfl

/-- A request is served by the handler, after it was told that it runs, and by what is made of
    its outcome. -/
theorem run_invoke (m : Method σ) (arguments : Arguments) (w : World σ) :
    (invoke m method arguments).run w =
      (respond ((m.handler arguments).run (w.tell (invoking method arguments))).1).run
        ((m.handler arguments).run (w.tell (invoking method arguments))).2 :=
  Action.run_bind (w.tell (invoking method arguments)) (m.handler arguments) respond

theorem run_respond_beside (outcome : Except Failure Outcome) (w : World σ) (record : ν) :
    (respond outcome).run (w.beside record) =
      (((respond outcome).run w).1, ((respond outcome).run w).2.beside record) := by
  rcases outcome with e | _ | v | o <;> rfl

theorem run_invoke_watched (m : Method σ) (arguments : Arguments) (w : World σ)
    (record : List (Method σ × Arguments)) :
    (invoke m.watched method arguments).run (w.beside record) =
      (((invoke m method arguments).run w).1,
        ((invoke m method arguments).run w).2.beside (record ++ [(m, arguments)])) := by
  have htold : (w.beside record).tell (invoking method arguments) =
      (w.tell (invoking method arguments)).beside record := rfl
  rw [run_invoke, run_invoke, htold, Method.run_watched, run_respond_beside]

/-- A watched dispatcher serves a request as it does unwatched, and writes down the call that
    the request invokes. -/
theorem dispatch_watched (record : List (Method σ × Arguments)) (d : Dispatcher σ)
    (method : String) (bag : Bag) :
    (d.watched record).dispatch method bag = ((d.dispatch method bag).1,
      (d.dispatch method bag).2.watched (record ++ (d.invocation? method bag).toList)) := by
  have hl := lookup_watched record d method
  cases hm : d.router.lookup method with
  | error e =>
    rw [hm] at hl
    simp [dispatch, invocation?, hm, hl, Except.map]
  | ok m =>
    rw [hm] at hl
    have hsame : Argument.resolve (d.watched record).world.registry m.watched.signature bag =
        Argument.resolve d.world.registry m.signature bag := rfl
    cases hr : Argument.resolve d.world.registry m.signature bag with
    | error e =>
      rw [hr] at hsame
      simp [dispatch, invocation?, hm, hl, hr, hsame, Except.map]
    | ok arguments =>
      rw [hr] at hsame
      have hrun : (invoke m.watched method arguments).run (d.watched record).world = _ :=
        run_invoke_watched m arguments d.world record
      simp only [dispatch, invocation?, hm, hl, hr, hsame, Except.map, hrun]
      rfl

/-! ## What becomes of an outcome -/

theorem dispatch_of_run {m : Method σ} {arguments : Arguments} {outcome : Except Failure Outcome}
    {left : World σ} (h : d.invocation? method bag = some (m, arguments))
    (hrun : (m.handler arguments).run (d.world.tell (invoking method arguments)) =
      (outcome, left)) :
    d.dispatch method bag = (((respond outcome).run left).1,
      { d with world := ((respond outcome).run left).2 }) := by
  rw [dispatch_of_invocation? h, run_invoke, hrun]

/-- An object is answered with the handle under which it is registered. -/
theorem run_respond_object (o : Object) (w : World σ) :
    ((respond (.ok (.object o))).run w).1 = .ok (.handle w.registry.next o.tag) ∧
      ((respond (.ok (.object o))).run w).2.registry = (w.registry.register o).2 := ⟨rfl, rfl⟩

/-- Let a dispatcher have any features, and any past in which others than its handlers may have
    acted on its registry as well. A request whose method is known and whose arguments are
    resolved invokes the handler of the method, once, and no other request invokes a handler.
    That a method is unknown is reported whatever the arguments are.

    What the handler yields is passed on, and the world ends as the handler left it, unless
    it yields an object: that is registered last, and its handle names it. As long as the counter
    does not run over, the handle is greater than all that were issued before, in the midst of
    the request or earlier. -/
theorem dispatch_invokes_once_and_registers_last (features : List (Method.Feature σ))
    (w : World σ) (prior : List Registry.Operation) (events : List (Event σ)) (method : String)
    (bag : Bag) :
    let start := build features { w with registry := ({} : Registry).after prior }
    let d := start.after events
    let response := (d.dispatch method bag).1
    let d' := (d.dispatch method bag).2
    (∀ record, (d.watched record).dispatch method bag =
      (response, d'.watched (record ++ (d.invocation? method bag).toList))) ∧
    (∀ m arguments, d.invocation? method bag = some (m, arguments) ↔
      d.router.lookup method = .ok m ∧
        Argument.resolve d.world.registry m.signature bag = .ok arguments) ∧
    (d.router.contains method = false →
      response = .error (.methodNotFound method) ∧ d' = d) ∧
    ∀ m arguments, d.invocation? method bag = some (m, arguments) →
      let called := d.world.tell (invoking method arguments)
      let outcome := ((m.handler arguments).run called).1
      let left := ((m.handler arguments).run called).2
      let history := prior ++ start.operations events ++ (m.handler arguments).operations called
      (∀ e, outcome = .error e → response = .error e ∧ d'.world = left) ∧
      (outcome = .ok .void → response = .ok .void ∧ d'.world = left) ∧
      (∀ v, outcome = .ok (.value v) → response = .ok (.value v) ∧ d'.world = left) ∧
      ∀ o, outcome = .ok (.object o) → ∃ h, response = .ok (.handle h o.tag) ∧
        d'.world.registry = (left.registry.register o).2 ∧
        d'.world.registry.resolve h = .ok ⟨h, o⟩ ∧
        (Registry.registrations history < UInt64.size - 1 →
          ∀ g, Registry.Issued g history → g.number < h.number) := by
  intro start d response d'
  refine ⟨fun record => dispatch_watched record d method bag,
    fun m arguments => invocation?_eq_some_iff, fun hunknown => ?_, fun m arguments hi => ?_⟩
  · have hl : d.router.lookup method = .error (.methodNotFound method) := by
      rw [Method.Router.lookup, Entries.contains_eq_false_iff.1 hunknown]
    simp only [response, d', dispatch, hl, and_self]
  · intro called outcome left history
    have hd : d.dispatch method bag = (((respond outcome).run left).1,
        { d with world := ((respond outcome).run left).2 }) := dispatch_of_run hi rfl
    have hpassed : ∀ r, (respond outcome).run left = (r, left) →
        response = r ∧ d'.world = left := fun r hr => by
      simp only [response, d', hd, hr, and_self]
    refine ⟨fun e he => hpassed _ (by rw [he]; rfl), fun hvoid => hpassed _ (by rw [hvoid]; rfl),
      fun v hv => hpassed _ (by rw [hv]; rfl), fun o ho => ?_⟩
    obtain ⟨hanswer, hregistry⟩ := run_respond_object o left
    rw [← ho] at hanswer hregistry
    have hd' : d'.world.registry = (left.registry.register o).2 := by
      rw [← hregistry]
      simp only [d', hd]
    have hleft : left.registry = ({} : Registry).after history := by
      have hcalled : called.registry =
          ({} : Registry).after (prior ++ start.operations events) := by
        obtain ⟨journal, hw⟩ :=
          world_build features { w with registry := ({} : Registry).after prior }
        change d.world.registry = _
        rw [registry_after, Registry.after_append, hw]
      rw [Registry.after_append, ← hcalled]
      exact Action.registry_run _ _
    refine ⟨left.registry.next, ?_, hd', ?_, fun hfew g hg => ?_⟩
    · rw [← hanswer]
      simp only [response, hd]
    · rw [hd']
      exact Registry.resolve_register o left.registry
    · rw [hleft]
      exact hg.lt_next hfew

/-- A method that registers an object, forgets all objects and registers another before it
    yields a third. -/
def reopen : Method Unit where
  name := "reopen"
  signature := []
  handler _ := do
    let _ ← Action.register ⟨0, .dictionary⟩
    let _ ← Action.clear
    let _ ← Action.register ⟨1, .dictionary⟩
    pure (.ok (.object ⟨2, .array⟩))

/-- What such a method yields gets the third handle, and stays beside the second object. -/
theorem yielded_object_is_registered_last :
    let d : Dispatcher Unit := build [⟨"reopening", [reopen]⟩] { state := () }
    let history : List Registry.Operation :=
      [.register ⟨0, .dictionary⟩, .clear, .register ⟨1, .dictionary⟩]
    ∃ h, (d.dispatch "reopen" []).1 = .ok (.handle h ⟨"array"⟩) ∧
      (d.dispatch "reopen" []).2.world.registry.resolve h = .ok ⟨h, ⟨2, .array⟩⟩ ∧
      (d.dispatch "reopen" []).2.world.registry.size = 2 ∧
      ∀ g, Registry.Issued g history → g.number < h.number := by
  intro d history
  have hserved := dispatch_invokes_once_and_registers_last [⟨"reopening", [reopen]⟩]
    { state := () } [] [] "reopen" []
  obtain ⟨h, hresponse, -, hresolve, hgreatest⟩ :=
    (hserved.2.2.2 reopen ⟨[]⟩ rfl).2.2.2 ⟨2, .array⟩ rfl
  exact ⟨h, hresponse, hresolve, rfl, hgreatest (by decide)⟩

end Dispatcher

end Testbed
