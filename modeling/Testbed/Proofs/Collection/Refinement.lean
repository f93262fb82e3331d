import Testbed.Proofs.Collection.Handlers
import Testbed.Proofs.Dispatcher.Invocation
import Testbed.Proofs.Method.Refusal
import Testbed.Proofs.Method.Router

/-!
# Collections as a driver sees them

A new dispatcher with the collections feature answers every sequence of requests as the store
of collections does.

* `carriedOut_dispatch`: one request, whatever the method and the arguments;
* `serveAll_represents`: a sequence of requests;
* `replies_are_those_of_store`: the same of a new dispatcher, with what the representation of
  the store adds: a request that fails changes nothing, and no request changes the contents
  of a collection other than the one that it writes to.
-/

namespace Testbed

open Argument Protocol Method

variable {σ : Type}

namespace Dispatcher

/-- Serves requests one after the other, and collects the responses. -/
def serveAll : List (String × Bag) → Dispatcher σ → List Response × Dispatcher σ
  | [], d => ([], d)
  | (method, bag) :: r, d =>
    let (response, d) := d.dispatch method bag
    let (responses, d) := serveAll r d
    (response :: responses, d)

/-- The methods of a dispatcher with collections. -/
def collectionMethods : Table σ := Builtin.table ++ Collections.table

theorem names_collectionMethods : (collectionMethods (σ := σ)).names =
    ["release", "flushMemory", "dictionary_create", "dictionary_setValue", "dictionary_getValue",
      "dictionary_count", "dictionary_toMap", "array_create", "array_addValue", "array_getValue",
      "array_count"] := rfl

theorem methods_build_collections (w : World σ) :
    (build [Collections.feature] w).router.methods = collectionMethods.byName := by
  refine methods_build _ w ?_
  change (collectionMethods (σ := σ)).names.Nodup
  rw [names_collectionMethods]
  decide

variable {d : Dispatcher σ} {s : Store} {method : String} {bag : Bag}

/-- The method that is found for a request implements the operation that it asks for. -/
theorem lookup_of_read? (hd : d.router.methods = collectionMethods.byName)
    {op : Store.Operation} (h : Store.Operation.read? method bag = some op) :
    ∃ m, d.router.lookup method = .ok m ∧ m.signature = op.signature ∧ Implements m bag op := by
  have hfind : ∀ {name m}, Entries.get? name collectionMethods.byName = some m →
      d.router.lookup name = .ok m := fun hg => by rw [Router.lookup, hd, hg]
  -- One case for each name that a request may have, in the order of the table.
  unfold Store.Operation.read? at h
  split at h <;> cases h
  · exact ⟨_, hfind rfl, rfl, Store.Operation.implements_release⟩
  · exact ⟨_, hfind rfl, rfl, Store.Operation.implements_flush⟩
  · exact ⟨_, hfind rfl, rfl, Store.Operation.implements_newDictionary⟩
  · exact ⟨_, hfind rfl, rfl, Store.Operation.implements_setValue⟩
  · exact ⟨_, hfind rfl, rfl, Store.Operation.implements_getValue⟩
  · exact ⟨_, hfind rfl, rfl, Store.Operation.implements_countKeys⟩
  · exact ⟨_, hfind rfl, rfl, Store.Operation.implements_toMap⟩
  · exact ⟨_, hfind rfl, rfl, Store.Operation.implements_newArray⟩
  · exact ⟨_, hfind rfl, rfl, Store.Operation.implements_addValue⟩
  · exact ⟨_, hfind rfl, rfl, Store.Operation.implements_itemAt⟩
  · exact ⟨_, hfind rfl, rfl, Store.Operation.implements_countItems⟩

/-- No method is found for a request that asks for no operation. -/
theorem lookup_of_not_read (hd : d.router.methods = collectionMethods.byName)
    (h : Store.Operation.read? method bag = none) :
    d.router.lookup method = .error (.methodNotFound method) := by
  refine Router.lookup_of_not_mem hd fun hm => ?_
  simp only [names_collectionMethods, List.mem_cons, List.not_mem_nil, or_false] at hm
  rcases hm with rfl | rfl | rfl | rfl | rfl | rfl | rfl | rfl | rfl | rfl | rfl <;>
    exact absurd h (by simp [Store.Operation.read?])

/-- A request is refused by the dispatcher as by the store, and changes neither, or it is
    served by carrying out the operation that it asks for. -/
theorem dispatch_cases (hd : d.router.methods = collectionMethods.byName)
    (hr : Represents d.world.registry d.world.heap s) (method : String) (bag : Bag) :
    (∃ e, d.dispatch method bag = (.error e, d) ∧ s.serve method bag = (.error e, s)) ∨
    ∃ op x, Store.Operation.read? method bag = some op ∧
      d.dispatch method bag = (x.1, { d with world := x.2 }) ∧
      s.serve method bag = op.apply s ∧ CarriedOut d.world s op x := by
  cases hop : Store.Operation.read? method bag with
  | none =>
    refine .inl ⟨.methodNotFound method, ?_, ?_⟩
    · simp only [dispatch, lookup_of_not_read hd hop]
    · simp only [Store.serve, hop]
  | some op =>
    obtain ⟨m, hm, hsig, himp⟩ := lookup_of_read? hd hop
    cases hc : d.world.registry.directory.complaint? m.signature bag with
    | some e =>
      refine .inl ⟨.argument e, ?_, ?_⟩
      · simp only [dispatch, hm, resolve_eq, hc]
      · simp only [Store.serve, hop, ← hsig, hr.directory_eq, hc]
    | none =>
      -- The handler runs after the invocation was told of, in the same registry and heap.
      let told := invoking method (arguments d.world.registry bag)
      have hdone := himp (d.world.tell told) s hr hc
      refine .inr ⟨op, _, rfl, ?_, ?_, hdone.response, hdone.represents, hdone.frame⟩
      · simp only [dispatch, hm, resolve_eq, hc]
        rfl
      · simp only [Store.serve, hop, ← hsig, hr.directory_eq, hc]

/-- One request: the reply is that of the store, which stays represented. -/
theorem dispatch_represents (hd : d.router.methods = collectionMethods.byName)
    (hr : Represents d.world.registry d.world.heap s) (method : String) (bag : Bag) :
    (d.dispatch method bag).1 = (s.serve method bag).1 ∧
    Represents (d.dispatch method bag).2.world.registry (d.dispatch method bag).2.world.heap
      (s.serve method bag).2 := by
  rcases dispatch_cases hd hr method bag with ⟨e, he, hs⟩ | ⟨op, x, _, hx, hs, hdone⟩
  · rw [he, hs]
    exact ⟨rfl, hr⟩
  · rw [hx, hs]
    exact ⟨hdone.response, hdone.represents⟩

/-- One request: the contents of a live collection change only if the request asks to write
    to it. -/
theorem contents_dispatch (hd : d.router.methods = collectionMethods.byName)
    (hr : Represents d.world.registry d.world.heap s) {h : Handle} {o : LiveObject}
    (hg : Entries.get? h d.world.registry.live = some o)
    (hne : (d.dispatch method bag).2.world.heap.contents o.object ≠
      d.world.heap.contents o.object) :
    ∃ op, Store.Operation.read? method bag = some op ∧ op.written? = some h := by
  rcases dispatch_cases hd hr method bag with ⟨e, he, _⟩ | ⟨op, x, hop, hx, _, hdone⟩
  · rw [he] at hne
    exact absurd rfl hne
  · refine ⟨op, hop, ?_⟩
    by_contra hw
    rw [hx] at hne
    exact hne (hdone.frame hg hw)

/-- A request that fails changes nothing but the journal. -/
theorem dispatch_of_error (hd : d.router.methods = collectionMethods.byName) {e : Failure}
    (he : (d.dispatch method bag).1 = .error e) :
    ∃ journal, (d.dispatch method bag).2 = { d with world := { d.world with journal } } := by
  rcases handler_of_error he with hsame | ⟨m, args, hm, hrun⟩
  · exact ⟨d.world.journal, hsame⟩
  · have hmem := Router.mem_of_lookup hd hm
    have hnone : (m.handler args).AllOrNothing := by
      rcases List.mem_append.1 hmem with hb | hc
      · exact allOrNothing_builtin hb args
      · exact allOrNothing_collections hc args
    have hw := hnone (d.world.tell (invoking method args)) e (by rw [hrun])
    rw [hrun] at hw
    refine ⟨d.world.journal.push (invoking method args), ?_⟩
    have hrouter := router_dispatch method bag d
    generalize d.dispatch method bag = x at hw hrouter ⊢
    obtain ⟨_, router, world⟩ := x
    obtain rfl : world = d.world.tell (invoking method args) := hw
    obtain rfl : router = d.router := hrouter
    rfl

/-- A sequence of requests: the replies are those of the store, which stays represented. -/
theorem serveAll_represents (hd : d.router.methods = collectionMethods.byName)
    (hr : Represents d.world.registry d.world.heap s) (requests : List (String × Bag)) :
    let served := d.serveAll requests
    served.1 = (s.serveAll requests).1 ∧ served.2.router = d.router ∧
      Represents served.2.world.registry served.2.world.heap (s.serveAll requests).2 := by
  induction requests generalizing d s with
  | nil => exact ⟨rfl, rfl, hr⟩
  | cons request requests ih =>
    obtain ⟨method, bag⟩ := request
    obtain ⟨hreply, hr'⟩ := dispatch_represents hd hr method bag
    have hrouter := router_dispatch method bag d
    obtain ⟨hreplies, hrouter', hr''⟩ := ih (by rwa [hrouter]) hr'
    exact ⟨congrArg₂ List.cons hreply hreplies, hrouter'.trans hrouter, hr''⟩

/-- A new dispatcher with the collections feature answers any sequence of requests exactly as
    the empty store does. In every state that it reaches so, a request that fails changes
    nothing but the journal; and what is inside a live collection, which may well hold the
    markers of others, changes only by a request that asks to write to this collection. -/
theorem replies_are_those_of_store (state : σ) (requests : List (String × Bag)) :
    let served := (build [Collections.feature] { state }).serveAll requests
    served.1 = (({} : Store).serveAll requests).1 ∧
    ∀ method bag,
      (∀ e, (served.2.dispatch method bag).1 = .error e → ∃ journal,
        (served.2.dispatch method bag).2 =
          { served.2 with world := { served.2.world with journal } }) ∧
      ∀ h o, Entries.get? h served.2.world.registry.live = some o →
        (served.2.dispatch method bag).2.world.heap.contents o.object ≠
          served.2.world.heap.contents o.object →
        ∃ op, Store.Operation.read? method bag = some op ∧ op.written? = some h := by
  intro served
  have hd := methods_build_collections ({ state } : World σ)
  have hr : Represents (build [Collections.feature] { state }).world.registry
      (build [Collections.feature] { state }).world.heap {} := by
    obtain ⟨journal, hw⟩ := world_build [Collections.feature] { state }
    rw [hw]
    exact represents_empty
  obtain ⟨hreplies, hrouter, hr'⟩ := serveAll_represents hd hr requests
  have hd' : served.2.router.methods = collectionMethods.byName := by rw [hrouter, hd]
  exact ⟨hreplies, fun method bag => ⟨fun e he => dispatch_of_error hd' he,
    fun h o hg hne => contents_dispatch hd' hr' hg hne⟩⟩

example : (({} : Store).serveAll [
    ("array_create", []),
    ("dictionary_create", [("content", .object [("a", .null), ("b", .null)])]),
    ("dictionary_setValue",
      [("dictionary", .string "@2"), ("key", .string "a"), ("value", .string "@01")]),
    ("dictionary_toMap", [("dictionary", .string "@2")])]).1 =
    [.ok (.handle ⟨1⟩ ⟨"array"⟩), .ok (.handle ⟨2⟩ ⟨"dictionary"⟩), .ok .void,
      .ok (.value (.object [("a", .string "@1"), ("b", .null)]))] := rfl

end Dispatcher

end Testbed
