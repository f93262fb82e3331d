import Testbed.Connection.Serve
import Testbed.Proofs.Dispatcher.Invocation
import Testbed.Proofs.Method.Router
import Testbed.Proofs.Program

/-!
# Invariants of serving

An invariant of the world that every method of a table keeps on every call, and that is not
upset by what is told beside the calls (`Table.Maintains`), is kept by a dispatcher with the
methods of the table, however long it serves and whatever it is sent. What each call is
answered with has then a property that all responses have.

* `Table.Maintains.dispatch`, `Table.Maintains.serveLine`: one request;
* `Table.Maintains.serve`: a whole connection.
-/

namespace Testbed

open Argument Protocol Method Dispatcher Connection

variable {σ : Type}

/-- Every method of a table keeps an invariant of the world when it is called with arguments of
    a request, and is answered with a response that has a property. -/
structure Method.Table.Maintains (t : Table σ) (I : World σ → Prop) (Q : Response → Prop) :
    Prop where
  /-- A call keeps the invariant. -/
  call : ∀ m ∈ t, ∀ line request registry arguments, Request.parse line = .ok request →
    Argument.resolve registry m.signature request.arguments = .ok arguments →
    (m.handler arguments >>= respond).Keeps World.perform I Q
  /-- What is told of the calls does not upset it. -/
  tell : ∀ level message fields w, I w →
    I (w.tell (.record ⟨level, Log.dispatchTarget, message, fields⟩))
  /-- Failures have the property. -/
  error : ∀ e, Q (.error e)

namespace Method.Table.Maintains

variable {t : Table σ} {I : World σ → Prop} {Q : Response → Prop} {d : Dispatcher σ}

theorem dispatch (h : t.Maintains I Q) (hd : d.router.methods = t.byName) (hI : I d.world)
    {line : Bytes} {request : Request} (hline : Request.parse line = .ok request) :
    I (d.dispatch request.method request.arguments).2.world ∧
      Q (d.dispatch request.method request.arguments).1 := by
  cases hi : d.invocation? request.method request.arguments with
  | none =>
    obtain ⟨e, he⟩ := dispatch_of_not_invoked hi
    rw [he]
    exact ⟨hI, h.error e⟩
  | some call =>
    obtain ⟨m, arguments⟩ := call
    obtain ⟨hlookup, hresolve⟩ := invocation?_eq_some_iff.1 hi
    have hm : m ∈ t := Router.mem_of_lookup hd hlookup
    have htold : I (d.world.tell (invoking request.method arguments)) := h.tell _ _ _ _ hI
    rw [dispatch_of_invocation? hi]
    exact h.call m hm line request d.world.registry arguments hline hresolve _ htold

theorem serveLine (h : t.Maintains I Q) (hd : d.router.methods = t.byName) (hI : I d.world)
    (line : Bytes) :
    (Connection.serveLine line d).2.router = d.router ∧
      I (Connection.serveLine line d).2.world ∧ Q (Connection.serveLine line d).1 := by
  rw [Connection.serveLine]
  cases hline : Request.parse line with
  | error e => exact ⟨rfl, hI, h.error e⟩
  | ok request =>
    dsimp only
    cases request.validate with
    | error e => exact ⟨rfl, hI, h.error e⟩
    | ok _ =>
      obtain ⟨hworld, hresponse⟩ := h.dispatch hd hI hline
      refine ⟨router_dispatch _ _ d, ?_, hresponse⟩
      -- How the request went is told as a record of the dispatcher.
      dsimp only
      cases (d.dispatch request.method request.arguments).1 with
      | error e => exact h.tell _ _ _ _ hworld
      | ok r => exact h.tell _ _ _ _ hworld

theorem serveLines (h : t.Maintains I Q) (sink : Sink) (lines : List LineRead)
    (hd : d.router.methods = t.byName) (hI : I d.world) :
    (Connection.serveLines sink lines d).2.router = d.router ∧
      I (Connection.serveLines sink lines d).2.world ∧
      ∀ reply ∈ (Connection.serveLines sink lines d).1,
        ∃ response, Q response ∧ reply = Response.line response := by
  induction lines generalizing d with
  | nil => exact ⟨rfl, hI, by simp [Connection.serveLines]⟩
  | cons read rest ih =>
    cases read with
    | finished => exact ⟨rfl, hI, by simp [Connection.serveLines]⟩
    | failed cause => exact ⟨rfl, h.tell _ _ _ _ hI, by simp [Connection.serveLines]⟩
    | tooLarge beginning =>
      have hclosing : I (d.world.tell (warning "closing connection"
          (Failure.tooLarge beginning.length lineLimit).message)) := h.tell _ _ _ _ hI
      cases sink with
      | none => exact ⟨rfl, hclosing, by simpa [Connection.serveLines] using ⟨_, h.error _, rfl⟩⟩
      | some cause => exact ⟨rfl, h.tell _ _ _ _ hclosing, by simp [Connection.serveLines]⟩
    | complete line =>
      rw [Connection.serveLines]
      split
      case isTrue => exact ih hd hI
      case isFalse =>
        obtain ⟨hrouter, hworld, hresponse⟩ := h.serveLine hd hI line
        cases sink with
        | some cause => exact ⟨hrouter, h.tell _ _ _ _ hworld, by simp⟩
        | none =>
          obtain ⟨hrouter', hworld', hreplies⟩ := ih (hrouter ▸ hd) hworld
          exact ⟨hrouter'.trans hrouter, hworld',
            List.forall_mem_cons.2 ⟨⟨_, hresponse, rfl⟩, hreplies⟩⟩

theorem serve (h : t.Maintains I Q) (source : Source) (sink : Sink)
    (hd : d.router.methods = t.byName) (hI : I d.world) :
    (Connection.serve source sink d).2.router = d.router ∧
      I (Connection.serve source sink d).2.world ∧
      ∀ reply ∈ (Connection.serve source sink d).1,
        ∃ response, Q response ∧ reply = Response.line response :=
  h.serveLines sink source.lines hd hI

end Method.Table.Maintains

end Testbed
