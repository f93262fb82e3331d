import Testbed.Listener.Basic
import Testbed.Proofs.Program
import Testbed.Proofs.Service.Telling

/-!
# What the listener does

Which accept loops run in an environment is told by a view of it that the answers to the
commands change: a loop that is started runs, and one that is waited for does not
(`SocketCommand.loopsAfter`). To bind a socket starts no loop, to start one that can be started
does, and to stop ends the loop, in order or not. What is told on the way is of connections.

* `loops_bind`, `loops_start`, `loops_stop`: the loops that run afterwards;
* `yields_start`, `yields_stop`: nothing is told of the life of the daemon.
-/

namespace Testbed.Listener

open Program (Issues issues_issue Yields)

variable {ω : Type}

/-- The accept loops that run after a command was answered. -/
def SocketCommand.loopsAfter : (c : SocketCommand) → c.Answer → List Nat → List Nat
  | .spawn socket, .ok (), running => socket :: running
  | .finish socket, _, running => running.erase socket
  | _, _, running => running

/-- A view of the environment by which the accept loops can be told that run in it. -/
def Sockets.ShowLoops (sockets : Sockets ω) (loops : ω → List Nat) : Prop :=
  ∀ c w, loops (sockets c w).2 = c.loopsAfter (sockets c w).1 (loops w)

/-- A command that neither starts an accept loop nor ends one. -/
def SocketCommand.IsQuiet : SocketCommand → Prop
  | .spawn _ | .finish _ => False
  | _ => True

/-! ## Quiet actions -/

theorem isQuiet_removeFile (e : Endpoint) : (removeFile e).Issues SocketCommand.IsQuiet := by
  cases e with
  | tcp host port => exact trivial
  | unix path =>
    refine (issues_issue trivial).bind fun removed => ?_
    cases removed with
    | ok _ => exact trivial
    | error cause =>
      dsimp only
      split
      · exact trivial
      · exact trivial

theorem isQuiet_prepare (e : Endpoint) : (prepare e).Issues SocketCommand.IsQuiet := by
  cases e with
  | tcp host port => exact trivial
  | unix path =>
    rw [prepare]
    split
    · exact trivial
    · split
      · exact trivial
      · refine (issues_issue trivial).bind fun made => ?_
        cases made with
        | error cause => exact trivial
        | ok _ => exact trivial

theorem isQuiet_clearStale (path : String) :
    (clearStale path).Issues SocketCommand.IsQuiet := by
  refine (issues_issue trivial).bind fun found => ?_
  rcases found with cause | _ | _
  · dsimp only
    split
    · exact trivial
    · exact trivial
  · refine (issues_issue trivial).bind fun connected => ?_
    cases connected with
    | ok _ => exact trivial
    | error cause =>
      dsimp only
      split
      · refine (issues_issue trivial).bind fun removed => ?_
        cases removed with
        | error cause => exact trivial
        | ok _ => exact trivial
      · exact trivial
  · exact trivial

theorem isQuiet_bind (e : Endpoint) : (bind e).Issues SocketCommand.IsQuiet := by
  refine (isQuiet_prepare e).bind fun prepared => ?_
  cases prepared with
  | error e => exact trivial
  | ok _ =>
    cases e with
    | tcp host port =>
      refine (issues_issue trivial).bind fun resolved => ?_
      rcases resolved with cause | _ | address
      · exact trivial
      · exact trivial
      · refine (issues_issue trivial).bind fun bound => ?_
        cases bound with
        | error cause => exact trivial
        | ok socket => exact trivial
    | unix path =>
      refine (isQuiet_clearStale path).bind fun cleared => ?_
      cases cleared with
      | error e => exact trivial
      | ok _ =>
        refine (issues_issue trivial).bind fun bound => ?_
        cases bound with
        | error cause => exact trivial
        | ok socket => exact trivial

/-! ## Accept loops -/

section Loops

variable {sockets : Sockets ω} {loops : ω → List Nat}

theorem run_unblock (socket : Nat) (w : ω) :
    (SocketAction.unblock socket).run sockets w = sockets (.unblock socket) w := rfl

theorem run_spawn (socket : Nat) (w : ω) :
    (SocketAction.spawn socket).run sockets w = sockets (.spawn socket) w := rfl

theorem run_finish (socket : Nat) (w : ω) :
    (SocketAction.finish socket).run sockets w = sockets (.finish socket) w := rfl

theorem loops_of_isQuiet {α : Type} (h : sockets.ShowLoops loops) {a : SocketAction α}
    (ha : a.Issues SocketCommand.IsQuiet) (w : ω) : loops (a.run sockets w).2 = loops w := by
  refine ha.view_run (fun c w hc => ?_) w
  rw [h c w]
  cases c with
  | spawn _ | finish _ => exact absurd hc id
  | _ => rfl

theorem loops_bind (h : sockets.ShowLoops loops) (e : Endpoint) (w : ω) :
    loops ((bind e).run sockets w).2 = loops w :=
  loops_of_isQuiet h (isQuiet_bind e) w

/-- A loop runs afterwards if and only if it could be started. -/
theorem loops_start (h : sockets.ShowLoops loops) (b : Bound) (w : ω) :
    loops ((start b).run sockets w).2 =
      if ((start b).run sockets w).1.1.toBool then b.socket :: loops w else loops w := by
  have hunblock : loops (sockets (.unblock b.socket) w).2 = loops w := h (.unblock b.socket) w
  rw [start, Program.run_bind, run_unblock]
  generalize sockets (.unblock b.socket) w = x at hunblock ⊢
  obtain ⟨unblocked, w₁⟩ := x
  cases unblocked with
  | error cause =>
    have hquiet : (removeFile b.endpoint >>= fun told => SocketAction.close b.socket >>= fun _ =>
        pure ((.error (.nonBlocking cause) : Except Error Unit), told)).Issues
          SocketCommand.IsQuiet :=
      (isQuiet_removeFile _).bind fun _ => (issues_issue trivial).bind fun _ => trivial
    have hresult : (removeFile b.endpoint >>= fun told => SocketAction.close b.socket >>= fun _ =>
        pure ((.error (.nonBlocking cause) : Except Error Unit), told)).Yields
          fun r => r.1 = .error (.nonBlocking cause) :=
      Program.yields_bind_of _ fun _ => Program.yields_bind_of _ fun _ => rfl
    dsimp only
    rw [loops_of_isQuiet h hquiet, hunblock, hresult.run]
    rfl
  | ok _ =>
    have hspawn := h (.spawn b.socket) w₁
    dsimp only
    rw [Program.run_bind, run_spawn]
    generalize sockets (.spawn b.socket) w₁ = y at hspawn ⊢
    obtain ⟨spawned, w₂⟩ := y
    cases spawned with
    | error cause =>
      have hclose := h (.close b.socket) w₂
      exact (hclose.trans hspawn).trans hunblock
    | ok _ => exact hspawn.trans (congrArg _ hunblock)

/-- A loop that is waited for does not run any more. -/
theorem loops_stop (h : sockets.ShowLoops loops) (b : Bound) (w : ω) :
    loops ((stop b).run sockets w).2 = (loops w).erase b.socket := by
  have hfinish : loops (sockets (.finish b.socket) w).2 = (loops w).erase b.socket :=
    h (.finish b.socket) w
  rw [stop, Program.run_bind, run_finish]
  generalize sockets (.finish b.socket) w = x at hfinish ⊢
  obtain ⟨inOrder, w₁⟩ := x
  cases inOrder with
  | true =>
    have hquiet : (removeFile b.endpoint >>= fun told =>
        pure ((.ok () : Except Error Unit), stopped b.endpoint :: told)).Issues
          SocketCommand.IsQuiet := (isQuiet_removeFile _).bind fun _ => trivial
    exact (loops_of_isQuiet h hquiet w₁).trans hfinish
  | false => exact hfinish

end Loops

/-! ## What is told -/

/-- Nothing is told of the life of the daemon. -/
def Reticent (told : List Entry) : Prop := ∀ e ∈ told, e.isLifecycle = false

theorem yields_removeFile (e : Endpoint) : (removeFile e).Yields Reticent := by
  cases e with
  | tcp host port => exact fun _ h => absurd h List.not_mem_nil
  | unix path =>
    refine Program.yields_bind_of _ fun removed => ?_
    cases removed with
    | ok _ => exact fun _ h => absurd h List.not_mem_nil
    | error cause =>
      dsimp only
      split
      · exact fun _ h => absurd h List.not_mem_nil
      · exact List.forall_mem_singleton.2 rfl

theorem yields_start (b : Bound) : (start b).Yields fun r => Reticent r.2 := by
  refine Program.yields_bind_of _ fun unblocked => ?_
  cases unblocked with
  | error cause =>
    exact (yields_removeFile _).bind fun _ htold => Program.yields_bind_of _ fun _ => htold
  | ok _ =>
    refine Program.yields_bind_of _ fun spawned => ?_
    cases spawned with
    | error cause =>
      exact Program.yields_bind_of _ fun _ => fun _ h => absurd h List.not_mem_nil
    | ok _ => exact List.forall_mem_singleton.2 rfl

theorem yields_stop (b : Bound) : (stop b).Yields fun r => Reticent r.2 := by
  refine Program.yields_bind_of _ fun inOrder : Bool => ?_
  cases inOrder with
  | true =>
    exact (yields_removeFile _).bind fun _ htold => List.forall_mem_cons.2 ⟨rfl, htold⟩
  | false => exact fun _ h => absurd h List.not_mem_nil

end Testbed.Listener
