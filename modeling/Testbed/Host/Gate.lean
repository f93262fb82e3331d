import Testbed.Host.Network

/-!
# The gate

A listener on a machine that is opened and closed by hand, with a dispatcher behind it.
At most one socket is bound at a time; binding another one lets go of the first.
-/

namespace Testbed.Host

open Listener Os

/-- Somebody who wants to be served. -/
structure Caller where
  /-- The path of the socket that is called, unless the socket has an address. -/
  path : String := ""
  /-- What is sent. -/
  visit : Daemon.Visit

/-- A listener with what it serves. -/
structure Gate (σ : Type) where
  /-- The machine. -/
  machine : Machine
  /-- The socket that is bound and does not listen yet. -/
  bound : Option Bound := none
  /-- What serves requests. -/
  dispatcher : Dispatcher σ
  /-- What was told. -/
  told : Journal := #[]

namespace Gate

variable {σ α : Type}

/-- Carries out an action of the listener. -/
def perform (a : SocketAction α) (g : Gate σ) : α × Gate σ :=
  let (r, machine) := a.run Machine.sockets g.machine
  (r, { g with machine })

/-- Several things are told. -/
def tell (entries : List Entry) (g : Gate σ) : Gate σ :=
  { g with told := g.told ++ entries.toArray }

/-- What the dispatcher told is told. -/
def relay (g : Gate σ) : Gate σ :=
  let world := g.dispatcher.world
  { g with
    told := g.told ++ world.journal
    dispatcher := { g.dispatcher with world := { world with journal := #[] } } }

/-- Lets go of the socket. Its file stays. -/
def drop (g : Gate σ) : Gate σ :=
  match g.bound with
  | some b => { g with bound := none, machine := g.machine.closeSocket b.socket }
  | none => g

/-- Binds a socket to an endpoint, in the place of an earlier one. -/
def bind (e : Endpoint) (g : Gate σ) : Except Listener.Error Bound × Gate σ :=
  match g.perform (Listener.bind e) with
  | (.ok b, g) => (.ok b, { g.drop with bound := some b })
  | (.error e, g) => (.error e, g)

/-- Connects to a socket: who calls. -/
def reach (b : Bound) (c : Caller) (m : Machine) : Except Trouble Connection.Peer :=
  match b.address with
  | some a => (m.connectTcp a).map fun () => .tcp none
  | none => (m.connectUnix c.path).map fun _ => .unix

/-- Serves callers in turn, the first of them as number `n`. -/
def answer (b : Bound) : (n : Nat) → List Caller → Gate σ →
    List (Except Trouble (List Bytes)) × Gate σ
  | _, [], g => ([], g)
  | n, c :: rest, g =>
    match reach b c g.machine with
    | .error cause =>
      let (others, g) := answer b n rest g
      (.error cause :: others, g)
    | .ok peer =>
      let g := g.tell [Listener.accepted n peer.text]
      let (replies, dispatcher) := Connection.serve c.visit.source c.visit.sink g.dispatcher
      let (others, g) := answer b (n + 1) rest { g with dispatcher }.relay
      (.ok replies :: others, g)

/-- Listens at the bound socket until the callers are served. -/
def serve (callers : List Caller) (g : Gate σ) :
    Except Listener.Error (List (Except Trouble (List Bytes))) × Gate σ :=
  match g.bound with
  | none => (.ok [], g)
  | some b =>
    match { g with bound := none }.perform (Listener.start b) with
    | ((.error e, told), g) => (.error e, g.tell told)
    | ((.ok (), told), g) =>
      let (replies, g) := answer b 1 callers (g.tell told)
      let ((_, told), g) := g.perform (Listener.stop b)
      (.ok replies, g.tell told)

end Gate

end Testbed.Host
