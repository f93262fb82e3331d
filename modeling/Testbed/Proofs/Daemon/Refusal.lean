import Testbed.Daemon.Basic
import Testbed.Proofs.Dispatcher.Invocation
import Testbed.Proofs.Method.Refusal
import Testbed.Proofs.Method.Router
import Testbed.Proofs.Method.Services

/-!
# Requests that the daemon answers with an error

A request that is answered with an error has not touched the objects, whichever of the
daemon's methods it was for; and with the code of a refusal it has left the services alone
as well (`error_reply_is_atomic`).
-/

namespace Testbed.Daemon

open Argument Protocol Service Method

variable {ω : Type} (p : Platform ω) (c : Config)

/-- The methods of every daemon. -/
def methodTable : Table (Supervision ω) :=
  Builtin.table ++ (features p c).flatMap Feature.table

theorem names_methodTable : (methodTable p c).names =
    ["release", "flushMemory", "dictionary_create", "dictionary_setValue", "dictionary_getValue",
      "dictionary_count", "dictionary_toMap", "array_create", "array_addValue", "array_getValue",
      "array_count", "start_sync_gateway", "kill_sync_gateway", "start_cb_server",
      "stop_cb_server", "service_status"] := rfl

theorem methods_build_features (w : World (Supervision ω)) :
    (Dispatcher.build (features p c) w).router.methods = (methodTable p c).byName := by
  refine Dispatcher.methods_build _ w ?_
  change (methodTable p c).names.Nodup
  rw [names_methodTable]
  decide

variable {p c}

theorem mem_methodTable {m : Method (Supervision ω)} (hm : m ∈ methodTable p c) :
    m ∈ Builtin.table ∨ m ∈ Collections.table ∨ m ∈ Services.table p.os c := by
  rcases List.mem_append.1 hm with hb | hf
  · exact .inl hb
  · obtain ⟨f, hf, hm⟩ := List.mem_flatMap.1 hf
    rcases List.mem_cons.1 hf with rfl | hf
    · exact .inr (.inl hm)
    · obtain rfl := List.mem_singleton.1 hf
      exact .inr (.inr hm)

/-- Let a dispatcher with the methods of a daemon, in any state, answer a request with an
    error. Then the registry and what is inside the objects are as before. And if the code
    of the error is that of a refusal, nothing can be seen to have happened to the services:
    no process was spawned or signalled, none is tracked that was not or stands elsewhere,
    and no health event was told. -/
theorem error_reply_is_atomic {d : Dispatcher (Supervision ω)} {w : World (Supervision ω)}
    (hd : d.router = (Dispatcher.build (features p c) w).router) {method : String} {bag : Bag}
    {e : Failure} (he : (d.dispatch method bag).1 = .error e) :
    (d.dispatch method bag).2.world.registry = d.world.registry ∧
    (d.dispatch method bag).2.world.heap = d.world.heap ∧
    (e.code ∈ Code.refusals → d.world.Undisturbed p.os (d.dispatch method bag).2.world) := by
  rcases Dispatcher.handler_of_error he with hsame | ⟨m, arguments, hm, hrun⟩
  · rw [hsame]
    exact ⟨rfl, rfl, fun _ => .refl p.os d.world⟩
  have hmethods : d.router.methods = (methodTable p c).byName := by
    rw [hd, methods_build_features]
  have hfst := congrArg Prod.fst hrun
  have hsnd := congrArg Prod.snd hrun
  -- What fails has done nothing, or is a method of services.
  have hcases : (m.handler arguments).AllOrNothing ∨ m ∈ Services.table p.os c := by
    rcases mem_methodTable (Router.mem_of_lookup hmethods hm) with hb | hc | hs
    · exact .inl (allOrNothing_builtin hb arguments)
    · exact .inl (allOrNothing_collections hc arguments)
    · exact .inr hs
  rcases hcases with hnothing | hs
  · have hworld : (d.dispatch method bag).2.world =
        d.world.tell (Dispatcher.invoking method arguments) :=
      hsnd.symm.trans (hnothing _ e hfst)
    rw [hworld]
    exact ⟨rfl, rfl, fun _ => .tell_record _ (.refl p.os _)⟩
  · obtain ⟨hregistry, hheap⟩ := Services.keepsObjects_services p.os c hs arguments
      (d.world.tell (Dispatcher.invoking method arguments))
    have hquiet := Services.refusesQuietly_services p.os c hs arguments _ e hfst
    rw [hrun] at hregistry hheap hquiet
    exact ⟨hregistry, hheap, fun hcode => .tell_record _ (hquiet hcode)⟩

/-- A platform on which nothing happens: programs run on, and nobody connects. -/
def stillPlatform : Platform Unit where
  os
    | .spawn _, w => (.ok 1, w)
    | .poll _, w => (.ok none, w)
    | .await _, w => (.ok (.exited 0), w)
    | .signal _ _, w => (.ok (), w)
    | .now, w => ((0 : Nat), w)
    | .sleep _, w => ((), w)
    | .knock _ _, w => (false, w)
  sockets
    | .makeDirectories _, w => (.ok (), w)
    | .inspect _, w => (.ok .other, w)
    | .connect _, w => (.ok (), w)
    | .remove _, w => (.ok (), w)
    | .bindUnix _, w => (.ok 0, w)
    | .resolve _ _, w => (.ok none, w)
    | .bindTcp a, w => (.ok (0, a), w)
    | .unblock _, w => (.ok (), w)
    | .spawn _, w => (.ok (), w)
    | .finish _, w => (true, w)
    | .close _, w => ((), w)

/-- A new daemon refuses to stop a service that never ran, and it can be seen of nothing. -/
theorem stop_of_new_daemon_is_refused :
    let d := Dispatcher.build (features stillPlatform .default) { state := { environment := () } }
    (d.dispatch "kill_sync_gateway" []).1 = .error (.service (.notRunning "sync_gateway")) ∧
      (d.dispatch "kill_sync_gateway" []).2.world.registry = d.world.registry ∧
      d.world.Undisturbed stillPlatform.os (d.dispatch "kill_sync_gateway" []).2.world := by
  intro d
  have hlookup : d.router.lookup "kill_sync_gateway" = .ok ⟨"kill_sync_gateway", [],
      Services.stopService stillPlatform.os .default Services.syncGateway⟩ := by
    rw [Router.lookup, methods_build_features]
    rfl
  have he : (d.dispatch "kill_sync_gateway" []).1 =
      .error (.service (.notRunning "sync_gateway")) := by
    simp only [Dispatcher.dispatch, hlookup]
    rfl
  obtain ⟨hregistry, _, hquiet⟩ := error_reply_is_atomic rfl he
  exact ⟨he, hregistry, hquiet (by decide)⟩

end Testbed.Daemon
