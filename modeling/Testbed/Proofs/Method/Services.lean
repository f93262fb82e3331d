import Testbed.Method.Services
import Testbed.Proofs.Service.Refusal
import Testbed.Proofs.World

/-!
# Methods of services

A handler of a service method acts on the supervisor and never on the objects
(`KeepsObjects`). Where it fails with the code of a refusal, it has not acted on the
supervisor either (`RefusesQuietly`): the arguments are read before the supervisor is asked
for anything, and the supervisor refuses without having acted.

* `keeps_services`: what the procedures keep, every method keeps;
* `keepsObjects_services`, `refusesQuietly_services`: each of the two for every method.
-/

namespace Testbed

open Protocol Service Method

/-- The codes of failures that tell of a request that was refused: for its method, for its
    arguments, by its handler, or by the supervisor. -/
def Protocol.Code.refusals : List Code := [.methodNotFound, .missingArgument, .unknownHandle,
  .typeMismatch, .handlerFailure, .alreadyRunning, .notRunning, .shuttingDown]

theorem isRefusal_of_code {e : Service.Error} (h : (Failure.service e).code ∈ Code.refusals) :
    e.IsRefusal := by
  cases e with
  | alreadyRunning | notRunning | shuttingDown => exact trivial
  | startupTimeout | spawnFailed | exitedDuringStartup | signal | wait | stalled =>
    exact absurd h (by simp [Code.refusals, Failure.code, Failure.serviceCode])

theorem Journal.events_append (j j' : Journal) :
    Journal.events (j ++ j') = j.events ++ j'.events := by
  simp only [Journal.events, Array.toList_append, List.filterMap_append]

/-! ## The world and its supervisor -/

namespace World

variable {ω : Type}

/-- The health events told so far, with those that the supervisor has yet to hand on. -/
def healthEvents (w : World (Supervision ω)) : List Health.Event :=
  w.journal.events ++ w.state.journal.events

/-- Nothing can be seen to have happened to the services: the supervisor tracks the same
    processes in the same phases, no health event was told, and the environment was asked
    nothing, or only whether a tracked process has ended, which it has not. -/
structure Undisturbed (os : OperatingSystem ω) (w w' : World (Supervision ω)) : Prop where
  slot : ∀ service, w'.state.supervisor.slot service = w.state.supervisor.slot service
  closed : w'.state.supervisor.closed = w.state.supervisor.closed
  environment : w'.state.environment = w.state.environment ∨
    ∃ service info, (w.state.supervisor.slot service).process = some info ∧
      os (.poll info.pid) w.state.environment = (.ok none, w'.state.environment)
  events : w'.healthEvents = w.healthEvents

theorem Undisturbed.refl (os : OperatingSystem ω) (w : World (Supervision ω)) :
    w.Undisturbed os w :=
  ⟨fun _ => rfl, rfl, .inl rfl, rfl⟩

/-- A log record is no health event. -/
theorem Undisturbed.tell_record {os : OperatingSystem ω} {w w' : World (Supervision ω)}
    (r : Log.Record) (h : (w.tell (.record r)).Undisturbed os w') : w.Undisturbed os w' := by
  refine ⟨h.slot, h.closed, h.environment, h.events.trans ?_⟩
  simp [healthEvents, tell, Journal.events, Entry.event?]

end World

/-! ## Handlers -/

namespace Action

variable {σ α β ω : Type}

/-- An action that never touches an object, nor what is inside it. -/
def KeepsObjects (a : Action σ α) : Prop :=
  ∀ w, (a.run w).2.registry = w.registry ∧ (a.run w).2.heap = w.heap

/-- An action that fails with the code of a refusal has left the services alone. -/
def RefusesQuietly (os : OperatingSystem ω)
    (a : Action (Supervision ω) (Except Failure Outcome)) : Prop :=
  ∀ w e, (a.run w).1 = .error e → e.code ∈ Code.refusals → w.Undisturbed os (a.run w).2

theorem RefusesQuietly.pure {os : OperatingSystem ω} (x : Except Failure Outcome) :
    RefusesQuietly os (Pure.pure x) :=
  fun w _ _ _ => .refl os w

end Action

namespace Method.Services

open Testbed.Action

variable {ω α : Type} (os : OperatingSystem ω) (config : Config)

theorem run_tellEach (l : List Entry) (w : World (Supervision ω)) :
    (tellEach l).run w = ((), { w with journal := w.journal ++ l.toArray }) := by
  induction l generalizing w with
  | nil => simp [tellEach]
  | cons e l ih => simp [tellEach, run_bind, ih, World.tell]

/-- What a procedure told is told, and the supervisor at work has nothing left to tell. -/
theorem run_supervise (p : Procedure α) (w : World (Supervision ω)) :
    (supervise os p).run w =
      let (a, after) := Supervision.run os p w.state
      (a, { w with
        state := { after with journal := #[] }
        journal := w.journal ++ after.journal }) := by
  simp [supervise, run_bind, run_tellEach]

theorem keepsObjects_supervise (p : Procedure α) : (supervise os p).KeepsObjects := by
  intro w
  rw [run_supervise]
  exact ⟨rfl, rfl⟩

/-- Where a procedure leaves the supervisor as it was, nothing can be seen of it. -/
theorem undisturbed_supervise {p : Procedure α} {w : World (Supervision ω)}
    (h : Untouched os w.state (Supervision.run os p w.state).2) :
    w.Undisturbed os ((supervise os p).run w).2 := by
  rw [run_supervise]
  refine ⟨h.slot, h.closed, h.environment, ?_⟩
  simp only [World.healthEvents, Journal.events_append, h.journal]
  exact List.append_nil _

/-- What a method of services comes to. -/
inductive Answered : Except Failure Outcome → Prop
  | failed (e : Failure) : Answered (.error e)
  | started (info : ProcessInfo) : Answered (.ok (started info))
  | stopped : Answered (.ok .void)
  | standing (phase : Phase) : Answered (.ok (.value (.string phase.text)))

section Keeps

variable {os config} {I : World (Supervision ω) → Prop}

theorem keeps_startWith {l : Launch}
    (hstart : (supervise os ((policyOf config).start l)).Keeps World.perform I fun _ => True) :
    (startWith os config l).Keeps World.perform I Answered := by
  refine hstart.bind fun r _ => ?_
  cases r with
  | error e => exact Program.keeps_pure (.failed _)
  | ok info => exact Program.keeps_pure (.started info)

/-- A method of services keeps what the procedures of the supervisor keep. -/
theorem keeps_services
    (hstart : ∀ l, (supervise os ((policyOf config).start l)).Keeps World.perform I fun _ => True)
    (hstop : ∀ service,
      (supervise os ((policyOf config).stop service)).Keeps World.perform I fun _ => True)
    (hstatus : ∀ service,
      (supervise os (Policy.status service)).Keeps World.perform I fun _ => True)
    {m : Method (Supervision ω)} (hm : m ∈ table os config) (arguments : Argument.Arguments) :
    (m.handler arguments).Keeps World.perform I Answered := by
  have hkill : ∀ service,
      (stopService os config service arguments).Keeps World.perform I Answered := by
    refine fun service => (hstop service).bind fun r _ => ?_
    cases r with
    | error e => exact Program.keeps_pure (.failed _)
    | ok report => exact Program.keeps_pure .stopped
  simp only [table, List.mem_cons, List.not_mem_nil, or_false] at hm
  rcases hm with rfl | rfl | rfl | rfl | rfl
  · change (startSyncGateway os config arguments).Keeps World.perform I Answered
    rw [startSyncGateway]
    cases timeoutOf config arguments with
    | error e => exact Program.keeps_pure (.failed _)
    | ok timeout =>
      cases arguments.string? "config" with
      | error e => exact Program.keeps_pure (.failed _)
      | ok told => exact keeps_startWith (hstart _)
  · exact hkill syncGateway
  · change (startCbServer os config arguments).Keeps World.perform I Answered
    rw [startCbServer]
    cases timeoutOf config arguments with
    | error e => exact Program.keeps_pure (.failed _)
    | ok timeout => exact keeps_startWith (hstart _)
  · exact hkill cbServer
  · change (serviceStatus os arguments).Keeps World.perform I Answered
    rw [serviceStatus]
    cases arguments.string "name" with
    | error e => exact Program.keeps_pure (.failed _)
    | ok name => exact (hstatus name).bind fun phase _ => Program.keeps_pure (.standing phase)

end Keeps

theorem keepsObjects_services {m : Method (Supervision ω)} (hm : m ∈ table os config)
    (arguments : Argument.Arguments) : (m.handler arguments).KeepsObjects := by
  intro w
  have hsupervise : ∀ {α : Type} (p : Procedure α), (supervise os p).Keeps World.perform
      (fun w' => w'.registry = w.registry ∧ w'.heap = w.heap) fun _ => True := by
    intro α p w' hw'
    obtain ⟨hregistry, hheap⟩ := keepsObjects_supervise os p w'
    exact ⟨⟨hregistry.trans hw'.1, hheap.trans hw'.2⟩, trivial⟩
  exact (keeps_services (fun _ => hsupervise _) (fun _ => hsupervise _) (fun _ => hsupervise _)
    hm arguments w ⟨rfl, rfl⟩).1

/-- A method that asks the supervisor for a procedure refuses as the procedure does. -/
theorem refusesQuietly_supervise {p : Procedure (Except Service.Error α)}
    (hp : ∀ s e, (Supervision.run os p s).1 = .error e → e.IsRefusal →
      Untouched os s (Supervision.run os p s).2)
    {next : Except Service.Error α → Action (Supervision ω) (Except Failure Outcome)}
    (herror : ∀ e, next (.error e) = pure (.error (.service e)))
    (hok : ∀ a, ∃ x, next (.ok a) = pure (.ok x)) :
    RefusesQuietly os (supervise os p >>= next) := by
  intro w e he hc
  have hfst : ((supervise os p).run w).1 = (Supervision.run os p w.state).1 := by
    rw [run_supervise]
  rw [run_bind, hfst] at he
  rw [run_bind, hfst]
  cases hr : (Supervision.run os p w.state).1 with
  | ok a =>
    -- What the procedure has yielded is never turned into a failure.
    obtain ⟨x, hx⟩ := hok a
    rw [hr, hx] at he
    exact absurd he (by simp)
  | error e' =>
    rw [hr, herror] at he
    rw [herror]
    obtain rfl : Failure.service e' = e := Except.error.inj he
    exact undisturbed_supervise os (hp w.state e' hr (isRefusal_of_code hc))

theorem refusesQuietly_startWith (l : Launch) : RefusesQuietly os (startWith os config l) :=
  refusesQuietly_supervise os (fun _ _ => Policy.untouched_start os (policyOf config) l)
    (fun _ => rfl) (fun info => ⟨started info, rfl⟩)

theorem refusesQuietly_services {m : Method (Supervision ω)} (hm : m ∈ table os config)
    (arguments : Argument.Arguments) : RefusesQuietly os (m.handler arguments) := by
  have hstop : ∀ service, RefusesQuietly os (stopService os config service arguments) :=
    fun service => refusesQuietly_supervise os
      (fun _ _ => Policy.untouched_stop os (policyOf config) service)
      (fun _ => rfl) (fun _ => ⟨.void, rfl⟩)
  simp only [table, List.mem_cons, List.not_mem_nil, or_false] at hm
  rcases hm with rfl | rfl | rfl | rfl | rfl
  · change RefusesQuietly os (startSyncGateway os config arguments)
    rw [startSyncGateway]
    cases timeoutOf config arguments with
    | error e => exact .pure _
    | ok timeout =>
      cases arguments.string? "config" with
      | error e => exact .pure _
      | ok told => exact refusesQuietly_startWith os config _
  · exact hstop syncGateway
  · change RefusesQuietly os (startCbServer os config arguments)
    rw [startCbServer]
    cases timeoutOf config arguments with
    | error e => exact .pure _
    | ok timeout => exact refusesQuietly_startWith os config _
  · exact hstop cbServer
  · change RefusesQuietly os (serviceStatus os arguments)
    rw [serviceStatus]
    cases arguments.string "name" with
    | error e => exact .pure _
    | ok name =>
      -- Once its argument is read it does not fail.
      intro w e he _
      exact absurd he (by simp [run_bind])

end Method.Services

end Testbed
