import Testbed.Proofs.Connection.Invariant
import Testbed.Proofs.Daemon.Refusal
import Testbed.Proofs.Method.Mild
import Testbed.Proofs.Service.Steps

/-!
# The world of a daemon that serves

As long as a daemon serves, its supervisor starts services and keeps its notes in order, hands
on what it tells, and nobody tells of the life of the daemon as a whole (`World.IsOpen`). And
what the operating system never changes of the environment on behalf of the supervisor stays
as it is. Each of the two is an invariant of all methods of the daemon.

* `Daemon.maintains_isOpen`, `Daemon.maintains_view`: the two invariants.
-/

namespace Testbed

open Argument Protocol Service Method Supervision

variable {α ω τ : Type}

/-! ## What procedures keep -/

namespace Service

namespace Supervision

variable (os : OperatingSystem ω)

/-- What was told of the life of the daemon. -/
def lifecycle (s : Supervision ω) : List Entry := s.journal.toList.filter Entry.isLifecycle

theorem lifecycle_perform {c : SupervisorCommand} (hc : c.IsReticent) (s : Supervision ω) :
    (perform os c s).2.lifecycle = s.lifecycle := by
  cases c with
  | tell e =>
    replace hc : e.isLifecycle = false := hc
    rw [lifecycle, perform, Array.toList_push, List.filter_append,
      List.filter_cons_of_neg (by simp [hc]), List.filter_nil, List.append_nil, lifecycle]
  | _ => rfl

theorem lifecycle_run {p : Procedure α} (hp : p.Issues SupervisorCommand.IsReticent)
    (s : Supervision ω) : (run os p s).2.lifecycle = s.lifecycle :=
  hp.view_run (fun _ s hc => lifecycle_perform os hc s) s

/-- What the operating system never changes of the environment no procedure changes. -/
theorem view_run {view : ω → τ} (hos : ∀ c w, view (os c w).2 = view w) (p : Procedure α)
    (s : Supervision ω) : view (run os p s).2.environment = view s.environment := by
  have hperform : ∀ (c : SupervisorCommand) (s : Supervision ω),
      view (perform os c s).2.environment = view s.environment := by
    intro c s
    cases c with
    | os c => exact hos c s.environment
    | _ => rfl
  change view (p.run (perform os) s).2.environment = view s.environment
  induction p generalizing s with
  | done a => rfl
  | step c next ih => rw [Program.run, ih, hperform c s]

end Supervision

end Service

/-! ## The invariants -/

/-- The world of a daemon that serves. -/
structure World.IsOpen (w : World (Supervision ω)) : Prop where
  /-- The notes of the supervisor are in order. -/
  orderly : w.state.supervisor.Orderly
  /-- Services are started. -/
  unclosed : w.state.supervisor.closed = false
  /-- What the supervisor told was handed on. -/
  handedOn : w.state.journal = #[]
  /-- Nobody told of the life of the daemon. -/
  reticent : w.lifecycle = []

namespace Method.Services

variable {os : OperatingSystem ω} {policy : Policy}

theorem keepsOpen_supervise {p : Procedure α} (hp : p.Issues SupervisorCommand.IsReticent)
    (horderly : ∀ s : Supervision ω, s.supervisor.Orderly → (run os p s).2.supervisor.Orderly)
    (hclosed : ∀ s : Supervision ω,
      (run os p s).2.supervisor.closed = s.supervisor.closed) :
    (supervise os p).Keeps World.perform World.IsOpen fun _ => True := by
  intro w hw
  change World.IsOpen ((supervise os p).run w).2 ∧ True
  rw [run_supervise]
  have htold : (run os p w.state).2.lifecycle = [] := by
    rw [lifecycle_run os hp, lifecycle, hw.handedOn]
    rfl
  refine ⟨⟨horderly w.state hw.orderly, (hclosed w.state).trans hw.unclosed, rfl, ?_⟩,
    trivial⟩
  rw [World.lifecycle, Array.toList_append, List.filter_append]
  exact List.append_eq_nil_iff.2 ⟨hw.reticent, htold⟩

theorem keepsOpen_start (l : Launch) :
    (supervise os (policy.start l)).Keeps World.perform World.IsOpen fun _ => True := by
  have hruns (s : Supervision ω) : Runs os (policy.start l) s _ _ _ := runs_run _ s
  have hstep (s : Supervision ω) : Step os policy (fun _ => True) _ _ _ := .start trivial (hruns s)
  exact keepsOpen_supervise (policy.isReticent_start l) (fun s => (hstep s).orderly)
    fun s => (policy.course_start (hruns s)).closed_eq

theorem keepsOpen_stop (service : String) :
    (supervise os (policy.stop service)).Keeps World.perform World.IsOpen fun _ => True := by
  have hruns (s : Supervision ω) : Runs os (policy.stop service) s _ _ _ := runs_run _ s
  have hstep (s : Supervision ω) : Step os policy (fun _ => True) _ _ _ := .stop (hruns s)
  exact keepsOpen_supervise (policy.isReticent_stop service) (fun s => (hstep s).orderly)
    fun s => (policy.course_stop (hruns s)).closed_eq

theorem keepsOpen_status (service : String) :
    (supervise os (Policy.status service)).Keeps World.perform World.IsOpen fun _ => True := by
  have hsame (s : Supervision ω) :
      (run os (Policy.status service) s).2.supervisor = s.supervisor :=
    Policy.supervisor_eq_of_quiet (Policy.ensures_status service) (runs_run _ s)
  exact keepsOpen_supervise (Policy.isReticent_status service) (fun s hs => (hsame s).symm ▸ hs)
    fun s => congrArg Supervisor.closed (hsame s)

/-- A view of the environment that the operating system never changes. -/
theorem keepsView_supervise {view : ω → τ} (hos : ∀ c w, view (os c w).2 = view w) (x : τ)
    (p : Procedure α) :
    (supervise os p).Keeps World.perform (fun w => view w.state.environment = x)
      fun _ => True := by
  intro w hw
  change view ((supervise os p).run w).2.state.environment = x ∧ True
  rw [run_supervise]
  exact ⟨(view_run os hos p w.state).trans hw, trivial⟩

end Method.Services

namespace Daemon

variable (p : Platform ω) (c : Config)

/-- A method of the daemon asks for no state, or it is of services. -/
theorem isMild_or_mem_services {m : Method (Supervision ω)} (hm : m ∈ methodTable p c) :
    (∀ arguments, (m.handler arguments).Issues Command.IsMild) ∨ m ∈ Services.table p.os c := by
  rcases mem_methodTable hm with hb | hc | hs
  · exact .inl (isMild_builtin hb)
  · exact .inl (isMild_collections hc)
  · exact .inr hs

/-- Where what is mild and the procedures of the supervisor keep an invariant, every method
    does. -/
theorem maintains_of_keeps {I : World (Supervision ω) → Prop}
    (hmild : ∀ {α : Type} {a : Action (Supervision ω) α}, a.Issues Command.IsMild →
      a.Keeps World.perform I fun _ => True)
    (htell : ∀ level message fields w, I w →
      I (w.tell (.record ⟨level, Log.dispatchTarget, message, fields⟩)))
    (hservices : ∀ m ∈ Services.table p.os c, ∀ arguments,
      (m.handler arguments).Keeps World.perform I fun _ => True) :
    (methodTable p c).Maintains I fun _ => True where
  call m hm _ _ _ arguments _ _ := by
    have hrespond := fun outcome => hmild (isMild_respond outcome)
    refine Program.Keeps.bind (P := fun _ => True) ?_ fun outcome _ => hrespond outcome
    rcases isMild_or_mem_services p c hm with hm | hm
    · exact hmild (hm arguments)
    · exact hservices m hm arguments
  tell := htell
  error _ := trivial

theorem maintains_isOpen : (methodTable p c).Maintains World.IsOpen fun _ => True := by
  refine maintains_of_keeps p c (fun ha w hw => ⟨?_, trivial⟩) (fun _ _ _ w hw => ?_)
    fun m hm arguments => ?_
  · have hstate := Action.state_run_of_isMild ha w
    change World.IsOpen (Action.run _ w).2
    exact ⟨hstate ▸ hw.orderly, hstate ▸ hw.unclosed, hstate ▸ hw.handedOn,
      (Action.lifecycle_run_of_isMild ha w).trans hw.reticent⟩
  · exact ⟨hw.orderly, hw.unclosed, hw.handedOn, (World.lifecycle_tell rfl w).trans hw.reticent⟩
  · exact (Services.keeps_services Services.keepsOpen_start Services.keepsOpen_stop
      Services.keepsOpen_status hm arguments).mono fun _ _ => trivial

theorem maintains_view {view : ω → τ} (hos : ∀ c w, view (p.os c w).2 = view w) (x : τ) :
    (methodTable p c).Maintains (fun w => view w.state.environment = x) fun _ => True := by
  refine maintains_of_keeps p c (fun ha w hw => ⟨?_, trivial⟩) (fun _ _ _ w hw => hw)
    fun m hm arguments => ?_
  · change view (Action.run _ w).2.state.environment = x
    rw [Action.state_run_of_isMild ha w, hw]
  · have hkeeps := fun {α : Type} => Services.keepsView_supervise (α := α) hos x
    exact (Services.keeps_services (fun _ => hkeeps _) (fun _ => hkeeps _) (fun _ => hkeeps _)
      hm arguments).mono fun _ _ => trivial

end Daemon

end Testbed
