import Testbed.Proofs.Service.Account
import Testbed.Proofs.Service.Steps

/-!
# Histories of a supervisor

A supervisor lives through calls, while its environment changes in whatever way (`Event`).
What it exchanges on the way is recorded with its notes (`Chronicle`).

* `Call.get?_of_not_concerns`: a call leaves the services that it does not concern as they
  are;
* `Chronicle.continues_after`: what events add to a chronicle is a sequence of steps;
* `Chronicle.accounts_after`: after all events the slots account for what was exchanged.
-/

namespace Testbed.Service

open Supervision

/-! ## Calls -/

/-- A call to a supervisor. -/
inductive Call
  | start (l : Launch)
  | stop (service : String)
  | status (service : String)
  | pid (service : String)
  | shutdownAll

namespace Call

/-- What a call carries out. -/
def procedure (policy : Policy) : Call → Procedure Unit
  | start l => policy.start l >>= fun _ => pure ()
  | stop service => policy.stop service >>= fun _ => pure ()
  | status service => Policy.status service >>= fun _ => pure ()
  | pid service => Policy.pid service >>= fun _ => pure ()
  | shutdownAll => policy.shutdownAll >>= fun _ => pure ()

/-- Whether a call may change what is known of a service. -/
def Concerns : Call → String → Prop
  | start l, service => l.service = service
  | stop stopped, service => stopped = service
  | status _, _ | pid _, _ => False
  | shutdownAll, _ => True

variable {ω : Type} {os : OperatingSystem ω} {policy : Policy} {s s' : Supervision ω}
  {t : Transcript} {u : Unit}

/-- A call takes steps, and launches only what it is to start. -/
theorem steps (c : Call) (h : Runs os (c.procedure policy) s t u s') :
    Steps os policy (fun l => c = start l) s.supervisor t s'.supervisor := by
  cases c with
  | start l =>
    obtain ⟨r, h⟩ := runs_forget_iff.1 h
    exact Step.steps (.start rfl h)
  | stop service =>
    obtain ⟨r, h⟩ := runs_forget_iff.1 h
    exact Step.steps (.stop h)
  | status service =>
    obtain ⟨phase, h⟩ := runs_forget_iff.1 h
    exact (Policy.step_of_quiet (Policy.ensures_status service) h).steps
  | pid service =>
    obtain ⟨pid, h⟩ := runs_forget_iff.1 h
    exact (Policy.step_of_quiet (Policy.ensures_pid service) h).steps
  | shutdownAll =>
    obtain ⟨reports, h⟩ := runs_forget_iff.1 h
    exact Policy.steps_shutdownAll policy h

/-- A call leaves a service that it does not concern as it is. -/
theorem get?_of_not_concerns {c : Call} {service : String} (hc : ¬c.Concerns service)
    (h : Runs os (c.procedure policy) s t u s') :
    Entries.get? service s'.supervisor.slots = Entries.get? service s.supervisor.slots := by
  cases c with
  | start l =>
    obtain ⟨r, h⟩ := runs_forget_iff.1 h
    exact (Policy.course_start policy h).affects.get?_of_ne service (Ne.symm hc)
  | stop stopped =>
    obtain ⟨r, h⟩ := runs_forget_iff.1 h
    exact (Policy.course_stop policy h).affects.get?_of_ne service (Ne.symm hc)
  | status asked =>
    obtain ⟨phase, h⟩ := runs_forget_iff.1 h
    rw [Policy.supervisor_eq_of_quiet (Policy.ensures_status asked) h]
  | pid asked =>
    obtain ⟨pid, h⟩ := runs_forget_iff.1 h
    rw [Policy.supervisor_eq_of_quiet (Policy.ensures_pid asked) h]
  | shutdownAll => exact absurd trivial hc

end Call

/-! ## What steps keep -/

/-- All slots account for what was exchanged about their services. -/
def Supervisor.Accounts (s : Supervisor) (t : Transcript) : Prop :=
  ∀ service, (s.slot service).Accounts service t

section Steps

variable {ω : Type} {os : OperatingSystem ω} {policy : Policy} {L : Launch → Prop}
  {s s' : Supervisor} {t₀ t : Transcript} {service : String}

theorem Steps.accounts (h : Steps os policy L s t s') (hs : s.Accounts t₀) : s'.Accounts (t₀ ++ t) := by
  induction h with
  | refl => rwa [List.append_nil]
  | tail _ h' ih =>
    rw [← List.append_assoc]
    exact fun service => (ih service).change (h'.change service)

/-- Only by being started does a service get a slot. -/
theorem Step.no_slot (h : Step os policy L s t s') (hL : ∀ l, L l → l.service ≠ service)
    (hs : Entries.get? service s.slots = none) : Entries.get? service s'.slots = none := by
  cases h with
  | start hl h => rw [(policy.course_start h).affects.get?_of_ne service (hL _ hl).symm, hs]
  | @stop stopped _ _ _ _ h =>
    have hcourse := policy.course_stop h
    by_cases hstopped : service = stopped
    · subst hstopped
      rw [hcourse.eq_of_no_slot hs, hs]
    · rw [hcourse.affects.get?_of_ne service hstopped, hs]
  | pass | close => exact hs

theorem Steps.no_slot (h : Steps os policy L s t s') (hL : ∀ l, L l → l.service ≠ service)
    (hs : Entries.get? service s.slots = none) : Entries.get? service s'.slots = none := by
  induction h with
  | refl => exact hs
  | tail _ h' ih => exact h'.no_slot hL ih

end Steps

/-! ## Histories -/

/-- What a supervisor lives through. -/
inductive Event (ω : Type)
  | call (c : Call)
  /-- The environment becomes another: time passes, processes end. -/
  | elapse (environment : ω)

/-- A supervisor at work, with all that was exchanged. -/
structure Chronicle (ω : Type) where
  supervision : Supervision ω
  /-- What was exchanged so far. -/
  transcript : Transcript := []

namespace Chronicle

variable {ω : Type}

/-- What is known of a service. -/
def slot? (h : Chronicle ω) (service : String) : Option Slot :=
  Entries.get? service h.supervision.supervisor.slots

/-- The chronicle with an event added. -/
def extend (os : OperatingSystem ω) (policy : Policy) : Event ω → Chronicle ω → Chronicle ω
  | .call c, h => {
      supervision := (run os (c.procedure policy) h.supervision).2
      transcript := h.transcript ++ Supervision.transcript os (c.procedure policy) h.supervision }
  | .elapse environment, h => { h with supervision := { h.supervision with environment } }

/-- The chronicle with events added. -/
def after (os : OperatingSystem ω) (policy : Policy) : List (Event ω) → Chronicle ω → Chronicle ω
  | [], h => h
  | e :: rest, h => after os policy rest (h.extend os policy e)

/-- The chronicle of a new supervisor. -/
def new (environment : ω) : Chronicle ω := { supervision := { environment } }

/-- The slots account for the transcript. -/
def Accounts (h : Chronicle ω) : Prop := h.supervision.supervisor.Accounts h.transcript

variable (os : OperatingSystem ω) (policy : Policy)

/-- What a chronicle has more than another that it continues is a sequence of steps. -/
def Continues (L : Launch → Prop) (h h' : Chronicle ω) : Prop :=
  ∃ t, h'.transcript = h.transcript ++ t ∧
    Steps os policy L h.supervision.supervisor t h'.supervision.supervisor

theorem continues_extend (e : Event ω) (h : Chronicle ω) :
    Continues os policy (fun l => e = .call (.start l)) h (h.extend os policy e) := by
  cases e with
  | call c => exact ⟨_, rfl, (c.steps (runs_run _ _)).mono fun l hl => congrArg _ hl⟩
  | elapse environment => exact ⟨[], (List.append_nil _).symm, .refl _⟩

/-- Events take steps, and launch only what is started by them. -/
theorem continues_after (events : List (Event ω)) (h : Chronicle ω) :
    Continues os policy (fun l => .call (.start l) ∈ events) h (h.after os policy events) := by
  induction events generalizing h with
  | nil => exact ⟨[], (List.append_nil _).symm, .refl _⟩
  | cons e rest ih =>
    obtain ⟨t, ht, hsteps⟩ := continues_extend os policy e h
    obtain ⟨t', ht', hsteps'⟩ := ih (h.extend os policy e)
    refine ⟨t ++ t', by rw [after, ht', ht, List.append_assoc], ?_⟩
    exact (hsteps.mono fun l hl => hl ▸ List.mem_cons_self).trans
      (hsteps'.mono fun l hl => List.mem_cons_of_mem _ hl)

/-- What a new supervisor lives through is a sequence of steps. -/
theorem steps_after_new (environment : ω) (events : List (Event ω)) :
    Steps os policy (fun l => .call (.start l) ∈ events) {}
      ((new environment).after os policy events).transcript
      ((new environment).after os policy events).supervision.supervisor := by
  obtain ⟨t, ht, hsteps⟩ := continues_after os policy events (new environment)
  rw [ht]
  exact hsteps

theorem supervision_shutdown (h : Chronicle ω) :
    (h.extend os policy (.call .shutdownAll)).supervision =
      (run os policy.shutdownAll h.supervision).2 := by
  have hrun : Runs os (Call.shutdownAll.procedure policy) h.supervision _ _ _ := runs_run _ _
  obtain ⟨reports, hrun⟩ := runs_forget_iff.1 hrun
  exact (congrArg Prod.snd hrun.run_eq).symm

theorem closed_shutdown (h : Chronicle ω) :
    (h.extend os policy (.call .shutdownAll)).supervision.supervisor.closed = true := by
  rw [supervision_shutdown]
  exact policy.closed_shutdownAll (runs_run _ _)

variable {os : OperatingSystem ω} {policy : Policy}

theorem accounts_new (environment : ω) : (new environment).Accounts :=
  fun service => Slot.Accounts.empty service

theorem accounts_after (events : List (Event ω)) {h : Chronicle ω} (hh : h.Accounts) :
    (h.after os policy events).Accounts := by
  obtain ⟨t, ht, hsteps⟩ := continues_after os policy events h
  rw [Accounts, ht]
  exact hsteps.accounts hh

theorem slot?_after_eq_none {service : String} (events : List (Event ω)) {h : Chronicle ω}
    (hs : h.slot? service = none)
    (hstart : ∀ l, .call (.start l) ∈ events → l.service ≠ service) :
    (h.after os policy events).slot? service = none := by
  obtain ⟨t, -, hsteps⟩ := continues_after os policy events h
  exact hsteps.no_slot hstart hs

end Chronicle

end Testbed.Service
