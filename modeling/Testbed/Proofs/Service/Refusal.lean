import Testbed.Proofs.Service.Escalation

/-!
# Procedures that refuse

A start is refused when no services are started any more or the service runs already, a stop
when the service does not run. These failures are told apart from all others by their names
(`Error.IsRefusal`): a procedure that fails with one of them has done nothing, and once it
acts it fails with others.

* `notRefused_launch`, `notRefused_terminate`: what acts does not refuse;
* `untouched_start`, `untouched_stop`: what refuses has not acted.
-/

namespace Testbed.Service

open Program (Yields yields_bind_of)

/-- The failure of a procedure that refuses to act. -/
def Error.IsRefusal : Error → Prop
  | alreadyRunning _ _ | notRunning _ | shuttingDown _ => True
  | _ => False

/-- A result that is no refusal. -/
def NotRefused {α : Type} (r : Except Error α) : Prop := ∀ e, r = .error e → ¬e.IsRefusal

theorem notRefused_ok {α : Type} (a : α) : NotRefused (.ok a : Except Error α) :=
  fun _ h => absurd h (by simp)

theorem notRefused_error {α : Type} {e : Error} (h : ¬e.IsRefusal) :
    NotRefused (.error e : Except Error α) := by
  rintro e' he
  obtain rfl := Except.error.inj he
  exact h

/-! ## What acts does not refuse -/

section Acting

variable {policy : Policy} {t : Transcript}

theorem Wait.notRefused {l : Launch} {pid started turns : Nat} {r : Except Error Unit}
    (h : Wait policy l pid started turns t r) : NotRefused r := by
  rcases h with ⟨-, -, hlast⟩ | _
  · rcases hlast with _ | _ | _ | _
    · exact notRefused_error id
    · exact notRefused_error id
    · exact notRefused_ok ()
    · exact notRefused_error id
  · exact notRefused_error id

theorem LetBe.not_isRefusal {p : ProcessInfo} {e : Error} (h : LetBe policy p t e) :
    ¬e.IsRefusal := by
  rcases h with _ | _ | h
  · exact id
  · exact id
  · rcases h with _ | _ | _ | _
    · exact id
    · exact id

theorem Escalation.notRefused {p : ProcessInfo} {r : Except Error StopReport}
    (h : Escalation policy p t r) : NotRefused r := by
  rcases h with h | ⟨-, hend⟩
  · exact notRefused_error h.not_isRefusal
  · rcases hend with _ | _ | _ | _
    · exact notRefused_error id
    · exact notRefused_ok _
    · exact notRefused_error id
    · exact notRefused_ok _

end Acting

namespace Policy

open Procedure

variable (policy : Policy)

theorem notRefused_awaitReady (l : Launch) (pid started fuel : Nat) :
    (policy.awaitReady l pid started fuel).Yields NotRefused :=
  (ensures_awaitReady_wait policy l pid started fuel).yields fun _ _ h => h.notRefused

theorem notRefused_launch (l : Launch) : (policy.launch l).Yields NotRefused := by
  refine yields_bind_of _ fun r => ?_
  cases r with
  | error cause => exact notRefused_error id
  | ok pid =>
    refine yields_bind_of _ fun _ => yields_bind_of _ fun started => ?_
    refine (notRefused_awaitReady policy l pid started _).bind fun r hr => ?_
    cases r with
    | error e => exact yields_bind_of _ fun _ => notRefused_error (hr e rfl)
    | ok _ => exact yields_bind_of _ fun _ => notRefused_ok _

theorem notRefused_startFresh (l : Launch) : (policy.startFresh l).Yields NotRefused := by
  refine yields_bind_of _ fun _ => yields_bind_of _ fun _ => ?_
  refine (notRefused_launch policy l).bind fun r hr => ?_
  cases r with
  | error e => exact yields_bind_of _ fun _ => yields_bind_of _ fun _ => notRefused_error (hr e rfl)
  | ok info => exact yields_bind_of _ fun _ => yields_bind_of _ fun _ => notRefused_ok info

theorem notRefused_terminate (p : ProcessInfo) : (policy.terminate p).Yields NotRefused :=
  (ensures_terminate_escalation policy p).yields fun _ _ h => h.notRefused

end Policy

/-! ## What refuses has not acted -/

/-- The supervisor tracks what it tracked, and has told nothing. Of the environment it has
    asked no more than whether a process that it tracks has ended, and that runs on. -/
structure Untouched {ω : Type} (os : OperatingSystem ω) (s s' : Supervision ω) : Prop where
  slot : ∀ service, s'.supervisor.slot service = s.supervisor.slot service
  closed : s'.supervisor.closed = s.supervisor.closed
  environment : s'.environment = s.environment ∨
    ∃ service info, (s.supervisor.slot service).process = some info ∧
      os (.poll info.pid) s.environment = (.ok none, s'.environment)
  journal : s'.journal = s.journal

namespace Policy

open Procedure Supervision

variable {ω : Type} (os : OperatingSystem ω) (policy : Policy) {s : Supervision ω} {e : Error}

/-- What is run after a refusal has been ruled out does not refuse. -/
theorem not_refused_of_run {α : Type} {p : Procedure (Except Error α)} (hp : p.Yields NotRefused)
    (he : (run os p s).1 = .error e) : ¬e.IsRefusal :=
  hp.run s e he

theorem untouched_start (l : Launch) (he : (run os (policy.start l) s).1 = .error e)
    (hr : e.IsRefusal) : Untouched os s (run os (policy.start l) s).2 := by
  have hslot := fun other => s.supervisor.slot_entered l.service other
  simp only [start, run_bind, run_enter, run_isClosed] at he ⊢
  cases hc : s.supervisor.closed with
  | true =>
    -- No services are started any more, and only the slot was looked up.
    simp only [Supervisor.entered, Supervisor.noted, hc, if_true, run_pure] at he ⊢
    exact ⟨hslot, hc.symm, .inl rfl, rfl⟩
  | false =>
    simp only [Supervisor.entered, Supervisor.noted, hc, Bool.false_eq_true, if_false] at he ⊢
    cases hp : (s.supervisor.slot l.service).process with
    | none =>
      simp only [hp] at he
      exact absurd hr (not_refused_of_run os (notRefused_startFresh policy l) he)
    | some process =>
      simp only [hp, run_bind, run_poll] at he ⊢
      rcases ha : os (.poll process.pid) s.environment with ⟨answer, environment⟩
      simp only [ha] at he ⊢
      rcases answer with cause | _ | status
      · obtain rfl : Error.wait l.service cause = e := Except.error.inj he
        exact absurd hr id
      · -- The service runs on: all that was done is to ask for that.
        exact ⟨hslot, hc.symm, .inr ⟨l.service, process, hp, ha⟩, rfl⟩
      · -- The process had ended, so the service is started anew.
        simp only [run_bind] at he
        exact absurd hr (not_refused_of_run os (notRefused_startFresh policy l) he)

theorem untouched_stop (service : String) (he : (run os (policy.stop service) s).1 = .error e)
    (hr : e.IsRefusal) : Untouched os s (run os (policy.stop service) s).2 := by
  have hsame : Untouched os s s := ⟨fun _ => rfl, rfl, .inl rfl, rfl⟩
  simp only [stop, run_bind, run_enterExisting] at he ⊢
  cases hg : Entries.get? service s.supervisor.slots with
  | none => exact hsame
  | some slot =>
    simp only [hg] at he ⊢
    cases hp : slot.process with
    | none => exact hsame
    | some process =>
      -- What fails from here on has acted, and fails with another failure.
      simp only [hp] at he
      refine absurd hr (not_refused_of_run os (yields_bind_of _ fun _ =>
        (notRefused_terminate policy process).bind fun r hr => ?_) he)
      cases r with
      | ok report => exact yields_bind_of _ fun _ => yields_bind_of _ fun _ => notRefused_ok report
      | error e => exact yields_bind_of _ fun _ => notRefused_error (hr e rfl)

end Policy

end Testbed.Service
