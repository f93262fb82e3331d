import Testbed.Proofs.Service.Consistency
import Testbed.Proofs.Service.Episodes
import Testbed.Proofs.Service.Timing

/-!
# Starts that fail

A start that fails by what is in its way (`Hindrance`) has done nothing but to look. Any other
has launched the service in vain, and the child that was spawned, if there was one, was
discarded (`LaunchEnd.discarded`), so that nothing of the launch is left.

* `failed_start_leaves_nothing_behind`: which of the two it is, and what is left.
-/

namespace Testbed.Service

open Exchange Supervision

section Start

variable {ω : Type} {os : OperatingSystem ω} {policy : Policy} {l : Launch} {s s' : Supervision ω}
  {t before after : Transcript} {e : Error} {r : Except Error ProcessInfo} {c : Child}

/-- What is in the way of a start makes it fail before anything is done. -/
theorem Hindrance.start (h : Hindrance os l.service s e)
    (hruns : Runs os (policy.start l) s t r s') :
    r = .error e ∧ Looking t ∧
      (∀ service, s'.supervisor.slot service = s.supervisor.slot service) ∧
      s'.journal = s.journal := by
  rcases policy.runs_start hruns with ⟨e', he', rfl, hlooking, hs, hj⟩ | ⟨-, hfree, -⟩
  · obtain rfl := h.eq he'
    exact ⟨rfl, hlooking, fun service => by rw [hs, Supervisor.slot_entered], hj⟩
  · exact absurd h (hfree e)

/-- A start that is refused is so because of what is in its way. -/
theorem hindrance_of_isRefusal (hruns : Runs os (policy.start l) s t (.error e) s')
    (he : e.IsRefusal) : Hindrance os l.service s e := by
  rcases policy.runs_start hruns with ⟨e', he', hr, -⟩ | ⟨-, -, before, after, s₁, -, -, -, -, h⟩
  · obtain rfl := Except.error.inj hr
    exact he'
  · -- The service was launched, and what acts does not refuse.
    have hr : (run os (policy.startFresh l) s₁).1 = .error e := congrArg Prod.fst h.run_eq
    exact absurd he (Policy.not_refused_of_run os (policy.notRefused_startFresh l) hr)

/-- A child of a launch that failed was discarded. -/
theorem LaunchEnd.discarded_of_in (h : LaunchEnd l t (.error e))
    (hbefore : ∀ service, ¬Launched service before) (hafter : ∀ service, ¬Launched service after)
    (hc : c.In (before ++ (t ++ after))) : Discarded c.pid c.since := by
  -- The program is run once, so there is no other child.
  rcases h with ⟨cause, e, -⟩ | _ | @⟨pid, rest, e, -, hrest, hdiscarded⟩
  · obtain ⟨hanswer, -⟩ := Child.eq_of_launched_once hc (hbefore _) (hafter _)
    exact absurd hanswer nofun
  · have hsince : ¬Launched c.service (rest ++ after) := fun hl =>
      (launched_append_iff.1 hl).elim (hrest.not_launched _) (hafter _)
    obtain ⟨hanswer, hc'⟩ := Child.eq_of_launched_once hc (hbefore _) hsince
    obtain rfl := Except.ok.inj hanswer
    rw [hc']
    exact hdiscarded.mono (List.subset_append_left rest after)

/-- What is left of a start that fails though nothing was in its way: the service counts as
    stopped, that it was starting and that it failed was told, and its child was discarded. -/
theorem abandoned_of_not_hindrance (hruns : Runs os (policy.start l) s t (.error e) s')
    (he : ¬Hindrance os l.service s e) :
    s'.supervisor.slot l.service = ⟨.stopped, none⟩ ∧
      events t = [.serviceStarting l, .serviceFailed e] ∧
      ∀ c : Child, c.In t → Discarded c.pid c.since := by
  rcases policy.runs_start hruns with ⟨e', he', hr, -⟩ |
    ⟨-, -, before, after, s₁, rfl, hbefore, -, -, hlaunch⟩
  · obtain rfl := Except.error.inj hr
    exact absurd he' he
  · obtain ⟨mid, hmid, rfl, hs⟩ := policy.runs_startFresh hlaunch
    refine ⟨hs ▸ Supervisor.slot_noted_self .., events_of_launch hbefore hmid, fun c hc => ?_⟩
    have hafter : Inward [noted l.service (.ofLaunch (.error e)), told (.serviceFailed e)] := by
      simp [Inward]
    rw [List.append_cons, List.append_cons, List.append_assoc before] at hc
    exact hmid.discarded_of_in (hbefore.not_launched_noted _ _ _) hafter.not_launched hc

end Start

/-- A start fails by what is in its way, or it has launched the service in vain. Of such a launch
    nothing is left: the service counts as stopped and nothing is tracked for it, that it was
    starting and that it failed is all that was told, and to the group of every child that was
    spawned `SIGKILL` was issued, and the child was waited for. A start in whose way something is
    fails by that, and has done nothing but to look; so does every start that is refused. It is
    refused as one of a service that runs exactly if services are still started and the process
    that is tracked is found running. -/
theorem failed_start_leaves_nothing_behind {ω : Type} (os : OperatingSystem ω) (policy : Policy)
    (l : Launch) (s : Supervision ω) :
    let t := transcript os (policy.start l) s
    let o := run os (policy.start l) s
    (∀ e, o.1 = .error e → ¬Hindrance os l.service s e →
      o.2.supervisor.slot l.service = ⟨.stopped, none⟩ ∧
        o.2.journal.events = s.journal.events ++ [.serviceStarting l, .serviceFailed e] ∧
        ∀ c : Child, c.In t → (∃ answer, signalled c.pid .kill answer ∈ c.since) ∧
          ((∀ x ∈ t, ¬x.failedWait) → Reaped c.pid c.since)) ∧
      (∀ e, o.1 = .error e → e.IsRefusal → Hindrance os l.service s e) ∧
      (∀ e, Hindrance os l.service s e → o.1 = .error e ∧ Looking t ∧
        (∀ service, o.2.supervisor.slot service = s.supervisor.slot service) ∧
        o.2.journal = s.journal) ∧
      ((∃ service pid, o.1 = .error (.alreadyRunning service pid)) ↔
        s.supervisor.closed = false ∧ ∃ p, (s.supervisor.slot l.service).process = some p ∧
          (os (.poll p.pid) s.environment).1 = .ok none) := by
  intro t o
  have hruns : Runs os (policy.start l) s t o.1 o.2 := runs_run _ _
  refine ⟨fun e hr he => ?_, fun e hr he => ?_, fun e he => he.start hruns, ?_, ?_⟩
  · rw [hr] at hruns
    obtain ⟨hslot, hevents, hdiscarded⟩ := abandoned_of_not_hindrance hruns he
    refine ⟨hslot, by rw [hruns.events_eq, hevents], fun c hc => ?_⟩
    refine ⟨(hdiscarded c hc).1, fun hwait => (Child.Parted.discarded (hdiscarded c hc)).reaped ?_⟩
    exact fun x hx => hwait x (hc ▸ List.mem_append_right _ (List.mem_cons_of_mem _ hx))
  · exact hindrance_of_isRefusal (hr ▸ hruns) he
  · rintro ⟨service, pid, hr⟩
    have he : Error.IsRefusal (.alreadyRunning service pid) := trivial
    rcases hindrance_of_isRefusal (hr ▸ hruns) he with _ | ⟨hc, hp, ha⟩
    exact ⟨hc, _, hp, ha⟩
  · rintro ⟨hc, p, hp, ha⟩
    exact ⟨_, _, ((Hindrance.running hc hp ha).start hruns).1⟩

/-- Of a service that nobody finds ready in time nothing is left but that it was told of. -/
example :
    let policy : Policy := { grace := ⟨0⟩, pollInterval := .ofMillis 10 }
    let (r, s) := run unanswering (policy.start hasty) { environment := 0 }
    r = .error (.startupTimeout "web" (.ofMillis 25)) ∧
      s.supervisor.slots = [("web", ⟨.stopped, none⟩)] ∧
      s.journal.events =
        [.serviceStarting hasty, .serviceFailed (.startupTimeout "web" (.ofMillis 25))] := by
  decide +kernel

end Testbed.Service
