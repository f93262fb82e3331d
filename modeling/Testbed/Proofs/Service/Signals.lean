import Testbed.Proofs.Service.Episodes
import Testbed.Proofs.Service.Timing

/-!
# Which signals a stop sends

A stop escalates: what it sends to the group of a process goes by what a first look finds
(`Escalates`), and `SIGKILL` is sent only when the end of the process was seen or the process is
overdue (`Overdue`).

* `stop_escalates_in_order`: which signals a stop sends and when, and what it reports.
-/

namespace Testbed.Service

open Os Exchange

/-! ## Which signals are sent, and when -/

/-- The signals with which a process is ended whose group is `pid`, by what a first look at it
    is answered. -/
def Escalates (pid : Nat) : Except Trouble (Option ExitStatus) → List (Nat × Signal) → Prop
  | .ok (some _), sent => sent = [(pid, .kill)]
  | .ok none, sent => sent = [(pid, .term)] ∨ sent = [(pid, .term), (pid, .kill)]
  | .error _, sent => sent = []

/-- A process that was asked to end was seen running later, and after that the clock read that
    its grace period was over. -/
def Overdue (policy : Policy) (pid : Nat) (t : Transcript) : Prop :=
  ∃ before answer asked mid time after,
    t = before ++ signalled pid .term answer :: clocked asked ::
      (mid ++ polled pid (.ok none) :: clocked time :: after) ∧
    asked + policy.grace.nanos ≤ time

section Facts

variable {policy : Policy} {p : ProcessInfo} {t : Transcript} {r : Except Error StopReport}
  {report : StopReport}

theorem kill_not_mem_of {pid : Nat} (h : signals t = [] ∨ signals t = [(pid, .term)])
    (answer : Except Errno Unit) : signalled pid .kill answer ∉ t := by
  intro hmem
  have hsent : (pid, Signal.kill) ∈ signals t := mem_signals_of_mem hmem
  have hne : Signal.kill ≠ Signal.term := by decide
  rcases h with ht | ht
  · simp [ht] at hsent
  · simp [ht, hne] at hsent

theorem LetBe.escalates {e : Error} (h : LetBe policy p t e)
    {answer : Except Trouble (Option ExitStatus)}
    (hfirst : t.head? = some (polled p.pid answer)) : Escalates p.pid answer (signals t) := by
  rcases h with cause | he | h
  · cases hfirst
    rfl
  · cases hfirst
    exact .inl rfl
  · cases hfirst
    exact .inl (congrArg ((p.pid, Signal.term) :: ·) h.quiet.signals_eq_nil)

theorem Due.escalates {status? : Option ExitStatus} {after : Transcript}
    (h : Due policy p t status?) (hafter : signals after = [(p.pid, .kill)])
    {answer : Except Trouble (Option ExitStatus)}
    (hfirst : (t ++ after).head? = some (polled p.pid answer)) :
    Escalates p.pid answer (signals (t ++ after)) := by
  rcases h with status | h | h
  · cases hfirst
    exact hafter
  · cases hfirst
    exact .inr (by simp [h.quiet.signals_eq_nil, hafter])
  · cases hfirst
    exact .inr (by simp [h.quiet.signals_eq_nil, hafter])

/-- A process that is to be killed without being seen ended is overdue. -/
theorem Due.overdue (h : Due policy p t none) : Overdue policy p.pid t := by
  rcases h with _ | _ | @⟨answer, asked, t, h⟩
  rcases h with _ | @⟨t, time, h, htime⟩
  exact ⟨[polled p.pid (.ok none)], answer, asked, t, time, [Exchange.overstayed policy p],
    by simp, htime⟩

namespace Escalation

theorem escalates (h : Escalation policy p t r) {answer : Except Trouble (Option ExitStatus)}
    (hfirst : t.head? = some (polled p.pid answer)) : Escalates p.pid answer (signals t) := by
  rcases h with h | ⟨hdue, hend⟩
  · exact h.escalates hfirst
  · obtain ⟨answer', after, rfl, hafter⟩ := hend.exists_kill
    exact hdue.escalates (by simp [hafter]) hfirst

/-- The group of a process is killed when that is due. -/
theorem due_of_kill (h : Escalation policy p t r) {answer : Except Errno Unit} {a b : Transcript}
    (ht : t = a ++ signalled p.pid .kill answer :: b) : ∃ status?, Due policy p a status? := by
  rcases h with h | ⟨hdue, hend⟩
  · exact absurd (by simp [ht]) (kill_not_mem_of h.signals_eq answer)
  · -- The signal is sent once, so it is the one that is sent when that is due.
    obtain ⟨answer', after, rfl, hafter⟩ := hend.exists_kill
    rcases split_eq_or ht with ⟨rfl, -, -⟩ | ⟨hmem, -⟩ | ⟨hmem, -⟩
    · exact ⟨_, hdue⟩
    · exact absurd (mem_signals_of_mem hmem) (hafter ▸ List.not_mem_nil)
    · exact absurd hmem (kill_not_mem_of hdue.signals_eq answer)

end Escalation

theorem Overdue.append {pid : Nat} (h : Overdue policy pid t) (u w : Transcript) :
    Overdue policy pid (u ++ (t ++ w)) := by
  obtain ⟨before, answer, asked, mid, time, after, rfl, htime⟩ := h
  exact ⟨u ++ before, answer, asked, mid, time, after ++ w, by simp, htime⟩

theorem Overdue.term_mem_signals {pid : Nat} (h : Overdue policy pid t) :
    (pid, .term) ∈ signals t := by
  obtain ⟨before, answer, asked, mid, time, after, rfl, -⟩ := h
  simp

/-- Of a process that lingers, no look at the clock after one at the process was late. -/
theorem Lingers.lt_of_eq {pid deadline time : Nat} {last v w : Transcript}
    (h : Lingers policy pid deadline t)
    (hlast : polled pid (.ok none) ∉ last)
    (ht : t ++ last = v ++ polled pid (.ok none) :: clocked time :: w) : time < deadline := by
  induction h generalizing v with
  | nil => exact absurd (by simp [show last = _ from ht]) hlast
  | cons htime _ ih =>
    -- The looks go in threes: at the process, at the clock, and sleep.
    rcases v with _ | ⟨_, _ | ⟨_, _ | ⟨_, v⟩⟩⟩
    · grind
    · grind
    · grind
    · exact ih (List.cons.inj (List.cons.inj (List.cons.inj ht).2).2).2

/-- A process that lingers until it is seen ended is not overdue. -/
theorem Lingers.not_overdue {pid asked : Nat} {before last : Transcript}
    {answer : Except Errno Unit} (h : Lingers policy pid (asked + policy.grace.nanos) t)
    (hbefore : (pid, .term) ∉ signals before) (hlast : (pid, .term) ∉ signals last)
    (hrunning : polled pid (.ok none) ∉ last) :
    ¬Overdue policy pid (before ++ signalled pid .term answer :: clocked asked :: (t ++ last)) := by
  rintro ⟨before', answer', asked', mid, time, after, heq, htime⟩
  -- The process was asked to end once, so the looks that count are those while it lingers.
  rcases split_eq_or heq with ⟨rfl, -, heq⟩ | ⟨hmem, -⟩ | ⟨hmem, -⟩
  · obtain ⟨hasked, htail⟩ := List.cons.inj heq
    cases hasked
    exact absurd htime (Nat.not_le_of_lt (h.lt_of_eq hrunning htail))
  · have hsent : (pid, .term) ∈ signals (clocked asked :: (t ++ last)) := mem_signals_of_mem hmem
    simp [h.quiet.signals_eq_nil, hlast] at hsent
  · exact hbefore (mem_signals_of_mem hmem)

/-- The group of a process is killed only when the process was seen ended, or is overdue. -/
theorem Escalation.justified (h : Escalation policy p t r) {before after a b : Transcript}
    (hbefore : signals before = []) (hafter : signals after = []) {answer : Except Errno Unit}
    (ht : before ++ (t ++ after) = a ++ signalled p.pid .kill answer :: b) :
    (∃ status, polled p.pid (.ok (some status)) ∈ a) ∨ Overdue policy p.pid a := by
  have hquiet : ∀ {u v w}, signals u = [] → u ≠ v ++ signalled p.pid .kill answer :: w := by
    rintro u v w hu rfl
    exact absurd (mem_signals_of_mem (List.mem_append_right v List.mem_cons_self))
      (hu ▸ List.not_mem_nil)
  rcases append_eq_append_cons ht with ⟨m, hm, -⟩ | ⟨m, rfl, hm⟩
  · exact absurd hm (hquiet hbefore)
  · rcases append_eq_append_cons hm with ⟨m', hm', -⟩ | ⟨m', -, hm'⟩
    · obtain ⟨_ | status, hdue⟩ := h.due_of_kill hm'
      · exact .inr (by simpa using hdue.overdue.append before [])
      · exact .inl ⟨status, List.mem_append_right _ hdue.seen_ended⟩
    · exact absurd hm' (hquiet hafter)

/-- That the end of a process was forced is told exactly if the process was overdue. -/
theorem Escalation.forced_iff (h : Escalation policy p t (.ok report)) {before after : Transcript}
    (hbefore : signals before = []) (hafter : signals after = [])
    (hrunning : polled p.pid (.ok none) ∉ after) :
    report.forced = true ↔ Overdue policy p.pid (before ++ (t ++ after)) := by
  rcases h with _ | ⟨hdue, hend⟩
  rcases hend with _ | @⟨answer, status, -⟩ | _ | ⟨status, -⟩
  · refine iff_of_false Bool.false_ne_true ?_
    rcases hdue with _ | @⟨answer', asked, _, _, h⟩
    · -- The process had ended already, and was not asked to.
      intro hoverdue
      have hsent := hoverdue.term_mem_signals
      have hne : Signal.term ≠ Signal.kill := by decide
      simp [hbefore, hafter, hne] at hsent
    · rcases h with @⟨t, status, h⟩
      have hnot : ¬Overdue policy p.pid ((before ++ [polled p.pid (.ok none)]) ++
          signalled p.pid .term answer' :: clocked asked ::
            (t ++ ([polled p.pid (.ok (some status)), obeyed p status,
              signalled p.pid .kill answer] ++ after))) :=
        h.not_overdue (by simp [hbefore]) (by simp [hafter]; decide) (by simp [hrunning]; grind)
      simpa using hnot
  · refine iff_of_true rfl ?_
    rw [List.append_assoc]
    exact hdue.overdue.append _ _

end Facts

/-! ## Stops -/

open Supervision

/-- Whatever the system answers, a stop of a service whose process is tracked sends its group only
    `SIGKILL` if the first look finds the process ended; if it finds it running, it sends
    `SIGTERM` and then `SIGKILL` or nothing. It sends `SIGKILL` only after it has seen the process
    ended, or has seen it running when the grace period was over. What it reports, it reports
    when that was sent and the process was waited for; the report is of that process, tells how it
    ended, and whether the grace period was over. A stop that fails tells nothing, and leaves the
    slot as it was. -/
theorem stop_escalates_in_order {ω : Type} (os : OperatingSystem ω) (policy : Policy)
    (service : String) (s : Supervision ω) {p : ProcessInfo}
    (hp : (s.supervisor.slot service).process = some p) :
    let t := transcript os (policy.stop service) s
    let o := run os (policy.stop service) s
    Escalates p.pid (os (.poll p.pid) s.environment).1 (signals t) ∧
      (∀ before answer after, t = before ++ signalled p.pid .kill answer :: after →
        (∃ status, polled p.pid (.ok (some status)) ∈ before) ∨ Overdue policy p.pid before) ∧
      (∀ report, o.1 = .ok report →
        (∃ before,
          t = before ++ [noted service ⟨.stopped, none⟩, told (.serviceStopped report)] ∧
          Killed p.pid before ∧ (polled p.pid (.ok (some report.status)) ∈ before ∨
            awaited p.pid (.ok report.status) ∈ before)) ∧
        (report.service = p.service ∧ report.pid = p.pid) ∧
        (report.forced = true ↔ Overdue policy p.pid t)) ∧
      ∀ e, o.1 = .error e → o.2.journal.events = s.journal.events ∧
        o.2.supervisor.slot service = s.supervisor.slot service := by
  intro t o
  have hruns : Runs os (policy.stop service) s t o.1 o.2 := runs_run _ _
  obtain ⟨mid, s₁, hterminate, ht, hs'⟩ :=
    policy.runs_stop (s.supervisor.get?_of_process service hp) hp hruns
  have hend := hterminate.ensured (policy.ensures_terminate_escalation p)
  have hended := hterminate.ensured (policy.ensures_terminate p)
  have hfirst : mid.head? = some (polled p.pid (os (.poll p.pid) s.environment).1) := by
    rw [← hterminate.transcript_eq]
    rfl
  have hopening : signals [(⟨.enterExisting service, some (s.supervisor.slot service)⟩ : Exchange),
      noted service ⟨.stopping, none⟩] = [] := rfl
  have hclosing : signals (noted service ((s.supervisor.slot service).ofStop o.1) ::
      (eventOfStop? o.1).toList.map told) = [] := by
    cases o.1 <;> rfl
  refine ⟨?_, fun before answer after hkill => ?_, fun report hr => ?_, fun e hr => ?_⟩
  · have hsignals : signals t = signals mid := by
      rw [ht]
      simpa using hclosing
    rw [hsignals]
    exact hend.escalates hfirst
  · exact hend.justified hopening hclosing (ht.symm.trans hkill)
  · rw [hr] at ht hend hended hclosing
    obtain ⟨hnames, -, hkilled⟩ := hended.2 report rfl
    have hforced : report.forced = true ↔ Overdue policy p.pid t := by
      rw [ht]
      exact hend.forced_iff hopening hclosing (by grind)
    have hbefore : t = [⟨.enterExisting service, some (s.supervisor.slot service)⟩,
        noted service ⟨.stopping, none⟩] ++ mid ++
          [noted service ⟨.stopped, none⟩, told (.serviceStopped report)] := ht
    exact ⟨⟨_, hbefore, hkilled.append_left _, hend.status_seen.imp (List.mem_append_right _)
      (List.mem_append_right _)⟩, hnames, hforced⟩
  · have hcourse := policy.course_stop hruns
    rw [hr] at hcourse hs'
    refine ⟨?_, ?_⟩
    · rw [hruns.events_eq, hcourse.events_eq]
      exact List.append_nil _
    · rw [hs']
      exact Supervisor.slot_noted_self ..

/-- Looked for every ten milliseconds, a process that does not end when it is asked to is killed
    when its 25 milliseconds are over. -/
theorem stubborn_process_is_killed :
    let policy : Policy := { grace := .ofMillis 25, pollInterval := .ofMillis 10 }
    let p : ProcessInfo := ⟨"web", 1, hasty.probe⟩
    let s : Supervision Nat :=
      { supervisor := { slots := [("web", ⟨.ready, some p⟩)] }, environment := 0 }
    let t := transcript unanswering (policy.stop "web") s
    (run unanswering (policy.stop "web") s).1 = .ok ⟨"web", 1, true, .signaled .kill false⟩ ∧
      (s.supervisor.slot "web").process = some p ∧
      (signals t = [(1, .term)] ∨ signals t = [(1, .term), (1, .kill)]) ∧
      Killed 1 t ∧ Overdue policy 1 t := by
  intro policy p s t
  have hp : (s.supervisor.slot "web").process = some p := rfl
  have hr : (run unanswering (policy.stop "web") s).1 =
    .ok ⟨"web", 1, true, .signaled .kill false⟩ := by decide +kernel
  obtain ⟨hsent, -, hreport, -⟩ := stop_escalates_in_order unanswering policy "web" s hp
  obtain ⟨⟨before, hbefore, hkilled, -⟩, -, hforced⟩ := hreport _ hr
  refine ⟨hr, hp, hsent, ?_, hforced.1 rfl⟩
  change Killed 1 (transcript unanswering (policy.stop "web") s)
  rw [hbefore]
  exact hkilled.append_right _

end Testbed.Service
