import Testbed.Proofs.Service.Process

/-!
# How a process is ended

A process that runs is asked to end, and is given its grace period for that. Its group is sent
`SIGKILL` when its end was seen, or when it was seen running and the grace period was over
(`Due`); before that, all that may be is that it is let be (`LetBe`).

* `ensures_terminate_escalation`: whatever it is answered, the end of a process goes like that;
* `Escalation.sentTo`: only the group of the process is sent signals;
* `ensures_terminate`: a process that was ended was waited for, and its group killed.
-/

namespace Testbed.Service

open Os Exchange
open Program (Ensures ensures_issue_bind)

/-! ## The grace period -/

/-- Looks found the process running, each before the deadline, and after each the supervisor
    slept. -/
inductive Lingers (policy : Policy) (pid deadline : Nat) : Transcript → Prop
  | nil : Lingers policy pid deadline []
  | cons {time : Nat} {t : Transcript} (htime : time < deadline)
      (h : Lingers policy pid deadline t) :
    Lingers policy pid deadline (polled pid (.ok none) :: clocked time ::
      slept ⟨min policy.pollInterval.nanos (deadline - time)⟩ :: t)

/-- How it is waited for a process that was asked to end, and what that comes to. -/
inductive Lingered (policy : Policy) (p : ProcessInfo) (deadline : Nat) :
    Transcript → Except Error (Option ExitStatus) → Prop
  /-- The process has ended. -/
  | ended {t : Transcript} (status : ExitStatus) (h : Lingers policy p.pid deadline t) :
    Lingered policy p deadline (t ++ [polled p.pid (.ok (some status))]) (.ok (some status))
  /-- The process runs, and the deadline has passed. -/
  | overdue {t : Transcript} {time : Nat} (h : Lingers policy p.pid deadline t)
      (htime : deadline ≤ time) :
    Lingered policy p deadline (t ++ [polled p.pid (.ok none), clocked time]) (.ok none)
  /-- Whether it runs cannot be told. -/
  | unknown {t : Transcript} (cause : Trouble) (h : Lingers policy p.pid deadline t) :
    Lingered policy p deadline (t ++ [polled p.pid (.error cause)]) (.error (.wait p.service cause))
  /-- No look decided. -/
  | stalled {t : Transcript} (h : Lingers policy p.pid deadline t) :
    Lingered policy p deadline t (.error (.stalled p.service))

/-- What follows when a process lingers on for a while. -/
theorem Lingered.after {policy : Policy} {p : ProcessInfo} {deadline time : Nat} {t : Transcript}
    {r : Except Error (Option ExitStatus)} (h : Lingered policy p deadline t r)
    (htime : time < deadline) :
    Lingered policy p deadline (polled p.pid (.ok none) :: clocked time ::
      slept ⟨min policy.pollInterval.nanos (deadline - time)⟩ :: t) r := by
  rcases h with ⟨status, h⟩ | ⟨h, hpassed⟩ | ⟨cause, h⟩ | h
  · exact .ended status (h.cons htime)
  · exact .overdue (h.cons htime) hpassed
  · exact .unknown cause (h.cons htime)
  · exact .stalled (h.cons htime)

/-! ## Escalation -/

/-- That a process had ended before it was asked to was told. -/
abbrev Exchange.hadExited (p : ProcessInfo) (status : ExitStatus) : Exchange :=
  logged .debug "service had already exited"
    (Policy.processFields p.service p.pid ++ [("status", .shown status.text)])

/-- That a process ended when it was asked to was told. -/
abbrev Exchange.obeyed (p : ProcessInfo) (status : ExitStatus) : Exchange :=
  logged .info "service stopped"
    (Policy.processFields p.service p.pid ++ [("status", .shown status.text)])

/-- That a process did not end when it was asked to was told. -/
abbrev Exchange.overstayed (policy : Policy) (p : ProcessInfo) : Exchange :=
  logged .warn "service ignored SIGTERM, sending SIGKILL"
    (Policy.processFields p.service p.pid ++ [("grace_ms", Policy.millisField policy.grace)])

section Escalation

variable (policy : Policy) (p : ProcessInfo)

/-- What is exchanged until the group of a process is to be killed, and how the process has ended
    if it has. -/
inductive Due : Transcript → Option ExitStatus → Prop
  /-- The process had ended already. -/
  | already (status : ExitStatus) :
    Due [polled p.pid (.ok (some status)), hadExited p status] (some status)
  /-- The process ends when it is asked to. -/
  | obeyed {answer : Except Errno Unit} {asked : Nat} {t : Transcript} {status : ExitStatus}
      (h : Lingered policy p (asked + policy.grace.nanos) t (.ok (some status))) :
    Due (polled p.pid (.ok none) :: signalled p.pid .term answer :: clocked asked ::
      (t ++ [Exchange.obeyed p status])) (some status)
  /-- The process runs on until its grace period is over. -/
  | overstayed {answer : Except Errno Unit} {asked : Nat} {t : Transcript}
      (h : Lingered policy p (asked + policy.grace.nanos) t (.ok none)) :
    Due (polled p.pid (.ok none) :: signalled p.pid .term answer :: clocked asked ::
      (t ++ [Exchange.overstayed policy p])) none

/-- What is exchanged where the group of a process is not killed, and why it is not. -/
inductive LetBe : Transcript → Error → Prop
  /-- Whether the process runs cannot be told. -/
  | unknown (cause : Trouble) : LetBe [polled p.pid (.error cause)] (.wait p.service cause)
  /-- It cannot be asked to end. -/
  | refused {e : Errno} (he : e ≠ .noProcess) :
    LetBe [polled p.pid (.ok none), signalled p.pid .term (.error e)]
      (.signal p.service p.pid "SIGTERM" (.system e))
  /-- Whether it ended when it was asked to cannot be told. -/
  | lost {answer : Except Errno Unit} {asked : Nat} {t : Transcript} {e : Error}
      (h : Lingered policy p (asked + policy.grace.nanos) t (.error e)) :
    LetBe (polled p.pid (.ok none) :: signalled p.pid .term answer :: clocked asked :: t) e

/-- How the group of a process is killed that has ended so, or runs, and what is reported of the
    process. -/
inductive Ending : Option ExitStatus → Transcript → Except Error StopReport → Prop
  /-- The group cannot be killed. -/
  | refused {status? : Option ExitStatus} {e : Errno} (he : e ≠ .noProcess) :
    Ending status? [signalled p.pid .kill (.error e)]
      (.error (.signal p.service p.pid "SIGKILL" (.system e)))
  /-- The process has ended, and what is left of its group is killed. -/
  | swept {answer : Except Errno Unit} (status : ExitStatus) (ha : Delivered answer) :
    Ending (some status) [signalled p.pid .kill answer] (.ok ⟨p.service, p.pid, false, status⟩)
  /-- The process is killed, and cannot be waited for. -/
  | unreaped {answer : Except Errno Unit} (cause : Trouble) (ha : Delivered answer) :
    Ending none [signalled p.pid .kill answer, awaited p.pid (.error cause)]
      (.error (.wait p.service cause))
  /-- The process is killed, and has ended then. -/
  | forced {answer : Except Errno Unit} (status : ExitStatus) (ha : Delivered answer) :
    Ending none [signalled p.pid .kill answer, awaited p.pid (.ok status)]
      (.ok ⟨p.service, p.pid, true, status⟩)

/-- How a process is ended, and what is reported of it. -/
inductive Escalation : Transcript → Except Error StopReport → Prop
  | letBe {t : Transcript} {e : Error} (h : LetBe policy p t e) : Escalation t (.error e)
  | killed {t t' : Transcript} {status? : Option ExitStatus} {r : Except Error StopReport}
      (hdue : Due policy p t status?) (h : Ending p status? t' r) : Escalation (t ++ t') r

namespace Policy

open Procedure

theorem ensures_awaitExit_lingered (p : ProcessInfo) (deadline fuel : Nat) :
    (policy.awaitExit p deadline fuel).Ensures (Lingered policy p deadline) := by
  -- On the turns that are left.
  induction fuel with
  | zero => exact .stalled .nil
  | succ fuel ih =>
    refine ensures_issue_bind fun answer => ?_
    rcases answer with cause | _ | status
    · exact .unknown cause .nil
    · refine ensures_issue_bind fun time : Nat => ?_
      change Ensures _ (if deadline ≤ time then _ else _)
      split
      case isTrue htime => exact .overdue .nil htime
      case isFalse htime =>
        exact ensures_issue_bind fun _ => ih.mono fun t r h => h.after (Nat.lt_of_not_le htime)
    · exact .ended status .nil

theorem ensures_sweep_ending (p : ProcessInfo) (status : ExitStatus) :
    (sweep p status).Ensures (Ending p (some status)) := by
  refine (ensures_signalGroup p.service p.pid .kill).bind ?_
  rintro t r (⟨ha⟩ | ⟨he⟩)
  · exact .swept status ha
  · exact .refused he

theorem ensures_force_ending (p : ProcessInfo) :
    (policy.force p).Ensures fun t r =>
      ∃ t', t = overstayed policy p :: t' ∧ Ending p none t' r := by
  refine ensures_issue_bind fun _ => (ensures_signalGroup p.service p.pid .kill).bind ?_
  rintro t r (⟨ha⟩ | ⟨he⟩)
  · refine ensures_issue_bind fun ended => ?_
    cases ended with
    | error cause => exact ⟨_, rfl, .unreaped cause ha⟩
    | ok status => exact ⟨_, rfl, .forced status ha⟩
  · exact ⟨_, rfl, .refused he⟩

/-- A process is let be, or its group is killed when that is due. -/
theorem ensures_terminate_escalation (p : ProcessInfo) :
    (policy.terminate p).Ensures (Escalation policy p) := by
  refine ensures_issue_bind fun answer => ?_
  rcases answer with cause | _ | status
  · exact .letBe (.unknown cause)
  · refine (ensures_signalGroup p.service p.pid .term).bind ?_
    rintro t r (@⟨answer, ha⟩ | ⟨he⟩)
    · refine ensures_issue_bind fun asked : Nat => (ensures_awaitExit_lingered policy p _ _).bind ?_
      rintro t (e | _ | status) h
      · exact .letBe (.lost (by rwa [List.append_nil]))
      · refine (ensures_force_ending policy p).mono ?_
        rintro _ r ⟨t', rfl, hend⟩
        have hdue : Due policy p ((polled p.pid (.ok none) :: signalled p.pid .term answer ::
          clocked asked :: t) ++ [overstayed policy p]) none := .overstayed h
        have hkilled := Escalation.killed hdue hend
        rwa [List.append_assoc] at hkilled
      · refine ensures_issue_bind fun _ => (ensures_sweep_ending p status).mono fun t' r hend => ?_
        have hdue : Due policy p ((polled p.pid (.ok none) :: signalled p.pid .term answer ::
          clocked asked :: t) ++ [obeyed p status]) (some status) := .obeyed h
        have hkilled := Escalation.killed hdue hend
        rwa [List.append_assoc] at hkilled
    · exact .letBe (.refused he)
  · exact ensures_issue_bind fun _ => (ensures_sweep_ending p status).mono fun t r hend =>
      .killed (.already status) hend

end Policy

end Escalation

/-! ## What an escalation comes to -/

section Facts

variable {policy : Policy} {p : ProcessInfo} {t : Transcript} {r : Except Error StopReport}
  {report : StopReport}

theorem Lingers.quiet {pid deadline : Nat} (h : Lingers policy pid deadline t) : Quiet t := by
  induction h with
  | nil => exact quiet_nil
  | cons _ _ ih => simpa using ih

theorem Lingered.quiet {deadline : Nat} {r : Except Error (Option ExitStatus)}
    (h : Lingered policy p deadline t r) : Quiet t := by
  rcases h with ⟨status, h⟩ | ⟨h, -⟩ | ⟨cause, h⟩ | h
  · simpa using h.quiet
  · simpa using h.quiet
  · simpa using h.quiet
  · exact h.quiet

theorem Due.passive {status? : Option ExitStatus} (h : Due policy p t status?) : Passive t := by
  rcases h with status | h | h
  · simp
  · simpa using h.quiet.passive
  · simpa using h.quiet.passive

theorem LetBe.passive {e : Error} (h : LetBe policy p t e) : Passive t := by
  rcases h with cause | he | h
  · simp
  · simp
  · simpa using h.quiet.passive

theorem Ending.passive {status? : Option ExitStatus} (h : Ending p status? t r) : Passive t := by
  rcases h with _ | _ | _ | _ <;> simp

theorem Escalation.passive (h : Escalation policy p t r) : Passive t := by
  rcases h with h | ⟨hdue, hend⟩
  · exact h.passive
  · exact passive_append_iff.2 ⟨hdue.passive, hend.passive⟩

theorem LetBe.signals_eq {e : Error} (h : LetBe policy p t e) :
    signals t = [] ∨ signals t = [(p.pid, .term)] := by
  rcases h with cause | he | h
  · exact .inl rfl
  · exact .inr rfl
  · exact .inr (by simp [h.quiet.signals_eq_nil])

theorem Due.signals_eq {status? : Option ExitStatus} (h : Due policy p t status?) :
    signals t = [] ∨ signals t = [(p.pid, .term)] := by
  rcases h with status | h | h
  · exact .inl rfl
  · exact .inr (by simp [h.quiet.signals_eq_nil])
  · exact .inr (by simp [h.quiet.signals_eq_nil])

/-- The group of a process is killed at once, and no other signal is sent. -/
theorem Ending.exists_kill {status? : Option ExitStatus} (h : Ending p status? t r) :
    ∃ answer after, t = signalled p.pid .kill answer :: after ∧ signals after = [] := by
  rcases h with _ | _ | _ | _
  · exact ⟨_, _, rfl, rfl⟩
  · exact ⟨_, _, rfl, rfl⟩
  · exact ⟨_, _, rfl, rfl⟩
  · exact ⟨_, _, rfl, rfl⟩

theorem sentTo_of_signals_eq (h : signals t = [] ∨ signals t = [(p.pid, .term)]) :
    SentTo p.pid t := by
  rcases h with h | h <;> simp [SentTo, h]

theorem Escalation.sentTo (h : Escalation policy p t r) : SentTo p.pid t := by
  rcases h with h | ⟨hdue, hend⟩
  · exact sentTo_of_signals_eq h.signals_eq
  · obtain ⟨answer, after, rfl, hafter⟩ := hend.exists_kill
    refine sentTo_append_iff.2 ⟨sentTo_of_signals_eq hdue.signals_eq, ?_⟩
    simp [SentTo, hafter]

theorem Due.seen_ended {status : ExitStatus} (h : Due policy p t (some status)) :
    polled p.pid (.ok (some status)) ∈ t := by
  rcases h with _ | h
  · simp
  · rcases h
    simp

/-- What is reported is how the process was seen to end, or how it ended when it was killed. -/
theorem Ending.reported {status? : Option ExitStatus} (h : Ending p status? t (.ok report)) :
    (report.service = p.service ∧ report.pid = p.pid) ∧ Killed p.pid t ∧
      (status? = some report.status ∨ awaited p.pid (.ok report.status) ∈ t) := by
  rcases h with _ | @⟨answer, status, ha⟩ | _ | @⟨answer, status, ha⟩
  · exact ⟨⟨rfl, rfl⟩, ⟨answer, ha, by simp⟩, .inl rfl⟩
  · exact ⟨⟨rfl, rfl⟩, ⟨answer, ha, by simp⟩, .inr (by simp)⟩

theorem Escalation.status_seen (h : Escalation policy p t (.ok report)) :
    polled p.pid (.ok (some report.status)) ∈ t ∨ awaited p.pid (.ok report.status) ∈ t := by
  rcases h with _ | ⟨hdue, hend⟩
  obtain ⟨-, -, rfl | hawaited⟩ := hend.reported
  · exact .inl (List.mem_append_left _ hdue.seen_ended)
  · exact .inr (List.mem_append_right _ hawaited)

theorem Escalation.terminated (h : Escalation policy p t r) : Terminated p t r := by
  refine ⟨h.passive, ?_⟩
  rintro report rfl
  have hreaped : Reaped p.pid t := h.status_seen.imp (⟨_, ·⟩) (⟨_, ·⟩)
  rcases h with _ | ⟨-, hend⟩
  obtain ⟨hnames, hkilled, -⟩ := hend.reported
  exact ⟨hnames, hreaped, hkilled.append_left _⟩

end Facts

/-- A process that was ended was waited for, and its group killed. -/
theorem Policy.ensures_terminate (policy : Policy) (p : ProcessInfo) :
    (policy.terminate p).Ensures (Terminated p) :=
  (policy.ensures_terminate_escalation p).mono fun _ _ h => h.terminated

end Testbed.Service
