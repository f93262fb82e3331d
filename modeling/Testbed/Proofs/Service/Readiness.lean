import Testbed.Proofs.Service.Supervision

/-!
# Waiting until a service is ready

A wait for readiness goes in turns. A turn looks whether the process runs, and if it does reads
the clock and makes an attempt of the probe (`Turn`). After turns that decide nothing
(`Undecided`) comes the one that gives the verdict (`Verdict`).

* `ensures_awaitReady_wait`: whatever it is answered, a wait goes like that;
* `readiness_verdicts_are_justified`: what each verdict tells of the process, the probe and the
  clock.
-/

namespace Testbed.Service

open Os Exchange
open Program (Ensures ensures_issue_bind)

/-- When a launch that began at a time has taken too long. -/
def Launch.deadline (l : Launch) (started : Nat) : Nat := started + l.timeout.nanos

/-- An attempt of a probe, when so much time has passed and so much is left: what it exchanges,
    and whether it finds the service ready. -/
inductive Attempt (probe : Probe) (elapsed budget : Span) : Transcript → Bool → Prop
  /-- The time that has passed decides. -/
  | timed {ready : Bool} (h : probe.verdict? elapsed = some ready) :
    Attempt probe elapsed budget [] ready
  /-- The probe knocks, for no longer than an attempt may take. -/
  | knocked {ready : Bool} (h : probe.verdict? elapsed = none) :
    Attempt probe elapsed budget [knocked probe (Probe.attemptTime budget) ready] ready

/-- A turn that finds the process running and makes an attempt. -/
inductive Turn (l : Launch) (pid started : Nat) : Transcript → Bool → Prop
  | attempt {time : Nat} {t : Transcript} {ready : Bool}
      (h : Attempt l.probe ⟨time - started⟩ ⟨l.deadline started - time⟩ t ready) :
    Turn l pid started (polled pid (.ok none) :: clocked time :: t) ready

/-- That a service never became ready was told. -/
abbrev Exchange.gaveUp (l : Launch) (pid : Nat) : Exchange :=
  logged .warn "service never became ready, killing it" (Policy.processFields l.service pid)

/-- The attempts of so many turns failed, each before the deadline, and after each the
    supervisor slept. -/
inductive Undecided (policy : Policy) (l : Launch) (pid started : Nat) : Nat → Transcript → Prop
  | nil : Undecided policy l pid started 0 []
  | cons {n time : Nat} {t t' : Transcript} (hturn : Turn l pid started t false)
      (htime : time < l.deadline started) (h : Undecided policy l pid started n t') :
    Undecided policy l pid started (n + 1) (t ++ clocked time ::
      slept ⟨min policy.pollInterval.nanos (l.deadline started - time)⟩ :: t')

/-- The turn that decides, and what it decides. -/
inductive Verdict (l : Launch) (pid started : Nat) : Transcript → Except Error Unit → Prop
  /-- Whether the process runs cannot be told. -/
  | unknown (cause : Trouble) :
    Verdict l pid started [polled pid (.error cause)] (.error (.wait l.service cause))
  /-- The process has ended. -/
  | exited (status : ExitStatus) :
    Verdict l pid started [polled pid (.ok (some status))]
      (.error (.exitedDuringStartup l.service status))
  /-- The attempt succeeds. -/
  | ready {t : Transcript} (hturn : Turn l pid started t true) : Verdict l pid started t (.ok ())
  /-- The attempt fails, and the deadline has passed. -/
  | late {time : Nat} {t : Transcript} (hturn : Turn l pid started t false)
      (htime : l.deadline started ≤ time) :
    Verdict l pid started (t ++ [clocked time, gaveUp l pid])
      (.error (.startupTimeout l.service l.timeout))

/-- A wait of at most so many turns. -/
inductive Wait (policy : Policy) (l : Launch) (pid started turns : Nat) :
    Transcript → Except Error Unit → Prop
  | decided {n : Nat} {before last : Transcript} {r : Except Error Unit} (hn : n < turns)
      (hbefore : Undecided policy l pid started n before) (hlast : Verdict l pid started last r) :
    Wait policy l pid started turns (before ++ last) r
  /-- No turn decided. -/
  | stalled {t : Transcript} (h : Undecided policy l pid started turns t) :
    Wait policy l pid started turns t (.error (.stalled l.service))

section Wait

variable {policy : Policy} {l : Launch} {pid started turns n : Nat} {t : Transcript}
  {r : Except Error Unit}

/-- After a turn that decides nothing, the wait goes on. -/
theorem Wait.after {time : Nat} {t' : Transcript} (h : Wait policy l pid started turns t' r)
    (hturn : Turn l pid started t false) (htime : time < l.deadline started) :
    Wait policy l pid started (turns + 1) (t ++ clocked time ::
      slept ⟨min policy.pollInterval.nanos (l.deadline started - time)⟩ :: t') r := by
  rcases h with ⟨hn, hbefore, hlast⟩ | h
  · have hwait := Wait.decided (Nat.succ_lt_succ hn) (.cons hturn htime hbefore) hlast
    rwa [List.append_assoc] at hwait
  · exact .stalled (.cons hturn htime h)

namespace Policy

open Procedure

theorem ensures_probeReady_attempt (probe : Probe) (elapsed budget : Span) :
    (probeReady probe elapsed budget).Ensures (Attempt probe elapsed budget) := by
  rw [probeReady]
  split
  case h_1 ready h => exact .timed h
  case h_2 h => exact fun _ => .knocked h

/-- A wait goes in turns of which the last decides. -/
theorem ensures_awaitReady_wait (policy : Policy) (l : Launch) (pid started turns : Nat) :
    (policy.awaitReady l pid started turns).Ensures (Wait policy l pid started turns) := by
  -- On the turns that are left.
  induction turns with
  | zero => exact .stalled .nil
  | succ turns ih =>
    have hdecided : ∀ {last r}, Verdict l pid started last r →
        Wait policy l pid started (turns + 1) last r := fun h =>
      .decided (Nat.succ_pos turns) .nil h
    refine ensures_issue_bind fun answer => ?_
    rcases answer with cause | _ | status
    · exact hdecided (.unknown cause)
    · refine ensures_issue_bind fun time =>
        (ensures_probeReady_attempt _ _ _).bind fun t ready ht => ?_
      cases ready with
      | true =>
        exact hdecided (.ready (.attempt ((List.append_nil t).symm ▸ ht)))
      | false =>
        refine ensures_issue_bind fun time : Nat => ?_
        change Ensures _ (if l.deadline started ≤ time then _ else _)
        split
        case isTrue htime => exact fun _ => hdecided (.late (.attempt ht) htime)
        case isFalse htime =>
          refine ensures_issue_bind fun _ => ih.mono fun t' r h => ?_
          exact h.after (.attempt ht) (Nat.lt_of_not_le htime)
    · exact hdecided (.exited status)

end Policy

end Wait

/-! ## What is seen on the way -/

section Seen

variable {policy : Policy} {l : Launch} {pid started turns n : Nat} {t : Transcript}
  {r : Except Error Unit} {status : ExitStatus}

theorem Attempt.polled_not_mem {probe : Probe} {elapsed budget : Span} {ready : Bool}
    (h : Attempt probe elapsed budget t ready) (answer : Except Trouble (Option ExitStatus)) :
    polled pid answer ∉ t := by
  rcases h with _ | _ <;> grind

/-- A turn that makes an attempt has not seen the process end. -/
theorem Turn.exit_not_mem {ready : Bool} (h : Turn l pid started t ready) :
    polled pid (.ok (some status)) ∉ t := by
  obtain ⟨hattempt⟩ := h
  grind [hattempt.polled_not_mem]

theorem Undecided.exit_not_mem (h : Undecided policy l pid started n t) :
    polled pid (.ok (some status)) ∉ t := by
  induction h with
  | nil => exact List.not_mem_nil
  | cons hturn htime h ih => grind [hturn.exit_not_mem]

/-- A verdict after which the end of the process was seen is that of its exit. -/
theorem Verdict.eq_exited (h : Verdict l pid started t r)
    (hexit : polled pid (.ok (some status)) ∈ t) :
    r = .error (.exitedDuringStartup l.service status) := by
  rcases h with cause | seen | hturn | ⟨hturn, htime⟩
  · grind
  · grind
  · exact absurd hexit hturn.exit_not_mem
  · grind [hturn.exit_not_mem]

variable (policy l pid started) in
/-- After turns that decide nothing, the wait ends like this. -/
def EndsWith (t last : Transcript) : Prop :=
  ∃ n before, Undecided policy l pid started n before ∧ t = before ++ last

namespace Wait

theorem ready_imp (h : Wait policy l pid started turns t (.ok ())) :
    ∃ last, Turn l pid started last true ∧ EndsWith policy l pid started t last := by
  rcases h with @⟨n, before, last, _, hn, hbefore, hlast⟩ | _
  rcases hlast with _ | _ | hturn | _
  exact ⟨last, hturn, n, before, hbefore, rfl⟩

/-- The end of the process is the verdict exactly if it is the last that was seen. -/
theorem exited_iff (h : Wait policy l pid started turns t r) :
    r = .error (.exitedDuringStartup l.service status) ↔
      EndsWith policy l pid started t [polled pid (.ok (some status))] := by
  constructor
  · rintro rfl
    rcases h with @⟨n, before, last, _, hn, hbefore, hlast⟩ | _
    rcases hlast with _ | _ | _ | _
    exact ⟨n, before, hbefore, rfl⟩
  · -- No turn that makes an attempt sees the process end, so it is the verdict that does.
    rintro ⟨m, before', -, ht⟩
    have hexit : polled pid (.ok (some status)) ∈ t := by simp [ht]
    rcases h with ⟨hn, hbefore, hlast⟩ | h
    · exact hlast.eq_exited ((List.mem_append.1 hexit).resolve_left hbefore.exit_not_mem)
    · exact absurd hexit h.exit_not_mem

theorem late_imp (h : Wait policy l pid started turns t
      (.error (.startupTimeout l.service l.timeout))) :
    ∃ last time, Turn l pid started last false ∧ l.deadline started ≤ time ∧
      EndsWith policy l pid started t (last ++ [clocked time, gaveUp l pid]) := by
  rcases h with @⟨n, before, last, _, hn, hbefore, hlast⟩ | _
  rcases hlast with _ | _ | _ | ⟨hturn, htime⟩
  exact ⟨_, _, hturn, htime, n, before, hbefore, rfl⟩

/-- Where the process is found running at first, the wait begins with an attempt. -/
theorem exists_turn (h : Wait policy l pid started (turns + 1) t r)
    (hrunning : t.head? = some (polled pid (.ok none))) :
    ∃ first ready rest, Turn l pid started first ready ∧ t = first ++ rest := by
  have hundecided : ∀ {n t}, Undecided policy l pid started (n + 1) t →
      ∃ first rest, Turn l pid started first false ∧ t = first ++ rest := by
    rintro n t (_ | ⟨hturn, -, -⟩)
    exact ⟨_, _, hturn, rfl⟩
  rcases h with @⟨n, before, last, _, hn, hbefore, hlast⟩ | h
  · -- The first turn is the one that decides, or one before it.
    rcases n with _ | n
    · rcases hbefore
      rcases hlast with cause | status | hturn | ⟨hturn, htime⟩
      · grind
      · grind
      · exact ⟨last, true, [], hturn, by simp⟩
      · exact ⟨_, false, _, hturn, rfl⟩
    · obtain ⟨first, rest, hturn, rfl⟩ := hundecided hbefore
      exact ⟨first, false, rest ++ last, hturn, List.append_assoc ..⟩
  · obtain ⟨first, rest, hturn, rfl⟩ := hundecided h
    exact ⟨first, false, rest, hturn, rfl⟩

end Wait

/-! ### Probes that do not knock -/

/-- An attempt that needs no time succeeds. -/
theorem Turn.eq_true_of_immediate {ready : Bool} (h : Turn l pid started t ready)
    (hprobe : l.probe = .immediate) : ready = true := by
  obtain ⟨hattempt⟩ := h
  rw [hprobe] at hattempt
  rcases hattempt with hverdict | hverdict
  · exact (Option.some.inj hverdict).symm
  · exact absurd hverdict (by simp [Probe.verdict?])

/-- An attempt that waits for a time goes by the clock, which is read before it. -/
theorem Turn.of_delay {ready : Bool} {span : Span} (h : Turn l pid started t ready)
    (hprobe : l.probe = .delay span) :
    ∃ time, t = [polled pid (.ok none), clocked time] ∧
      ready = decide (span.nanos ≤ time - started) := by
  obtain ⟨hattempt⟩ := h
  rw [hprobe] at hattempt
  rcases hattempt with hverdict | hverdict
  · exact ⟨_, rfl, (Option.some.inj hverdict).symm⟩
  · exact absurd hverdict (by simp [Probe.verdict?])

theorem Wait.eq_ok_of_immediate (h : Wait policy l pid started (turns + 1) t r)
    (hrunning : t.head? = some (polled pid (.ok none))) (hprobe : l.probe = .immediate) :
    r = .ok () := by
  -- No attempt fails, so the first turn decides.
  have hsucceeds : ∀ {t}, ¬Turn l pid started t false := fun hturn =>
    Bool.false_ne_true (hturn.eq_true_of_immediate hprobe)
  rcases h with ⟨hn, hbefore, hlast⟩ | h
  · rcases hbefore with _ | ⟨hturn, -, -⟩
    · rcases hlast with cause | status | _ | ⟨hturn, -⟩
      · grind
      · grind
      · rfl
      · exact absurd hturn hsucceeds
    · exact absurd hturn hsucceeds
  · rcases h with _ | ⟨hturn, -, -⟩
    exact absurd hturn hsucceeds

theorem Wait.elapsed_of_delay {span : Span} (h : Wait policy l pid started turns t (.ok ()))
    (hprobe : l.probe = .delay span) :
    ∃ time, t.getLast? = some (clocked time) ∧ span.nanos ≤ time - started := by
  obtain ⟨last, hturn, n, before, -, rfl⟩ := h.ready_imp
  obtain ⟨time, rfl, hready⟩ := hturn.of_delay hprobe
  exact ⟨time, by simp, of_decide_eq_true hready.symm⟩

end Seen

open Supervision in
/-- Whatever the system answers: a service is ready only directly after an attempt that
    succeeded, in a turn that found the process running; that the process has exited is the
    verdict exactly if a look sees it after turns whose attempts failed before the deadline; and
    the time is up only after an attempt that failed and a later look at the clock, at or past
    the deadline. So where the process is found running at first, there is an attempt, and one
    that needs no time succeeds; and one that waits for a time does not succeed before it has
    passed. -/
theorem readiness_verdicts_are_justified {ω : Type} (os : OperatingSystem ω) (policy : Policy)
    (l : Launch) (pid started turns : Nat) (s : Supervision ω) :
    let t := transcript os (policy.awaitReady l pid started (turns + 1)) s
    let r := (run os (policy.awaitReady l pid started (turns + 1)) s).1
    let running := (os (.poll pid) s.environment).1 = .ok none
    (r = .ok () → ∃ last, Turn l pid started last true ∧ EndsWith policy l pid started t last) ∧
      (∀ status, r = .error (.exitedDuringStartup l.service status) ↔
        EndsWith policy l pid started t [polled pid (.ok (some status))]) ∧
      (r = .error (.startupTimeout l.service l.timeout) → ∃ last time,
        Turn l pid started last false ∧ started + l.timeout.nanos ≤ time ∧
          EndsWith policy l pid started t (last ++ [clocked time, gaveUp l pid])) ∧
      (running → ∃ first ready rest, Turn l pid started first ready ∧ t = first ++ rest) ∧
      (running → l.probe = .immediate → r = .ok ()) ∧
      ∀ span, l.probe = .delay span → r = .ok () →
        ∃ time, t.getLast? = some (clocked time) ∧ span.nanos ≤ time - started := by
  intro t r running
  have hwait : Wait policy l pid started (turns + 1) t r :=
    (runs_run _ _).ensured (Policy.ensures_awaitReady_wait policy l pid started (turns + 1))
  have hhead : t.head? = some (polled pid (os (.poll pid) s.environment).1) := rfl
  refine ⟨fun hr => ?_, fun status => hwait.exited_iff, fun hr => ?_, fun hrunning => ?_,
    fun hrunning => ?_, fun span hprobe hr => ?_⟩
  · exact Wait.ready_imp (hr ▸ hwait)
  · exact Wait.late_imp (hr ▸ hwait)
  · exact hwait.exists_turn (hrunning ▸ hhead)
  · exact hwait.eq_ok_of_immediate (hrunning ▸ hhead)
  · exact Wait.elapsed_of_delay (hr ▸ hwait) hprobe

end Testbed.Service
