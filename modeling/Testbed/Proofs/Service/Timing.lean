import Testbed.Proofs.Service.Readiness
import Mathlib.Algebra.Order.Floor.Div

/-!
# How long a wait for readiness takes

Where the clock moves only while the supervisor sleeps and while a probe knocks (`KeepsTime`),
each turn of a wait that decides nothing brings the deadline nearer by a poll interval, or
reaches it. So the number of turns is bounded, and the wait is over soon after the deadline.

* `Undecided.elapses`: how far the turns that decide nothing get;
* `awaitReady_turn`: a turn ends the wait, or it goes on with one turn less;
* `wait_for_readiness_is_bounded`: a wait comes to a verdict, after so many attempts and so much
  time.
-/

namespace Testbed.Service

open Os Exchange Supervision

/-! ## Time -/

/-- A system whose clock tells a time that passes only in sleep, exactly as long as that is to
    be, and at the knock of a probe, for no longer than that may take. -/
structure KeepsTime {ω : Type} (os : OperatingSystem ω) (clock : ω → Nat) : Prop where
  now : ∀ e, (os .now e).1 = clock e ∧ clock (os .now e).2 = clock e
  poll : ∀ pid e, clock (os (.poll pid) e).2 = clock e
  sleep : ∀ span e, clock (os (.sleep span) e).2 = clock e + span.nanos
  knock : ∀ probe time e, clock e ≤ clock (os (.knock probe time) e).2 ∧
    clock (os (.knock probe time) e).2 ≤ clock e + time.nanos

/-- An exchange that begins at one time ends at another. -/
@[simp] def Exchange.Takes (a b : Nat) : Exchange → Prop
  | ⟨.os .now, time⟩ => time = a ∧ b = a
  | ⟨.os (.sleep span), _⟩ => b = a + span.nanos
  | ⟨.os (.knock _ time), _⟩ => a ≤ b ∧ b ≤ a + time.nanos
  | ⟨.os (.spawn _), _⟩ | ⟨.os (.await _), _⟩ | ⟨.os (.signal _ _), _⟩ => True
  | _ => b = a

/-- What is exchanged begins at one time and ends at another. -/
@[simp] def Elapses (a : Nat) : Transcript → Nat → Prop
  | [], b => b = a
  | x :: t, b => ∃ m, x.Takes a m ∧ Elapses m t b

theorem elapses_append_iff {a b : Nat} {t t' : Transcript} :
    Elapses a (t ++ t') b ↔ ∃ m, Elapses a t m ∧ Elapses m t' b := by
  induction t generalizing a with
  | nil => simp
  | cons x t ih =>
    simp only [List.cons_append, Elapses, ih]
    exact ⟨fun ⟨m, hx, n, ht, ht'⟩ => ⟨n, ⟨m, hx, ht⟩, ht'⟩,
      fun ⟨n, ⟨m, hx, ht⟩, ht'⟩ => ⟨m, hx, n, ht, ht'⟩⟩

section KeepsTime

variable {ω α : Type} {os : OperatingSystem ω} {clock : ω → Nat}

theorem KeepsTime.takes (h : KeepsTime os clock) (c : SupervisorCommand) (s : Supervision ω) :
    Exchange.Takes (clock s.environment) (clock (perform os c s).2.environment)
      ⟨c, (perform os c s).1⟩ := by
  rcases c with c | _ | _ | _ | _ | _ | _ | _ | _
  · rcases c with _ | pid | _ | _ | _ | span | ⟨probe, time⟩
    · trivial
    · exact h.poll pid s.environment
    · trivial
    · trivial
    · exact h.now s.environment
    · exact h.sleep span s.environment
    · exact h.knock probe time s.environment
  all_goals rfl

/-- What a run exchanges takes it from the time at which it begins to that at which it ends. -/
theorem KeepsTime.elapses (h : KeepsTime os clock) (p : Procedure α) (s : Supervision ω) :
    Elapses (clock s.environment) (transcript os p s) (clock (run os p s).2.environment) := by
  induction p generalizing s with
  | done a => rfl
  | step c next ih => exact ⟨_, h.takes c s, ih _ _⟩

end KeepsTime

/-! ## How far turns get -/

section Turns

variable {policy : Policy} {l : Launch} {pid started n a b : Nat} {t : Transcript}
  {r : Except Error Unit}

theorem Attempt.elapses {probe : Probe} {elapsed budget : Span} {ready : Bool}
    (h : Attempt probe elapsed budget t ready) (ht : Elapses a t b) :
    a ≤ b ∧ b ≤ a + (Probe.attemptTime budget).nanos := by
  rcases h with _ | _
  · obtain rfl := ht
    exact ⟨le_rfl, Nat.le_add_right ..⟩
  · obtain ⟨m, htakes, rfl⟩ := ht
    exact htakes

/-- A turn that begins before the deadline ends at most the shortest attempt after it. -/
theorem Turn.elapses {ready : Bool} (h : Turn l pid started t ready) (ht : Elapses a t b)
    (ha : a ≤ l.deadline started) :
    a ≤ b ∧ b ≤ l.deadline started + Probe.shortestAttempt.nanos := by
  obtain ⟨hattempt⟩ := h
  obtain ⟨_, rfl, _, ⟨rfl, rfl⟩, ht⟩ := ht
  obtain ⟨hab, hb⟩ := hattempt.elapses ht
  refine ⟨hab, hb.trans ?_⟩
  simp only [Probe.attemptTime]
  omega

/-- Turns that decide nothing end by the deadline, and each but the last took a poll interval. -/
theorem Undecided.elapses (h : Undecided policy l pid started n t) (ht : Elapses a t b)
    (hinterval : 0 < policy.pollInterval.nanos) (ha : a ≤ l.deadline started) :
    b ≤ l.deadline started ∧
      a + n * policy.pollInterval.nanos < l.deadline started + policy.pollInterval.nanos := by
  induction h generalizing a with
  | nil =>
    obtain rfl := ht
    omega
  | @cons n time t t' hturn htime h ih =>
    obtain ⟨_, hm, now, ⟨rfl, rfl⟩, _, rfl, ht'⟩ := elapses_append_iff.1 ht
    have ham : a ≤ now := (hturn.elapses hm ha).1
    obtain ⟨hb, hn⟩ := ih ht' (by dsimp only; omega)
    refine ⟨hb, ?_⟩
    dsimp only at hn
    rw [Nat.succ_mul]
    -- The supervisor slept for the poll interval, or until the deadline.
    rcases Nat.le_total policy.pollInterval.nanos (l.deadline started - now) with hp | hp
    · rw [Nat.min_eq_left hp] at hn
      omega
    · have hzero : n = 0 := by
        rw [Nat.min_eq_right hp] at hn
        by_contra hpos
        have := Nat.le_mul_of_pos_left policy.pollInterval.nanos (Nat.pos_of_ne_zero hpos)
        omega
      subst hzero
      omega

theorem Verdict.elapses (h : Verdict l pid started t r) (ht : Elapses a t b)
    (ha : a ≤ l.deadline started) : b ≤ l.deadline started + Probe.shortestAttempt.nanos := by
  rcases h with cause | status | hturn | ⟨hturn, -⟩
  · obtain ⟨_, rfl, rfl⟩ := ht
    exact ha.trans (Nat.le_add_right ..)
  · obtain ⟨_, rfl, rfl⟩ := ht
    exact ha.trans (Nat.le_add_right ..)
  · exact (hturn.elapses ht ha).2
  · obtain ⟨m, hm, _, ⟨rfl, rfl⟩, _, rfl, rfl⟩ := elapses_append_iff.1 ht
    exact (hturn.elapses hm ha).2

/-- A probe that waits for a time within the timeout is not late, as its attempts take none. -/
theorem Verdict.eq_ok_of_delay {span : Span} (h : Verdict l pid started t r) (ht : Elapses a t b)
    (hprobe : l.probe = .delay span) (hspan : span.nanos ≤ l.timeout.nanos)
    (hrunning : ∀ answer, polled pid answer ∈ t → answer = .ok none) : r = .ok () := by
  rcases h with cause | status | hturn | @⟨time, _, hturn, htime⟩
  · exact absurd (hrunning _ List.mem_cons_self) nofun
  · exact absurd (hrunning _ List.mem_cons_self) nofun
  · rfl
  · obtain ⟨read, rfl, hready⟩ := hturn.of_delay hprobe
    obtain ⟨_, rfl, _, ⟨rfl, rfl⟩, _, ⟨rfl, -⟩, -⟩ := ht
    rw [Launch.deadline] at htime
    exact absurd hready.symm (by simp; omega)

theorem Verdict.ne_stalled (h : Verdict l pid started t r) : r ≠ .error (.stalled l.service) := by
  rcases h with _ | _ | _ | _ <;> nofun

/-- At most as many turns decide nothing as poll intervals begin in the timeout. -/
theorem Undecided.le_ceilDiv (h : Undecided policy l pid a n t) (ht : Elapses a t b)
    (hinterval : 0 < policy.pollInterval.nanos) :
    n ≤ l.timeout.nanos ⌈/⌉ policy.pollInterval.nanos := by
  have hn := (h.elapses ht hinterval (Nat.le_add_right ..)).2
  rw [Launch.deadline] at hn
  rw [Nat.ceilDiv_eq_add_pred_div, Nat.le_div_iff_mul_le hinterval]
  omega

/-- With so many turns there is one that decides, and it begins by the deadline. -/
theorem Wait.exists_verdict {turns : Nat} (h : Wait policy l pid a turns t r) (ht : Elapses a t b)
    (hinterval : 0 < policy.pollInterval.nanos)
    (hturns : l.timeout.nanos ⌈/⌉ policy.pollInterval.nanos < turns) :
    ∃ n before last m, t = before ++ last ∧
      n ≤ l.timeout.nanos ⌈/⌉ policy.pollInterval.nanos ∧ Undecided policy l pid a n before ∧
      Verdict l pid a last r ∧ m ≤ l.deadline a ∧ Elapses m last b := by
  rcases h with @⟨n, before, last, _, hn, hbefore, hlast⟩ | h
  · obtain ⟨m, hm, hb⟩ := elapses_append_iff.1 ht
    exact ⟨n, before, last, m, rfl, hbefore.le_ceilDiv hm hinterval, hbefore, hlast,
      (hbefore.elapses hm hinterval (Nat.le_add_right ..)).1, hb⟩
  · exact absurd (h.le_ceilDiv ht hinterval) (Nat.not_le_of_lt hturns)

end Turns

/-! ## Attempts -/

/-- A look at a process found it running. -/
def Exchange.foundRunning : Exchange → Bool
  | ⟨.os (.poll _), .ok none⟩ => true
  | _ => false

/-- The attempts of a wait for readiness: it makes one after each look that finds the process
    running (`Turn`). -/
def attempts (t : Transcript) : Nat := t.countP Exchange.foundRunning

section Attempts

variable {policy : Policy} {l : Launch} {pid started turns n : Nat} {t t' : Transcript}
  {r : Except Error Unit}

theorem attempts_append : attempts (t ++ t') = attempts t + attempts t' := List.countP_append

theorem Turn.attempts_eq {ready : Bool} (h : Turn l pid started t ready) : attempts t = 1 := by
  obtain ⟨_ | _⟩ := h <;> rfl

theorem Undecided.attempts_eq (h : Undecided policy l pid started n t) : attempts t = n := by
  induction h with
  | nil => rfl
  | cons hturn _ _ ih =>
    rw [attempts_append, hturn.attempts_eq, Nat.add_comm 1]
    exact congrArg (· + 1) ih

theorem Verdict.attempts_le (h : Verdict l pid started t r) : attempts t ≤ 1 := by
  rcases h with cause | status | hturn | ⟨hturn, -⟩
  · exact Nat.zero_le 1
  · exact Nat.zero_le 1
  · exact hturn.attempts_eq.le
  · rw [attempts_append, hturn.attempts_eq]
    exact le_rfl

end Attempts

/-! ## More turns than are needed -/

namespace Policy

open Procedure

variable {ω : Type} (os : OperatingSystem ω) (policy : Policy) (l : Launch) (pid started : Nat)

/-- A turn comes to a verdict, or the wait goes on from where it leaves things. -/
theorem awaitReady_turn (s : Supervision ω) :
    (∃ o, ∀ turns, run os (policy.awaitReady l pid started (turns + 1)) s = o) ∨
      ∃ s', ∀ turns, run os (policy.awaitReady l pid started (turns + 1)) s =
        run os (policy.awaitReady l pid started turns) s' := by
  simp only [awaitReady, run_bind]
  rcases run os (poll pid) s with ⟨cause | _ | status, s₁⟩
  · exact .inl ⟨_, fun _ => rfl⟩
  · simp only [run_bind]
    generalize run os (probeReady _ _ _) _ = attempt
    rcases attempt with ⟨_ | _, s₂⟩
    · simp only [Bool.false_eq_true, if_false, run_bind]
      split
      · exact .inl ⟨_, fun _ => rfl⟩
      · exact .inr ⟨_, fun _ => rfl⟩
    · exact .inl ⟨_, fun _ => rfl⟩
  · exact .inl ⟨_, fun _ => rfl⟩

variable {os policy l pid started} in
/-- Where so many turns are enough for a verdict, more turns change nothing. -/
theorem run_awaitReady_of_le {n m : Nat} (hn : n ≤ m) {s : Supervision ω}
    (h : (run os (policy.awaitReady l pid started n) s).1 ≠ .error (.stalled l.service)) :
    run os (policy.awaitReady l pid started m) s =
      run os (policy.awaitReady l pid started n) s := by
  -- On the turns that are enough: the two waits go through them alike.
  induction n generalizing m s with
  | zero => exact absurd rfl h
  | succ n ih =>
    obtain ⟨m, rfl⟩ := Nat.exists_eq_succ_of_ne_zero (Nat.ne_zero_of_lt hn)
    rcases awaitReady_turn os policy l pid started s with ⟨o, ho⟩ | ⟨s', hs'⟩
    · rw [ho, ho]
    · rw [hs'] at h ⊢
      rw [hs', ih (Nat.le_of_succ_le_succ hn) h]

end Policy

/-- Where the system keeps time, a wait of enough turns comes to a verdict. -/
theorem KeepsTime.awaitReady_decides {ω : Type} {os : OperatingSystem ω} {clock : ω → Nat}
    (hclock : KeepsTime os clock) {policy : Policy} (hinterval : 0 < policy.pollInterval.nanos)
    (l : Launch) (pid : Nat) (s : Supervision ω) {turns : Nat}
    (hturns : l.timeout.nanos ⌈/⌉ policy.pollInterval.nanos < turns) :
    let started := clock s.environment
    let p := policy.awaitReady l pid started turns
    ∃ n before last m, transcript os p s = before ++ last ∧
      n ≤ l.timeout.nanos ⌈/⌉ policy.pollInterval.nanos ∧
      Undecided policy l pid started n before ∧ Verdict l pid started last (run os p s).1 ∧
      m ≤ l.deadline started ∧ Elapses m last (clock (run os p s).2.environment) := by
  intro started p
  have hwait : Wait policy l pid started turns (transcript os p s) (run os p s).1 :=
    (runs_run p s).ensured (policy.ensures_awaitReady_wait l pid started turns)
  exact hwait.exists_verdict (hclock.elapses p s) hinterval hturns

/-- Where the system keeps time, a wait for readiness comes to a verdict within so many turns as
    poll intervals begin in its timeout and one more, and more turns than that change nothing;
    it makes at most as many attempts, and is over at most the shortest attempt after the
    deadline. A probe that waits for a time within the timeout finds a process that runs on
    ready. The turns that a launch allows are enough. -/
theorem wait_for_readiness_is_bounded {ω : Type} {os : OperatingSystem ω} {clock : ω → Nat}
    (hclock : KeepsTime os clock) {policy : Policy} (hinterval : 0 < policy.pollInterval.nanos)
    (l : Launch) (pid : Nat) (s : Supervision ω) {turns : Nat}
    (hturns : l.timeout.nanos ⌈/⌉ policy.pollInterval.nanos + 1 ≤ turns) :
    let started := clock s.environment
    let enough := l.timeout.nanos ⌈/⌉ policy.pollInterval.nanos + 1
    let t := transcript os (policy.awaitReady l pid started turns) s
    let o := run os (policy.awaitReady l pid started turns) s
    o.1 ≠ .error (.stalled l.service) ∧
      o = run os (policy.awaitReady l pid started enough) s ∧
      attempts t ≤ enough ∧
      clock o.2.environment ≤ started + l.timeout.nanos + Probe.shortestAttempt.nanos ∧
      (∀ span, l.probe = .delay span → span.nanos ≤ l.timeout.nanos →
        (∀ answer, polled pid answer ∈ t → answer = .ok none) → o.1 = .ok ()) ∧
      (0 < policy.patience → enough ≤ l.timeout.nanos + policy.patience) := by
  intro started enough t o
  obtain ⟨n, before, last, m, ht, hn, hbefore, hlast, hm, hb⟩ :=
    hclock.awaitReady_decides hinterval l pid s hturns
  replace ht : t = before ++ last := ht
  -- A wait with no more turns than are enough comes to a verdict too.
  obtain ⟨_, _, _, _, _, _, _, hdecided, _⟩ :=
    hclock.awaitReady_decides hinterval l pid s (Nat.lt_succ_self _)
  refine ⟨hlast.ne_stalled, Policy.run_awaitReady_of_le hturns hdecided.ne_stalled, ?_,
    hlast.elapses hb hm, fun span hprobe hspan hrunning => ?_, fun hpatience => ?_⟩
  · calc attempts t = attempts before + attempts last := by rw [← attempts_append, ← ht]
      _ ≤ n + 1 := Nat.add_le_add hbefore.attempts_eq.le hlast.attempts_le
      _ ≤ enough := Nat.succ_le_succ hn
  · refine hlast.eq_ok_of_delay hb hprobe hspan fun answer hanswer => hrunning answer ?_
    exact ht ▸ List.mem_append_right before hanswer
  · have hle : l.timeout.nanos ⌈/⌉ policy.pollInterval.nanos ≤ l.timeout.nanos :=
      (ceilDiv_le_iff_le_mul hinterval).2 (Nat.le_mul_of_pos_left _ hinterval)
    exact Nat.add_le_add hle hpatience

/-- A system in which processes run until they are waited for, and nobody answers a knock, which
    takes a millisecond. It is known by its time. -/
def unanswering : OperatingSystem Nat
  | .spawn _, time => (.ok 1, time)
  | .poll _, time => (.ok none, time)
  | .await _, time => (.ok (.signaled .kill false), time)
  | .signal _ _, time => (.ok (), time)
  | .now, time => (time, time)
  | .sleep span, time => ((), time + span.nanos)
  | .knock _ span, time => (false, time + min span.nanos 1000000)

theorem keepsTime_unanswering : KeepsTime unanswering fun time => time where
  now _ := ⟨rfl, rfl⟩
  poll _ _ := rfl
  sleep _ _ := rfl
  knock _ _ e := ⟨Nat.le_add_right .., Nat.add_le_add_left (Nat.min_le_left ..) e⟩

/-- A service that is to answer within 25 milliseconds. -/
def hasty : Launch where
  service := "web"
  program := "serve"
  probe := .connect ⟨.loopback, 80⟩
  timeout := .ofMillis 25

/-- Looked for every ten milliseconds, a service that does not answer within 25 is given up at
    the fourth attempt. -/
theorem unanswered_wait_is_bounded :
    let policy : Policy := { grace := ⟨0⟩, pollInterval := .ofMillis 10 }
    let s : Supervision Nat := { environment := 0 }
    let t := transcript unanswering (policy.awaitReady hasty 1 s.environment 4) s
    let o := run unanswering (policy.awaitReady hasty 1 s.environment 4) s
    (o.1 = .error (.startupTimeout "web" (.ofMillis 25)) ∧ attempts t = 4) ∧
      attempts t ≤ hasty.timeout.nanos ⌈/⌉ policy.pollInterval.nanos + 1 ∧
      o.2.environment ≤ s.environment + hasty.timeout.nanos + Probe.shortestAttempt.nanos := by
  intro policy s t o
  have hinterval : 0 < policy.pollInterval.nanos := by decide +kernel
  have hturns : hasty.timeout.nanos ⌈/⌉ policy.pollInterval.nanos + 1 ≤ 4 := by decide +kernel
  obtain ⟨-, -, hattempts, htime, -⟩ := wait_for_readiness_is_bounded keepsTime_unanswering
    hinterval hasty 1 s hturns
  have hrun : o = run unanswering (policy.awaitReady hasty 1 s.environment 4) s := rfl
  refine ⟨by decide +kernel, hattempts, ?_⟩
  rw [hrun]
  exact htime

end Testbed.Service
