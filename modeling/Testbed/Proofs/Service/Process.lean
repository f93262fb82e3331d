import Testbed.Proofs.Service.Readiness

/-!
# What procedures do to processes

The procedures that deal with a single process, by what they exchange with the operating
system whatever it answers (`Program.Ensures`). But for the launch itself they run no program,
leave the notes alone and tell no health event (`Passive`); those that only look send no signal
either (`Quiet`).

* `ensures_launch`: a launch runs the program once; a child that does not become ready is
  killed with its group and waited for.
-/

namespace Testbed.Service

open Os Exchange
open Program (Ensures ensures_pure_iff ensures_issue_bind)

/-- A command that neither runs a program nor changes the notes nor tells a health event. -/
@[simp] def SupervisorCommand.IsPassive : SupervisorCommand → Prop
  | .os (.spawn _) | .enter _ | .update _ _ | .close | .tell (.event _) => False
  | _ => True

/-- No program was run, the notes were not changed, and no health event was told. -/
def Passive (t : Transcript) : Prop := ∀ x ∈ t, x.1.IsPassive

section Passive

variable {t t' : Transcript} {x : Exchange}

@[simp] theorem passive_nil : Passive [] := fun _ h => absurd h List.not_mem_nil

@[simp] theorem passive_cons_iff : Passive (x :: t) ↔ x.1.IsPassive ∧ Passive t :=
  List.forall_mem_cons

@[simp] theorem passive_append_iff : Passive (t ++ t') ↔ Passive t ∧ Passive t' :=
  List.forall_mem_append

theorem Passive.ne_spawn (h : Passive t) : ∀ x ∈ t, ∀ l, x.1 ≠ .os (.spawn l) := by
  rintro ⟨c, answer⟩ hx l rfl
  exact h _ hx

theorem Passive.not_launched (h : Passive t) (service : String) : ¬Launched service t :=
  not_launched_of_ne h.ne_spawn service

theorem Passive.events_eq_nil (h : Passive t) : events t = [] :=
  List.eq_nil_iff_forall_not_mem.2 fun e he => h (told e) (mem_events_iff.1 he)

end Passive

/-- A passive command that sends no signal either. -/
@[simp] def SupervisorCommand.IsQuiet : SupervisorCommand → Prop
  | .os (.spawn _) | .os (.signal _ _) | .enter _ | .update _ _ | .close | .tell (.event _) => False
  | _ => True

/-- What was done was passive, and no signal was sent. -/
def Quiet (t : Transcript) : Prop := ∀ x ∈ t, x.1.IsQuiet

section Quiet

variable {t t' : Transcript} {x : Exchange}

@[simp] theorem quiet_nil : Quiet [] := fun _ h => absurd h List.not_mem_nil

@[simp] theorem quiet_cons_iff : Quiet (x :: t) ↔ x.1.IsQuiet ∧ Quiet t :=
  List.forall_mem_cons

@[simp] theorem quiet_append_iff : Quiet (t ++ t') ↔ Quiet t ∧ Quiet t' :=
  List.forall_mem_append

theorem Quiet.passive (h : Quiet t) : Passive t := by
  rintro ⟨c, answer⟩ hx
  have hc : c.IsQuiet := h _ hx
  cases c with
  | os c =>
    cases c with
    | spawn | signal => exact hc.elim
    | poll | await | now | sleep | knock => trivial
  | tell entry =>
    cases entry with
    | event => exact hc.elim
    | record => trivial
  | enter | update | close => exact hc.elim
  | enterExisting | peek | services | isClosed => trivial

theorem Quiet.signals_eq_nil (h : Quiet t) : signals t = [] := by
  refine List.filterMap_eq_nil_iff.2 ?_
  rintro ⟨c, answer⟩ hx
  have hc : c.IsQuiet := h _ hx
  cases c with
  | os c =>
    cases c with
    | signal => exact hc.elim
    | _ => rfl
  | _ => rfl

end Quiet

/-! ## What may become of a process -/

/-- A process group is sent a single signal, and all is well if it is delivered. -/
inductive Sending (service : String) (pid : Nat) (s : Signal) :
    Transcript → Except Error Unit → Prop
  | delivered {answer : Except Errno Unit} (ha : Delivered answer) :
    Sending service pid s [signalled pid s answer] (.ok ())
  | refused {e : Errno} (he : e ≠ .noProcess) :
    Sending service pid s [signalled pid s (.error e)]
      (.error (.signal service pid (s.name?.getD "") (.system e)))

/-- A child that is discarded is sent `SIGKILL` with its group, and waited for. -/
def Discarded (pid : Nat) (t : Transcript) : Prop :=
  (∃ answer, signalled pid .kill answer ∈ t) ∧ ∃ answer, awaited pid answer ∈ t

theorem Discarded.mono {pid : Nat} {t t' : Transcript} (h : Discarded pid t) (ht : t ⊆ t') :
    Discarded pid t' :=
  ⟨h.1.imp fun _ ha => ht ha, h.2.imp fun _ ha => ht ha⟩

/-- What a launch comes to: the program cannot be run, or its process becomes ready, or the
    process is discarded. Signals are sent to no other process. -/
inductive LaunchEnd (l : Launch) : Transcript → Except Error ProcessInfo → Prop
  | notSpawned (cause : Trouble) (e : Error) (he : e.service = l.service) :
    LaunchEnd l [spawned l (.error cause)] (.error e)
  | ready {pid : Nat} {t : Transcript} (ht : Passive t) (hsent : SentTo pid t) :
    LaunchEnd l (spawned l (.ok pid) :: t) (.ok ⟨l.service, pid, l.probe⟩)
  | discarded {pid : Nat} {t : Transcript} (e : Error) (he : e.service = l.service)
      (ht : Passive t) (hd : Discarded pid t) (hsent : SentTo pid t) :
    LaunchEnd l (spawned l (.ok pid) :: t) (.error e)

/-- A process was ended: where that is reported, the report is of that process, which was
    waited for, and its group was killed. -/
def Terminated (p : ProcessInfo) (t : Transcript) (r : Except Error StopReport) : Prop :=
  Passive t ∧ ∀ report, r = .ok report → (report.service = p.service ∧ report.pid = p.pid) ∧
    Reaped p.pid t ∧ Killed p.pid t

/-! ## Waiting until a service is ready -/

section Wait

variable {policy : Policy} {l : Launch} {pid started turns n : Nat} {t : Transcript}
  {r : Except Error Unit}

theorem Attempt.quiet {probe : Probe} {elapsed budget : Span} {ready : Bool}
    (h : Attempt probe elapsed budget t ready) : Quiet t := by
  rcases h with _ | _
  · exact quiet_nil
  · simp

theorem Turn.quiet {ready : Bool} (h : Turn l pid started t ready) : Quiet t := by
  obtain ⟨hattempt⟩ := h
  simpa using hattempt.quiet

theorem Undecided.quiet (h : Undecided policy l pid started n t) : Quiet t := by
  induction h with
  | nil => exact quiet_nil
  | cons hturn _ _ ih => simpa using ⟨hturn.quiet, ih⟩

theorem Verdict.quiet (h : Verdict l pid started t r) : Quiet t := by
  rcases h with cause | status | hturn | ⟨hturn, -⟩
  · simp
  · simp
  · exact hturn.quiet
  · simpa using hturn.quiet

theorem Wait.quiet (h : Wait policy l pid started turns t r) : Quiet t := by
  rcases h with ⟨-, hbefore, hlast⟩ | h
  · exact quiet_append_iff.2 ⟨hbefore.quiet, hlast.quiet⟩
  · exact h.quiet

/-- A wait that fails does so for the service that is waited for. -/
theorem Wait.service_eq {e : Error} (h : Wait policy l pid started turns t (.error e)) :
    e.service = l.service := by
  rcases h with ⟨-, -, hlast⟩ | _
  · rcases hlast with _ | _ | _ | _
    · rfl
    · rfl
    · rfl
  · rfl

end Wait

namespace Policy

open Procedure

variable (policy : Policy)

theorem ensures_signalGroup (service : String) (pid : Nat) (s : Signal) :
    (signalGroup service pid s).Ensures (Sending service pid s) := by
  refine ensures_issue_bind fun answer => ?_
  cases answer with
  | ok _ => exact .delivered (.inl rfl)
  | error e =>
    change Ensures _ (if e = .noProcess then _ else _)
    split
    case isTrue he => exact .delivered (.inr (congrArg _ he))
    case isFalse he => exact .refused he

/-! ## Launching -/

theorem ensures_discard (service : String) (pid : Nat) :
    (discard service pid).Ensures fun t _ => Passive t ∧ Discarded pid t ∧ SentTo pid t := by
  refine (ensures_signalGroup service pid .kill).bind ?_
  rintro t r (@⟨answer, -⟩ | @⟨e, -⟩)
  · refine ensures_issue_bind fun ended => ?_
    cases ended with
    | ok status => exact ⟨by simp, ⟨⟨answer, by simp⟩, .ok status, by simp⟩, by simp [SentTo]⟩
    | error cause =>
      exact fun _ => ensures_pure_iff.2
        ⟨by simp, ⟨⟨answer, by simp⟩, .error cause, by simp⟩, by simp [SentTo]⟩
  · refine ensures_issue_bind fun _ => ensures_issue_bind fun ended => ?_
    cases ended with
    | ok status => exact ⟨by simp, ⟨⟨.error e, by simp⟩, .ok status, by simp⟩, by simp [SentTo]⟩
    | error cause =>
      exact fun _ => ensures_pure_iff.2
        ⟨by simp, ⟨⟨.error e, by simp⟩, .error cause, by simp⟩, by simp [SentTo]⟩

theorem ensures_launch (l : Launch) : (policy.launch l).Ensures (LaunchEnd l) := by
  refine ensures_issue_bind fun answer => ?_
  cases answer with
  | error cause => exact .notSpawned cause _ rfl
  | ok pid =>
    refine ensures_issue_bind fun _ => ensures_issue_bind fun started => ?_
    refine (ensures_awaitReady_wait policy l pid started _).bind fun t r hwait => ?_
    have ht : Quiet t := hwait.quiet
    cases r with
    | ok _ =>
      refine ensures_issue_bind fun _ => .ready (by simpa using ht.passive) ?_
      exact sentTo_of_signals_eq_nil (by simp [ht.signals_eq_nil]) pid
    | error e =>
      refine (ensures_discard l.service pid).bind fun t' _ ht' => ?_
      obtain ⟨hpassive, ⟨⟨a, ha⟩, b, hb⟩, hsent⟩ := ht'
      refine .discarded e hwait.service_eq (by simpa using ⟨ht.passive, hpassive⟩)
        ⟨⟨a, by simp [ha]⟩, b, by simp [hb]⟩ ?_
      simpa [SentTo, ht.signals_eq_nil] using hsent

/-! ## Looking -/

/-- To ask where a service stands changes nothing. -/
theorem ensures_status (service : String) : (status service).Ensures fun t _ => Quiet t := by
  refine ensures_issue_bind fun slot? => ?_
  cases slot? with
  | none => simp
  | some slot =>
    change Ensures _ (if slot.phase = .ready then _ else _)
    split
    · split
      · simp
      · refine ensures_issue_bind fun answer => ?_
        rcases answer with cause | _ | ended
        · simp
        · simp
        · simp
    · simp

/-- To ask for the process of a service changes nothing. -/
theorem ensures_pid (service : String) : (pid service).Ensures fun t _ => Quiet t := by
  refine ensures_issue_bind fun slot? => ?_
  cases slot? with
  | none => simp
  | some slot => simp

end Policy

end Testbed.Service
