import Testbed.Proofs.Service.Escalation
import Testbed.Proofs.Service.Supervision

/-!
# How starts and stops go

A start is refused after a look at the notes and perhaps at the process, or the service is
launched (`StartCourse`). A stop finds no process, or the process is ended, or that fails
(`StopCourse`). Each way tells all that is exchanged, what the call comes to and what is noted
after it.

* `runs_start`: a start fails by what is in its way (`Hindrance`), or it is a launch;
* `runs_stop`: a stop of a process that is tracked ends it, or puts back what was noted;
* `course_start`, `course_stop`: there are no other ways.
-/

namespace Testbed.Service

open Os Exchange Supervision

/-! ## Looking -/

/-- A command that looks at the notes or at a process, or tells what was seen. -/
@[simp] def SupervisorCommand.IsLook : SupervisorCommand → Prop
  | .os (.poll _) | .enter _ | .enterExisting _ | .isClosed | .tell (.record _) => True
  | _ => False

/-- Nothing was done but to look. -/
def Looking (t : Transcript) : Prop := ∀ x ∈ t, x.1.IsLook

section Looking

variable {t : Transcript} {x : Exchange}

@[simp] theorem looking_nil : Looking [] := fun _ h => absurd h List.not_mem_nil

@[simp] theorem looking_cons_iff : Looking (x :: t) ↔ x.1.IsLook ∧ Looking t :=
  List.forall_mem_cons

theorem Looking.not_launched (h : Looking t) (service : String) : ¬Launched service t := by
  refine not_launched_of_ne ?_ service
  rintro ⟨c, answer⟩ hx l rfl
  exact h _ hx

/-- What is noted and told after a look runs no program. -/
theorem Looking.not_launched_noted (h : Looking t) (service : String) (slot : Slot)
    (e : Health.Event) (other : String) :
    ¬Launched other (t ++ [noted service slot, told e]) := by
  have hnoted : Inward [noted service slot, told e] := by simp [Inward]
  exact fun hl => (launched_append_iff.1 hl).elim (h.not_launched other) (hnoted.not_launched other)

theorem Looking.events_eq_nil (h : Looking t) : events t = [] :=
  List.eq_nil_iff_forall_not_mem.2 fun e he => h (told e) (mem_events_iff.1 he)

theorem Looking.signals_eq_nil (h : Looking t) : signals t = [] := by
  refine List.filterMap_eq_nil_iff.2 ?_
  rintro ⟨c, answer⟩ hx
  have hc : c.IsLook := h _ hx
  cases c with
  | os c =>
    cases c with
    | signal => exact hc.elim
    | _ => rfl
  | _ => rfl

end Looking

/-! ## What a launch exchanges -/

theorem Passive.keepsNotes {t : Transcript} (h : Passive t) : ∀ x ∈ t, x.1.KeepsNotes := by
  rintro ⟨c, answer⟩ hx
  have hc : c.IsPassive := h _ hx
  cases c with
  | enter _ | update _ _ | close => exact hc
  | _ => trivial

namespace LaunchEnd

variable {l : Launch} {t : Transcript} {r : Except Error ProcessInfo}

/-- A launch runs the program, and does nothing else that is not passive. -/
theorem exists_passive (h : LaunchEnd l t r) :
    ∃ answer rest, t = spawned l answer :: rest ∧ Passive rest := by
  cases h with
  | notSpawned cause => exact ⟨.error cause, [], rfl, passive_nil⟩
  | ready ht => exact ⟨_, _, rfl, ht⟩
  | discarded _ _ ht => exact ⟨_, _, rfl, ht⟩

theorem keepsNotes (h : LaunchEnd l t r) : ∀ x ∈ t, x.1.KeepsNotes := by
  obtain ⟨answer, rest, rfl, hrest⟩ := h.exists_passive
  exact List.forall_mem_cons.2 ⟨trivial, hrest.keepsNotes⟩

theorem launched_imp (h : LaunchEnd l t r) {service : String} (hs : Launched service t) :
    l.service = service := by
  obtain ⟨answer, rest, rfl, hrest⟩ := h.exists_passive
  obtain ⟨l', answer', hl', hx⟩ := hs
  rcases List.mem_cons.1 hx with heq | hmem
  · cases heq
    exact hl'
  · exact absurd ⟨l', answer', hl', hmem⟩ (hrest.not_launched service)

theorem events_eq_nil (h : LaunchEnd l t r) : events t = [] := by
  obtain ⟨answer, rest, rfl, hrest⟩ := h.exists_passive
  exact hrest.events_eq_nil

/-- A signal that is sent in the course of a launch goes to the child that was spawned. -/
theorem spawned_of_signal (h : LaunchEnd l t r) {sent : Nat × Signal} (hs : sent ∈ signals t) :
    spawned l (.ok sent.1) ∈ t := by
  cases h with
  | notSpawned => exact absurd hs List.not_mem_nil
  | ready _ hsent | discarded _ _ _ _ hsent =>
    rw [hsent sent hs]
    exact List.mem_cons_self

end LaunchEnd

/-- The slot of a service after a launch. -/
def Slot.ofLaunch : Except Error ProcessInfo → Slot
  | .ok info => ⟨.ready, some info⟩
  | .error _ => ⟨.stopped, none⟩

/-- The health event that tells what a launch came to. -/
def eventOfLaunch : Except Error ProcessInfo → Health.Event
  | .ok info => .serviceReady info
  | .error e => .serviceFailed e

/-- The slot of a service after a stop that found its process in a slot. -/
def Slot.ofStop (slot : Slot) : Except Error StopReport → Slot
  | .ok _ => ⟨.stopped, none⟩
  | .error _ => slot

/-- The health event that tells what a stop came to. One that fails is not told of. -/
def eventOfStop? : Except Error StopReport → Option Health.Event
  | .ok report => some (.serviceStopped report)
  | .error _ => none

/-! ## Starts and stops -/

/-- What is in the way of a start, and how the start fails by it. -/
inductive Hindrance {ω : Type} (os : OperatingSystem ω) (service : String) (s : Supervision ω) :
    Error → Prop
  /-- Services are started no more. -/
  | closed (hc : s.supervisor.closed = true) : Hindrance os service s (.shuttingDown service)
  /-- The process that is tracked runs. -/
  | running {p : ProcessInfo} (hc : s.supervisor.closed = false)
      (hp : (s.supervisor.slot service).process = some p)
      (ha : (os (.poll p.pid) s.environment).1 = .ok none) :
    Hindrance os service s (.alreadyRunning service p.pid)
  /-- Whether it runs cannot be told. -/
  | unknown {p : ProcessInfo} {cause : Trouble} (hc : s.supervisor.closed = false)
      (hp : (s.supervisor.slot service).process = some p)
      (ha : (os (.poll p.pid) s.environment).1 = .error cause) :
    Hindrance os service s (.wait service cause)

section Hindrance

variable {ω : Type} {os : OperatingSystem ω} {service : String} {s : Supervision ω} {e e' : Error}

/-- A process that has ended is in the way of no start. -/
theorem not_hindrance (hc : s.supervisor.closed = false)
    (hended : ∀ p, (s.supervisor.slot service).process = some p →
      ∃ status, (os (.poll p.pid) s.environment).1 = .ok (some status))
    (e : Error) : ¬Hindrance os service s e := by
  rintro (hc' | ⟨-, hp, ha⟩ | ⟨-, hp, ha⟩)
  · exact Bool.false_ne_true (hc.symm.trans hc')
  · obtain ⟨status, hstatus⟩ := hended _ hp
    exact absurd (hstatus.symm.trans ha) nofun
  · obtain ⟨status, hstatus⟩ := hended _ hp
    exact absurd (hstatus.symm.trans ha) nofun

theorem Hindrance.eq (h : Hindrance os service s e) (h' : Hindrance os service s e') : e = e' := by
  rcases h with hc | ⟨hc, hp, ha⟩ | ⟨hc, hp, ha⟩ <;>
    rcases h' with hc' | ⟨hc', hp', ha'⟩ | ⟨hc', hp', ha'⟩ <;>
    grind

end Hindrance

/-- How a start goes. -/
inductive StartCourse (l : Launch) (s : Supervisor) :
    Transcript → Except Error ProcessInfo → Supervisor → Prop
  /-- It is refused, and all that is left is a slot. -/
  | refused {t : Transcript} (e : Error) (ht : Looking t) :
    StartCourse l s t (.error e) (s.entered l.service)
  /-- The service has no process, or the end of its process was found, and it is launched. -/
  | launched {before mid : Transcript} {r : Except Error ProcessInfo} (hc : s.closed = false)
      (hbefore : Looking before)
      (hslot : ∀ info, (s.slot l.service).process = some info → FoundEnded info.pid before)
      (hmid : LaunchEnd l mid r) :
    StartCourse l s
      (before ++ noted l.service ⟨.starting, none⟩ :: told (.serviceStarting l) ::
        (mid ++ [noted l.service (.ofLaunch r), told (eventOfLaunch r)])) r
      (((s.entered l.service).noted l.service ⟨.starting, none⟩).noted l.service (.ofLaunch r))

/-- How a stop goes. -/
inductive StopCourse (service : String) (s : Supervisor) :
    Transcript → Except Error StopReport → Supervisor → Prop
  /-- There is no process. -/
  | idle {t : Transcript} (ht : Looking t) (hp : (s.slot service).process = none) :
    StopCourse service s t (.error (.notRunning service)) s
  /-- The process cannot be ended, and what was noted is noted again. -/
  | failed {before mid : Transcript} {slot : Slot} {info : ProcessInfo} (e : Error)
      (hbefore : Looking before) (hslot : Entries.get? service s.slots = some slot)
      (hp : slot.process = some info) (hmid : Passive mid) :
    StopCourse service s
      (before ++ noted service ⟨.stopping, none⟩ :: (mid ++ [noted service slot])) (.error e)
      ((s.noted service ⟨.stopping, none⟩).noted service slot)
  /-- The process is ended. -/
  | ended {before mid : Transcript} {slot : Slot} {info : ProcessInfo} {report : StopReport}
      (hbefore : Looking before) (hslot : Entries.get? service s.slots = some slot)
      (hp : slot.process = some info) (hmid : Terminated info mid (.ok report)) :
    StopCourse service s
      (before ++ noted service ⟨.stopping, none⟩ ::
        (mid ++ [noted service ⟨.stopped, none⟩, told (.serviceStopped report)])) (.ok report)
      ((s.noted service ⟨.stopping, none⟩).noted service ⟨.stopped, none⟩)

namespace Policy

open Procedure

variable {ω : Type} {os : OperatingSystem ω} (policy : Policy) {s s' : Supervision ω}
  {t : Transcript}

/-- A slot is replaced, and a health event is told. -/
theorem runs_update_tell {α : Type} {service : String} {slot : Slot} {e : Health.Event} {a a' : α}
    (h : Runs os (update service slot >>= fun _ => tell (.event e) >>= fun _ => pure a) s t a' s') :
    a' = a ∧ t = [noted service slot, told e] ∧
      s'.supervisor = s.supervisor.noted service slot := by
  obtain ⟨_, rfl, h₁⟩ := runs_issue_bind_iff.1 h
  obtain ⟨_, rfl, h₂⟩ := runs_issue_bind_iff.1 h₁
  obtain ⟨rfl, rfl, rfl⟩ := runs_pure_iff.1 h₂
  exact ⟨rfl, rfl, rfl⟩

/-- A launch is noted and told twice: when it begins, and by what it comes to. -/
theorem runs_startFresh {l : Launch} {r : Except Error ProcessInfo}
    (h : Runs os (policy.startFresh l) s t r s') :
    ∃ mid, LaunchEnd l mid r ∧
      t = noted l.service ⟨.starting, none⟩ :: told (.serviceStarting l) ::
        (mid ++ [noted l.service (.ofLaunch r), told (eventOfLaunch r)]) ∧
      s'.supervisor =
        (s.supervisor.noted l.service ⟨.starting, none⟩).noted l.service (.ofLaunch r) := by
  obtain ⟨_, rfl, h₁⟩ := runs_issue_bind_iff.1 h
  obtain ⟨_, rfl, h₂⟩ := runs_issue_bind_iff.1 h₁
  obtain ⟨mid, r', s₁, after, rfl, hlaunch, h₃⟩ := runs_bind_iff.1 h₂
  have hend := hlaunch.ensured (ensures_launch policy l)
  have hs := hlaunch.supervisor_eq hend.keepsNotes
  refine ⟨mid, ?_⟩
  cases r' with
  | ok info =>
    obtain ⟨rfl, rfl, hs'⟩ := runs_update_tell h₃
    exact ⟨hend, rfl, hs'.trans (congrArg (Supervisor.noted _ _) hs)⟩
  | error e =>
    obtain ⟨rfl, rfl, hs'⟩ := runs_update_tell h₃
    exact ⟨hend, rfl, hs'.trans (congrArg (Supervisor.noted _ _) hs)⟩

/-- A start fails by what is in its way, or goes on to a launch when nothing is. -/
theorem runs_start {l : Launch} {r : Except Error ProcessInfo}
    (h : Runs os (policy.start l) s t r s') :
    (∃ e, Hindrance os l.service s e ∧ r = .error e ∧ Looking t ∧
      s'.supervisor = s.supervisor.entered l.service ∧ s'.journal = s.journal) ∨
    (s.supervisor.closed = false ∧ (∀ e, ¬Hindrance os l.service s e) ∧
      ∃ before after s₁, t = before ++ after ∧ Looking before ∧
        (∀ p, (s.supervisor.slot l.service).process = some p → FoundEnded p.pid before) ∧
        s₁.supervisor = s.supervisor.entered l.service ∧
        Runs os (policy.startFresh l) s₁ after r s') := by
  obtain ⟨_, rfl, h₁⟩ := runs_issue_bind_iff.1 h
  obtain ⟨_, rfl, h₂⟩ := runs_issue_bind_iff.1 h₁
  split at h₂
  case isTrue hc =>
    obtain ⟨rfl, rfl, rfl⟩ := runs_pure_iff.1 h₂
    exact .inl ⟨_, .closed hc, rfl, by simp, rfl, rfl⟩
  case isFalse hc =>
    replace hc : s.supervisor.closed = false := Bool.eq_false_iff.2 hc
    split at h₂
    case h_1 hp =>
      replace hp : (s.supervisor.slot l.service).process = none := hp
      exact .inr ⟨hc, not_hindrance hc (by simp [hp]), [_, _], _, _, rfl, by simp, by simp [hp],
        rfl, h₂⟩
    case h_2 p hp =>
      replace hp : (s.supervisor.slot l.service).process = some p := hp
      obtain ⟨_, rfl, h₃⟩ := runs_issue_bind_iff.1 h₂
      split at h₃
      case h_1 cause ha =>
        obtain ⟨rfl, rfl, rfl⟩ := runs_pure_iff.1 h₃
        exact .inl ⟨_, .unknown hc hp ha, rfl, by simp, rfl, rfl⟩
      case h_2 ha =>
        obtain ⟨rfl, rfl, rfl⟩ := runs_pure_iff.1 h₃
        exact .inl ⟨_, .running hc hp ha, rfl, by simp, rfl, rfl⟩
      case h_3 status ha =>
        -- The process had ended, and the service is launched anew.
        obtain ⟨_, rfl, h₄⟩ := runs_issue_bind_iff.1 h₃
        have hended : (os (.poll p.pid) s.environment).1 = .ok (some status) := ha
        refine .inr ⟨hc, not_hindrance hc ?_, [_, _, _, _], _, _, rfl, by simp, ?_, rfl, h₄⟩
        · rintro p' hp'
          obtain rfl : p = p' := Option.some.inj (hp.symm.trans hp')
          exact ⟨status, hended⟩
        · rintro p' hp'
          obtain rfl : p = p' := Option.some.inj (hp.symm.trans hp')
          exact ⟨[_, _], status, [_], by rw [ha]; rfl, by simp [Inward]⟩

theorem course_start {l : Launch} {r : Except Error ProcessInfo}
    (h : Runs os (policy.start l) s t r s') : StartCourse l s.supervisor t r s'.supervisor := by
  rcases policy.runs_start h with ⟨e, -, rfl, ht, hs, -⟩ |
    ⟨hc, -, before, after, s₁, rfl, hbefore, hslot, hs, hlaunch⟩
  · rw [hs]
    exact .refused e ht
  · obtain ⟨mid, hend, rfl, hs'⟩ := runs_startFresh policy hlaunch
    rw [hs', hs]
    exact .launched hc hbefore hslot hend

/-- A stop of a service whose process is tracked ends the process, or notes again what was
    noted. -/
theorem runs_stop {service : String} {slot : Slot} {p : ProcessInfo} {r : Except Error StopReport}
    (hslot : Entries.get? service s.supervisor.slots = some slot) (hp : slot.process = some p)
    (h : Runs os (policy.stop service) s t r s') :
    ∃ mid s₁, Runs os (policy.terminate p)
        { s with supervisor := s.supervisor.noted service ⟨.stopping, none⟩ } mid r s₁ ∧
      t = ⟨.enterExisting service, some slot⟩ :: noted service ⟨.stopping, none⟩ ::
        (mid ++ noted service (slot.ofStop r) :: (eventOfStop? r).toList.map told) ∧
      s'.supervisor =
        (s.supervisor.noted service ⟨.stopping, none⟩).noted service (slot.ofStop r) := by
  obtain ⟨_, rfl, h₁⟩ := runs_issue_bind_iff.1 h
  simp only [perform, hslot, hp] at h₁ ⊢
  obtain ⟨_, rfl, h₂⟩ := runs_issue_bind_iff.1 h₁
  obtain ⟨mid, r', s₁, after, rfl, hterminate, h₃⟩ := runs_bind_iff.1 h₂
  have hs : s₁.supervisor = s.supervisor.noted service ⟨.stopping, none⟩ :=
    hterminate.supervisor_eq (hterminate.ensured (ensures_terminate policy p)).1.keepsNotes
  cases r' with
  | ok report =>
    obtain ⟨rfl, rfl, hs'⟩ := runs_update_tell h₃
    exact ⟨mid, s₁, hterminate, rfl, hs'.trans (congrArg (Supervisor.noted _ _) hs)⟩
  | error e =>
    obtain ⟨_, rfl, h₄⟩ := runs_issue_bind_iff.1 h₃
    obtain ⟨rfl, rfl, rfl⟩ := runs_pure_iff.1 h₄
    exact ⟨mid, s₁, hterminate, rfl, congrArg (Supervisor.noted _ _) hs⟩

theorem course_stop {service : String} {r : Except Error StopReport}
    (h : Runs os (policy.stop service) s t r s') :
    StopCourse service s.supervisor t r s'.supervisor := by
  obtain ⟨_, rfl, h₁⟩ := runs_issue_bind_iff.1 h
  split at h₁
  case h_1 hg =>
    replace hg : Entries.get? service s.supervisor.slots = none := hg
    have hslot : (s.supervisor.slot service).process = none := by rw [Supervisor.slot, hg]; rfl
    obtain ⟨rfl, rfl, rfl⟩ := runs_pure_iff.1 h₁
    exact .idle (by simp) hslot
  case h_2 slot hg =>
    replace hg : Entries.get? service s.supervisor.slots = some slot := hg
    split at h₁
    case h_1 hp =>
      have hslot : (s.supervisor.slot service).process = none := by
        rw [s.supervisor.slot_of_get? service hg, hp]
      obtain ⟨rfl, rfl, rfl⟩ := runs_pure_iff.1 h₁
      exact .idle (by simp) hslot
    case h_2 process hp =>
      obtain ⟨mid, s₁, hterminate, ht, hs'⟩ := runs_stop policy hg hp h
      have hended := hterminate.ensured (ensures_terminate policy process)
      rw [ht, hs']
      cases r with
      | ok report => exact .ended (show Looking [_] by simp) hg hp hended
      | error e => exact .failed e (show Looking [_] by simp) hg hp hended.1

end Policy

end Testbed.Service
