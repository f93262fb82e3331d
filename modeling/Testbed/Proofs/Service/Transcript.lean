import Testbed.Service.Supervisor
import Testbed.Proofs.Program
import Mathlib.Data.List.Basic

/-!
# Transcripts

What the supervisor asked for and was answered, in order, is a transcript. It tells of every
child that was spawned what became of it since (`Child`): whether it was waited for
(`Reaped`), whether its process group was sent `SIGKILL` (`Killed`), and whether its service
was launched again (`Launched`). What was told on the way are its health events (`events`), and
those about one service (`eventsOf`); what was sent on the way are its signals (`signals`).

* `Child.in_append_iff`: the children of one transcript after another are those of the two;
* `Child.eq_of_not_launched_since`: no two children of a service are both the last.
-/

namespace Testbed

/-- The service that a health event is about, if it is about one. -/
def Health.Event.service? : Health.Event → Option String
  | serviceStarting l => some l.service
  | serviceReady info => some info.service
  | serviceFailed e => some e.service
  | serviceStopped report => some report.service
  | bootstrapStarting | bootstrapSucceeded _ _ _ | bootstrapFailed _ => none

namespace Service

open Os

/-- What was asked for, with the answer. -/
abbrev Exchange := Σ c : SupervisorCommand, c.Answer

namespace Exchange

/-- The program of a service was to be run. -/
abbrev spawned (l : Launch) (answer : Except Trouble Nat) : Exchange := ⟨.os (.spawn l), answer⟩

/-- A child was looked at. -/
abbrev polled (pid : Nat) (answer : Except Trouble (Option ExitStatus)) : Exchange :=
  ⟨.os (.poll pid), answer⟩

/-- A child was waited for. -/
abbrev awaited (pid : Nat) (answer : Except Trouble ExitStatus) : Exchange :=
  ⟨.os (.await pid), answer⟩

/-- A process group was to be sent a signal. -/
abbrev signalled (pid : Nat) (s : Signal) (answer : Except Errno Unit) : Exchange :=
  ⟨.os (.signal pid s), answer⟩

/-- The clock was read. -/
abbrev clocked (time : Nat) : Exchange := ⟨.os .now, time⟩

/-- The supervisor did nothing for a while. -/
abbrev slept (span : Span) : Exchange := ⟨.os (.sleep span), ()⟩

/-- The address of a probe was knocked at. -/
abbrev knocked (probe : Probe) (time : Span) (ready : Bool) : Exchange :=
  ⟨.os (.knock probe time), ready⟩

/-- A slot was replaced. -/
abbrev noted (service : String) (slot : Slot) : Exchange := ⟨.update service slot, ()⟩

/-- A health event was told. -/
abbrev told (e : Health.Event) : Exchange := ⟨.tell (.event e), ()⟩

/-- A log record was told. -/
abbrev logged (level : Log.Level) (message : String) (fields : List (String × Log.Field)) :
    Exchange := ⟨.tell (.record ⟨level, Log.supervisorTarget, message, fields⟩), ()⟩

end Exchange

open Exchange

/-- Exchanges in order. -/
abbrev Transcript := List Exchange

/-- The program of the service was run, or could not be. -/
def Launched (service : String) (t : Transcript) : Prop :=
  ∃ l answer, l.service = service ∧ spawned l answer ∈ t

/-- The child was waited for with success: it has ended, and the system has forgotten it. -/
def Reaped (pid : Nat) (t : Transcript) : Prop :=
  (∃ status, polled pid (.ok (some status)) ∈ t) ∨ ∃ status, awaited pid (.ok status) ∈ t

/-- Nothing was asked of the operating system. -/
def Inward (t : Transcript) : Prop := ∀ x ∈ t, ∀ c, x.1 ≠ .os c

/-- The last that was asked of the operating system was whether the child had ended, and it
    had. -/
def FoundEnded (pid : Nat) (t : Transcript) : Prop :=
  ∃ before status gap, t = before ++ polled pid (.ok (some status)) :: gap ∧ Inward gap

/-- A signal went to a process group, or the group was gone already. -/
def Delivered (answer : Except Errno Unit) : Prop := answer = .ok () ∨ answer = .error .noProcess

/-- The process group of the child was sent `SIGKILL`, unless it was gone already. -/
def Killed (pid : Nat) (t : Transcript) : Prop :=
  ∃ answer, Delivered answer ∧ signalled pid .kill answer ∈ t

section Append

variable {service : String} {pid : Nat} {t t' : Transcript}

theorem launched_append_iff :
    Launched service (t ++ t') ↔ Launched service t ∨ Launched service t' := by
  simp only [Launched, List.mem_append, and_or_left, exists_or]

theorem Launched.of_mem {l : Launch} {answer : Except Trouble Nat} (h : spawned l answer ∈ t) :
    Launched l.service t := ⟨l, answer, rfl, h⟩

theorem not_launched_of_ne (h : ∀ x ∈ t, ∀ l, x.1 ≠ .os (.spawn l)) (service : String) :
    ¬Launched service t := by
  rintro ⟨l, answer, _, hx⟩
  exact h _ hx l rfl

theorem Inward.not_launched (h : Inward t) (service : String) : ¬Launched service t :=
  not_launched_of_ne (fun x hx l => h x hx (.spawn l)) service

theorem FoundEnded.append_left (h : FoundEnded pid t) (t' : Transcript) :
    FoundEnded pid (t' ++ t) := by
  obtain ⟨before, status, gap, rfl, hgap⟩ := h
  exact ⟨t' ++ before, status, gap, by rw [List.append_assoc], hgap⟩

theorem FoundEnded.append (h : FoundEnded pid t) (ht : Inward t') : FoundEnded pid (t ++ t') := by
  obtain ⟨before, status, gap, rfl, hgap⟩ := h
  refine ⟨before, status, gap ++ t', by simp, fun x hx => ?_⟩
  exact (List.mem_append.1 hx).elim (hgap x) (ht x)

theorem FoundEnded.reaped (h : FoundEnded pid t) : Reaped pid t := by
  obtain ⟨before, status, gap, rfl, -⟩ := h
  exact .inl ⟨status, by simp⟩

theorem Reaped.mono (h : Reaped pid t) (ht : t ⊆ t') : Reaped pid t' :=
  h.imp (fun ⟨status, hs⟩ => ⟨status, ht hs⟩) fun ⟨status, hs⟩ => ⟨status, ht hs⟩

theorem Reaped.cons (h : Reaped pid t) (x : Exchange) : Reaped pid (x :: t) :=
  h.mono (List.subset_cons_self x t)

theorem Reaped.append_left (h : Reaped pid t) (t' : Transcript) : Reaped pid (t' ++ t) :=
  h.mono (List.subset_append_right t' t)

theorem Reaped.append_right (h : Reaped pid t) (t' : Transcript) : Reaped pid (t ++ t') :=
  h.mono (List.subset_append_left t t')

theorem Killed.mono (h : Killed pid t) (ht : t ⊆ t') : Killed pid t' :=
  h.imp fun _ ha => ⟨ha.1, ht ha.2⟩

theorem Killed.cons (h : Killed pid t) (x : Exchange) : Killed pid (x :: t) :=
  h.mono (List.subset_cons_self x t)

theorem Killed.append_left (h : Killed pid t) (t' : Transcript) : Killed pid (t' ++ t) :=
  h.mono (List.subset_append_right t' t)

theorem Killed.append_right (h : Killed pid t) (t' : Transcript) : Killed pid (t ++ t') :=
  h.mono (List.subset_append_left t t')

end Append

/-! ## Health events -/

/-- The health event that a command tells, if it tells one. -/
def SupervisorCommand.event? : SupervisorCommand → Option Health.Event
  | .tell entry => entry.event?
  | _ => none

/-- The health events that were told, in order. -/
def events (t : Transcript) : List Health.Event := t.filterMap fun x => x.1.event?

/-- The health events about a service that were told, in order. -/
def eventsOf (service : String) (t : Transcript) : List Health.Event :=
  (events t).filter fun e => e.service? = some service

section Events

variable (service : String) (t t' : Transcript) (x : Exchange)

@[simp] theorem events_nil : events [] = [] := rfl

theorem events_cons : events (x :: t) = x.1.event?.toList ++ events t := by
  rw [events, List.filterMap_cons]
  cases x.1.event? <;> rfl

@[simp] theorem events_noted_cons (slot : Slot) :
    events (noted service slot :: t) = events t := rfl

@[simp] theorem events_told_cons (e : Health.Event) : events (told e :: t) = e :: events t := rfl

@[simp] theorem events_append : events (t ++ t') = events t ++ events t' :=
  List.filterMap_append

@[simp] theorem eventsOf_append :
    eventsOf service (t ++ t') = eventsOf service t ++ eventsOf service t' := by
  rw [eventsOf, events_append, List.filter_append, ← eventsOf, ← eventsOf]

variable {service t}

theorem mem_events_iff {e : Health.Event} : e ∈ events t ↔ told e ∈ t := by
  rw [events, List.mem_filterMap]
  constructor
  · rintro ⟨⟨c, answer⟩, hx, he⟩
    cases c with
    | tell entry =>
      cases entry with
      | record => exact absurd he (by simp [SupervisorCommand.event?, Entry.event?])
      | event e' =>
        obtain rfl := Option.some.inj he
        exact hx
    | _ => exact absurd he (by simp [SupervisorCommand.event?])
  · exact fun h => ⟨_, h, rfl⟩

theorem eventsOf_told_cons {e : Health.Event} (he : e.service? = some service) :
    eventsOf service (told e :: t) = e :: eventsOf service t := by
  rw [eventsOf, events_told_cons, List.filter_cons, if_pos (decide_eq_true he), ← eventsOf]

theorem eventsOf_of_events_eq_nil (h : events t = []) : eventsOf service t = [] := by
  rw [eventsOf, h, List.filter_nil]

end Events

/-! ## Signals -/

/-- The signal that a command sends, if it sends one, and the process group to which. -/
@[simp] def SupervisorCommand.signal? : SupervisorCommand → Option (Nat × Signal)
  | .os (.signal pid s) => some (pid, s)
  | _ => none

/-- The signals that were sent, in order. -/
def signals (t : Transcript) : List (Nat × Signal) := t.filterMap fun x => x.1.signal?

/-- No other process group was sent a signal. -/
def SentTo (pid : Nat) (t : Transcript) : Prop := ∀ sent ∈ signals t, sent.1 = pid

section Signals

variable {pid : Nat} {t t' : Transcript}

@[simp] theorem signals_nil : signals [] = [] := rfl

@[simp] theorem signals_cons (x : Exchange) (t : Transcript) :
    signals (x :: t) = x.1.signal?.toList ++ signals t := by
  rw [signals, List.filterMap_cons]
  cases x.1.signal? <;> rfl

@[simp] theorem signals_append (t t' : Transcript) : signals (t ++ t') = signals t ++ signals t' :=
  List.filterMap_append

theorem mem_signals_of_mem {s : Signal} {answer : Except Errno Unit}
    (h : signalled pid s answer ∈ t) : (pid, s) ∈ signals t :=
  List.mem_filterMap.2 ⟨_, h, rfl⟩

theorem sentTo_of_signals_eq_nil (h : signals t = []) (pid : Nat) : SentTo pid t := by
  simp [SentTo, h]

theorem sentTo_append_iff : SentTo pid (t ++ t') ↔ SentTo pid t ∧ SentTo pid t' := by
  rw [SentTo, signals_append, List.forall_mem_append, ← SentTo, ← SentTo]

end Signals

/-! ## Children -/

/-- A place in one list after another is a place in the first or in the second. -/
theorem append_eq_append_cons {α : Type} {a b l l' : List α} {x : α}
    (h : l ++ l' = a ++ x :: b) :
    (∃ m, l = a ++ x :: m ∧ b = m ++ l') ∨ ∃ m, a = l ++ m ∧ l' = m ++ x :: b := by
  rcases List.append_eq_append_iff.1 h with ⟨m, rfl, hm⟩ | ⟨m, rfl, hm⟩
  · exact .inr ⟨m, rfl, hm⟩
  · cases m with
    | nil => exact .inr ⟨[], by simp, hm.symm⟩
    | cons y m =>
      obtain ⟨rfl, rfl⟩ := List.cons_eq_cons.1 hm
      exact .inl ⟨m, rfl, rfl⟩

/-- Two places in a list are the same, or the one comes after the other. -/
theorem split_eq_or {α : Type} {a b a' b' : List α} {x y : α} (h : a ++ x :: b = a' ++ y :: b') :
    (a = a' ∧ x = y ∧ b = b') ∨ (y ∈ b ∧ x ∈ a') ∨ (y ∈ a ∧ x ∈ b') := by
  rcases append_eq_append_cons h with ⟨m, rfl, rfl⟩ | ⟨m, rfl, hm⟩
  · exact .inr (.inr ⟨by simp, by simp⟩)
  · cases m with
    | nil =>
      obtain ⟨rfl, rfl⟩ := List.cons_eq_cons.1 hm
      exact .inl ⟨(List.append_nil a).symm, rfl, rfl⟩
    | cons z m =>
      obtain ⟨rfl, rfl⟩ := List.cons_eq_cons.1 hm
      exact .inr (.inl ⟨by simp, by simp⟩)

/-- A child that was spawned, in a transcript. -/
structure Child where
  /-- What was exchanged before. -/
  before : Transcript
  /-- The launch for which it was spawned. -/
  launch : Launch
  /-- The child. -/
  pid : Nat
  /-- What was exchanged since. -/
  since : Transcript

namespace Child

/-- The transcript tells of the child. -/
def In (t : Transcript) (c : Child) : Prop :=
  t = c.before ++ spawned c.launch (.ok c.pid) :: c.since

/-- The service of a child. -/
def service (c : Child) : String := c.launch.service

/-- The child is the process of a slot, and the last that was spawned for its service. -/
def Tracked (slot : Slot) (c : Child) : Prop :=
  slot.process = some ⟨c.launch.service, c.pid, c.launch.probe⟩ ∧ ¬Launched c.service c.since

/-- The child, when more has been exchanged. -/
def later (c : Child) (t : Transcript) : Child := { c with since := c.since ++ t }

/-- The child, with more that was exchanged before. -/
def preceded (c : Child) (t : Transcript) : Child := { c with before := t ++ c.before }

variable {c d : Child} {t t' : Transcript}

theorem In.spawned_mem (h : c.In t) : spawned c.launch (.ok c.pid) ∈ t :=
  h ▸ List.mem_append_right _ List.mem_cons_self

theorem In.launched (h : c.In t) : Launched c.service t := .of_mem h.spawned_mem

theorem In.later (h : c.In t) (t' : Transcript) : (c.later t').In (t ++ t') := by
  rw [In] at h ⊢
  rw [h, Child.later, List.append_assoc, List.cons_append]

theorem In.preceded (h : c.In t) (t' : Transcript) : (c.preceded t').In (t' ++ t) := by
  rw [In] at h ⊢
  rw [h, Child.preceded, List.append_assoc]

/-- The children of one transcript after another are those of the first, when more has been
    exchanged, and those of the second. -/
theorem in_append_iff :
    c.In (t ++ t') ↔ (∃ d : Child, d.In t ∧ c = d.later t') ∨
      ∃ d : Child, d.In t' ∧ c = d.preceded t := by
  constructor
  · obtain ⟨before, l, pid, since⟩ := c
    intro h
    rcases append_eq_append_cons h with ⟨m, rfl, rfl⟩ | ⟨m, rfl, rfl⟩
    · exact .inl ⟨⟨before, l, pid, m⟩, rfl, rfl⟩
    · exact .inr ⟨⟨m, l, pid, since⟩, rfl, rfl⟩
  · rintro (⟨d, hd, rfl⟩ | ⟨d, hd, rfl⟩)
    · exact hd.later t'
    · exact hd.preceded t

/-- Where its service was not launched meanwhile, a child was there before. -/
theorem In.exists_later {service : String} (h : c.In (t ++ t')) (hs : c.service = service)
    (ht : ¬Launched service t') : ∃ d : Child, d.In t ∧ d.service = service ∧ c = d.later t' := by
  rcases in_append_iff.1 h with ⟨d, hd, rfl⟩ | ⟨d, hd, rfl⟩
  · exact ⟨d, hd, hs, rfl⟩
  · have hd' : d.service = service := hs
    exact absurd (hd' ▸ hd.launched) ht

/-- Where a service is launched once, no other child of it is told of. -/
theorem eq_of_launched_once {l : Launch} {answer : Except Trouble Nat}
    (h : c.In (t ++ spawned l answer :: t')) (ht : ¬Launched c.service t)
    (ht' : ¬Launched c.service t') : answer = .ok c.pid ∧ c = ⟨t, l, c.pid, t'⟩ := by
  obtain ⟨before, l', pid, since⟩ := c
  rcases split_eq_or h with ⟨rfl, hx, rfl⟩ | ⟨hx, _⟩ | ⟨hx, _⟩
  · cases hx
    exact ⟨rfl, rfl⟩
  · exact absurd (.of_mem hx) ht'
  · exact absurd (.of_mem hx) ht

/-- Two children of a service that was not launched since either are the same. -/
theorem eq_of_not_launched_since (hc : c.In t) (hd : d.In t) (hs : c.service = d.service)
    (hcl : ¬Launched c.service c.since) (hdl : ¬Launched d.service d.since) : c = d := by
  obtain ⟨before, l, pid, since⟩ := c
  obtain ⟨before', l', pid', since'⟩ := d
  rcases split_eq_or (hc.symm.trans hd) with ⟨rfl, hx, rfl⟩ | ⟨h, _⟩ | ⟨_, h⟩
  · cases hx
    rfl
  · exact absurd (.of_mem h) (hs ▸ hcl)
  · exact absurd (.of_mem h) (hs ▸ hdl)

theorem Tracked.later {slot : Slot} (h : c.Tracked slot) (ht : ¬Launched c.service t) :
    (c.later t).Tracked slot :=
  ⟨h.1, fun hl => (launched_append_iff.1 hl).elim h.2 ht⟩

end Child

end Service

end Testbed
