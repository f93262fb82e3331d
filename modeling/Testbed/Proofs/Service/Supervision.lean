import Testbed.Proofs.Entries
import Testbed.Proofs.Service.Transcript

/-!
# Runs of procedures

A run of a procedure is seen by what it exchanges, what it comes to and what it leaves
(`Runs`). A procedure made of two runs as the one after the other (`runs_bind_iff`), so a run
is taken apart command by command.

* `Runs.ensured`: what a procedure ensures whatever it is answered holds of its runs;
* `Runs.supervisor_eq`: only the commands to the notes change them;
* `Runs.events_eq`: the journal has the health events that were told.
-/

namespace Testbed.Service

open Program (issue)

/-! ## The notes -/

namespace Supervisor

variable (service : String) (slot : Slot) (s : Supervisor) {other : String}

/-- The notes with a slot replaced. -/
def noted : Supervisor := { s with slots := Entries.put service slot s.slots }

/-- The notes after the slot of a service was looked up, and made if there was none. -/
def entered : Supervisor := s.noted service (s.slot service)

theorem slot_of_get? {slot : Slot} (h : Entries.get? service s.slots = some slot) :
    s.slot service = slot := by
  rw [Supervisor.slot, h, Option.getD_some]

/-- A service of which a process is tracked has a slot. -/
theorem get?_of_process {p : ProcessInfo} (h : (s.slot service).process = some p) :
    Entries.get? service s.slots = some (s.slot service) := by
  rw [Supervisor.slot] at h ⊢
  cases hg : Entries.get? service s.slots with
  | none => simp [hg] at h
  | some slot => rfl

@[simp] theorem get?_noted_self :
    Entries.get? service (s.noted service slot).slots = some slot :=
  Entries.get?_put_self service slot s.slots

theorem get?_noted_of_ne (h : other ≠ service) :
    Entries.get? other (s.noted service slot).slots = Entries.get? other s.slots :=
  Entries.get?_put_of_ne h slot s.slots

@[simp] theorem slot_noted_self : (s.noted service slot).slot service = slot :=
  slot_of_get? service _ (get?_noted_self service slot s)

/-- That a slot was made shows nowhere. -/
theorem slot_entered (other : String) : (s.entered service).slot other = s.slot other := by
  by_cases h : other = service
  · subst h
    exact slot_noted_self other _ s
  · rw [slot, slot, entered, get?_noted_of_ne service _ s h]

end Supervisor

/-- A command that leaves the notes as they are. -/
def SupervisorCommand.KeepsNotes : SupervisorCommand → Prop
  | .enter _ | .update _ _ | .close => False
  | _ => True

/-! ## Runs -/

namespace Supervision

variable {ω α β : Type} (os : OperatingSystem ω)

/-- What a run of a procedure exchanges. -/
def transcript (p : Procedure α) (s : Supervision ω) : Transcript := p.exchanges (perform os) s

/-- A run of a procedure: what it exchanges, what it comes to and what it leaves. -/
structure Runs (p : Procedure α) (s : Supervision ω) (t : Transcript) (a : α)
    (s' : Supervision ω) : Prop where
  transcript_eq : transcript os p s = t
  run_eq : run os p s = (a, s')

variable {os} {s s' s'' : Supervision ω} {t : Transcript} {a : α} {b : β}

theorem runs_run (p : Procedure α) (s : Supervision ω) :
    Runs os p s (transcript os p s) (run os p s).1 (run os p s).2 := ⟨rfl, rfl⟩

theorem runs_pure_iff {a' : α} : Runs os (pure a) s t a' s' ↔ t = [] ∧ a' = a ∧ s' = s := by
  constructor
  · rintro ⟨rfl, h⟩
    obtain ⟨rfl, rfl⟩ := Prod.mk.inj h
    exact ⟨rfl, rfl, rfl⟩
  · rintro ⟨rfl, rfl, rfl⟩
    exact ⟨rfl, rfl⟩

theorem runs_bind_iff {p : Procedure α} {f : α → Procedure β} :
    Runs os (p >>= f) s t b s'' ↔
      ∃ t₁ a s' t₂, t = t₁ ++ t₂ ∧ Runs os p s t₁ a s' ∧ Runs os (f a) s' t₂ b s'' := by
  constructor
  · rintro ⟨rfl, h⟩
    refine ⟨_, _, _, _, Program.exchanges_bind p f s, runs_run p s, rfl, ?_⟩
    exact (Program.run_bind (perform os) p f s).symm.trans h
  · rintro ⟨_, _, _, _, rfl, ⟨rfl, hp⟩, rfl, hf⟩
    obtain ⟨rfl, rfl⟩ := Prod.mk.inj hp
    exact ⟨Program.exchanges_bind p f s, (Program.run_bind (perform os) p f s).trans hf⟩

/-- A run whose result is not asked for. -/
theorem runs_forget_iff {p : Procedure α} {u : Unit} :
    Runs os (p >>= fun _ => pure ()) s t u s' ↔ ∃ a, Runs os p s t a s' := by
  rw [runs_bind_iff]
  constructor
  · rintro ⟨t₁, a, s₁, t₂, rfl, h₁, h₂⟩
    obtain ⟨rfl, rfl, rfl⟩ := runs_pure_iff.1 h₂
    exact ⟨a, by rwa [List.append_nil]⟩
  · rintro ⟨a, h⟩
    exact ⟨t, a, s', [], (List.append_nil t).symm, h, runs_pure_iff.2 ⟨rfl, rfl, rfl⟩⟩

theorem runs_issue_bind_iff {c : SupervisorCommand} {f : c.Answer → Procedure β} :
    Runs os (issue c >>= f) s t b s' ↔
      ∃ t', t = ⟨c, (perform os c s).1⟩ :: t' ∧
        Runs os (f (perform os c s).1) (perform os c s).2 t' b s' := by
  constructor
  · rintro ⟨rfl, h⟩
    exact ⟨_, rfl, rfl, h⟩
  · rintro ⟨_, rfl, rfl, h⟩
    exact ⟨rfl, h⟩

theorem Runs.ensured {p : Procedure α} {Q : Transcript → α → Prop} (h : Runs os p s t a s')
    (hp : p.Ensures Q) : Q t a := by
  obtain ⟨rfl, hr⟩ := h
  have hQ : Q (transcript os p s) (run os p s).1 := hp.run s
  rwa [hr] at hQ

theorem supervisor_perform_of_keeps {c : SupervisorCommand} (h : c.KeepsNotes) :
    (perform os c s).2.supervisor = s.supervisor := by
  cases c with
  | enter _ | update _ _ | close => exact absurd h id
  | _ => rfl

theorem Runs.supervisor_eq {p : Procedure α} (h : Runs os p s t a s')
    (ht : ∀ x ∈ t, x.1.KeepsNotes) : s'.supervisor = s.supervisor := by
  obtain ⟨rfl, hr⟩ := h
  have hkept : (run os p s).2.supervisor = s.supervisor :=
    Program.view_run_of_keeps (fun _ _ => supervisor_perform_of_keeps) p s ht
  rwa [hr] at hkept

theorem events_perform (c : SupervisorCommand) (s : Supervision ω) :
    (perform os c s).2.journal.events = s.journal.events ++ c.event?.toList := by
  cases c with
  | tell entry =>
    rw [perform, Journal.events, Array.toList_push, List.filterMap_append]
    cases entry <;> rfl
  | _ => exact (List.append_nil _).symm

theorem events_run (p : Procedure α) (s : Supervision ω) :
    (run os p s).2.journal.events = s.journal.events ++ events (transcript os p s) := by
  change (p.run (perform os) s).2.journal.events =
    s.journal.events ++ events (p.exchanges (perform os) s)
  induction p generalizing s with
  | done a => exact (List.append_nil _).symm
  | step c next ih =>
    rw [Program.run, ih, events_perform, Program.exchanges, events_cons, List.append_assoc]

/-- The journal has the health events that were told. -/
theorem Runs.events_eq {p : Procedure α} (h : Runs os p s t a s') :
    s'.journal.events = s.journal.events ++ events t := by
  obtain ⟨rfl, hr⟩ := h
  exact (congrArg (fun o => o.2.journal.events) hr).symm.trans (events_run p s)

/-! ## What single commands come to -/

section Run

open Procedure

variable (os : OperatingSystem ω) (s : Supervision ω)

theorem run_bind (p : Procedure α) (f : α → Procedure β) :
    run os (p >>= f) s = run os (f (run os p s).1) (run os p s).2 :=
  Program.run_bind (perform os) p f s

@[simp] theorem run_pure (a : α) : run os (pure a) s = (a, s) := rfl

@[simp] theorem run_enter (service : String) :
    run os (enter service) s =
      (s.supervisor.slot service, { s with supervisor := s.supervisor.entered service }) := rfl

@[simp] theorem run_enterExisting (service : String) :
    run os (enterExisting service) s = (Entries.get? service s.supervisor.slots, s) := rfl

@[simp] theorem run_peek (service : String) :
    run os (peek service) s = (Entries.get? service s.supervisor.slots, s) := rfl

@[simp] theorem run_isClosed : run os isClosed s = (s.supervisor.closed, s) := rfl

@[simp] theorem run_poll (pid : Nat) :
    run os (poll pid) s =
      ((os (.poll pid) s.environment).1,
        { s with environment := (os (.poll pid) s.environment).2 }) := rfl

end Run

end Supervision

end Testbed.Service
