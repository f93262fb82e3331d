import Testbed.Proofs.Service.Change

/-!
# Steps of a supervisor

All that a supervisor ever does to its notes is to start a service, to stop one and to close,
and between these it looks at things (`Step`). What a procedure does is a sequence of such
steps (`Steps`), so what each step keeps is kept by all.

* `Policy.steps_shutdownAll`: a shutdown is the closing and the stops;
* `Steps.closed`: once closed, a supervisor stays closed;
* `Steps.orderly`: no service has two slots, and each tracks a process of its own.
-/

namespace Testbed.Service

open Exchange Supervision

section Relations

variable {ω : Type} (os : OperatingSystem ω) (policy : Policy) (L : Launch → Prop)

/-- What a supervisor does in one piece, where the launches are among those of `L`. -/
inductive Step : Supervisor → Transcript → Supervisor → Prop
  | start {l : Launch} {s s' : Supervision ω} {t : Transcript} {r : Except Error ProcessInfo}
      (hl : L l) (h : Runs os (policy.start l) s t r s') : Step s.supervisor t s'.supervisor
  | stop {service : String} {s s' : Supervision ω} {t : Transcript} {r : Except Error StopReport}
      (h : Runs os (policy.stop service) s t r s') : Step s.supervisor t s'.supervisor
  | pass {s : Supervisor} {t : Transcript} (ht : Quiet t) : Step s t s
  | close (s : Supervisor) : Step s [⟨.close, ()⟩] { s with closed := true }

/-- What a supervisor does piece by piece. -/
inductive Steps : Supervisor → Transcript → Supervisor → Prop
  | refl (s : Supervisor) : Steps s [] s
  | tail {s s' s'' : Supervisor} {t t' : Transcript} (h : Steps s t s')
      (h' : Step os policy L s' t' s'') : Steps s (t ++ t') s''

end Relations

variable {ω : Type} {os : OperatingSystem ω} {policy : Policy} {L L' : Launch → Prop}

section Closure

variable {s s' s'' : Supervisor} {t t' : Transcript}

theorem Step.mono (h : Step os policy L s t s') (hL : ∀ l, L l → L' l) :
    Step os policy L' s t s' := by
  cases h with
  | start hl h => exact .start (hL _ hl) h
  | stop h => exact .stop h
  | pass ht => exact .pass ht
  | close s => exact .close s

theorem Step.steps (h : Step os policy L s t s') : Steps os policy L s t s' := .tail (.refl s) h

namespace Steps

theorem mono (h : Steps os policy L s t s') (hL : ∀ l, L l → L' l) : Steps os policy L' s t s' := by
  induction h with
  | refl => exact .refl s
  | tail _ h' ih => exact ih.tail (h'.mono hL)

theorem trans (h : Steps os policy L s t s') (h' : Steps os policy L s' t' s'') :
    Steps os policy L s (t ++ t') s'' := by
  induction h' with
  | refl => exact (List.append_nil t).symm ▸ h
  | tail _ h'' ih => exact List.append_assoc t _ _ ▸ ih.tail h''

theorem cons_of_quiet {x : Exchange} (h : Steps os policy L s t s') (hx : x.1.IsQuiet) :
    Steps os policy L s (x :: t) s' :=
  (Step.pass (quiet_cons_iff.2 ⟨hx, quiet_nil⟩)).steps.trans h

end Steps

end Closure

/-! ## What procedures do -/

namespace Policy

variable {s s' : Supervision ω} {t : Transcript}

section Quiet

variable {α : Type} {p : Procedure α} {a : α}

/-- What is quiet leaves the notes alone. -/
theorem supervisor_eq_of_quiet (hp : p.Ensures fun t _ => Quiet t) (h : Runs os p s t a s') :
    s'.supervisor = s.supervisor :=
  h.supervisor_eq (h.ensured hp).passive.keepsNotes

theorem step_of_quiet (hp : p.Ensures fun t _ => Quiet t) (h : Runs os p s t a s') :
    Step os policy L s.supervisor t s'.supervisor :=
  supervisor_eq_of_quiet hp h ▸ .pass (h.ensured hp)

end Quiet

variable (policy)

theorem steps_stopEach (names : List String) {r : List StopReport}
    (h : Runs os (policy.stopEach names) s t r s') :
    Steps os policy L s.supervisor t s'.supervisor := by
  -- On the services that are left.
  induction names generalizing s t r with
  | nil =>
    obtain ⟨rfl, rfl, rfl⟩ := runs_pure_iff.1 h
    exact .refl _
  | cons service rest ih =>
    obtain ⟨t₁, stopped, s₁, t₂, rfl, h₁, h₂⟩ := runs_bind_iff.1 h
    refine (Step.stop h₁).steps.trans ?_
    split at h₂
    case h_1 report =>
      obtain ⟨t₃, reports, s₂, t₄, rfl, h₃, h₄⟩ := runs_bind_iff.1 h₂
      obtain ⟨rfl, rfl, rfl⟩ := runs_pure_iff.1 h₄
      rw [List.append_nil]
      exact ih h₃
    case h_2 => exact ih h₂
    case h_3 e _ =>
      -- That the stop failed is told before the rest is stopped.
      obtain ⟨t₃, rfl, h₃⟩ := runs_issue_bind_iff.1 h₂
      exact (ih h₃).cons_of_quiet trivial

theorem steps_shutdownAll {r : List StopReport} (h : Runs os policy.shutdownAll s t r s') :
    Steps os policy L s.supervisor t s'.supervisor := by
  obtain ⟨_, rfl, h₁⟩ := runs_issue_bind_iff.1 h
  obtain ⟨_, rfl, h₂⟩ := runs_issue_bind_iff.1 h₁
  exact (Step.close _).steps.trans ((steps_stopEach policy _ h₂).cons_of_quiet trivial)

end Policy

/-! ## What steps keep -/

section Keeps

variable {s s' : Supervisor} {t : Transcript}

/-- A step changes the slot of each service as far as this one is concerned. -/
theorem Step.change (h : Step os policy L s t s') (service : String) :
    Change service (s.slot service) t (s'.slot service) := by
  cases h with
  | start _ h => exact (policy.course_start h).affects.change_all service
  | stop h => exact (policy.course_stop h).affects.change_all service
  | pass ht => exact .idle (ht.passive.not_launched service)
  | close s => exact .idle (not_launched_of_ne (by simp) service)

theorem StartCourse.closed_eq {l : Launch} {r : Except Error ProcessInfo}
    (h : StartCourse l s t r s') : s'.closed = s.closed := by
  cases h with
  | refused => rfl
  | launched => rfl

theorem StopCourse.closed_eq {service : String} {r : Except Error StopReport}
    (h : StopCourse service s t r s') : s'.closed = s.closed := by
  cases h with
  | idle => rfl
  | failed => rfl
  | ended => rfl

theorem Step.closed (h : Step os policy L s t s') (hs : s.closed = true) : s'.closed = true := by
  cases h with
  | start _ h => exact (policy.course_start h).closed_eq.trans hs
  | stop h => exact (policy.course_stop h).closed_eq.trans hs
  | pass => exact hs
  | close => rfl

theorem Steps.closed (h : Steps os policy L s t s') (hs : s.closed = true) :
    s'.closed = true := by
  induction h with
  | refl => exact hs
  | tail _ h' ih => exact h'.closed ih

variable (policy) in
/-- A shutdown closes. -/
theorem Policy.closed_shutdownAll {s s' : Supervision ω} {r : List StopReport}
    (h : Runs os policy.shutdownAll s t r s') : s'.supervisor.closed = true := by
  obtain ⟨_, rfl, h₁⟩ := runs_issue_bind_iff.1 h
  obtain ⟨_, rfl, h₂⟩ := runs_issue_bind_iff.1 h₁
  have hstopped : Steps os policy (fun _ => False) _ _ _ := steps_stopEach policy _ h₂
  exact hstopped.closed rfl

/-- The notes are in order. -/
structure Supervisor.Orderly (s : Supervisor) : Prop where
  /-- No service has two slots. -/
  nodup : (Entries.keys s.slots).Nodup
  /-- The process of a service is one of its own. -/
  named : ∀ service info, (s.slot service).process = some info → info.service = service

namespace Supervisor

theorem orderly_new : ({} : Supervisor).Orderly where
  nodup := List.nodup_nil
  named _ _ h := absurd h (by simp [Supervisor.slot])

theorem nodup_noted {service : String} {slot : Slot} (hs : (Entries.keys s.slots).Nodup) :
    (Entries.keys (s.noted service slot).slots).Nodup :=
  Entries.nodup_keys_put slot hs

end Supervisor

/-- What is reported of a stop is reported of its service. -/
theorem StopCourse.report_service {service : String} {r : StopReport}
    (h : StopCourse service s t (.ok r) s') (hs : s.Orderly) : r.service = service := by
  cases h with
  | ended _ hslot hp hmid =>
    rw [← s.slot_of_get? service hslot] at hp
    exact (hmid.2 r rfl).1.1.trans (hs.named service _ hp)

theorem Change.named {service : String} {slot slot' : Slot} (h : Change service slot t slot')
    (hslot : ∀ info, slot.process = some info → info.service = service) {info : ProcessInfo}
    (hi : slot'.process = some info) : info.service = service := by
  cases h with
  | idle => exact hslot info hi
  | ended => exact absurd hi (by simp)
  | launched hl _ _ ht =>
    cases ht with
    | ready =>
      obtain rfl := Option.some.inj hi
      exact hl
    | notSpawned | discarded => exact absurd hi (by simp [Slot.ofLaunch])

/-! Slots are only ever replaced, or made for services that have none. -/

theorem StartCourse.nodup {l : Launch} {r : Except Error ProcessInfo}
    (h : StartCourse l s t r s') (hs : (Entries.keys s.slots).Nodup) :
    (Entries.keys s'.slots).Nodup := by
  cases h with
  | refused => exact Supervisor.nodup_noted hs
  | launched =>
    exact Supervisor.nodup_noted (Supervisor.nodup_noted (Supervisor.nodup_noted hs))

theorem StopCourse.nodup {service : String} {r : Except Error StopReport}
    (h : StopCourse service s t r s') (hs : (Entries.keys s.slots).Nodup) :
    (Entries.keys s'.slots).Nodup := by
  cases h with
  | idle => exact hs
  | failed | ended => exact Supervisor.nodup_noted (Supervisor.nodup_noted hs)

theorem Step.nodup (h : Step os policy L s t s') (hs : (Entries.keys s.slots).Nodup) :
    (Entries.keys s'.slots).Nodup := by
  cases h with
  | start _ h => exact (policy.course_start h).nodup hs
  | stop h => exact (policy.course_stop h).nodup hs
  | pass | close => exact hs

theorem Step.orderly (h : Step os policy L s t s') (hs : s.Orderly) : s'.Orderly where
  nodup := h.nodup hs.nodup
  named service _ := (h.change service).named (hs.named service)

theorem Steps.orderly (h : Steps os policy L s t s') (hs : s.Orderly) : s'.Orderly := by
  induction h with
  | refl => exact hs
  | tail _ h' ih => exact h'.orderly ih

end Keeps

end Testbed.Service
