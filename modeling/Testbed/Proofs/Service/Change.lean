import Testbed.Proofs.Service.Course

/-!
# What calls change

A call that starts or stops a service changes the slot of that service and no other
(`Affects`), in one of three ways (`Change`): not at all, and then no program was run; to
an empty one, when the process was ended; or to that of a launch, when the program was run
while there was no process or its end had been found.

* `StartCourse.affects`, `StopCourse.affects`: what a start and a stop do.
-/

namespace Testbed.Service

open Os Exchange

/-- What may become of the slot of a service, with what is exchanged meanwhile. -/
inductive Change (service : String) : Slot → Transcript → Slot → Prop
  /-- Nothing. -/
  | idle {slot : Slot} {t : Transcript} (ht : ¬Launched service t) : Change service slot t slot
  /-- The process was ended. -/
  | ended {slot : Slot} {t : Transcript} {info : ProcessInfo} (hslot : slot.process = some info)
      (ht : ¬Launched service t) (hr : Reaped info.pid t) (hk : Killed info.pid t) :
    Change service slot t ⟨.stopped, none⟩
  /-- The program was run. -/
  | launched {slot : Slot} {before t after : Transcript} {l : Launch}
      {r : Except Error ProcessInfo} (hl : l.service = service)
      (hslot : ∀ info, slot.process = some info → FoundEnded info.pid before)
      (hbefore : ¬Launched service before) (ht : LaunchEnd l t r) (hafter : Inward after) :
    Change service slot (before ++ (t ++ after)) (.ofLaunch r)

/-- What a call that concerns one service may do to the notes. -/
structure Affects (service : String) (s : Supervisor) (t : Transcript) (s' : Supervisor) :
    Prop where
  change : Change service (s.slot service) t (s'.slot service)
  get?_of_ne : ∀ other, other ≠ service → Entries.get? other s'.slots = Entries.get? other s.slots
  not_launched : ∀ other, other ≠ service → ¬Launched other t

section Affects

variable {service : String} {s s' : Supervisor} {t : Transcript}

theorem Affects.slot_of_ne (h : Affects service s t s') {other : String} (ho : other ≠ service) :
    s'.slot other = s.slot other := by
  rw [Supervisor.slot, Supervisor.slot, h.get?_of_ne other ho]

/-- As far as a service is concerned, a call on another does nothing. -/
theorem Affects.change_all (h : Affects service s t s') (other : String) :
    Change other (s.slot other) t (s'.slot other) := by
  by_cases ho : other = service
  · exact ho ▸ h.change
  · exact h.slot_of_ne ho ▸ .idle (h.not_launched other ho)

/-- Where no program is run, nothing has to change. -/
theorem affects_of_slot_eq (ht : ∀ other, ¬Launched other t)
    (hslot : s'.slot service = s.slot service)
    (hne : ∀ other, other ≠ service →
      Entries.get? other s'.slots = Entries.get? other s.slots) :
    Affects service s t s' where
  change := hslot ▸ .idle (ht service)
  get?_of_ne := hne
  not_launched other _ := ht other

end Affects

/-- In the course of a stop no program is run. -/
theorem not_launched_of_stop {before mid after : Transcript} {service : String} {slot : Slot}
    (hbefore : Looking before) (hmid : Passive mid) (hafter : Inward after) (other : String) :
    ¬Launched other (before ++ noted service slot :: (mid ++ after)) := by
  have hnoted : Inward [noted service slot] := by simp [Inward]
  rw [List.append_cons, launched_append_iff, launched_append_iff, launched_append_iff]
  rintro ((h | h) | h | h)
  · exact hbefore.not_launched other h
  · exact hnoted.not_launched other h
  · exact hmid.not_launched other h
  · exact hafter.not_launched other h

/-- A start that is refused leaves everything as it was; any other launches the service. -/
theorem StartCourse.affects {l : Launch} {s s' : Supervisor} {t : Transcript}
    {r : Except Error ProcessInfo} (h : StartCourse l s t r s') : Affects l.service s t s' := by
  cases h with
  | refused e ht =>
    exact affects_of_slot_eq ht.not_launched (s.slot_entered _ _) fun other ho =>
      s.get?_noted_of_ne _ _ ho
  | @launched before mid r _ hbefore hslot hmid =>
    -- What is noted and told before and after the launch counts to what lies around it.
    have hnoted : Inward [noted l.service ⟨.starting, none⟩, told (.serviceStarting l)] := by
      simp [Inward]
    have hafter : Inward [noted l.service (.ofLaunch r), told (eventOfLaunch r)] := by
      simp [Inward]
    have hearlier := hbefore.not_launched_noted l.service ⟨.starting, none⟩ (.serviceStarting l)
    rw [List.append_cons, List.append_cons, List.append_assoc before, List.singleton_append]
    refine ⟨?_, fun other ho => ?_, fun other ho hl => ?_⟩
    · rw [Supervisor.slot_noted_self]
      exact .launched rfl (fun info hi => (hslot info hi).append hnoted) (hearlier _) hmid hafter
    · rw [Supervisor.get?_noted_of_ne _ _ _ ho, Supervisor.get?_noted_of_ne _ _ _ ho,
        Supervisor.entered, Supervisor.get?_noted_of_ne _ _ _ ho]
    · rcases launched_append_iff.1 hl with hl | hl
      · exact hearlier other hl
      · rcases launched_append_iff.1 hl with hl | hl
        · exact ho (hmid.launched_imp hl).symm
        · exact hafter.not_launched other hl

namespace StopCourse

variable {service : String} {s s' : Supervisor} {t : Transcript} {r : Except Error StopReport}

/-- A stop that succeeds empties the slot; one that fails puts back what was there. -/
theorem affects (h : StopCourse service s t r s') : Affects service s t s' := by
  cases h with
  | idle ht _ => exact affects_of_slot_eq ht.not_launched rfl fun _ _ => rfl
  | @failed before mid slot info e hbefore hslot hp hmid =>
    refine affects_of_slot_eq (not_launched_of_stop hbefore hmid (by simp [Inward])) ?_ ?_
    · rw [Supervisor.slot_noted_self, s.slot_of_get? service hslot]
    · intro other ho
      rw [Supervisor.get?_noted_of_ne _ _ _ ho, Supervisor.get?_noted_of_ne _ _ _ ho]
  | @ended before mid slot info report hbefore hslot hp hmid =>
    obtain ⟨hpassive, hended⟩ := hmid
    obtain ⟨-, hr, hk⟩ := hended report rfl
    have hlaunched : ∀ other, ¬Launched other (before ++ noted service ⟨.stopping, none⟩ ::
        (mid ++ [noted service ⟨.stopped, none⟩, told (.serviceStopped report)])) :=
      not_launched_of_stop hbefore hpassive (by simp [Inward])
    rw [← s.slot_of_get? service hslot] at hp
    refine ⟨?_, fun other ho => ?_, fun other _ => hlaunched other⟩
    · rw [Supervisor.slot_noted_self]
      exact .ended hp (hlaunched service) (((hr.append_right _).cons _).append_left _)
        (((hk.append_right _).cons _).append_left _)
    · rw [Supervisor.get?_noted_of_ne _ _ _ ho, Supervisor.get?_noted_of_ne _ _ _ ho]

/-- A service without a slot gets none by being stopped. -/
theorem eq_of_no_slot (h : StopCourse service s t r s')
    (hs : Entries.get? service s.slots = none) : s' = s := by
  cases h with
  | idle => rfl
  | failed _ _ hslot | ended _ hslot => exact absurd (hs.symm.trans hslot) (by simp)

end StopCourse

end Testbed.Service
