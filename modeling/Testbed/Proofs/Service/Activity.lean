import Testbed.Proofs.Service.Consistency

/-!
# Active services

There are two ways to ask whether a service is active. The list of active services goes by the
phase that is noted (`Supervisor.active`); the status of a single service also looks whether
its process has ended (`Policy.status`), and then calls the service stopped.

* `Supervisor.mem_active_iff`: the list by the phase;
* `Policy.run_status_of_ended`, `Policy.run_status_of_not_ended`: the status by the phase and
  the process;
* `active_services_agree_unless_ended`: between calls the two differ about a service if and
  only if its process has ended by itself.
-/

namespace Testbed.Service

open Os Supervision

theorem Supervisor.mem_active_iff {s : Supervisor} {service : String} (hs : s.Orderly) :
    service ∈ s.active ↔ (s.slot service).phase.isActive = true := by
  rw [active, List.mem_mergeSort, List.mem_map]
  constructor
  · rintro ⟨⟨name, slot⟩, hmem, rfl⟩
    obtain ⟨hmem, hactive⟩ := List.mem_filter.1 hmem
    rwa [s.slot_of_get? name (Entries.get?_of_mem hs.nodup hmem)]
  · intro h
    -- A service without a slot is absent, so there is one.
    rw [slot] at h
    cases hslot : Entries.get? service s.slots with
    | none =>
      rw [hslot] at h
      exact absurd h Bool.false_ne_true
    | some slot =>
      rw [hslot] at h
      exact ⟨(service, slot), List.mem_filter.2 ⟨Entries.mem_of_get? hslot, h⟩, rfl⟩

/-- The process that is tracked for a service has ended: who looks now is told so. -/
def Supervision.HasEnded {ω : Type} (os : OperatingSystem ω) (service : String)
    (s : Supervision ω) : Prop :=
  ∃ info how, (s.supervisor.slot service).process = some info ∧
    (os (.poll info.pid) s.environment).1 = Except.ok (some how)

namespace Policy

variable {ω : Type} {os : OperatingSystem ω} {s : Supervision ω} {service : String}

theorem run_status_of_ended (hphase : (s.supervisor.slot service).phase = .ready)
    (h : s.HasEnded os service) : (run os (status service) s).1 = .stopped := by
  obtain ⟨info, how, hinfo, hpoll⟩ := h
  rw [Supervisor.slot] at hphase hinfo
  rw [status, run_bind, run_peek]
  cases hslot : Entries.get? service s.supervisor.slots with
  | none =>
    rw [hslot] at hphase
    exact absurd hphase (by decide)
  | some slot =>
    rw [hslot, Option.getD_some] at hphase hinfo
    simp only [hphase, if_true, hinfo, run_bind, run_poll, hpoll, run_pure]

theorem run_status_of_not_ended (h : ¬s.HasEnded os service) :
    (run os (status service) s).1 = (s.supervisor.slot service).phase := by
  rw [status, run_bind, run_peek, Supervisor.slot]
  cases hslot : Entries.get? service s.supervisor.slots with
  | none => rfl
  | some slot =>
    rw [Option.getD_some]
    by_cases hphase : slot.phase = .ready
    · simp only [if_pos hphase]
      cases hinfo : slot.process with
      | none => rfl
      | some info =>
        simp only [run_bind, run_poll]
        rcases hpoll : (os (.poll info.pid) s.environment).1 with cause | _ | how
        · rfl
        · rfl
        · refine absurd ⟨info, how, ?_, hpoll⟩ h
          rw [s.supervisor.slot_of_get? service hslot, hinfo]
    · simp only [if_neg hphase, run_pure]

end Policy

open Chronicle in
/-- The list of active services and the status of a service agree between calls, whatever the
    system answers, unless the process of the service has ended by itself. Then the service is
    listed as active, until it is started again or stopped, and its status is that it has
    stopped. -/
theorem active_services_agree_unless_ended {ω : Type} (os : OperatingSystem ω) (policy : Policy)
    (environment : ω) (events : List (Event ω)) (service : String) :
    let s := ((new environment).after os policy events).supervision
    let status := (run os (Policy.status service) s).1
    ((service ∈ s.supervisor.active ↔ status.isActive = true) ↔ ¬s.HasEnded os service) ∧
      (s.HasEnded os service → service ∈ s.supervisor.active ∧ status = .stopped) := by
  intro s status
  have haccounts : (s.supervisor.slot service).Accounts service _ :=
    accounts_after events (accounts_new environment) service
  have horderly : s.supervisor.Orderly :=
    (steps_after_new os policy environment events).orderly Supervisor.orderly_new
  have hended : s.HasEnded os service → service ∈ s.supervisor.active ∧ status = .stopped := by
    intro h
    have hready : (s.supervisor.slot service).phase = .ready := by
      obtain ⟨info, how, hinfo, -⟩ := h
      rw [haccounts.ready_iff, hinfo, Option.isSome_some]
    refine ⟨(Supervisor.mem_active_iff horderly).2 ?_, Policy.run_status_of_ended hready h⟩
    rw [hready]
    rfl
  refine ⟨⟨fun hagree h => ?_, fun h => ?_⟩, hended⟩
  · obtain ⟨hlisted, hstopped⟩ := hended h
    have hactive := hagree.1 hlisted
    rw [hstopped] at hactive
    exact absurd hactive Bool.false_ne_true
  · rw [Supervisor.mem_active_iff horderly, ← Policy.run_status_of_not_ended h]

/-- A service whose process has ended by itself is listed as active, though its status is that
    it has stopped. -/
theorem ended_service_is_listed_as_active :
    let s := ((Chronicle.new {}).after Processes.os { grace := ⟨0⟩ }
      [.call (.start Processes.database), .elapse { spawned := 1, ended := [1] }]).supervision
    let status := (run Processes.os (Policy.status "db") s).1
    status = .stopped ∧ ¬("db" ∈ s.supervisor.active ↔ status.isActive = true) := by
  intro s status
  have hstopped : status = .stopped := by decide
  have hlisted : "db" ∈ s.supervisor.active := by
    have hslots : s.supervisor.slots = [("db", ⟨.ready, some ⟨"db", 1, .immediate⟩⟩)] := by decide
    rw [Supervisor.active, List.mem_mergeSort, hslots]
    decide
  refine ⟨hstopped, fun hagree => ?_⟩
  have hactive := hagree.1 hlisted
  rw [hstopped] at hactive
  exact absurd hactive Bool.false_ne_true

end Testbed.Service
