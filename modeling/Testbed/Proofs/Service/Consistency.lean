import Testbed.Proofs.Service.History

/-!
# Consistency of the supervisor

What the notes of a supervisor have to do with the processes that there are. The account
that they keep (`Supervisor.Accounts`) comes to more when no wait for a child fails, and when
no `SIGKILL` is refused.

* `supervisor_is_consistent`: a service is ready as long as its process is tracked, is absent
  until it is launched, and is stopped otherwise; all its children but the one that is
  tracked were waited for;
* `untracked_child_is_killed_or_replaced`: the process group of a child that is tracked no
  more was killed, unless the end of the child was found when its service was started again.
-/

namespace Testbed.Service

open Os

/-- A wait for a child failed. -/
def Exchange.failedWait : Exchange → Bool
  | ⟨.os (.await _), .error _⟩ => true
  | _ => false

/-- `SIGKILL` was refused to a process group that was there. -/
def Exchange.refusedKill : Exchange → Bool
  | ⟨.os (.signal _ s), .error e⟩ => s = .kill ∧ e ≠ .noProcess
  | _ => false

/-- The notes agree with what was exchanged. -/
structure Supervisor.Consistent (s : Supervisor) (t : Transcript) : Prop where
  ready_iff : ∀ service, (s.slot service).phase = .ready ↔ (s.slot service).process.isSome
  absent_iff : ∀ service, (s.slot service).phase = .absent ↔ ¬Launched service t
  /-- No service is left starting or stopping. -/
  at_rest : ∀ service, (s.slot service).phase ∈ [.absent, .ready, .stopped]
  /-- The process that is tracked is a child that was spawned for the service. -/
  process_child : ∀ service info, (s.slot service).process = some info →
    ∃ c : Child, c.In t ∧ c.service = service ∧ c.Tracked (s.slot service)
  tracked_or_reaped : ∀ c : Child, c.In t → c.Tracked (s.slot c.service) ∨ Reaped c.pid c.since
  /-- A service has at most one child that was not waited for. -/
  unreaped_unique : ∀ c d : Child, c.In t → d.In t → c.service = d.service →
    ¬Reaped c.pid c.since → ¬Reaped d.pid d.since → c = d

theorem Child.Parted.reaped {c : Child} (h : c.Parted) (hwait : ∀ x ∈ c.since, ¬x.failedWait) :
    Reaped c.pid c.since := by
  cases h with
  | stopped hr hk => exact hr
  | discarded h =>
    obtain ⟨-, answer, ha⟩ := h
    cases answer with
    | ok status => exact .inr ⟨status, ha⟩
    | error cause => exact absurd rfl (hwait _ ha)
  | replaced h =>
    obtain ⟨before, l, answer, after, hs, -, hfound, -⟩ := h
    rw [hs]
    exact hfound.reaped.append_right _

theorem Child.Parted.killed_or_replaced {c : Child} (h : c.Parted)
    (hkill : ∀ x ∈ c.since, ¬x.refusedKill) : Killed c.pid c.since ∨ c.Replaced := by
  cases h with
  | stopped hr hk => exact .inl hk
  | discarded h =>
    obtain ⟨⟨answer, ha⟩, -⟩ := h
    refine .inl ⟨answer, ?_, ha⟩
    cases answer with
    | ok _ => exact .inl rfl
    | error e =>
      have hgone : e = .noProcess := by simpa [Exchange.refusedKill] using hkill _ ha
      exact .inr (congrArg _ hgone)
  | replaced h => exact .inr h

theorem Supervisor.Accounts.consistent {s : Supervisor} {t : Transcript} (h : s.Accounts t)
    (hwait : ∀ x ∈ t, ¬x.failedWait) : s.Consistent t := by
  have hsince : ∀ {c : Child}, c.In t → ∀ x ∈ c.since, ¬x.failedWait := fun hc x hx =>
    hwait x (hc ▸ List.mem_append_right _ (List.mem_cons_of_mem _ hx))
  have htracked : ∀ c : Child, c.In t → c.Tracked (s.slot c.service) ∨ Reaped c.pid c.since :=
    fun c hc => ((h c.service).children c hc rfl).imp_right fun hp => hp.reaped (hsince hc)
  refine ⟨fun service => (h service).ready_iff, fun service => (h service).absent_iff,
    fun service => (h service).at_rest, fun service => (h service).process_child, htracked, ?_⟩
  intro c d hc hd hs hcr hdr
  have hcl := (htracked c hc).resolve_right hcr
  have hdl := (htracked d hd).resolve_right hdr
  exact Child.eq_of_not_launched_since hc hd hs hcl.2 hdl.2

/-- Processes of a system in which each runs on until it is said to have ended. -/
structure Processes where
  spawned : Nat := 0
  ended : List Nat := []

namespace Processes

/-- How the system answers. Its clock stands still. -/
def os : OperatingSystem Processes
  | .spawn _, p => (.ok (p.spawned + 1), { p with spawned := p.spawned + 1 })
  | .poll pid, p => (.ok (if pid ∈ p.ended then some (.exited 0) else none), p)
  | .await pid, p => (.ok (.signaled .kill false), { p with ended := pid :: p.ended })
  | .signal _ _, p => (.ok (), p)
  | .now, p => ((0 : Nat), p)
  | .sleep _, p => ((), p)
  | .knock _ _, p => (true, p)

/-- The program of a service that is ready at once. -/
def database : Launch := { service := "db", program := "serve" }

/-- A service is started, its process ends by itself, and the service is started again. -/
def restarted : Chronicle Processes :=
  (Chronicle.new {}).after os { grace := ⟨0⟩ }
    [.call (.start database), .elapse { spawned := 1, ended := [1] }, .call (.start database)]

/-- The process of the first start. -/
def firstChild : Child :=
  ⟨restarted.transcript.take 4, database, 1, restarted.transcript.drop 5⟩

end Processes

open Chronicle in
/-- Whatever the system answers, as long as no wait for a child fails: the notes are
    consistent after all events, a service that was never started has no slot, and a call
    leaves the services that it does not concern as they are. -/
theorem supervisor_is_consistent {ω : Type} (os : OperatingSystem ω) (policy : Policy)
    (environment : ω) (events : List (Event ω))
    (hwait : ∀ x ∈ ((new environment).after os policy events).transcript, ¬x.failedWait) :
    let h := (new environment).after os policy events
    h.supervision.supervisor.Consistent h.transcript ∧
      (∀ service, (∀ l, .call (.start l) ∈ events → l.service ≠ service) →
        h.slot? service = none) ∧
      ∀ (c : Call) (service : String), ¬c.Concerns service →
        (h.extend os policy (.call c)).slot? service = h.slot? service := by
  intro h
  have haccounts : h.Accounts := accounts_after events (accounts_new environment)
  refine ⟨haccounts.consistent hwait, fun service hstart => ?_, fun c service hc => ?_⟩
  · exact slot?_after_eq_none events rfl hstart
  · exact Call.get?_of_not_concerns hc (Supervision.runs_run _ _)

theorem restarted_supervisor_is_consistent :
    (∀ x ∈ Processes.restarted.transcript, ¬x.failedWait) ∧
      Processes.restarted.slot? "db" = some ⟨.ready, some ⟨"db", 2, .immediate⟩⟩ ∧
      Processes.restarted.supervision.supervisor.Consistent Processes.restarted.transcript := by
  have hwait : ∀ x ∈ Processes.restarted.transcript, ¬x.failedWait := by decide
  exact ⟨hwait, by decide, (supervisor_is_consistent Processes.os _ {} _ hwait).1⟩

open Chronicle in
/-- Whether it was stopped or did not become ready, a child that is tracked no more was
    killed with its group. Only if its end was found by the next start of its service were
    those that it left behind in its group not sent a signal. -/
theorem untracked_child_is_killed_or_replaced {ω : Type} (os : OperatingSystem ω)
    (policy : Policy) (environment : ω) (events : List (Event ω)) (c : Child)
    (hkill : ∀ x ∈ ((new environment).after os policy events).transcript, ¬x.refusedKill)
    (hc : c.In ((new environment).after os policy events).transcript) :
    c.Tracked (((new environment).after os policy events).supervision.supervisor.slot c.service) ∨
      Killed c.pid c.since ∨ c.Replaced := by
  have haccounts : ((new environment).after os policy events).Accounts :=
    accounts_after events (accounts_new environment)
  refine ((haccounts c.service).children c hc rfl).imp_right fun hparted => ?_
  exact hparted.killed_or_replaced fun x hx =>
    hkill x (hc ▸ List.mem_append_right _ (List.mem_cons_of_mem _ hx))

theorem first_child_is_killed_or_replaced :
    Killed 1 Processes.firstChild.since ∨ Processes.firstChild.Replaced := by
  have hkill : ∀ x ∈ Processes.restarted.transcript, ¬x.refusedKill := by decide
  have hc : Processes.firstChild.In Processes.restarted.transcript := rfl
  have hparted := untracked_child_is_killed_or_replaced Processes.os _ {} _
    Processes.firstChild hkill hc
  exact hparted.resolve_left fun h => absurd h.1 (by decide)

/-- Where the process of a service has ended by itself, and the service is started again,
    nothing is sent to the process group, though no signal was refused. -/
theorem first_child_is_not_killed :
    (∀ x ∈ Processes.restarted.transcript, ¬x.refusedKill) ∧
      Processes.firstChild.In Processes.restarted.transcript ∧
      ¬Processes.firstChild.Tracked (Processes.restarted.supervision.supervisor.slot "db") ∧
      ¬Killed 1 Processes.firstChild.since := by
  have hnone : signals Processes.firstChild.since = [] := by decide
  refine ⟨by decide, rfl, fun h => absurd h.1 (by decide), ?_⟩
  rintro ⟨answer, -, hx⟩
  exact absurd (mem_signals_of_mem hx) (hnone ▸ List.not_mem_nil)

end Testbed.Service
