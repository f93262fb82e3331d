import Testbed.Proofs.Service.History
import Testbed.Proofs.Service.Refusal

/-!
# Shutting down

A shutdown closes the supervisor and stops all services in turn. Those without a process are
passed over, and a stop that fails does not keep the others from being tried (`Policy.stops`).

* `Policy.run_shutdownAll`: a shutdown stops the services that are tracked;
* `Policy.mem_tracked_stopEach_iff`: those are left whose stops failed;
* `shutdown_is_complete_and_final`: whatever comes after, nothing is started any more, and
  further shutdowns report none but those that were left.
-/

namespace Testbed.Service

open Exchange Supervision

/-! ## What is tracked -/

namespace Supervisor

variable {s : Supervisor} {service : String}

/-- The services whose processes are tracked. -/
def tracked (s : Supervisor) : List String :=
  (Entries.keys s.slots).filter fun service => (s.slot service).process.isSome

theorem mem_tracked_iff : service ∈ s.tracked ↔ (s.slot service).process.isSome := by
  rw [tracked, List.mem_filter, and_iff_right_iff_imp]
  intro h
  -- Without a slot there is no process.
  by_contra hnone
  rw [slot, Entries.get?_eq_none_iff.2 hnone] at h
  exact absurd h (by simp)

theorem Orderly.nodup_tracked (hs : s.Orderly) : s.tracked.Nodup := hs.nodup.filter _

end Supervisor

/-- The processes that a stop leaves were tracked before. -/
theorem StopCourse.process_imp {service other : String} {s s' : Supervisor} {t : Transcript}
    {r : Except Error StopReport} (h : StopCourse service s t r s') {info : ProcessInfo}
    (hi : (s'.slot other).process = some info) : (s.slot other).process = some info := by
  by_cases ho : other = service
  · subst ho
    cases h with
    | idle => exact hi
    | failed _ _ hslot =>
      rw [Supervisor.slot_noted_self] at hi
      rwa [s.slot_of_get? other hslot]
    | ended => exact absurd hi (by simp)
  · rwa [h.affects.slot_of_ne ho] at hi

/-- A process that was to be stopped is still tracked where that failed. -/
theorem StopCourse.tracked_iff {service : String} {s s' : Supervisor} {t : Transcript}
    {r : Except Error StopReport} (h : StopCourse service s t r s')
    (hs : service ∈ s.tracked) : service ∈ s'.tracked ↔ ∃ e, r = .error e := by
  rw [Supervisor.mem_tracked_iff] at hs ⊢
  cases h with
  | idle _ hp => exact absurd hs (by simp [hp])
  | failed e _ _ hp => simp [hp]
  | ended => simp

section Closed

variable {ω : Type} {os : OperatingSystem ω} {policy : Policy} {L : Launch → Prop}
  {s s' : Supervisor} {t : Transcript}

/-- A start that finds the supervisor closed tracks nothing. -/
theorem StartCourse.slot_of_closed {l : Launch} {r : Except Error ProcessInfo}
    (h : StartCourse l s t r s') (hs : s.closed = true) (service : String) :
    s'.slot service = s.slot service := by
  cases h with
  | refused => exact s.slot_entered l.service service
  | launched hc => exact absurd (hc.symm.trans hs) Bool.false_ne_true

/-- While a supervisor is closed no more is tracked. -/
theorem Step.tracked_of_closed (h : Step os policy L s t s') (hs : s.closed = true) :
    s'.tracked ⊆ s.tracked := by
  intro service hservice
  rw [Supervisor.mem_tracked_iff] at hservice ⊢
  cases h with
  | start _ h => rwa [(policy.course_start h).slot_of_closed hs] at hservice
  | stop h =>
    obtain ⟨info, hi⟩ := Option.isSome_iff_exists.1 hservice
    rw [(policy.course_stop h).process_imp hi, Option.isSome_some]
  | pass | close => exact hservice

theorem Steps.tracked_of_closed (h : Steps os policy L s t s') (hs : s.closed = true) :
    s'.tracked ⊆ s.tracked := by
  induction h with
  | refl => exact List.Subset.refl _
  | tail h h' ih => exact List.Subset.trans (h'.tracked_of_closed (h.closed hs)) ih

end Closed

/-! ## Stops in turn -/

namespace Policy

variable {ω : Type} (os : OperatingSystem ω) (policy : Policy) {s : Supervision ω}

/-- The stops of services in turn, each with what it comes to as the ones before have left
    things. -/
def stops : List String → Supervision ω → List (String × Except Error StopReport)
  | [], _ => []
  | service :: rest, s =>
    (service, (run os (policy.stop service) s).1) ::
      stops rest (run os (policy.stopEach [service]) s).2

variable {names : List String} {service : String}

theorem run_stopEach_cons (service : String) (rest : List String) (s : Supervision ω) :
    run os (policy.stopEach (service :: rest)) s =
      ((run os (policy.stop service) s).1.toOption.toList ++
          (run os (policy.stopEach rest) (run os (policy.stopEach [service]) s).2).1,
        (run os (policy.stopEach rest) (run os (policy.stopEach [service]) s).2).2) := by
  simp only [stopEach, run_bind]
  rcases run os (policy.stop service) s with ⟨e | report, s₁⟩
  · cases e <;> simp [run_bind, Except.toOption]
  · simp [run_bind, Except.toOption]

/-- The stop of a single service goes as a stop does. -/
theorem exists_course_stopEach (service : String) (s : Supervision ω) :
    ∃ t, StopCourse service s.supervisor t (run os (policy.stop service) s).1
      (run os (policy.stopEach [service]) s).2.supervisor := by
  have hsame : (run os (policy.stopEach [service]) s).2.supervisor =
      (run os (policy.stop service) s).2.supervisor := by
    simp only [stopEach, run_bind]
    rcases run os (policy.stop service) s with ⟨e | report, s₁⟩
    · cases e <;> rfl
    · rfl
  rw [hsame]
  exact ⟨_, policy.course_stop (runs_run _ _)⟩

/-- The stop of one service leaves it to the others whether they are tracked. -/
theorem mem_tracked_stopEach_of_ne {other : String} (ho : other ≠ service) :
    other ∈ (run os (policy.stopEach [service]) s).2.supervisor.tracked ↔
      other ∈ s.supervisor.tracked := by
  obtain ⟨t, hcourse⟩ := exists_course_stopEach os policy service s
  rw [Supervisor.mem_tracked_iff, Supervisor.mem_tracked_iff, hcourse.affects.slot_of_ne ho]

theorem orderly_stopEach (names : List String) (hs : s.supervisor.Orderly) :
    (run os (policy.stopEach names) s).2.supervisor.Orderly := by
  have hruns : Runs os (policy.stopEach names) s _ _ _ := runs_run _ _
  have hsteps : Steps os policy (fun _ => False) _ _ _ := steps_stopEach policy names hruns
  exact hsteps.orderly hs

/-! ### What is passed over -/

theorem run_stop_of_untracked (hs : service ∉ s.supervisor.tracked) :
    run os (policy.stop service) s = (.error (.notRunning service), s) := by
  have hnone : (s.supervisor.slot service).process = none := by
    rw [Supervisor.mem_tracked_iff, Option.not_isSome_iff_eq_none] at hs
    exact hs
  simp only [stop, run_bind, run_enterExisting]
  cases hg : Entries.get? service s.supervisor.slots with
  | none => rfl
  | some slot =>
    rw [s.supervisor.slot_of_get? service hg] at hnone
    simp only [hnone]
    rfl

/-- Services that are not tracked are passed over. -/
theorem run_stopEach_filter (hn : names.Nodup) (s : Supervision ω) :
    run os (policy.stopEach names) s =
      run os (policy.stopEach (names.filter fun service => service ∈ s.supervisor.tracked)) s := by
  induction names generalizing s with
  | nil => rfl
  | cons service rest ih =>
    obtain ⟨hservice, hrest⟩ := List.nodup_cons.1 hn
    by_cases hs : service ∈ s.supervisor.tracked
    · -- The first stop does not change which of the rest are tracked.
      have hsame : (rest.filter fun other =>
            other ∈ (run os (policy.stopEach [service]) s).2.supervisor.tracked) =
          rest.filter fun other => other ∈ s.supervisor.tracked := by
        refine List.filter_congr fun other ho => ?_
        have hne : other ≠ service := fun h => hservice (h ▸ ho)
        rw [decide_eq_decide]
        exact mem_tracked_stopEach_of_ne os policy hne
      rw [List.filter_cons_of_pos (by simpa using hs), run_stopEach_cons os policy service rest,
        run_stopEach_cons os policy service (rest.filter _), ih hrest, hsame]
    · rw [List.filter_cons_of_neg (by simpa using hs), ← ih hrest]
      simp only [stopEach, run_bind, run_stop_of_untracked os policy hs]

/-! ### What the stops come to -/

theorem map_fst_stops (names : List String) (s : Supervision ω) :
    (policy.stops os names s).map Prod.fst = names := by
  induction names generalizing s with
  | nil => rfl
  | cons service rest ih => rw [stops, List.map_cons, ih]

theorem mem_of_mem_stops {r : Except Error StopReport}
    (h : (service, r) ∈ policy.stops os names s) : service ∈ names :=
  map_fst_stops os policy names s ▸ List.mem_map_of_mem (f := Prod.fst) h

/-- The reports of stops in turn are those of the stops that succeed. -/
theorem run_stopEach_fst (names : List String) (s : Supervision ω) :
    (run os (policy.stopEach names) s).1 =
      (policy.stops os names s).filterMap fun attempt => attempt.2.toOption := by
  induction names generalizing s with
  | nil => rfl
  | cons service rest ih =>
    rw [run_stopEach_cons, stops, List.filterMap_cons, ← ih]
    cases (run os (policy.stop service) s).1 <;> rfl

theorem service_of_mem_stops (hs : s.supervisor.Orderly) {report : StopReport}
    (h : (service, .ok report) ∈ policy.stops os names s) : report.service = service := by
  induction names generalizing s with
  | nil => exact absurd h List.not_mem_nil
  | cons first rest ih =>
    rcases List.mem_cons.1 h with heq | hrest
    · obtain ⟨rfl, hr⟩ := Prod.mk.inj heq
      obtain ⟨t, hcourse⟩ := exists_course_stopEach os policy service s
      rw [← hr] at hcourse
      exact hcourse.report_service hs
    · -- The notes that the first stop leaves are in order as well.
      exact ih (orderly_stopEach os policy [first] hs) hrest

/-- Of services that are tracked, those are left whose stops fail. -/
theorem mem_tracked_stopEach_iff (hn : names.Nodup) (hs : ∀ x ∈ names, x ∈ s.supervisor.tracked) :
    service ∈ (run os (policy.stopEach names) s).2.supervisor.tracked ↔
      (service ∉ names ∧ service ∈ s.supervisor.tracked) ∨
        ∃ e, (service, .error e) ∈ policy.stops os names s := by
  induction names generalizing s with
  | nil => simp [stops, stopEach]
  | cons first rest ih =>
    obtain ⟨hfirst, hrest⟩ := List.nodup_cons.1 hn
    have hne : ∀ x ∈ rest, x ≠ first := fun x hx h => hfirst (h ▸ hx)
    have htracked : ∀ x ∈ rest,
        x ∈ (run os (policy.stopEach [first]) s).2.supervisor.tracked := fun x hx =>
      (mem_tracked_stopEach_of_ne os policy (hne x hx)).2 (hs x (List.mem_cons_of_mem _ hx))
    rw [run_stopEach_cons, stops]
    dsimp only
    rw [ih hrest htracked]
    by_cases hservice : service = first
    · subst hservice
      obtain ⟨t, hcourse⟩ := exists_course_stopEach os policy service s
      -- It is not tried a second time.
      have hnot : ∀ e, (service, .error e) ∉
          policy.stops os rest (run os (policy.stopEach [service]) s).2 :=
        fun e he => hfirst (mem_of_mem_stops os policy he)
      rw [hcourse.tracked_iff (hs service List.mem_cons_self)]
      simp [hfirst, hnot, eq_comm]
    · rw [mem_tracked_stopEach_of_ne os policy hservice]
      simp [hservice]

end Policy

/-! ## A shutdown -/

/-- The supervision, closed. -/
def Supervision.shut {ω : Type} (s : Supervision ω) : Supervision ω :=
  { s with supervisor := { s.supervisor with closed := true } }

/-- A start is refused because of a shutdown. Nothing is asked of the system, nothing is told,
    and no service becomes another. -/
structure RefusedStart {ω : Type} (os : OperatingSystem ω) (policy : Policy) (l : Launch)
    (s : Supervision ω) : Prop where
  result : (run os (policy.start l) s).1 = .error (.shuttingDown l.service)
  inward : Inward (transcript os (policy.start l) s)
  slot : ∀ service,
    (run os (policy.start l) s).2.supervisor.slot service = s.supervisor.slot service
  environment : (run os (policy.start l) s).2.environment = s.environment
  journal : (run os (policy.start l) s).2.journal = s.journal

namespace Policy

variable {ω : Type} (os : OperatingSystem ω) (policy : Policy) {s : Supervision ω}
  {service : String}

/-- The stops that a shutdown tries, with what each comes to. -/
def attempts (s : Supervision ω) : List (String × Except Error StopReport) :=
  policy.stops os s.supervisor.tracked s.shut

/-- A shutdown stops the services that are tracked. -/
theorem run_shutdownAll (hs : s.supervisor.Orderly) :
    run os policy.shutdownAll s = run os (policy.stopEach s.supervisor.tracked) s.shut := by
  change run os (policy.stopEach (Entries.keys s.supervisor.slots)) s.shut = _
  have hsame : ((Entries.keys s.supervisor.slots).filter fun x => x ∈ s.shut.supervisor.tracked) =
      s.supervisor.tracked := by
    refine List.filter_congr fun x _ => ?_
    rw [Bool.eq_iff_iff, decide_eq_true_eq]
    exact Supervisor.mem_tracked_iff
  rw [run_stopEach_filter os policy hs.nodup, hsame]

theorem run_shutdownAll_fst (hs : s.supervisor.Orderly) :
    (run os policy.shutdownAll s).1 =
      (policy.attempts os s).filterMap fun attempt => attempt.2.toOption := by
  rw [run_shutdownAll os policy hs, run_stopEach_fst, attempts]

/-- Those services are left whose stops failed. -/
theorem mem_tracked_shutdownAll_iff (hs : s.supervisor.Orderly) :
    service ∈ (run os policy.shutdownAll s).2.supervisor.tracked ↔
      ∃ e, (service, .error e) ∈ policy.attempts os s := by
  have htracked : ∀ x ∈ s.supervisor.tracked, x ∈ s.shut.supervisor.tracked := fun _ h => h
  rw [run_shutdownAll os policy hs, mem_tracked_stopEach_iff os policy hs.nodup_tracked htracked,
    attempts, or_iff_right]
  exact fun h => h.1 h.2

theorem service_of_mem_attempts (hs : s.supervisor.Orderly) {report : StopReport}
    (h : (service, .ok report) ∈ policy.attempts os s) : report.service = service :=
  service_of_mem_stops os policy (s := s.shut) ⟨hs.nodup, hs.named⟩ h

/-- What a shutdown reports was tracked. -/
theorem mem_tracked_of_reported (hs : s.supervisor.Orderly) {report : StopReport}
    (h : report ∈ (run os policy.shutdownAll s).1) : report.service ∈ s.supervisor.tracked := by
  rw [run_shutdownAll_fst os policy hs, List.mem_filterMap] at h
  obtain ⟨⟨service, r⟩, hattempt, hr⟩ := h
  cases r with
  | error e => exact absurd hr (by simp [Except.toOption])
  | ok report' =>
    obtain rfl := Option.some.inj hr
    rw [service_of_mem_attempts os policy hs hattempt]
    exact mem_of_mem_stops os policy hattempt

/-- A supervisor that is closed refuses to start a service. -/
theorem refused_start_of_closed (l : Launch) (hs : s.supervisor.closed = true) :
    RefusedStart os policy l s := by
  have hruns : Runs os (policy.start l) s _ _ _ := runs_run _ _
  obtain ⟨_, ht, h₁⟩ := runs_issue_bind_iff.1 hruns
  obtain ⟨_, rfl, h₂⟩ := runs_issue_bind_iff.1 h₁
  split at h₂
  case isTrue =>
    obtain ⟨rfl, hr, hs'⟩ := runs_pure_iff.1 h₂
    refine ⟨hr, by simp [ht, Inward], fun other => ?_, by rw [hs']; rfl, by rw [hs']; rfl⟩
    rw [hs']
    exact s.supervisor.slot_entered l.service other
  case isFalse hc => exact absurd hs hc

end Policy

open Chronicle Policy in
/-- Whatever the system answers, a shutdown stops each service that is tracked, whether or not
    the stops of others fail, and reports those stops that succeed; those services are left
    whose stops fail. Whatever comes later, every start is refused and shows nowhere, and a
    further shutdown reports only services that were left. -/
theorem shutdown_is_complete_and_final {ω : Type} (os : OperatingSystem ω) (policy : Policy)
    (environment : ω) (history later : List (Event ω)) :
    let h := (new environment).after os policy history
    let attempts := policy.attempts os h.supervision
    let shutdown := run os policy.shutdownAll h.supervision
    let h' := (h.extend os policy (.call .shutdownAll)).after os policy later
    ((attempts.map Prod.fst).Nodup ∧ ∀ service, service ∈ attempts.map Prod.fst ↔
        (h.supervision.supervisor.slot service).process.isSome) ∧
      (shutdown.1 = (attempts.filterMap fun attempt => attempt.2.toOption) ∧
        ∀ service report, (service, .ok report) ∈ attempts → report.service = service) ∧
      (∀ service, (shutdown.2.supervisor.slot service).process.isSome ↔
        ∃ e, (service, .error e) ∈ attempts) ∧
      (∀ l, RefusedStart os policy l h'.supervision) ∧
      ∀ report ∈ (run os policy.shutdownAll h'.supervision).1,
        ∃ e, (report.service, .error e) ∈ attempts := by
  intro h attempts shutdown h'
  have hs : h.supervision.supervisor.Orderly :=
    (steps_after_new os policy environment history).orderly Supervisor.orderly_new
  have hnames : attempts.map Prod.fst = h.supervision.supervisor.tracked :=
    map_fst_stops os policy _ _
  have hleft : ∀ service, service ∈ shutdown.2.supervisor.tracked ↔
      ∃ e, (service, .error e) ∈ attempts :=
    fun service => mem_tracked_shutdownAll_iff os policy hs
  obtain ⟨_, -, hextend⟩ := continues_extend os policy (.call .shutdownAll) h
  obtain ⟨_, -, hlater⟩ := continues_after os policy later
    (h.extend os policy (.call .shutdownAll))
  have hclosed := closed_shutdown os policy h
  refine ⟨⟨hnames ▸ hs.nodup_tracked, fun service => ?_⟩, ⟨run_shutdownAll_fst os policy hs,
    fun service report => service_of_mem_attempts os policy hs⟩, fun service => ?_,
    fun l => refused_start_of_closed os policy l (hlater.closed hclosed), fun report hreport => ?_⟩
  · rw [hnames]
    exact Supervisor.mem_tracked_iff
  · rw [← hleft]
    exact Supervisor.mem_tracked_iff.symm
  · have hmem := mem_tracked_of_reported os policy (hlater.orderly (hextend.orderly hs)) hreport
    rw [← hleft]
    exact supervision_shutdown os policy h ▸
      hlater.tracked_of_closed hclosed hmem

end Testbed.Service
