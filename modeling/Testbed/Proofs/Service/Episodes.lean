import Testbed.Proofs.Service.History
import Testbed.Proofs.Service.Refusal
import Mathlib.Computability.Language

/-!
# Health events

What is told of a service is made of episodes (`Episode`): that it is started, that it is ready
or has failed, and that it was stopped, where it was ready and has been stopped since. A step
tells no more of a service than what becomes of it (`Tells`), so that what was told last agrees
with the process that is tracked (`Slot.Heard`). While nothing is told of a service, no signal is
sent to its process but by stops that fail (`Undisturbed`).

* `Step.undisturbed`: what a step does to a service of which it tells nothing;
* `Steps.relaunches`: a service that was ready is started again only when its process was found
  to have ended, undisturbed;
* `health_events_are_well_bracketed`: all that a supervisor tells of a service is made of
  episodes, and nothing is started any more once a shutdown has begun.
-/

namespace Testbed.Service

open Os Exchange Supervision
open scoped Computability

/-! ## Episodes -/

/-- What is told of a service from one launch to the next. -/
inductive Episode : List Health.Event → Prop
  /-- The launch failed. -/
  | failed (l : Launch) (e : Error) : Episode [.serviceStarting l, .serviceFailed e]
  /-- The service became ready. -/
  | ready (l : Launch) (info : ProcessInfo) : Episode [.serviceStarting l, .serviceReady info]
  /-- The service became ready, and then its process was ended. -/
  | stopped (l : Launch) (info : ProcessInfo) (report : StopReport)
      (hpid : report.pid = info.pid) :
    Episode [.serviceStarting l, .serviceReady info, .serviceStopped report]

/-- The episodes, as the words of a language. -/
def episodes : Language Health.Event := {w | Episode w}

section Words

variable {v w : List Health.Event}

theorem append_mem_kstar (hw : w ∈ episodes∗) (hv : Episode v) : w ++ v ∈ episodes∗ :=
  Set.mem_of_mem_of_subset (Language.append_mem_mul hw hv) (kstar_mul_le_kstar (a := episodes))

/-- Where that a service is ready was told last, the last episode is still under way. -/
theorem exists_of_getLast?_eq_ready {info : ProcessInfo} (hw : w ∈ episodes∗)
    (hlast : w.getLast? = some (.serviceReady info)) :
    ∃ v ∈ episodes∗, ∃ l, w = v ++ [.serviceStarting l, .serviceReady info] := by
  -- Of the three kinds of episodes only one ends with that.
  obtain ⟨words, rfl, hwords⟩ := Language.mem_kstar.1 hw
  rcases List.eq_nil_or_concat words with rfl | ⟨earlier, last, rfl⟩
  · exact absurd hlast (by simp)
  · have hepisode : Episode last := hwords last (by simp)
    have hearlier : earlier.flatten ∈ episodes∗ :=
      Language.join_mem_kstar fun y hy => hwords y (by simp [hy])
    cases hepisode with
    | failed | stopped => exact absurd hlast (by simp)
    | ready l info' =>
      obtain rfl : info' = info := by simpa using hlast
      exact ⟨_, hearlier, l, by simp⟩

end Words

/-! ## What a step tells -/

/-- What is told of a service, while its slot becomes another. -/
inductive Tells (slot : Slot) : List Health.Event → Slot → Prop
  | nothing : Tells slot [] slot
  | launched (l : Launch) (r : Except Error ProcessInfo) :
    Tells slot [.serviceStarting l, eventOfLaunch r] (.ofLaunch r)
  | stopped {info : ProcessInfo} {report : StopReport} (hp : slot.process = some info)
      (hpid : report.pid = info.pid) :
    Tells slot [.serviceStopped report] ⟨.stopped, none⟩

section Tells

variable {ω : Type} {os : OperatingSystem ω} {policy : Policy} {L : Launch → Prop}
  {s s' : Supervisor} {t : Transcript}

/-- Where all that is told is about the service that is affected, nothing is told of others. -/
theorem Affects.tells {service : String} (h : Affects service s t s')
    (ht : ∀ e ∈ events t, e.service? = some service)
    (hself : Tells (s.slot service) (events t) (s'.slot service)) (other : String) :
    Tells (s.slot other) (eventsOf other t) (s'.slot other) := by
  by_cases ho : other = service
  · subst ho
    rw [eventsOf, List.filter_eq_self.2 fun e he => decide_eq_true (ht e he)]
    exact hself
  · have hnone : eventsOf other t = [] := by
      refine List.filter_eq_nil_iff.2 fun e he => ?_
      rw [ht e he, decide_eq_true_eq, Option.some.injEq]
      exact Ne.symm ho
    rw [hnone, h.slot_of_ne ho]
    exact .nothing

theorem LaunchEnd.service_event {l : Launch} {r : Except Error ProcessInfo}
    (h : LaunchEnd l t r) : (eventOfLaunch r).service? = some l.service := by
  cases h with
  | notSpawned _ e he | discarded e he => exact congrArg some he
  | ready => rfl

/-- What is told in the course of a launch. -/
theorem events_of_launch {l : Launch} {before mid : Transcript} {r : Except Error ProcessInfo}
    (hbefore : Looking before) (hmid : LaunchEnd l mid r) :
    events (before ++ noted l.service ⟨.starting, none⟩ :: told (.serviceStarting l) ::
      (mid ++ [noted l.service (.ofLaunch r), told (eventOfLaunch r)])) =
      [.serviceStarting l, eventOfLaunch r] := by
  simp [hbefore.events_eq_nil, hmid.events_eq_nil]

/-- What is told in the course of a stop. -/
theorem events_of_stop {service : String} {before mid after : Transcript} {slot : Slot}
    (hbefore : Looking before) (hmid : Passive mid) :
    events (before ++ noted service slot :: (mid ++ after)) = events after := by
  simp [hbefore.events_eq_nil, hmid.events_eq_nil]

theorem StartCourse.tells {l : Launch} {r : Except Error ProcessInfo}
    (h : StartCourse l s t r s') (service : String) :
    Tells (s.slot service) (eventsOf service t) (s'.slot service) := by
  have hself : (∀ e ∈ events t, e.service? = some l.service) ∧
      Tells (s.slot l.service) (events t) (s'.slot l.service) := by
    cases h with
    | refused e ht =>
      rw [ht.events_eq_nil, s.slot_entered]
      exact ⟨List.forall_mem_nil _, .nothing⟩
    | launched _ hbefore _ hmid =>
      rw [events_of_launch hbefore hmid, Supervisor.slot_noted_self]
      refine ⟨List.forall_mem_cons.2 ⟨rfl, ?_⟩, .launched l r⟩
      exact List.forall_mem_singleton.2 hmid.service_event
  exact h.affects.tells hself.1 hself.2 service

theorem StopCourse.tells {stopped : String} {r : Except Error StopReport}
    (h : StopCourse stopped s t r s') (hs : s.Orderly) (service : String) :
    Tells (s.slot service) (eventsOf service t) (s'.slot service) := by
  have hself : (∀ e ∈ events t, e.service? = some stopped) ∧
      Tells (s.slot stopped) (events t) (s'.slot stopped) := by
    cases h with
    | idle ht =>
      rw [ht.events_eq_nil]
      exact ⟨List.forall_mem_nil _, .nothing⟩
    | failed _ hbefore hslot _ hmid =>
      rw [events_of_stop hbefore hmid, Supervisor.slot_noted_self, s.slot_of_get? stopped hslot]
      exact ⟨List.forall_mem_nil _, .nothing⟩
    | ended hbefore hslot hp hmid =>
      have hservice := (StopCourse.ended hbefore hslot hp hmid).report_service hs
      rw [events_of_stop hbefore hmid.1, Supervisor.slot_noted_self]
      rw [← s.slot_of_get? stopped hslot] at hp
      refine ⟨List.forall_mem_singleton.2 (congrArg some hservice), ?_⟩
      exact .stopped hp (hmid.2 _ rfl).1.2
  exact h.affects.tells hself.1 hself.2 service

/-- A stop tells what it comes to, and where it fails it tells nothing. -/
theorem StopCourse.events_eq {stopped : String} {r : Except Error StopReport}
    (h : StopCourse stopped s t r s') : events t = (eventOfStop? r).toList := by
  cases h with
  | idle ht => exact ht.events_eq_nil
  | failed _ hbefore _ _ hmid =>
    rw [events_of_stop hbefore hmid]
    rfl
  | ended hbefore _ _ hmid =>
    rw [events_of_stop hbefore hmid.1]
    rfl

theorem Step.tells (h : Step os policy L s t s') (hs : s.Orderly) (service : String) :
    Tells (s.slot service) (eventsOf service t) (s'.slot service) := by
  cases h with
  | start _ h => exact (policy.course_start h).tells service
  | stop h => exact (policy.course_stop h).tells hs service
  | pass ht =>
    have hnone : eventsOf service t = [] := eventsOf_of_events_eq_nil ht.passive.events_eq_nil
    exact hnone ▸ .nothing
  | close => exact .nothing

/-- That a service is starting is told in the course of a start alone, when the supervisor is
    not closed, and where a process was tracked, right after that was found to have ended. Before
    that nothing is told, and no signal is sent. -/
theorem StartCourse.starting {l l' : Launch} {r : Except Error ProcessInfo} {a b : Transcript}
    (h : StartCourse l s t r s') (ht : t = a ++ told (.serviceStarting l') :: b) :
    l' = l ∧ s.closed = false ∧ (events a = [] ∧ signals a = []) ∧
      ∀ info, (s.slot l.service).process = some info → FoundEnded info.pid a := by
  cases h with
  | refused e hlooking =>
    have htold : .serviceStarting l' ∈ events t := mem_events_iff.2 (by simp [ht])
    exact absurd htold (by simp [hlooking.events_eq_nil])
  | launched hc hbefore hslot hmid =>
    rcases split_eq_or ((List.append_cons _ _ _).symm.trans ht) with ⟨rfl, heq, -⟩ | ⟨h, -⟩ | ⟨h, -⟩
    · cases heq
      refine ⟨rfl, hc, ⟨by simp [hbefore.events_eq_nil], by simp [hbefore.signals_eq_nil]⟩,
        fun info hi => ?_⟩
      exact (hslot info hi).append (by simp [Inward])
    · -- What is told after the launch is what it came to.
      have htold : .serviceStarting l' = eventOfLaunch r := by
        simpa [hmid.events_eq_nil] using mem_events_iff.2 h
      exact absurd htold (by cases r <;> simp [eventOfLaunch])
    · exact absurd (mem_events_iff.2 h) (by simp [hbefore.events_eq_nil])

theorem Step.starting (h : Step os policy L s t s') {a b : Transcript} {l : Launch}
    (ht : t = a ++ told (.serviceStarting l) :: b) :
    L l ∧ s.closed = false ∧ (events a = [] ∧ signals a = []) ∧
      ∀ info, (s.slot l.service).process = some info → FoundEnded info.pid a := by
  have htold : .serviceStarting l ∈ events t := mem_events_iff.2 (by simp [ht])
  cases h with
  | start hl h =>
    obtain ⟨rfl, h⟩ := (policy.course_start h).starting ht
    exact ⟨hl, h⟩
  | @stop _ _ _ _ r h =>
    rw [(policy.course_stop h).events_eq] at htold
    exact absurd htold (by cases r <;> simp [eventOfStop?])
  | pass hquiet => exact absurd htold (by simp [hquiet.passive.events_eq_nil])
  | close => exact absurd htold List.not_mem_nil

/-- That a service is ready is told last in the course of a start. -/
theorem StartCourse.eq_nil_of_ready {l : Launch} {r : Except Error ProcessInfo}
    {info : ProcessInfo} {a b : Transcript} (h : StartCourse l s t r s')
    (ht : t = a ++ told (.serviceReady info) :: b) : b = [] := by
  cases h with
  | refused e hlooking =>
    have htold : .serviceReady info ∈ events t := mem_events_iff.2 (by simp [ht])
    exact absurd htold (by simp [hlooking.events_eq_nil])
  | @launched before mid _ _ hbefore _ hmid =>
    have hlast : (before ++ noted l.service ⟨.starting, none⟩ :: told (.serviceStarting l) ::
        (mid ++ [noted l.service (.ofLaunch r)])) ++ told (eventOfLaunch r) :: [] =
          a ++ told (.serviceReady info) :: b := by
      simpa using ht
    rcases split_eq_or hlast with ⟨-, -, hb⟩ | ⟨h, -⟩ | ⟨h, -⟩
    · exact hb.symm
    · exact absurd h List.not_mem_nil
    · -- What is told before is that the service is starting.
      exact absurd (mem_events_iff.2 h) (by simp [hbefore.events_eq_nil, hmid.events_eq_nil])

theorem Step.eq_nil_of_ready (h : Step os policy L s t s') {info : ProcessInfo} {a b : Transcript}
    (ht : t = a ++ told (.serviceReady info) :: b) : b = [] := by
  have htold : .serviceReady info ∈ events t := mem_events_iff.2 (by simp [ht])
  cases h with
  | start _ h => exact (policy.course_start h).eq_nil_of_ready ht
  | @stop _ _ _ _ r h =>
    rw [(policy.course_stop h).events_eq] at htold
    exact absurd htold (by cases r <;> simp [eventOfStop?])
  | pass hquiet => exact absurd htold (by simp [hquiet.passive.events_eq_nil])
  | close => exact absurd htold List.not_mem_nil

end Tells

/-! ## What is sent meanwhile -/

/-- The process group is that of a child of another service. -/
def OfAnother (service : String) (t : Transcript) (pid : Nat) : Prop :=
  ∃ l, l.service ≠ service ∧ spawned l (.ok pid) ∈ t

section Undisturbed

variable {ω : Type} (os : OperatingSystem ω) (policy : Policy) (service : String)

/-- What was exchanged is all of a stop of the service, which failed. -/
def FailedStop (t : Transcript) : Prop :=
  ∃ s e s', Runs os (policy.stop service) s t (.error e) s'

/-- What was exchanged is made of stops of the service that failed, and of exchanges that sent no
    signal but to process groups among `others`. -/
inductive Undisturbed (others : Nat → Prop) : Transcript → Prop
  | nil : Undisturbed others []
  | cons {x : Exchange} {t : Transcript} (hx : ∀ sent, x.1.signal? = some sent → others sent.1)
      (h : Undisturbed others t) : Undisturbed others (x :: t)
  | failedStop {t t' : Transcript} (h : FailedStop os policy service t)
      (h' : Undisturbed others t') : Undisturbed others (t ++ t')

variable {os policy service} {others others' : Nat → Prop} {t t' : Transcript}

theorem OfAnother.mono {pid : Nat} (h : OfAnother service t pid) (ht : t ⊆ t') :
    OfAnother service t' pid :=
  h.imp fun _ hl => ⟨hl.1, ht hl.2⟩

namespace Undisturbed

theorem mono (h : Undisturbed os policy service others t)
    (hothers : ∀ pid, others pid → others' pid) : Undisturbed os policy service others' t := by
  induction h with
  | nil => exact .nil
  | cons hx _ ih => exact ih.cons fun sent hsent => hothers _ (hx sent hsent)
  | failedStop hstop _ ih => exact ih.failedStop hstop

theorem append (h : Undisturbed os policy service others t)
    (h' : Undisturbed os policy service others t') :
    Undisturbed os policy service others (t ++ t') := by
  induction h with
  | nil => exact h'
  | cons hx _ ih => exact ih.cons hx
  | failedStop hstop _ ih =>
    rw [List.append_assoc]
    exact ih.failedStop hstop

theorem of_signals (h : ∀ sent ∈ signals t, others sent.1) :
    Undisturbed os policy service others t := by
  induction t with
  | nil => exact .nil
  | cons x t ih =>
    rw [signals_cons, List.forall_mem_append] at h
    exact (ih h.2).cons fun sent hsent => h.1 sent (Option.mem_toList.2 hsent)

theorem of_signals_eq_nil (h : signals t = []) : Undisturbed os policy service others t :=
  of_signals (by simp [h])

end Undisturbed

/-- A signal that is sent in the course of a start goes to the child that was spawned. -/
theorem StartCourse.spawned_of_signal {l : Launch} {s s' : Supervisor}
    {r : Except Error ProcessInfo} (h : StartCourse l s t r s') {sent : Nat × Signal}
    (hs : sent ∈ signals t) : spawned l (.ok sent.1) ∈ t := by
  cases h with
  | refused _ hlooking => exact absurd hs (by simp [hlooking.signals_eq_nil])
  | @launched before mid _ _ hbefore _ hmid =>
    have hsent : sent ∈ signals mid := by simpa [hbefore.signals_eq_nil] using hs
    simp [hmid.spawned_of_signal hsent]

/-- A start that tells nothing of the service sends no signal. -/
theorem StartCourse.signals_eq_nil {l : Launch} {s s' : Supervisor}
    {r : Except Error ProcessInfo} (h : StartCourse l s t r s')
    (hnone : eventsOf l.service t = []) : signals t = [] := by
  cases h with
  | refused _ hlooking => exact hlooking.signals_eq_nil
  | launched _ hbefore _ hmid =>
    -- A launch would have told that the service is starting.
    rw [eventsOf, events_of_launch hbefore hmid] at hnone
    exact absurd rfl (List.filter_eq_nil_iff.1 hnone (.serviceStarting l) List.mem_cons_self <|
      decide_eq_true ·)

/-- A stop that finds no process sends no signal. -/
theorem StopCourse.signals_eq_nil {stopped : String} {s s' : Supervisor}
    {r : Except Error StopReport} (h : StopCourse stopped s t r s')
    (hp : (s.slot stopped).process = none) : signals t = [] := by
  cases h with
  | idle hlooking => exact hlooking.signals_eq_nil
  | failed _ _ hslot hslot' | ended _ hslot hslot' =>
    rw [s.slot_of_get? stopped hslot, hslot'] at hp
    exact absurd hp nofun

/-- A signal that is sent in the course of a stop goes to the process that is tracked. -/
theorem Policy.tracked_of_signal {s s' : Supervision ω} {stopped : String}
    {r : Except Error StopReport} (h : Runs os (policy.stop stopped) s t r s')
    {sent : Nat × Signal} (hs : sent ∈ signals t) :
    ∃ info, (s.supervisor.slot stopped).process = some info ∧ info.pid = sent.1 := by
  cases hp : (s.supervisor.slot stopped).process with
  | none => exact absurd hs (by simp [(policy.course_stop h).signals_eq_nil hp])
  | some info =>
    obtain ⟨mid, s₁, hterminate, rfl, -⟩ :=
      policy.runs_stop (s.supervisor.get?_of_process stopped hp) hp h
    have hsent := (hterminate.ensured (policy.ensures_terminate_escalation info)).sentTo
    refine ⟨info, rfl, (hsent sent ?_).symm⟩
    cases r <;> simpa [eventOfStop?] using hs

/-- In a step that tells nothing of a service, no signal is sent but to children of others or by
    a stop of it that fails. -/
theorem Step.undisturbed {L : Launch → Prop} {s s' : Supervisor} {t₀ : Transcript}
    (h : Step os policy L s t s') (hs : s.Orderly) (haccounts : s.Accounts t₀)
    (hnone : eventsOf service t = []) :
    Undisturbed os policy service (OfAnother service (t₀ ++ t)) t := by
  cases h with
  | @start l _ _ _ _ _ h =>
    have hcourse := policy.course_start h
    by_cases hl : l.service = service
    · subst hl
      exact .of_signals_eq_nil (hcourse.signals_eq_nil hnone)
    · exact .of_signals fun sent hsent =>
        ⟨l, hl, List.mem_append_right _ (hcourse.spawned_of_signal hsent)⟩
  | @stop stopped _ _ _ r h =>
    by_cases hstopped : stopped = service
    · subst hstopped
      cases r with
      | error e => exact List.append_nil t ▸ .failedStop ⟨_, e, _, h⟩ .nil
      | ok report =>
        -- A stop that succeeds would have told that the service is stopped.
        have hcourse := policy.course_stop h
        have hself : (Health.Event.serviceStopped report).service? = some stopped :=
          congrArg some (hcourse.report_service hs)
        simp [eventsOf, hcourse.events_eq, eventOfStop?, hself] at hnone
    · refine .of_signals fun sent hsent => ?_
      obtain ⟨info, hp, hpid⟩ := policy.tracked_of_signal h hsent
      obtain ⟨c, hc, hservice, hprocess, -⟩ := (haccounts stopped).process_child info hp
      obtain rfl := Option.some.inj (hp.symm.trans hprocess)
      rw [← hpid]
      exact ⟨c.launch, fun h => hstopped (hservice.symm.trans h),
        List.mem_append_left _ hc.spawned_mem⟩
  | pass hquiet => exact .of_signals_eq_nil hquiet.signals_eq_nil
  | close => exact .of_signals_eq_nil rfl

end Undisturbed

/-! ## What was told so far -/

/-- What was told of a service agrees with its slot. -/
structure Slot.Heard (slot : Slot) (w : List Health.Event) : Prop where
  bracketed : w ∈ episodes∗
  /-- The process is that of which was told last that it is ready. -/
  process_iff : ∀ info, slot.process = some info ↔ w.getLast? = some (.serviceReady info)

theorem Slot.heard_nil : ({} : Slot).Heard [] where
  bracketed := Language.nil_mem_kstar _
  process_iff := by simp

theorem Slot.Heard.tells {slot slot' : Slot} {v w : List Health.Event} (h : slot.Heard w)
    (ht : Tells slot v slot') : slot'.Heard (w ++ v) := by
  cases ht with
  | nothing => rwa [List.append_nil]
  | launched l r =>
    cases r with
    | ok info =>
      refine ⟨append_mem_kstar h.bracketed (.ready l info), fun info' => ?_⟩
      simp [ofLaunch, eventOfLaunch]
    | error e =>
      refine ⟨append_mem_kstar h.bracketed (.failed l e), fun info' => ?_⟩
      simp [ofLaunch, eventOfLaunch]
  | stopped hp hpid =>
    -- The episode that is under way is that of the process that was stopped.
    obtain ⟨v, hv, l, rfl⟩ := exists_of_getLast?_eq_ready h.bracketed ((h.process_iff _).1 hp)
    refine ⟨?_, by simp⟩
    rw [List.append_assoc]
    exact append_mem_kstar hv (.stopped l _ _ hpid)

/-- What was told of each service agrees with its slot. -/
def Supervisor.Heard (s : Supervisor) (t : Transcript) : Prop :=
  ∀ service, (s.slot service).Heard (eventsOf service t)

theorem Supervisor.heard_new : ({} : Supervisor).Heard [] := fun _ => Slot.heard_nil

section Steps

variable {ω : Type} (os : OperatingSystem ω) (policy : Policy)

/-- A service that was ready is started again, without having been stopped, only after its
    process was found to have ended; and no signal was sent in between but by stops of the service
    that failed, or to children of other services. -/
def Relaunches (t : Transcript) : Prop :=
  ∀ a info gap l b, t = a ++ told (.serviceReady info) :: (gap ++ told (.serviceStarting l) :: b) →
    info.service = l.service → eventsOf l.service gap = [] →
      FoundEnded info.pid gap ∧ Undisturbed os policy l.service
        (OfAnother l.service (a ++ told (.serviceReady info) :: gap)) gap

/-- Since it was told of a service that it is ready, and nothing more of it, no signal was sent but
    by stops of the service that failed, or to children of other services. -/
def LeftAlone (t : Transcript) : Prop :=
  ∀ a info gap, t = a ++ told (.serviceReady info) :: gap → eventsOf info.service gap = [] →
    Undisturbed os policy info.service (OfAnother info.service t) gap

theorem relaunches_nil : Relaunches os policy [] := fun a _ _ _ _ h => absurd h (by simp)

theorem leftAlone_nil : LeftAlone os policy [] := fun a _ _ h => absurd h (by simp)

variable {os policy} {L : Launch → Prop} {s s' : Supervisor} {t₀ t : Transcript}

theorem Step.heard (h : Step os policy L s t s') (hs : s.Orderly) (ht : s.Heard t₀) :
    s'.Heard (t₀ ++ t) := by
  intro service
  rw [eventsOf_append]
  exact (ht service).tells (h.tells hs service)

theorem Step.leftAlone (h : Step os policy L s t s') (hs : s.Orderly)
    (haccounts : s.Accounts t₀) (ht₀ : LeftAlone os policy t₀) :
    LeftAlone os policy (t₀ ++ t) := by
  intro a info gap ht hgap
  rcases append_eq_append_cons ht with ⟨m, rfl, rfl⟩ | ⟨m, -, hm⟩
  · rw [eventsOf_append, List.append_eq_nil_iff] at hgap
    have hbefore := ht₀ a info m rfl hgap.1
    exact (hbefore.mono fun _ hpid => hpid.mono (List.subset_append_left _ t)).append
      (h.undisturbed hs haccounts hgap.2)
  · -- The step itself told it, as the last thing it did.
    rw [h.eq_nil_of_ready hm]
    exact .nil

theorem Step.relaunches (h : Step os policy L s t s') (hs : s.Heard t₀)
    (halone : LeftAlone os policy t₀) (ht₀ : Relaunches os policy t₀) :
    Relaunches os policy (t₀ ++ t) := by
  intro a info gap l b ht hservice hgap
  rw [← List.cons_append, ← List.append_assoc] at ht
  rcases append_eq_append_cons ht with ⟨m, rfl, -⟩ | ⟨m, hm, rfl⟩
  · exact ht₀ a info gap l m (by simp) hservice hgap
  · -- The step starts the service, and before that it tells nothing and sends nothing.
    obtain ⟨-, -, ⟨hnone, hunsent⟩, hfound⟩ := h.starting rfl
    rcases append_eq_append_cons hm.symm with ⟨gap', rfl, rfl⟩ | ⟨m', -, rfl⟩
    · -- So the service was told to be ready last, and its process is the one that is tracked.
      rw [eventsOf_append, List.append_eq_nil_iff] at hgap
      constructor
      · refine (hfound info ?_).append_left gap'
        have hready : (Health.Event.serviceReady info).service? = some l.service :=
          congrArg some hservice
        rw [(hs l.service).process_iff, eventsOf_append, eventsOf_told_cons hready, hgap.1]
        exact List.getLast?_concat
      · have hbefore := halone a info gap' rfl (hservice ▸ hgap.1)
        rw [hservice] at hbefore
        refine (hbefore.mono fun _ hpid => hpid.mono ?_).append (.of_signals_eq_nil hunsent)
        rw [← List.cons_append, ← List.append_assoc]
        exact List.subset_append_left _ m
    · exact absurd hnone (by simp)

theorem Steps.heard (h : Steps os policy L s t s') (hs : s.Orderly) (ht : s.Heard t₀) :
    s'.Heard (t₀ ++ t) := by
  induction h with
  | refl => rwa [List.append_nil]
  | tail h h' ih =>
    rw [← List.append_assoc]
    exact h'.heard (h.orderly hs) ih

theorem Steps.leftAlone (h : Steps os policy L s t s') (hs : s.Orderly)
    (haccounts : s.Accounts t₀) (ht₀ : LeftAlone os policy t₀) :
    LeftAlone os policy (t₀ ++ t) := by
  induction h with
  | refl => rwa [List.append_nil]
  | tail h h' ih =>
    rw [← List.append_assoc]
    exact h'.leftAlone (h.orderly hs) (h.accounts haccounts) ih

theorem Steps.relaunches (h : Steps os policy L s t s') (hs : s.Orderly)
    (haccounts : s.Accounts t₀) (hheard : s.Heard t₀) (halone : LeftAlone os policy t₀)
    (ht₀ : Relaunches os policy t₀) : Relaunches os policy (t₀ ++ t) := by
  induction h with
  | refl => rwa [List.append_nil]
  | tail h h' ih =>
    rw [← List.append_assoc]
    exact h'.relaunches (h.heard hs hheard) (h.leftAlone hs haccounts halone) ih

/-- A service is started only where it is to be, and as long as the supervisor is not closed. -/
theorem Steps.starting (h : Steps os policy L s t s') {l : Launch} (hl : .serviceStarting l ∈ events t) :
    L l ∧ s.closed = false := by
  induction h with
  | refl => exact absurd hl List.not_mem_nil
  | tail h h' ih =>
    rw [events_append, List.mem_append] at hl
    rcases hl with hl | hl
    · exact ih hl
    · obtain ⟨a, b, hab⟩ := List.append_of_mem (mem_events_iff.1 hl)
      obtain ⟨hL, hc, -⟩ := h'.starting hab
      refine ⟨hL, Bool.eq_false_iff.2 fun hs => ?_⟩
      exact Bool.false_ne_true (hc.symm.trans (h.closed hs))

end Steps

/-! ## Histories -/

namespace Chronicle

variable {ω : Type} {os : OperatingSystem ω} {policy : Policy}

/-- The journal has the health events of the transcript. -/
def Journals (h : Chronicle ω) : Prop := h.supervision.journal.events = events h.transcript

theorem journals_extend (e : Event ω) {h : Chronicle ω} (hh : h.Journals) :
    (h.extend os policy e).Journals := by
  cases e with
  | call c =>
    rw [Journals, extend, events_append, ← hh]
    exact events_run _ _
  | elapse environment => exact hh

theorem journals_after (history : List (Event ω)) {h : Chronicle ω} (hh : h.Journals) :
    (h.after os policy history).Journals := by
  induction history generalizing h with
  | nil => exact hh
  | cons e rest ih => exact ih (journals_extend e hh)

variable (os policy) in
/-- From when a shutdown begins no service is started any more. -/
theorem not_starting_after_shutdown (h : Chronicle ω) (later : List (Event ω)) :
    ∃ t, ((h.extend os policy (.call .shutdownAll)).after os policy later).transcript =
      h.transcript ++ t ∧ ∀ l, .serviceStarting l ∉ events t := by
  obtain ⟨t₁, ht₁, h₁⟩ := continues_extend os policy (.call .shutdownAll) h
  obtain ⟨t₂, ht₂, h₂⟩ := continues_after os policy later
    (h.extend os policy (.call .shutdownAll))
  refine ⟨t₁ ++ t₂, by rw [ht₂, ht₁, List.append_assoc], fun l hl => ?_⟩
  rw [events_append, List.mem_append] at hl
  rcases hl with hl | hl
  · -- A shutdown itself starts nothing.
    exact absurd (h₁.starting hl).1 (by simp)
  · exact Bool.false_ne_true ((h₂.starting hl).2.symm.trans (closed_shutdown os policy h))

end Chronicle

open Chronicle in
/-- Whatever the system answers, what a supervisor has told of a service is made of episodes,
    and it tracks a process if and only if it told last that this is ready. A service that was
    ready is started again without having been stopped only after its process was found to have
    ended; until then no signal was sent but by stops of the service that failed, and to children
    of others. What is refused and a stop that fails tell nothing, and from when a shutdown begins
    no service is started any more. -/
theorem health_events_are_well_bracketed {ω : Type} (os : OperatingSystem ω) (policy : Policy)
    (environment : ω) (history : List (Event ω)) :
    let h := (new environment).after os policy history
    h.supervision.journal.events = events h.transcript ∧
      (∀ service, eventsOf service h.transcript ∈ episodes∗ ∧
        ∀ info, (h.supervision.supervisor.slot service).process = some info ↔
          (eventsOf service h.transcript).getLast? = some (.serviceReady info)) ∧
      Relaunches os policy h.transcript ∧
      (∀ l e, (run os (policy.start l) h.supervision).1 = .error e → e.IsRefusal →
        (run os (policy.start l) h.supervision).2.journal.events =
          h.supervision.journal.events) ∧
      (∀ service e, (run os (policy.stop service) h.supervision).1 = .error e →
        (run os (policy.stop service) h.supervision).2.journal.events =
          h.supervision.journal.events) ∧
      ∀ later, ∃ more,
        ((h.extend os policy (.call .shutdownAll)).after os policy later).supervision.journal.events
          = h.supervision.journal.events ++ more ∧
        ∀ l, .serviceStarting l ∉ more := by
  intro h
  have hsteps := steps_after_new os policy environment history
  have hheard : h.supervision.supervisor.Heard h.transcript :=
    hsteps.heard Supervisor.orderly_new Supervisor.heard_new
  have hjournals : h.Journals := journals_after history rfl
  refine ⟨hjournals, fun service => ⟨(hheard service).bracketed, (hheard service).process_iff⟩,
    ?_, ?_, ?_, fun later => ?_⟩
  · exact hsteps.relaunches Supervisor.orderly_new (accounts_new environment)
      Supervisor.heard_new (leftAlone_nil os policy) (relaunches_nil os policy)
  · intro l e he hr
    rw [(Policy.untouched_start os policy l he hr).journal]
  · intro service e he
    have hruns : Runs os (policy.stop service) h.supervision _ _ _ := runs_run _ _
    have hcourse := policy.course_stop hruns
    rw [he] at hcourse
    rw [hruns.events_eq, hcourse.events_eq]
    exact List.append_nil _
  · obtain ⟨t, ht, hstarting⟩ := not_starting_after_shutdown os policy h later
    refine ⟨events t, ?_, hstarting⟩
    have hlater : ((h.extend os policy (.call .shutdownAll)).after os policy later).Journals :=
      journals_after later (journals_extend _ hjournals)
    rw [hlater, ht, events_append, ← hjournals]

end Testbed.Service
