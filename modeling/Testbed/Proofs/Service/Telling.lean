import Testbed.Proofs.Service.Transcript

/-!
# What procedures tell

Of the life of the daemon as a whole its main thread tells: how it comes up, and that what it
held was released (`Entry.isLifecycle`). The supervisor never does: its log records have a
target of their own, and its health events are of services.

* `Policy.isReticent_start`, `Policy.isReticent_stop`, `Policy.isReticent_status`,
  `Policy.isReticent_shutdownAll`: no procedure ever does.
-/

namespace Testbed

/-- Whether an entry tells of the life of the daemon as a whole. -/
def Entry.isLifecycle : Entry → Bool
  | .record r => r.target == Log.bootstrapTarget
  | .event e => e.service?.isNone

namespace Service

open Program (Issues issues_issue)

/-- A command that tells nothing of the life of the daemon. -/
def SupervisorCommand.IsReticent : SupervisorCommand → Prop
  | .tell e => e.isLifecycle = false
  | _ => True

open SupervisorCommand (IsReticent)

namespace Procedure

variable {α β : Type}

theorem isReticent_pure (a : α) : (pure a : Procedure α).Issues IsReticent := trivial

/-- What follows a command other than to tell something. -/
theorem isReticent_issue_bind {c : SupervisorCommand} {f : c.Answer → Procedure β}
    (hc : c.IsReticent) (h : ∀ r, (f r).Issues IsReticent) :
    (Program.issue c >>= f).Issues IsReticent :=
  (issues_issue hc).bind h

theorem isReticent_log (level : Log.Level) (message : String)
    (fields : List (String × Log.Field)) : (log level message fields).Issues IsReticent :=
  issues_issue rfl

end Procedure

namespace Policy

open Procedure

variable (policy : Policy)

/-! ## Launching -/

theorem isReticent_signalGroup (service : String) (pid : Nat) (s : Os.Signal) :
    (signalGroup service pid s).Issues IsReticent := by
  refine isReticent_issue_bind trivial fun answer => ?_
  cases answer with
  | ok _ => exact isReticent_pure _
  | error e =>
    dsimp only
    split
    · exact isReticent_pure _
    · exact isReticent_pure _

theorem isReticent_probeReady (probe : Probe) (elapsed budget : Span) :
    (probeReady probe elapsed budget).Issues IsReticent := by
  rw [probeReady]
  split
  · exact isReticent_pure _
  · exact issues_issue trivial

theorem isReticent_awaitReady (l : Launch) (pid started fuel : Nat) :
    (policy.awaitReady l pid started fuel).Issues IsReticent := by
  -- On the turns that are left.
  induction fuel with
  | zero => exact isReticent_pure _
  | succ fuel ih =>
    refine isReticent_issue_bind trivial fun answer => ?_
    rcases answer with cause | _ | status
    · exact isReticent_pure _
    · refine isReticent_issue_bind trivial fun time => ?_
      refine (isReticent_probeReady _ _ _).bind fun ready => ?_
      cases ready with
      | true => exact isReticent_pure _
      | false =>
        refine isReticent_issue_bind trivial fun time : Nat => ?_
        change Program.Issues IsReticent (if _ ≤ time then _ else _)
        split
        · exact (isReticent_log _ _ _).bind fun _ => isReticent_pure _
        · exact isReticent_issue_bind trivial fun _ => ih
    · exact isReticent_pure _

theorem isReticent_discard (service : String) (pid : Nat) :
    (discard service pid).Issues IsReticent := by
  refine (isReticent_signalGroup _ _ _).bind fun killed => ?_
  cases killed with
  | ok _ =>
    refine isReticent_issue_bind trivial fun answer => ?_
    cases answer with
    | ok _ => exact isReticent_pure _
    | error cause => exact isReticent_log _ _ _
  | error e =>
    refine (isReticent_log _ _ _).bind fun _ => isReticent_issue_bind trivial fun answer => ?_
    cases answer with
    | ok _ => exact isReticent_pure _
    | error cause => exact isReticent_log _ _ _

theorem isReticent_launch (l : Launch) : (policy.launch l).Issues IsReticent := by
  refine isReticent_issue_bind trivial fun answer => ?_
  cases answer with
  | error cause => exact isReticent_pure _
  | ok pid =>
    refine (isReticent_log _ _ _).bind fun _ => isReticent_issue_bind trivial fun started =>
      (isReticent_awaitReady policy l pid started _).bind fun r => ?_
    cases r with
    | error e => exact (isReticent_discard _ _).bind fun _ => isReticent_pure _
    | ok _ => exact (isReticent_log _ _ _).bind fun _ => isReticent_pure _

/-- A slot is replaced, and a health event is told. -/
theorem isReticent_update_tell {α : Type} {service : String} {slot : Slot} {e : Health.Event}
    (he : e.service?.isSome) (a : α) :
    (update service slot >>= fun _ => tell (.event e) >>= fun _ => pure a).Issues
      IsReticent := by
  have hreticent : (SupervisorCommand.tell (.event e)).IsReticent := by
    change e.service?.isNone = false
    rw [Option.isNone_eq_false_iff, he]
  exact isReticent_issue_bind trivial fun _ =>
    isReticent_issue_bind hreticent fun _ => isReticent_pure a

theorem isReticent_startFresh (l : Launch) : (policy.startFresh l).Issues IsReticent := by
  refine isReticent_issue_bind trivial fun _ => isReticent_issue_bind rfl fun _ =>
    (isReticent_launch policy l).bind fun r => ?_
  cases r with
  | ok info => exact isReticent_update_tell rfl _
  | error e => exact isReticent_update_tell rfl _

theorem isReticent_start (l : Launch) : (policy.start l).Issues IsReticent := by
  refine isReticent_issue_bind trivial fun slot => isReticent_issue_bind trivial fun closed => ?_
  split
  · exact isReticent_pure _
  · split
    · exact isReticent_startFresh policy l
    · refine isReticent_issue_bind trivial fun answer => ?_
      rcases answer with cause | _ | status
      · exact isReticent_pure _
      · exact isReticent_pure _
      · exact (isReticent_log _ _ _).bind fun _ => isReticent_startFresh policy l

/-! ## Stopping -/

theorem isReticent_awaitExit (p : ProcessInfo) (deadline fuel : Nat) :
    (policy.awaitExit p deadline fuel).Issues IsReticent := by
  -- On the turns that are left.
  induction fuel with
  | zero => exact isReticent_pure _
  | succ fuel ih =>
    refine isReticent_issue_bind trivial fun answer => ?_
    rcases answer with cause | _ | status
    · exact isReticent_pure _
    · refine isReticent_issue_bind trivial fun time : Nat => ?_
      change Program.Issues IsReticent (if deadline ≤ time then _ else _)
      split
      · exact isReticent_pure _
      · exact isReticent_issue_bind trivial fun _ => ih
    · exact isReticent_pure _

theorem isReticent_sweep (p : ProcessInfo) (status : Os.ExitStatus) :
    (sweep p status).Issues IsReticent := by
  refine (isReticent_signalGroup _ _ _).bind fun r => ?_
  cases r with
  | error e => exact isReticent_pure _
  | ok _ => exact isReticent_pure _

theorem isReticent_force (p : ProcessInfo) : (policy.force p).Issues IsReticent := by
  refine (isReticent_log _ _ _).bind fun _ => (isReticent_signalGroup _ _ _).bind fun r => ?_
  cases r with
  | error e => exact isReticent_pure _
  | ok _ =>
    refine isReticent_issue_bind trivial fun answer => ?_
    cases answer with
    | error cause => exact isReticent_pure _
    | ok status => exact isReticent_pure _

theorem isReticent_endRunning (p : ProcessInfo) : (policy.endRunning p).Issues IsReticent := by
  refine (isReticent_signalGroup _ _ _).bind fun r => ?_
  cases r with
  | error e => exact isReticent_pure _
  | ok _ =>
    refine isReticent_issue_bind trivial fun time => ?_
    refine (isReticent_awaitExit policy p _ _).bind fun r => ?_
    rcases r with e | _ | status
    · exact isReticent_pure _
    · exact isReticent_force policy p
    · exact (isReticent_log _ _ _).bind fun _ => isReticent_sweep p status

theorem isReticent_terminate (p : ProcessInfo) : (policy.terminate p).Issues IsReticent := by
  refine isReticent_issue_bind trivial fun answer => ?_
  rcases answer with cause | _ | status
  · exact isReticent_pure _
  · exact isReticent_endRunning policy p
  · exact (isReticent_log _ _ _).bind fun _ => isReticent_sweep p status

theorem isReticent_stop (service : String) : (policy.stop service).Issues IsReticent := by
  refine isReticent_issue_bind trivial fun slot => ?_
  cases slot with
  | none => exact isReticent_pure _
  | some slot =>
    dsimp only
    split
    · exact isReticent_pure _
    · refine isReticent_issue_bind trivial fun _ => (isReticent_terminate policy _).bind fun r => ?_
      cases r with
      | ok report => exact isReticent_update_tell rfl _
      | error e => exact isReticent_issue_bind trivial fun _ => isReticent_pure _

theorem isReticent_stopEach (names : List String) : (policy.stopEach names).Issues IsReticent := by
  induction names with
  | nil => exact isReticent_pure _
  | cons service rest ih =>
    refine (isReticent_stop policy service).bind fun r => ?_
    split
    · exact ih.bind fun _ => isReticent_pure _
    · exact ih
    · exact (isReticent_log _ _ _).bind fun _ => ih

theorem isReticent_shutdownAll : policy.shutdownAll.Issues IsReticent :=
  isReticent_issue_bind trivial fun _ =>
    isReticent_issue_bind trivial fun names => isReticent_stopEach policy names

/-! ## Looking -/

theorem isReticent_status (service : String) : (status service).Issues IsReticent := by
  refine isReticent_issue_bind trivial fun slot => ?_
  cases slot with
  | none => exact isReticent_pure _
  | some slot =>
    dsimp only
    split
    · split
      · exact isReticent_pure _
      · refine isReticent_issue_bind trivial fun answer => ?_
        rcases answer with cause | _ | status
        · exact isReticent_pure _
        · exact isReticent_pure _
        · exact isReticent_pure _
    · exact isReticent_pure _

end Policy

end Service

end Testbed
