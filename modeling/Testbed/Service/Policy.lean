import Testbed.Service.Procedure

/-!
# Starting and stopping services

To start a service is to run its program and to wait until its probe finds it ready;
when it never is, the process is killed again. To stop one is to ask it to end, and to
kill it when it has not done so within the grace period. Signals go to the whole process
group, so that what the service started ends with it.

A loop that waits takes at most as many turns as its time has nanoseconds, and some more
(`Policy.patience`); only where the clock stands still while the supervisor sleeps is that
too few (`Error.stalled`).
-/

namespace Testbed.Service

open Os

/-- How the supervisor waits. -/
structure Policy where
  /-- How long a service may take to end when asked to. -/
  grace : Span
  /-- The time between two looks at a process. -/
  pollInterval : Span := .ofMillis 50
  /-- How many turns a loop that waits may take beyond the nanoseconds of its time. -/
  patience : Nat := 2
  deriving DecidableEq, Repr

namespace Policy

open Procedure

/-- The fields that name a process. -/
def processFields (service : String) (pid : Nat) : List (String × Log.Field) :=
  [("service", .text service), ("pid", .number pid)]

/-- Milliseconds as told in a field; more than 64 bits hold are told as the most they do. -/
def millisField (span : Span) : Log.Field := .number (min span.millis (UInt64.size - 1) : Nat)

/-- Sends a signal to the process group of a service. A group that is gone needs none. Systems
    give processes no numbers that are too large to name their groups, so the refusal of such a
    number is left out. -/
def signalGroup (service : String) (pid : Nat) (s : Signal) : Procedure (Except Error Unit) := do
  match ← signal pid s with
  | .ok () => pure (.ok ())
  | .error e =>
    if e = .noProcess then pure (.ok ())
    else pure (.error (.signal service pid (s.name?.getD "") (.system e)))

/-- Whether a probe finds the service ready. -/
def probeReady (probe : Probe) (elapsed budget : Span) : Procedure Bool :=
  match probe.verdict? elapsed with
  | some ready => pure ready
  | none => knock probe (Probe.attemptTime budget)

/-- Waits until the probe finds a process ready, in at most `fuel` turns. The deadline is a sum
    without bound; a timeout that carries it beyond what a clock can hold is left out. -/
def awaitReady (policy : Policy) (launch : Launch) (pid started : Nat) :
    (fuel : Nat) → Procedure (Except Error Unit)
  | 0 => pure (.error (.stalled launch.service))
  | fuel + 1 => do
    match ← poll pid with
    | .error cause => pure (.error (.wait launch.service cause))
    | .ok (some status) => pure (.error (.exitedDuringStartup launch.service status))
    | .ok none => do
      let deadline := started + launch.timeout.nanos
      let time ← now
      if ← probeReady launch.probe ⟨time - started⟩ ⟨deadline - time⟩ then pure (.ok ())
      else do
        let time ← now
        if deadline ≤ time then do
          log .warn "service never became ready, killing it" (processFields launch.service pid)
          pure (.error (.startupTimeout launch.service launch.timeout))
        else do
          sleep ⟨min policy.pollInterval.nanos (deadline - time)⟩
          awaitReady policy launch pid started fuel

/-- Kills a process that failed to start, with its group, and reaps it. -/
def discard (service : String) (pid : Nat) : Procedure Unit := do
  match ← signalGroup service pid .kill with
  | .ok () => pure ()
  | .error e =>
    log .debug "kill after failed start" [("service", .text service), ("error", .shown e.message)]
  match ← await pid with
  | .ok _ => pure ()
  | .error cause =>
    log .warn "failed to reap child after failed start"
      [("service", .text service), ("error", .shown cause.text)]

/-- Runs the program of a service and waits until it is ready. -/
def launch (policy : Policy) (l : Launch) : Procedure (Except Error ProcessInfo) := do
  match ← spawn l with
  | .error cause => pure (.error (.spawnFailed l.service l.program cause))
  | .ok pid => do
    log .debug "spawned service, waiting for readiness"
      (processFields l.service pid
        ++ [("probe", .shown l.probe.text), ("timeout_ms", millisField l.timeout)])
    let started ← now
    match ← policy.awaitReady l pid started (l.timeout.nanos + policy.patience) with
    | .error e => do
      discard l.service pid
      pure (.error e)
    | .ok () => do
      log .info "service ready" (processFields l.service pid)
      pure (.ok ⟨l.service, pid, l.probe⟩)

/-- Launches a service that has no process, and notes what becomes of it. -/
def startFresh (policy : Policy) (l : Launch) : Procedure (Except Error ProcessInfo) := do
  update l.service ⟨.starting, none⟩
  tell (.event (.serviceStarting l))
  match ← policy.launch l with
  | .ok info => do
    update l.service ⟨.ready, some info⟩
    tell (.event (.serviceReady info))
    pure (.ok info)
  | .error e => do
    update l.service ⟨.stopped, none⟩
    tell (.event (.serviceFailed e))
    pure (.error e)

/-- Starts a service and waits until it is ready. A tracked process that has ended is
    forgotten first; one that runs is in the way. -/
def start (policy : Policy) (l : Launch) : Procedure (Except Error ProcessInfo) := do
  let slot ← enter l.service
  if ← isClosed then pure (.error (.shuttingDown l.service))
  else
    match slot.process with
    | none => policy.startFresh l
    | some process => do
      match ← poll process.pid with
      | .error cause => pure (.error (.wait l.service cause))
      | .ok none => pure (.error (.alreadyRunning l.service process.pid))
      | .ok (some status) => do
        log .debug "reaped exited service before restart"
          (processFields l.service process.pid ++ [("status", .shown status.text)])
        policy.startFresh l

/-- Waits until a process that was asked to end has done so, or the deadline has passed,
    in at most `fuel` turns. Nothing stands for the latter. -/
def awaitExit (policy : Policy) (p : ProcessInfo) (deadline : Nat) :
    (fuel : Nat) → Procedure (Except Error (Option ExitStatus))
  | 0 => pure (.error (.stalled p.service))
  | fuel + 1 => do
    match ← poll p.pid with
    | .error cause => pure (.error (.wait p.service cause))
    | .ok (some status) => pure (.ok (some status))
    | .ok none => do
      let time ← now
      if deadline ≤ time then pure (.ok none)
      else do
        sleep ⟨min policy.pollInterval.nanos (deadline - time)⟩
        awaitExit policy p deadline fuel

/-- Kills what is left of a process group whose first process has ended. -/
def sweep (p : ProcessInfo) (status : ExitStatus) : Procedure (Except Error StopReport) := do
  match ← signalGroup p.service p.pid .kill with
  | .error e => pure (.error e)
  | .ok () => pure (.ok ⟨p.service, p.pid, false, status⟩)

/-- Kills a process that did not end when asked to. -/
def force (policy : Policy) (p : ProcessInfo) : Procedure (Except Error StopReport) := do
  log .warn "service ignored SIGTERM, sending SIGKILL"
    (processFields p.service p.pid ++ [("grace_ms", millisField policy.grace)])
  match ← signalGroup p.service p.pid .kill with
  | .error e => pure (.error e)
  | .ok () =>
    match ← await p.pid with
    | .error cause => pure (.error (.wait p.service cause))
    | .ok status => pure (.ok ⟨p.service, p.pid, true, status⟩)

/-- Ends a process that runs: asks it to, and kills it when the grace period is over. The deadline
    is a sum without bound; a grace period that carries it beyond what a clock can hold is left
    out. -/
def endRunning (policy : Policy) (p : ProcessInfo) : Procedure (Except Error StopReport) := do
  match ← signalGroup p.service p.pid .term with
  | .error e => pure (.error e)
  | .ok () => do
    let time ← now
    let deadline := time + policy.grace.nanos
    match ← policy.awaitExit p deadline (policy.grace.nanos + policy.patience) with
    | .error e => pure (.error e)
    | .ok none => policy.force p
    | .ok (some status) => do
      log .info "service stopped"
        (processFields p.service p.pid ++ [("status", .shown status.text)])
      sweep p status

/-- Ends a process, unless it has ended already, and its group. -/
def terminate (policy : Policy) (p : ProcessInfo) : Procedure (Except Error StopReport) := do
  match ← poll p.pid with
  | .error cause => pure (.error (.wait p.service cause))
  | .ok (some status) => do
    log .debug "service had already exited"
      (processFields p.service p.pid ++ [("status", .shown status.text)])
    sweep p status
  | .ok none => policy.endRunning p

/-- Stops a service. Where that fails the process stays tracked. -/
def stop (policy : Policy) (service : String) : Procedure (Except Error StopReport) := do
  match ← enterExisting service with
  | none => pure (.error (.notRunning service))
  | some slot =>
    match slot.process with
    | none => pure (.error (.notRunning service))
    | some process => do
      update service ⟨.stopping, none⟩
      match ← policy.terminate process with
      | .ok report => do
        update service ⟨.stopped, none⟩
        tell (.event (.serviceStopped report))
        pure (.ok report)
      | .error e => do
        update service slot
        pure (.error e)

/-- What is told when a service cannot be stopped while all are. -/
def unstoppable (service : String) (e : Error) : Procedure Unit :=
  log .warn "failed to stop service during shutdown"
    [("service", .text service), ("error", .shown e.message)]

/-- Stops services in turn and reports those that were stopped. -/
def stopEach (policy : Policy) : List String → Procedure (List StopReport)
  | [] => pure []
  | service :: rest => do
    match ← policy.stop service with
    | .ok report => do
      let reports ← stopEach policy rest
      pure (report :: reports)
    | .error (.notRunning _) => stopEach policy rest
    | .error e => do
      unstoppable service e
      stopEach policy rest

/-- Starts no more services, stops all that are tracked, and reports those that were
    stopped. They are stopped in the order in which they got their slots; nothing fixes that
    order, and another would serve as well. -/
def shutdownAll (policy : Policy) : Procedure (List StopReport) := do
  close
  let names ← services
  policy.stopEach names

/-- Where a service stands. One that was ready and whose process has ended by itself
    counts as stopped. -/
def status (service : String) : Procedure Phase := do
  match ← peek service with
  | none => pure .absent
  | some slot =>
    if slot.phase = .ready then
      match slot.process with
      | none => pure slot.phase
      | some process => do
        match ← poll process.pid with
        | .ok (some _) => pure .stopped
        | _ => pure slot.phase
    else pure slot.phase

/-- The process of a service. -/
def pid (service : String) : Procedure (Option Nat) := do
  match ← enterExisting service with
  | none => pure none
  | some slot => pure (slot.process.map ProcessInfo.pid)

end Policy

end Testbed.Service
