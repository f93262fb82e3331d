import Testbed.Proofs.Daemon.Serving
import Testbed.Proofs.Service.Shutdown

/-!
# The end of a run

Once a daemon was assembled, every way out of a run goes through one shutdown
(`run_releases_what_it_holds`): if it cannot listen, if it cannot wait for a signal, if the
accept loop broke down, and whatever drivers did before. The shutdown ends the accept loop,
tries to stop each service that is tracked, refuses further starts and forgets all objects
(`IsReleased`). Where no daemon can be assembled the environment is asked for nothing.

* `IsServing.shutdown`: what the shutdown of a daemon that serves comes to;
* `run_releases_what_it_holds`: what a run comes to.
-/

namespace Testbed.Daemon

open Service Method Listener

variable {ω : Type}

/-- The stops that a shutdown tries in turn, with what each comes to. -/
def attempts (p : Platform ω) (d : Daemon ω) :
    List (String × Except Service.Error StopReport) :=
  (Services.policyOf d.config).attempts p.os (d.stopListener p).2.dispatcher.world.state

/-- What a shutdown leaves of a daemon. -/
structure IsReleased (p : Platform ω) (before after : Daemon ω) (s : Summary) : Prop where
  /-- It does not listen. -/
  listener : after.listener = none
  /-- Each service that was tracked was tried to be stopped, once. -/
  tried : ((before.attempts p).map Prod.fst).Nodup ∧
    ∀ service, service ∈ (before.attempts p).map Prod.fst ↔
      (before.dispatcher.world.state.supervisor.slot service).process.isSome
  /-- What it tells that it stopped are the services whose stops succeeded. -/
  stopped : s.services =
      ((before.attempts p).filterMap fun attempt => attempt.2.toOption).map StopReport.service ∧
    ∀ service report, (service, .ok report) ∈ before.attempts p → report.service = service
  /-- Those services are tracked still whose stops failed. -/
  left : ∀ service, (after.dispatcher.world.state.supervisor.slot service).process.isSome ↔
    ∃ e, (service, .error e) ∈ before.attempts p
  /-- No service is started any more. -/
  refused : ∀ policy l, RefusedStart p.os policy l after.dispatcher.world.state
  /-- There are no objects left. -/
  forgotten : after.dispatcher.world.registry.live = [] ∧
    s.handles = before.dispatcher.world.registry.size

/-- As far as the services are concerned, a daemon is released by a shutdown of the supervisor,
    as the listener has left it. -/
theorem isReleased_of_shutdownAll {p : Platform ω} {before after : Daemon ω} {s : Summary}
    {supervision : Supervision ω} (hbefore : before.dispatcher.world.state.supervisor.Orderly)
    (hsame : supervision.supervisor = before.dispatcher.world.state.supervisor)
    (hattempts : before.attempts p =
      (Services.policyOf before.config).attempts p.os supervision)
    (hafter : after.dispatcher.world.state.supervisor =
      (Supervision.run p.os (Services.policyOf before.config).shutdownAll
        supervision).2.supervisor)
    (hservices : s.services = (Supervision.run p.os
      (Services.policyOf before.config).shutdownAll supervision).1.map StopReport.service)
    (hlistener : after.listener = none) (hlive : after.dispatcher.world.registry.live = [])
    (hhandles : s.handles = before.dispatcher.world.registry.size) :
    IsReleased p before after s := by
  have hs : supervision.supervisor.Orderly := hsame ▸ hbefore
  have htried : (before.attempts p).map Prod.fst =
      before.dispatcher.world.state.supervisor.tracked := by
    rw [← hsame, hattempts]
    exact Policy.map_fst_stops p.os _ _ _
  refine ⟨hlistener, ?tried, ?stopped, fun service => ?left,
    fun policy l => Policy.refused_start_of_closed p.os policy l ?refused, hlive, hhandles⟩
  case tried =>
    rw [htried]
    exact ⟨hbefore.nodup_tracked, fun service => Supervisor.mem_tracked_iff⟩
  case stopped =>
    rw [hattempts, ← Policy.run_shutdownAll_fst p.os _ hs]
    exact ⟨hservices, fun service report => Policy.service_of_mem_attempts p.os _ hs⟩
  case left =>
    rw [hafter, hattempts, ← Supervisor.mem_tracked_iff]
    exact Policy.mem_tracked_shutdownAll_iff p.os _ hs
  case refused =>
    rw [hafter]
    exact Policy.closed_shutdownAll _ (Supervision.runs_run _ _)

theorem reticent_of_lifecycle {w : World (Supervision ω)} (hw : w.lifecycle = []) :
    Reticent w.journal.toList :=
  fun e he => by simpa using List.filter_eq_nil_iff.1 hw e he

/-- To forget all objects leaves the services alone. -/
theorem releaseHandles_spec (d : Daemon ω) (hd : d.dispatcher.world.lifecycle = []) :
    d.releaseHandles.1 = d.dispatcher.world.registry.size ∧
      d.releaseHandles.2.dispatcher.world.registry.live = [] ∧
      d.releaseHandles.2.dispatcher.world.state = d.dispatcher.world.state ∧
      d.releaseHandles.2.listener = d.listener ∧
      d.releaseHandles.2.transcript.lifecycle = d.transcript.lifecycle := by
  have hworld : d.dispatcher.releaseAll.2.world.registry.live = [] ∧
      d.dispatcher.releaseAll.2.world.state = d.dispatcher.world.state ∧
      d.dispatcher.releaseAll.2.world.lifecycle = [] := by
    rw [Dispatcher.releaseAll, Action.run_clear]
    dsimp only
    split
    · refine ⟨rfl, rfl, ?_⟩
      rw [World.lifecycle_tell rfl, World.lifecycle_tell rfl]
      exact hd
    · refine ⟨rfl, rfl, ?_⟩
      rw [World.lifecycle_tell rfl]
      exact hd
  exact ⟨rfl, hworld.1, hworld.2.1, rfl,
    Transcript.lifecycle_tellAll _ _ (reticent_of_lifecycle hworld.2.2)⟩

namespace IsServing

variable {p : Platform ω} {c : Config} {told : List Told} {environment : ω} {d : Daemon ω}

theorem stopListener (h : IsServing p c told environment d) :
    IsServing p c told environment (d.stopListener p).2 ∧
      (d.stopListener p).2.listener = none ∧
      (d.stopListener p).2.dispatcher.world.registry = d.dispatcher.world.registry ∧
      (d.stopListener p).2.dispatcher.world.state.supervisor =
        d.dispatcher.world.state.supervisor := by
  rw [Daemon.stopListener]
  cases hd : d.listener with
  | none => exact ⟨h, hd, rfl, rfl⟩
  | some b =>
    have htold : Reticent ((Listener.stop b).run p.sockets d.environment).1.2 :=
      (yields_stop b).run d.environment
    have hloops := fun loops (hl : p.ShowsLoops loops) => loops_stop hl.sockets b d.environment
    dsimp only [onSockets]
    generalize (Listener.stop b).run p.sockets d.environment = x at htold hloops ⊢
    obtain ⟨⟨r, entries⟩, environment'⟩ := x
    have hstopped := h.withEnvironment environment' none d.address d.connections
      fun loops hl => by
        -- The loop of the daemon is the first of those that run.
        rw [hloops loops hl, h.loops loops hl, hd]
        exact List.erase_cons_head b.socket _
    exact ⟨hstopped.tellAll .accept htold, rfl, rfl, rfl⟩

/-- To stop the services is a shutdown of the supervisor, of which nothing is left to tell. -/
theorem stopServices (h : IsServing p c told environment d) :
    let policy := Services.policyOf d.config
    let after := Supervision.run p.os policy.shutdownAll d.dispatcher.world.state
    (d.stopServices p).1 = after.1.map StopReport.service ∧
      (d.stopServices p).2.dispatcher.world.state = { after.2 with journal := #[] } ∧
      (d.stopServices p).2.dispatcher.world.registry = d.dispatcher.world.registry ∧
      (d.stopServices p).2.dispatcher.world.lifecycle = [] ∧
      (d.stopServices p).2.listener = d.listener ∧
      (d.stopServices p).2.transcript.lifecycle = told := by
  intro policy after
  have hrun := Services.run_supervise p.os policy.shutdownAll d.dispatcher.world
  rw [Daemon.stopServices, hrun]
  refine ⟨rfl, rfl, rfl, rfl, rfl,
    (Transcript.lifecycle_tellAll _ _ fun e he => ?_).trans h.lifecycle⟩
  -- Neither what was told before nor what the stops tell is of the life of the daemon.
  have htold : (Supervision.run p.os policy.shutdownAll d.dispatcher.world.state).2.lifecycle =
      [] := by
    rw [Supervision.lifecycle_run p.os policy.isReticent_shutdownAll, Supervision.lifecycle,
      h.world.handedOn]
    rfl
  rw [Array.toList_append, List.mem_append] at he
  rcases he with he | he
  · exact reticent_of_lifecycle h.world.reticent e he
  · simpa using List.filter_eq_nil_iff.1 htold e he

/-- A shutdown ends what the daemon started, and tells so. -/
theorem shutdown (h : IsServing p c told environment d) :
    ∃ s, (d.shutdown p).1 = (d.stopListener p).1.map (fun () => s) ∧
      IsReleased p d (d.shutdown p).2 s ∧
      (d.shutdown p).2.transcript.lifecycle = told ++ [⟨.main, released s⟩] ∧
      ∀ loops, p.ShowsLoops loops → loops (d.shutdown p).2.environment = loops environment := by
  -- The listener first, then the services, then the objects; each leaves what comes later.
  have hattempts : d.attempts p = (Services.policyOf d.config).attempts p.os
      (d.stopListener p).2.dispatcher.world.state := rfl
  obtain ⟨hserving, hlistener, hregistry, hsupervisor⟩ := h.stopListener
  rw [Daemon.shutdown]
  generalize d.stopListener p = x at hattempts hserving hlistener hregistry hsupervisor ⊢
  obtain ⟨ended, d₁⟩ := x
  dsimp only at hattempts hserving hlistener hregistry hsupervisor ⊢
  have hs : d₁.dispatcher.world.state.supervisor.Orderly := hserving.world.orderly
  obtain ⟨hnames, hstate, hregistry', hreticent, hlistener', htold⟩ := hserving.stopServices
  rw [hserving.config.trans h.config.symm] at hnames hstate
  generalize d₁.stopServices p = y at hnames hstate hregistry' hreticent hlistener' htold ⊢
  obtain ⟨names, d₂⟩ := y
  dsimp only at hnames hstate hregistry' hreticent hlistener' htold ⊢
  obtain ⟨hhandles, hlive, hstate', hlistener'', htold'⟩ := releaseHandles_spec d₂ hreticent
  generalize d₂.releaseHandles = z at hhandles hlive hstate' hlistener'' htold' ⊢
  obtain ⟨handles, d₃⟩ := z
  dsimp only at hhandles hlive hstate' hlistener'' htold' ⊢
  rw [hstate] at hstate'
  have hafter : d₃.dispatcher.world.state.supervisor = (Supervision.run p.os
      (Services.policyOf d.config).shutdownAll d₁.dispatcher.world.state).2.supervisor := by
    rw [hstate']
  refine ⟨⟨names, handles⟩, rfl, ?_, ?_, fun loops hl => ?_⟩
  · exact isReleased_of_shutdownAll h.world.orderly hsupervisor hattempts hafter hnames
      (hlistener''.trans (hlistener'.trans hlistener)) hlive
      (hhandles.trans (by rw [hregistry', hregistry]))
  · refine (Transcript.lifecycle_tell_of .main d₃.transcript rfl).trans ?_
    rw [htold', htold]
  · have hloops := hserving.loops loops hl
    rw [hlistener] at hloops
    change loops d₃.dispatcher.world.state.environment = _
    rw [hstate']
    exact (Supervision.view_run p.os hl.os _ _).trans hloops

end IsServing

/-! ## Runs -/

/-- The daemon of a run when its shutdown begins: it could not listen, or drivers were served
    and the wait is over. -/
def lastServed (p : Platform ω) (visits : List Visit) (waited : Waited) (d : Daemon ω) :
    Daemon ω :=
  match d.startListener p with
  | (.error _, d) => d
  | (.ok (), d) => tellSignal waited ((d.tell (listening d)).acceptAll visits).2

/-- How a run goes, by how listening begins and ends and by how the wait does. That the daemon
    does not stop listening in order counts for more than why it is shut down. -/
def verdict : Except Listener.Error Unit → Except Listener.Error Unit → Waited →
    Except RunError Unit
  | _, .error later, _ => .error (.listener later)
  | .error e, .ok (), _ => .error (.listener e)
  | .ok (), .ok (), .error cause => .error (.shutdown cause)
  | .ok (), .ok (), .ok _ => .ok ()

variable (p : Platform ω)

theorem IsServing.lastServed {p : Platform ω} {c : Config} {told : List Told} {environment : ω}
    {d : Daemon ω} (h : IsServing p c told environment d) (visits : List Visit)
    (waited : Waited) : IsServing p c told environment (d.lastServed p visits waited) := by
  have hstarted := h.startListener
  rw [Daemon.lastServed]
  generalize d.startListener p = x at hstarted ⊢
  obtain ⟨r, d₁⟩ := x
  cases r with
  | error e => exact hstarted
  | ok _ => exact ((hstarted.tell .main rfl).acceptAll visits).tellSignal waited

/-- A run of a daemon that was assembled ends with its shutdown; if that and all before went
    well, the end is told. -/
theorem run_of_bootstrap {loaded : Except Config.LoadFailure Config} {environment : ω}
    {t : Transcript} {d : Daemon ω} (h : bootstrap p loaded environment t = .ok d)
    (visits : List Visit) (waited : Waited) :
    let before := d.lastServed p visits waited
    ∃ told, Reticent told ∧ (run p loaded visits waited environment t).2 =
      remains (verdict (d.startListener p).1 ((before.shutdown p).1.map fun _ => ()) waited)
        { (before.shutdown p).2 with
          transcript := (before.shutdown p).2.transcript.tellAll .main told } := by
  intro before
  have hbefore : before = d.lastServed p visits waited := rfl
  rw [lastServed] at hbefore
  rw [run, launch, h]
  dsimp only
  generalize d.startListener p = x at hbefore ⊢
  obtain ⟨r, d₁⟩ := x
  cases r with
  | error e =>
    dsimp only at hbefore ⊢
    rw [hbefore]
    refine ⟨[], fun _ h => absurd h List.not_mem_nil, ?_⟩
    generalize d₁.shutdown p = y
    obtain ⟨ended, d₂⟩ := y
    cases ended with
    | error later => rfl
    | ok s => rfl
  | ok _ =>
    dsimp only at hbefore ⊢
    rw [conclude, ← hbefore]
    generalize before.shutdown p = y
    obtain ⟨ended, d₂⟩ := y
    cases ended with
    | error later => exact ⟨[], fun _ h => absurd h List.not_mem_nil, rfl⟩
    | ok s =>
      refine ⟨[Daemon.ended s], List.forall_mem_singleton.2 rfl, ?_⟩
      cases waited with
      | error cause => rfl
      | ok s => rfl

/-- Where no daemon can be assembled, why is told and reported, and what the environment is
    like does not matter. -/
theorem run_of_failed_bootstrap {loaded : Except Config.LoadFailure Config} {environment : ω}
    {t t' : Transcript} {e : BootstrapError}
    (h : bootstrap p loaded environment t = .error (e, t')) (visits : List Visit)
    (waited : Waited) (p' : Platform ω) (environment' : ω) :
    t'.told.toList = t.told.toList ++
        [⟨.main, .event .bootstrapStarting⟩, ⟨.main, .event (.bootstrapFailed e.message)⟩] ∧
      run p' loaded visits waited environment' t =
        ([], { result := .error (.bootstrap e), transcript := t' }) := by
  have hsame : bootstrap p' loaded environment' t = .error (e, t') ∧
      t' = (t.tell .main (.event .bootstrapStarting)).tell .main
        (.event (.bootstrapFailed e.message)) := by
    cases loaded with
    | error failure =>
      obtain ⟨rfl, rfl⟩ := Prod.mk.inj (Except.error.inj h)
      exact ⟨rfl, rfl⟩
    | ok c =>
      rw [bootstrap] at h ⊢
      generalize (t.tell .main (.event .bootstrapStarting)).install c = x at h ⊢
      cases x with
      | error cause =>
        obtain ⟨rfl, rfl⟩ := Prod.mk.inj (Except.error.inj h)
        exact ⟨rfl, rfl⟩
      | ok _ => cases h
  obtain ⟨hbootstrap, rfl⟩ := hsame
  refine ⟨?_, ?_⟩
  · simp [Transcript.tell]
  · rw [run, launch, hbootstrap]

/-- A run tells that the assembly of a daemon begins, and then either that it failed or that it
    succeeded, once.

    If it failed, nothing is served and nothing else is told, and the run is the same on every
    platform: it asks for no socket and no process.

    If it succeeded, the run ends with one shutdown, whether or not the daemon could listen, the
    signal could be waited for or the accept loop ended in order, and whatever drivers were
    served. Before it the supervisor was open; after it nothing is left but the services whose
    stops failed (`IsReleased`), and the accept loops that run are those that ran before. -/
theorem run_releases_what_it_holds (p : Platform ω) (loaded : Except Config.LoadFailure Config)
    (visits : List Visit) (waited : Waited) (environment : ω) (t : Transcript) :
    let r := run p loaded visits waited environment t
    match bootstrap p loaded environment t with
    | .error (e, _) =>
      r.1 = [] ∧ r.2.result = .error (.bootstrap e) ∧ r.2.daemon? = none ∧
        r.2.transcript.told.toList = t.told.toList ++
          [⟨.main, .event .bootstrapStarting⟩, ⟨.main, .event (.bootstrapFailed e.message)⟩] ∧
        ∀ p' environment', run p' loaded visits waited environment' t = r
    | .ok d =>
      let before := d.lastServed p visits waited
      ∃ after s, r.2.daemon? = some after ∧
        r.2.result = verdict (d.startListener p).1 (before.stopListener p).1 waited ∧
        before.dispatcher.world.state.supervisor.closed = false ∧
        IsReleased p before after s ∧
        (∀ loops, p.ShowsLoops loops → loops after.environment = loops environment) ∧
        r.2.transcript.lifecycle = t.lifecycle ++
          [⟨.main, .event .bootstrapStarting⟩, ⟨.main, .event (succeeded d.config)⟩,
            ⟨.main, released s⟩] := by
  intro r
  cases h : bootstrap p loaded environment t with
  | error x =>
    obtain ⟨e, t'⟩ := x
    have hrun := run_of_failed_bootstrap p h visits waited
    have hr : r = _ := (hrun p environment).2
    refine ⟨?_, ?_, ?_, ?_, fun p' environment' => ?_⟩
    · rw [hr]
    · rw [hr]
    · rw [hr]
    · rw [hr]
      exact (hrun p environment).1
    · rw [hr, (hrun p' environment').2]
  | ok d =>
    set before := d.lastServed p visits waited
    have hserving : IsServing p d.config _ environment before :=
      (isServing_bootstrap h).1.lastServed visits waited
    obtain ⟨s, hended, hreleased, hlifecycle, hloops⟩ := hserving.shutdown
    obtain ⟨told, htold, hr⟩ := run_of_bootstrap p h visits waited
    have hresult : (before.shutdown p).1.map (fun _ => ()) = (before.stopListener p).1 := by
      rw [hended]
      cases (before.stopListener p).1 <;> rfl
    rw [hresult] at hr
    generalize (before.shutdown p).2 = after at hr hreleased hlifecycle hloops
    have hr' : r.2 = remains (verdict (d.startListener p).1 (before.stopListener p).1 waited)
        { after with transcript := after.transcript.tellAll .main told } := hr
    refine ⟨{ after with transcript := after.transcript.tellAll .main told }, s, ?_, ?_,
      hserving.world.unclosed, ?_, hloops, ?_⟩
    · rw [hr', remains]
    · rw [hr', remains]
    · exact ⟨hreleased.listener, hreleased.tried, hreleased.stopped, hreleased.left,
        hreleased.refused, hreleased.forgotten⟩
    · rw [hr', remains]
      dsimp only
      rw [Transcript.lifecycle_tellAll _ _ htold, hlifecycle, List.append_assoc]
      rfl

/-- A platform whose processes run on because no signal may be sent, and whose accept loops break
    down before they end. Its environment is the list of the loops that run. -/
def stubbornPlatform : Platform (List Nat) where
  os
    | .spawn _, running => (.ok 1, running)
    | .poll _, running => (.ok none, running)
    | .await _, running => (.ok (.exited 0), running)
    | .signal _ _, running => (.error .notPermitted, running)
    | .now, running => ((0 : Nat), running)
    | .sleep _, running => ((), running)
    | .knock _ _, running => (true, running)
  sockets
    | .makeDirectories _, running => (.ok (), running)
    | .inspect _, running => (.ok .other, running)
    | .connect _, running => (.ok (), running)
    | .remove _, running => (.ok (), running)
    | .bindUnix _, running => (.ok 0, running)
    | .resolve _ port, running => (.ok (some ⟨.loopback, port⟩), running)
    | .bindTcp a, running => (.ok (0, a), running)
    | .unblock _, running => (.ok (), running)
    | .spawn socket, running => (.ok (), socket :: running)
    | .finish socket, running => (false, running.erase socket)
    | .close _, running => ((), running)

/-- A driver starts the database server, which then can neither be stopped nor does the accept
    loop end in order. The run ends with that failure; the loop does not run any more, there are
    no objects, and what is still tracked is the service that could not be stopped. -/
theorem broken_loop_does_not_keep_from_release :
    let visit : Visit :=
      { source := ⟨[Bytes.ofString "\x7b\"method\":\"start_cb_server\"\x7d\n"], .closed⟩ }
    let r := run stubbornPlatform (.ok .default) [visit] (.ok none) [] {}
    r.2.result = .error (.listener .panicked) ∧ ∃ after, r.2.daemon? = some after ∧
      after.environment = [] ∧ after.listener = none ∧
      after.dispatcher.world.registry.live = [] ∧
      after.dispatcher.world.state.supervisor.tracked = ["cb_server"] := by
  intro visit r
  have hshows : stubbornPlatform.ShowsLoops id := by
    refine ⟨fun c w => ?_, fun c w => ?_⟩
    · cases c <;> rfl
    · cases c <;> rfl
  have htracked : r.2.daemon?.map (fun d => d.dispatcher.world.state.supervisor.tracked) =
      some ["cb_server"] := by decide
  have hrun := run_releases_what_it_holds stubbornPlatform (.ok .default) [visit] (.ok none) [] {}
  refine ⟨by decide, ?_⟩
  cases h : bootstrap stubbornPlatform (.ok .default) [] {} with
  | error e =>
    have hok : (bootstrap stubbornPlatform (.ok .default) [] {}).isOk = true := by decide
    rw [h] at hok
    exact absurd hok Bool.false_ne_true
  | ok d =>
    rw [h] at hrun
    obtain ⟨after, s, hafter, -, -, hreleased, hloops, -⟩ := hrun
    refine ⟨after, hafter, hloops id hshows, hreleased.listener, hreleased.forgotten.1, ?_⟩
    have hdaemon : r.2.daemon? = some after := hafter
    rw [hdaemon] at htracked
    exact Option.some.inj htracked

end Testbed.Daemon
