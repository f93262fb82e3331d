import Testbed.Daemon.Run
import Testbed.Proofs.Daemon.Open
import Testbed.Proofs.Listener

/-!
# A daemon that serves

From its assembly until its shutdown begins a daemon is of its configuration, has the methods
of every daemon and a world that is open; of its life nothing is told but how it came up; and
the only accept loop that it has added to those of its environment is its own
(`IsServing`). This holds whether or not it can listen, and whatever drivers send.

* `isServing_bootstrap`: of a daemon that was assembled;
* `IsServing.startListener`, `IsServing.acceptAll`, `IsServing.tellSignal`: of what becomes of it.
-/

namespace Testbed

open Service Method Listener

variable {ω : Type}

/-! ## What is told while a dispatcher is built -/

namespace Dispatcher

variable {σ : Type}

theorem lifecycle_tellAll {entries : List Entry} (h : Reticent entries) (w : World σ) :
    (tellAll entries w).lifecycle = w.lifecycle := by
  induction entries generalizing w with
  | nil => rfl
  | cons e entries ih =>
    obtain ⟨he, hentries⟩ := List.forall_mem_cons.1 h
    rw [tellAll, List.foldl_cons]
    exact (ih hentries (w.tell e)).trans (World.lifecycle_tell he w)

theorem reticent_report (source message : String) (count : Nat) (replaced : List String) :
    Reticent (Router.report source message count replaced) := by
  intro e he
  rcases List.mem_append.1 he with h | h
  · obtain ⟨method, -, rfl⟩ := List.mem_map.1 h
    rfl
  · rw [List.mem_singleton.1 h]
    rfl

theorem lifecycle_install (f : Feature σ) (d : Dispatcher σ) :
    (d.install f).world.lifecycle = d.world.lifecycle := by
  refine lifecycle_tellAll (fun e he => ?_) d.world
  rcases List.mem_append.1 he with h | h
  · exact reticent_report _ _ _ _ e h
  · rw [List.mem_singleton.1 h]
    rfl

theorem lifecycle_build (features : List (Feature σ)) (w : World σ) :
    (build features w).world.lifecycle = w.lifecycle := by
  have hfold : ∀ d : Dispatcher σ, d.world.lifecycle = w.lifecycle →
      (features.foldl install d).world.lifecycle = w.lifecycle := by
    induction features with
    | nil => exact fun _ hd => hd
    | cons f features ih => exact fun d hd => ih _ ((lifecycle_install f d).trans hd)
  exact hfold _ (lifecycle_tellAll (reticent_report _ _ _ _) w)

end Dispatcher

/-- A view of the environment by which the accept loops can be told that run in it. The
    supervisor has nothing to do with them. -/
structure Platform.ShowsLoops (p : Platform ω) (loops : ω → List Nat) : Prop where
  os : ∀ c w, loops (p.os c w).2 = loops w
  sockets : p.sockets.ShowLoops loops

namespace Daemon

/-! ## The transcript -/

/-- What was told of the life of the daemon, and by whom. -/
def Transcript.lifecycle (t : Transcript) : List Told :=
  t.told.toList.filter fun x => x.entry.isLifecycle

namespace Transcript

variable (thread : Thread) (t : Transcript)

theorem lifecycle_tell_of {e : Entry} (he : e.isLifecycle = true) :
    (t.tell thread e).lifecycle = t.lifecycle ++ [⟨thread, e⟩] := by
  rw [lifecycle, tell, Array.toList_push, List.filter_append, lifecycle]
  simp [he]

theorem lifecycle_tell {e : Entry} (he : e.isLifecycle = false) :
    (t.tell thread e).lifecycle = t.lifecycle := by
  rw [lifecycle, tell, Array.toList_push, List.filter_append, lifecycle]
  simp [he]

theorem lifecycle_tellAll {entries : List Entry} (h : Reticent entries) :
    (t.tellAll thread entries).lifecycle = t.lifecycle := by
  induction entries generalizing t with
  | nil => rfl
  | cons e entries ih =>
    obtain ⟨he, hentries⟩ := List.forall_mem_cons.1 h
    rw [tellAll, List.foldl_cons]
    exact (ih (t.tell thread e) hentries).trans (t.lifecycle_tell thread he)

theorem told_install {c : Config} {telemetry : Telemetry} {t t' : Transcript}
    (h : t.install c = .ok (telemetry, t')) : t'.told = t.told := by
  rw [install] at h
  split at h
  case h_1 =>
    obtain ⟨-, rfl⟩ := Prod.mk.inj (Except.ok.inj h)
    rfl
  case h_2 =>
    cases hfilter : Log.Filter.parse c.logFilter with
    | error e =>
      rw [hfilter] at h
      exact absurd h nofun
    | ok filter =>
      rw [hfilter] at h
      obtain ⟨-, rfl⟩ := Prod.mk.inj (Except.ok.inj h)
      rfl

end Transcript

/-! ## Serving -/

/-- A daemon of a configuration that serves, of the life of which so much was told, and that was
    assembled in an environment. -/
structure IsServing (p : Platform ω) (c : Config) (told : List Told) (environment : ω)
    (d : Daemon ω) : Prop where
  /-- It is of the configuration. -/
  config : d.config = c
  /-- It has the methods of every daemon. -/
  methods : d.dispatcher.router.methods = (methodTable p c).byName
  /-- It was not shut down. -/
  world : d.dispatcher.world.IsOpen
  /-- What was told of its life. -/
  lifecycle : d.transcript.lifecycle = told
  /-- The only accept loop that was added to those of the environment is its own. -/
  loops : ∀ loops, p.ShowsLoops loops →
    loops d.environment = (d.listener.map Bound.socket).toList ++ loops environment

variable {p : Platform ω} {c : Config} {told : List Told} {environment : ω} {d : Daemon ω}

namespace IsServing

theorem tell (h : IsServing p c told environment d) (thread : Thread) {e : Entry}
    (he : e.isLifecycle = false) :
    IsServing p c told environment { d with transcript := d.transcript.tell thread e } :=
  ⟨h.config, h.methods, h.world, (d.transcript.lifecycle_tell thread he).trans h.lifecycle,
    h.loops⟩

theorem tellAll (h : IsServing p c told environment d) (thread : Thread) {entries : List Entry}
    (he : Reticent entries) :
    IsServing p c told environment
      { d with transcript := d.transcript.tellAll thread entries } :=
  ⟨h.config, h.methods, h.world, (d.transcript.lifecycle_tellAll thread he).trans h.lifecycle,
    h.loops⟩

theorem relay (h : IsServing p c told environment d) (thread : Thread) :
    IsServing p c told environment (relay thread d) where
  config := h.config
  methods := h.methods
  world := ⟨h.world.orderly, h.world.unclosed, h.world.handedOn, rfl⟩
  lifecycle := by
    refine (d.transcript.lifecycle_tellAll thread fun e he => ?_).trans h.lifecycle
    simpa using List.filter_eq_nil_iff.1 h.world.reticent e he
  loops := h.loops

/-! ### Listening -/

/-- The listener changes the environment, and at most the accept loop of the daemon. -/
theorem withEnvironment (h : IsServing p c told environment d) (environment' : ω)
    (listener : Option Bound) (address : Option Net.SocketAddress) (connections : Nat)
    (hloops : ∀ loops, p.ShowsLoops loops →
      loops environment' = (listener.map Bound.socket).toList ++ loops environment) :
    IsServing p c told environment
      { d.withEnvironment environment' with listener, address, connections } :=
  ⟨h.config, h.methods,
    ⟨h.world.orderly, h.world.unclosed, h.world.handedOn, h.world.reticent⟩, h.lifecycle, hloops⟩

theorem startBound (h : IsServing p c told environment d) (hd : d.listener = none) (b : Bound) :
    IsServing p c told environment (d.startBound p b).2 := by
  have htold : Reticent ((Listener.start b).run p.sockets d.environment).1.2 :=
    (yields_start b).run d.environment
  have hloops := fun loops (hl : p.ShowsLoops loops) =>
    loops_start hl.sockets b d.environment
  rw [Daemon.startBound, onSockets]
  generalize (Listener.start b).run p.sockets d.environment = x at htold hloops ⊢
  obtain ⟨⟨r, entries⟩, environment'⟩ := x
  cases r with
  | error e =>
    have hsame := h.withEnvironment environment' d.listener d.address d.connections
      fun loops hl => (hloops loops hl).trans (h.loops loops hl)
    exact hsame.tellAll .main htold
  | ok _ =>
    refine (h.withEnvironment environment' (some b) b.address 0 fun loops hl => ?_).tellAll
      .accept htold
    have hbefore : loops d.environment = loops environment := by simpa [hd] using h.loops loops hl
    rw [hloops loops hl, hbefore]
    rfl

theorem startListener (h : IsServing p c told environment d) :
    IsServing p c told environment (d.startListener p).2 := by
  rw [Daemon.startListener]
  split
  case isTrue => exact h
  case isFalse hnot =>
    have hd : d.listener = none := by simpa [isListening] using hnot
    have hbound : IsServing p c told environment
        (d.onSockets p (Listener.bind d.config.listen)).2 := by
      refine h.withEnvironment ((Listener.bind d.config.listen).run p.sockets d.environment).2
        d.listener d.address d.connections fun loops hl => ?_
      exact (loops_bind hl.sockets _ _).trans (h.loops loops hl)
    have hlistener : (d.onSockets p (Listener.bind d.config.listen)).2.listener = none := hd
    generalize d.onSockets p (Listener.bind d.config.listen) = x at hbound hlistener ⊢
    obtain ⟨r, d'⟩ := x
    cases r with
    | error e => exact hbound
    | ok b => exact hbound.startBound hlistener b

/-! ### Serving drivers -/

theorem serve (h : IsServing p c told environment d) (thread : Thread) (v : Visit) :
    IsServing p c told environment (d.serve thread v).2 := by
  obtain ⟨hrouter, hworld, -⟩ :=
    (maintains_isOpen p c).serve v.source v.sink h.methods h.world
  have hserved : IsServing p c told environment
      { d with dispatcher := (Connection.serve v.source v.sink d.dispatcher).2 } := by
    refine ⟨h.config, (congrArg _ hrouter).trans h.methods, hworld, h.lifecycle,
      fun loops hl => ?_⟩
    obtain ⟨-, hview, -⟩ :=
      (maintains_view p c hl.os _).serve v.source v.sink h.methods (h.loops loops hl)
    exact hview
  exact hserved.relay thread

theorem accept (h : IsServing p c told environment d) (v : Visit) :
    IsServing p c told environment (d.accept v).2 := by
  rw [Daemon.accept]
  split
  case isTrue => exact h
  case isFalse =>
    have htaken : IsServing p c told environment { d with
        transcript :=
          d.transcript.tell .accept (Listener.accepted (d.connections + 1) v.peer.text)
        connections := d.connections + 1 } :=
      ⟨h.config, h.methods, h.world, (d.transcript.lifecycle_tell _ rfl).trans h.lifecycle,
        h.loops⟩
    exact (htaken.serve _ v).tell _ rfl

theorem acceptAll (h : IsServing p c told environment d) (visits : List Visit) :
    IsServing p c told environment (d.acceptAll visits).2 := by
  induction visits generalizing d with
  | nil => exact h
  | cons v rest ih => exact ih (h.accept v)

theorem tellSignal (h : IsServing p c told environment d) (waited : Waited) :
    IsServing p c told environment (tellSignal waited d) := by
  rcases waited with cause | _ | s
  · exact h
  · exact h
  · exact h.tell .main rfl

end IsServing

theorem isServing_assemble (p : Platform ω) (c : Config) (telemetry : Telemetry)
    (environment : ω) (t : Transcript) :
    IsServing p c t.lifecycle environment (assemble p c telemetry environment t) := by
  obtain ⟨journal, hworld⟩ := Dispatcher.world_build (features p c) { state := { environment } }
  have hstate : (Dispatcher.build (features p c) { state := { environment } }).world.state =
      { environment } := congrArg World.state hworld
  -- What is told while the methods are installed is not of the life of the daemon.
  have hreticent :
      (Dispatcher.build (features p c) { state := { environment } }).world.lifecycle = [] :=
    Dispatcher.lifecycle_build _ _
  refine IsServing.relay ?_ .main
  refine ⟨rfl, methods_build_features p c _, ⟨?_, ?_, ?_, hreticent⟩, rfl, fun loops _ => ?_⟩
  · rw [hstate]
    exact Supervisor.orderly_new
  · rw [hstate]
  · rw [hstate]
  · rw [Daemon.environment, hstate]
    rfl

/-- A daemon that was assembled serves, and does not listen yet. -/
theorem isServing_bootstrap {loaded : Except Config.LoadFailure Config} {t : Transcript}
    (h : bootstrap p loaded environment t = .ok d) :
    IsServing p d.config (t.lifecycle ++
      [⟨.main, .event .bootstrapStarting⟩, ⟨.main, .event (succeeded d.config)⟩])
      environment d ∧ d.listener = none := by
  cases loaded with
  | error failure => exact absurd h nofun
  | ok c =>
    rw [bootstrap] at h
    split at h
    case h_1 => exact absurd h nofun
    case h_2 telemetry t' hinstall =>
      have hassembled := isServing_assemble p c telemetry environment t'
      have hlistener : (assemble p c telemetry environment t').listener = none := rfl
      generalize assemble p c telemetry environment t' = d' at h hassembled hlistener
      obtain rfl := Except.ok.inj h
      have hlifecycle : t'.lifecycle = t.lifecycle ++ [⟨.main, .event .bootstrapStarting⟩] := by
        rw [Transcript.lifecycle, Transcript.told_install hinstall, ← Transcript.lifecycle]
        exact Transcript.lifecycle_tell_of .main t rfl
      have hconfig : (d'.tell (.event (succeeded c))).config = c := hassembled.config
      rw [hconfig]
      refine ⟨⟨hconfig, hassembled.methods, hassembled.world, ?_, hassembled.loops⟩, hlistener⟩
      refine (Transcript.lifecycle_tell_of _ _ rfl).trans ?_
      rw [hassembled.lifecycle, hlifecycle, List.append_assoc]
      rfl

end Daemon

end Testbed
