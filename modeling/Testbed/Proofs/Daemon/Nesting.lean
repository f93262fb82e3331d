import Testbed.Proofs.Collection.Nesting
import Testbed.Proofs.Daemon.Shutdown
import Testbed.Proofs.Json.Decimals
import Testbed.Proofs.Protocol.Line

/-!
# How deep replies nest

A daemon reads requests that nest at most `nestingLimit` levels deep, and stores nothing of them
that nests more than two levels less (`storedDepth`). So every line that it answers nests at most
as deep as a request may.

* `maintains_fitsIn`: the invariant of all methods of the daemon;
* `fitsIn_of_mem_run`: what is told in a run.
-/

namespace Testbed

open Argument Protocol Json Service Method

variable {ω : Type} {n : Nat}

namespace Method.Services

variable {os : OperatingSystem ω} {config : Config}

/-- What a method of services comes to is told in an object of scalars. -/
theorem fitsIn_of_answered {outcome : Except Failure Outcome} (h : Answered outcome) :
    Outcome.FitsIn (n + 1) outcome := by
  cases h with
  | failed e => exact .failed e
  | stopped => exact .void
  | standing phase => exact .value (Value.fitsIn_string _)
  | started info =>
    refine .value (Value.fitsIn_object_iff.2 ?_)
    simp only [List.forall_mem_cons]
    exact ⟨Value.fitsIn_string _, Value.fitsIn_number (isFinite_ofNat info.pid),
      fun _ he => absurd he List.not_mem_nil⟩

theorem keepsNesting_services {m : Method (Supervision ω)} (hm : m ∈ table os config)
    (arguments : Arguments) :
    (m.handler arguments).Keeps World.perform (World.FitsIn n) (Outcome.FitsIn (n + 1)) := by
  -- The supervisor leaves the objects alone.
  have hsupervise : ∀ {α : Type} (p : Procedure α),
      (supervise os p).Keeps World.perform (World.FitsIn n) fun _ => True := by
    intro α p w hw
    obtain ⟨-, hheap⟩ := keepsObjects_supervise os p w
    exact ⟨(congrArg (Heap.FitsIn n) hheap).mpr hw, trivial⟩
  exact (keeps_services (fun _ => hsupervise _) (fun _ => hsupervise _) (fun _ => hsupervise _)
    hm arguments).mono fun _ => fitsIn_of_answered

end Method.Services

namespace Daemon

/-- How deep a value may nest that is stored. -/
def storedDepth : Nat := nestingLimit - 2

section Methods

variable (p : Platform ω) (c : Config)

/-- Every method of the daemon stores only what nests at most so deep, and is answered with a
    line that nests at most as deep as a request may. -/
theorem maintains_fitsIn :
    (methodTable p c).Maintains (World.FitsIn storedDepth) (Response.FitsIn nestingLimit) where
  call m hm line request registry arguments hline hresolve := by
    have ha : arguments.FitsIn storedDepth :=
      Arguments.fitsIn_of_resolve (Request.fitsIn_of_parse hline) hresolve
    have hhandler : (m.handler arguments).Keeps World.perform (World.FitsIn storedDepth)
        (Outcome.FitsIn (storedDepth + 1)) := by
      rcases mem_methodTable hm with hb | hc | hs
      · exact keeps_builtin hb arguments
      · exact Collections.keeps_collections hc ha
      · exact Services.keepsNesting_services hs arguments
    exact hhandler.bind fun _ => keeps_respond
  tell _ _ _ _ hw := hw
  error e := Response.fitsIn_error e

end Methods

variable {p : Platform ω} {c : Config} {told : List Told} {environment : ω} {d : Daemon ω}

/-! ## Serving -/

section Replies

variable {I : World (Supervision ω) → Prop} {Q : Response → Prop}
  (hmethods : (methodTable p c).Maintains I Q)
  (hjournal : ∀ w journal, I w → I { w with journal })
include hmethods hjournal

/-- What all methods are answered with has the property, and so has what a driver is told. -/
theorem IsServing.replies_accept (h : IsServing p c told environment d)
    (hI : I d.dispatcher.world) (v : Visit) :
    I (d.accept v).2.dispatcher.world ∧
      ∀ reply ∈ (d.accept v).1, ∃ response, Q response ∧ reply = Response.line response := by
  obtain ⟨-, hworld, hreplies⟩ := hmethods.serve v.source v.sink h.methods hI
  rw [Daemon.accept]
  split
  case isTrue => exact ⟨hI, fun _ h => absurd h List.not_mem_nil⟩
  case isFalse => exact ⟨hjournal _ _ hworld, hreplies⟩

theorem IsServing.replies_acceptAll (h : IsServing p c told environment d)
    (hI : I d.dispatcher.world) (visits : List Visit) :
    ∀ replies ∈ (d.acceptAll visits).1, ∀ reply ∈ replies,
      ∃ response, Q response ∧ reply = Response.line response := by
  induction visits generalizing d with
  | nil => exact fun _ h => absurd h List.not_mem_nil
  | cons v rest ih =>
    obtain ⟨hworld, hreplies⟩ := h.replies_accept hmethods hjournal hI v
    exact List.forall_mem_cons.2 ⟨hreplies, ih (h.accept v) hworld⟩

end Replies

/-! ## Runs -/

theorem heap_startListener (p : Platform ω) (d : Daemon ω) :
    (d.startListener p).2.dispatcher.world.heap = d.dispatcher.world.heap := by
  rw [startListener]
  split
  case isTrue => rfl
  case isFalse =>
    have hbound : (d.onSockets p (Listener.bind d.config.listen)).2.dispatcher.world.heap =
      d.dispatcher.world.heap := rfl
    generalize d.onSockets p (Listener.bind d.config.listen) = x at hbound ⊢
    obtain ⟨r, d'⟩ := x
    cases r with
    | error e => exact hbound
    | ok b =>
      have hstarted : (d'.onSockets p (Listener.start b)).2.dispatcher.world.heap =
        d'.dispatcher.world.heap := rfl
      dsimp only [startBound]
      generalize d'.onSockets p (Listener.start b) = y at hstarted ⊢
      obtain ⟨⟨r', told⟩, d''⟩ := y
      cases r' with
      | error e => exact hstarted.trans hbound
      | ok _ => exact hstarted.trans hbound

theorem heap_assemble (p : Platform ω) (c : Config) (telemetry : Telemetry) (environment : ω)
    (t : Transcript) : (assemble p c telemetry environment t).dispatcher.world.heap = {} := by
  obtain ⟨journal, hworld⟩ := Dispatcher.world_build (features p c) { state := { environment } }
  rw [assemble, relay]
  generalize Dispatcher.build (features p c) { state := { environment } } = dispatcher at hworld ⊢
  dsimp only
  rw [hworld]

/-- A daemon that was assembled has no objects. -/
theorem heap_bootstrap {loaded : Except Config.LoadFailure Config} {t : Transcript}
    (h : bootstrap p loaded environment t = .ok d) : d.dispatcher.world.heap = {} := by
  cases loaded with
  | error failure => cases h
  | ok c =>
    rw [bootstrap] at h
    split at h
    case h_1 => cases h
    case h_2 telemetry t' hinstall =>
      have hheap := heap_assemble p c telemetry environment t'
      generalize assemble p c telemetry environment t' = d' at h hheap
      obtain rfl := Except.ok.inj h
      exact hheap

/-- Whatever drivers send, what they are told in a run nests at most as deep as what they may
    send. -/
theorem fitsIn_of_mem_run {loaded : Except Config.LoadFailure Config} {visits : List Visit}
    {waited : Waited} {t : Transcript} {replies : List Bytes} {reply : Bytes}
    (hreplies : replies ∈ (run p loaded visits waited environment t).1)
    (hreply : reply ∈ replies) :
    ∃ response, Response.FitsIn nestingLimit response ∧ reply = Response.line response := by
  rw [run, launch] at hreplies
  cases hassembled : bootstrap p loaded environment t with
  | error e =>
    rw [hassembled] at hreplies
    exact absurd hreplies List.not_mem_nil
  | ok d =>
    have hserving := (isServing_bootstrap hassembled).1.startListener
    have hheap := (heap_startListener p d).trans (heap_bootstrap hassembled)
    rw [hassembled] at hreplies
    dsimp only at hreplies
    generalize d.startListener p = x at hreplies hserving hheap
    obtain ⟨r, d'⟩ := x
    cases r with
    | error e =>
      dsimp only at hreplies
      generalize d'.shutdown p = y at hreplies
      obtain ⟨r', d''⟩ := y
      cases r' <;> exact absurd hreplies List.not_mem_nil
    | ok _ =>
      -- Nothing is kept before the first driver comes.
      have hempty : d'.dispatcher.world.FitsIn storedDepth := by
        rw [World.FitsIn, hheap]
        exact fun c hc => absurd hc (Array.not_mem_empty c)
      exact (hserving.tell .main (e := listening d') rfl).replies_acceptAll
        (maintains_fitsIn p _) (fun _ _ hw => hw) hempty visits replies hreplies reply hreply

/-- Every line that a driver is told in a run can be read: whatever the drivers send, and however
    the platform answers, it is the text of a value that nests at most 127 levels, which is as
    deep as a text may that is read, and the numbers in it are read without an overflow. -/
theorem replies_nest_no_deeper_than_requests (p : Platform ω)
    (loaded : Except Config.LoadFailure Config) (visits : List Visit) (waited : Waited)
    (environment : ω) (t : Transcript) :
    ∀ replies ∈ (run p loaded visits waited environment t).1, ∀ reply ∈ replies,
      ∃ v : Value, reply = v.print ++ [Bytes.lineFeed] ∧ v.depth ≤ 127 ∧
        ∃ w, Value.read v.print = .ok w := by
  intro replies hreplies reply hreply
  obtain ⟨response, hfits, rfl⟩ := fitsIn_of_mem_run hreplies hreply
  have hnumbers : ∀ x ∈ response.json.numbers, x.Rereads := fun x hx =>
    rereads_of_isFinite (hfits.finite x hx)
  exact ⟨response.json, rfl, hfits.depth, exists_read_print hfits.depth hnumbers⟩

/-- A request as a driver may write it. -/
def requestLine (method : String) (arguments : Json.Object) : Bytes :=
  Value.print (.object [("method", .string method), ("args", .object arguments)]) ++
    [Bytes.lineFeed]

/-- A request may store 125 arrays in one another. The reply with all the entries of their
    dictionary nests 127 levels, and can be read. -/
theorem deepest_stored_value_is_told :
    let visit : Visit := { source := ⟨[requestLine "dictionary_create" [],
      requestLine "dictionary_setValue"
        [("dictionary", .string "@1"), ("key", .string "deep"), ("value", nested 124)],
      requestLine "dictionary_toMap" [("dictionary", .string "@1")]], .closed⟩ }
    let told := (run stubbornPlatform (.ok .default) [visit] (.ok none) [] {}).1
    let response : Response := .ok (.value (.object [("deep", nested 124)]))
    told.map List.getLast? = [some response.line] ∧ response.json.depth = 127 ∧
      ∃ v : Value, response.line = v.print ++ [Bytes.lineFeed] ∧ v.depth ≤ 127 ∧
        ∃ w, Value.read v.print = .ok w := by
  intro visit told response
  have hlast : told.map List.getLast? = [some response.line] := by decide +kernel
  obtain ⟨replies, hreplies, hreply⟩ : ∃ replies ∈ told, replies.getLast? = some response.line :=
    List.mem_map.1 (hlast ▸ List.mem_singleton_self _)
  exact ⟨hlast, by decide +kernel, replies_nest_no_deeper_than_requests stubbornPlatform
    (.ok .default) [visit] (.ok none) [] {} replies hreplies _ (List.mem_of_getLast? hreply)⟩

end Daemon

end Testbed
