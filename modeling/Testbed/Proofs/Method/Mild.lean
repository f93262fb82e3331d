import Testbed.Method.Builtin
import Testbed.Method.Collections
import Testbed.Dispatcher
import Testbed.Proofs.Program
import Testbed.Proofs.Service.Telling

/-!
# Methods without a state

The built-in methods and those of collections never ask for the state of the features, and
tell nothing of the life of the daemon (`Command.IsMild`). So whatever they do leaves the
state as it was, and adds nothing to what was told of that life (`World.lifecycle`).

* `isMild_builtin`, `isMild_collections`: the commands of these methods;
* `Action.state_run_of_isMild`, `Action.lifecycle_run_of_isMild`: what follows for their runs.
-/

namespace Testbed

open Argument Protocol Method
open Program (Issues issues_issue)

variable {σ α : Type}

/-- A command that leaves the state of the features alone, and tells nothing of the life of the
    daemon. -/
def Command.IsMild : Command σ → Prop
  | .setState _ => False
  | .tell e => e.isLifecycle = false
  | _ => True

/-- What was told of the life of the daemon. -/
def World.lifecycle (w : World σ) : List Entry := w.journal.toList.filter Entry.isLifecycle

/-- What is not of the life of the daemon adds nothing to what was told of it. -/
theorem World.lifecycle_tell {e : Entry} (he : e.isLifecycle = false) (w : World σ) :
    (w.tell e).lifecycle = w.lifecycle := by
  rw [lifecycle, World.tell, Array.toList_push, List.filter_append,
    List.filter_cons_of_neg (by simp [he]), List.filter_nil, List.append_nil, lifecycle]

namespace Action

variable {c : Command σ}

theorem state_perform_of_isMild (hc : c.IsMild) (w : World σ) :
    (World.perform c w).2.state = w.state := by
  cases c with
  | setState s => exact absurd hc id
  | release h =>
    rw [World.perform]
    split
    · rfl
    · rfl
  | _ => rfl

theorem lifecycle_perform_of_isMild (hc : c.IsMild) (w : World σ) :
    (World.perform c w).2.lifecycle = w.lifecycle := by
  cases c with
  | setState s => exact absurd hc id
  | tell e => exact World.lifecycle_tell hc w
  | register o => exact World.lifecycle_tell rfl _
  | clear => exact World.lifecycle_tell rfl _
  | release h =>
    rw [World.perform]
    split
    · exact World.lifecycle_tell rfl _
    · rfl
  | _ => rfl

variable {a : Action σ α}

theorem state_run_of_isMild (ha : a.Issues Command.IsMild) (w : World σ) :
    (a.run w).2.state = w.state :=
  ha.view_run (fun _ w hc => state_perform_of_isMild hc w) w

theorem lifecycle_run_of_isMild (ha : a.Issues Command.IsMild) (w : World σ) :
    (a.run w).2.lifecycle = w.lifecycle :=
  ha.view_run (fun _ w hc => lifecycle_perform_of_isMild hc w) w

end Action

namespace Method

open Collections

theorem isMild_pure (x : α) : (pure x : Action σ α).Issues Command.IsMild := trivial

theorem isMild_issue_bind {c : Command σ} {β : Type} {f : c.Answer → Action σ β}
    (hc : c.IsMild) (h : ∀ r, (f r).Issues Command.IsMild) :
    (Program.issue c >>= f).Issues Command.IsMild :=
  (issues_issue hc).bind h

theorem isMild_builtin {m : Method σ} (hm : m ∈ Builtin.table) (arguments : Arguments) :
    (m.handler arguments).Issues Command.IsMild := by
  rcases List.mem_cons.1 hm with rfl | hm
  case inl =>
    change (Builtin.release arguments).Issues Command.IsMild
    rw [Builtin.release]
    cases arguments.liveObject "object" with
    | error e => exact isMild_pure _
    | ok o =>
      refine isMild_issue_bind trivial fun released => ?_
      cases released with
      | error e => exact isMild_pure _
      | ok tag => exact isMild_issue_bind rfl fun _ => isMild_pure _
  obtain rfl := List.mem_singleton.1 hm
  exact isMild_issue_bind trivial fun _ => isMild_pure _

theorem isMild_withObject {type : ObjectType} {name : String} {arguments : Arguments}
    {next : Object → Action σ (Except Failure Outcome)}
    (h : ∀ o, (next o).Issues Command.IsMild) :
    (withObject type name arguments next).Issues Command.IsMild := by
  rw [withObject]
  cases arguments.object type name with
  | error e => exact isMild_pure _
  | ok o => exact h o

theorem isMild_collections {m : Method σ} (hm : m ∈ Collections.table) (arguments : Arguments) :
    (m.handler arguments).Issues Command.IsMild := by
  have hentries : ∀ o, (entries o : Action σ _).Issues Command.IsMild := fun o =>
    isMild_issue_bind trivial fun _ => isMild_pure _
  have hitems : ∀ o, (items o : Action σ _).Issues Command.IsMild := fun o =>
    isMild_issue_bind trivial fun _ => isMild_pure _
  simp only [Collections.table, List.mem_cons, List.not_mem_nil, or_false] at hm
  rcases hm with rfl | rfl | rfl | rfl | rfl | rfl | rfl | rfl | rfl
  · change (dictionaryCreate arguments).Issues Command.IsMild
    rw [dictionaryCreate]
    cases arguments.mapping? "content" with
    | error e => exact isMild_pure _
    | ok content => exact isMild_issue_bind trivial fun _ => isMild_pure _
  · refine isMild_withObject fun o => ?_
    cases arguments.string "key" with
    | error e => exact isMild_pure _
    | ok key =>
      exact (hentries o).bind fun _ => isMild_issue_bind trivial fun _ => isMild_pure _
  · refine isMild_withObject fun o => ?_
    cases arguments.string "key" with
    | error e => exact isMild_pure _
    | ok key => exact (hentries o).bind fun _ => isMild_pure _
  · exact isMild_withObject fun o => (hentries o).bind fun _ => isMild_pure _
  · exact isMild_withObject fun o => (hentries o).bind fun _ => isMild_pure _
  · change (arrayCreate arguments).Issues Command.IsMild
    rw [arrayCreate]
    cases arguments.sequence? "content" with
    | error e => exact isMild_pure _
    | ok content => exact isMild_issue_bind trivial fun _ => isMild_pure _
  · exact isMild_withObject fun o =>
      (hitems o).bind fun _ => isMild_issue_bind trivial fun _ => isMild_pure _
  · refine isMild_withObject fun o => ?_
    cases arguments.natural "index" with
    | error e => exact isMild_pure _
    | ok index =>
      refine (hitems o).bind fun held => ?_
      cases held[index]? with
      | none => exact isMild_pure _
      | some v => exact isMild_pure _
  · exact isMild_withObject fun o => (hitems o).bind fun _ => isMild_pure _

theorem isMild_respond (outcome : Except Failure Outcome) :
    (Dispatcher.respond outcome : Action σ Response).Issues Command.IsMild := by
  rcases outcome with e | _ | v | o
  · exact isMild_pure _
  · exact isMild_pure _
  · exact isMild_pure _
  · exact isMild_issue_bind trivial fun _ => isMild_pure _

end Method

end Testbed
