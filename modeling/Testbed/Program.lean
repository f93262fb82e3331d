/-!
# Programs

A program is what a part of the daemon does, seen from outside: it is done with a
result, or it issues a command and goes on with the answer. What commands do is not
the program's affair, so the same program runs against any environment
(`Program.run`), and a run can be held up between two commands.

* `Program.run_bind`: a program made of two runs as the one after the other.
-/

namespace Testbed

/-- A program that issues commands from `Cmd`, answered as `Ans` says, and yields an `α`. -/
inductive Program (Cmd : Type) (Ans : Cmd → Type) (α : Type) : Type
  /-- Done. -/
  | done (a : α)
  /-- Issue a command, and go on with its answer. -/
  | step (c : Cmd) (next : Ans c → Program Cmd Ans α)

namespace Program

variable {Cmd : Type} {Ans : Cmd → Type} {α β σ : Type}

/-- One program after another, which is told the result of the first. -/
def andThen : Program Cmd Ans α → (α → Program Cmd Ans β) → Program Cmd Ans β
  | done a, f => f a
  | step c next, f => step c fun r => (next r).andThen f

instance : Monad (Program Cmd Ans) where
  pure := done
  bind := andThen

/-- The program that issues a single command. -/
def issue (c : Cmd) : Program Cmd Ans (Ans c) := step c done

/-- Runs a program in an environment, which answers each command and changes by it. -/
def run (perform : (c : Cmd) → σ → Ans c × σ) : Program Cmd Ans α → σ → α × σ
  | done a, s => (a, s)
  | step c next, s =>
    let (r, s) := perform c s
    (next r).run perform s

@[simp] theorem run_pure (perform : (c : Cmd) → σ → Ans c × σ) (a : α) (s : σ) :
    (pure a : Program Cmd Ans α).run perform s = (a, s) := rfl

@[simp] theorem run_issue (perform : (c : Cmd) → σ → Ans c × σ) (c : Cmd) (s : σ) :
    (issue c : Program Cmd Ans (Ans c)).run perform s = perform c s := rfl

theorem run_andThen (perform : (c : Cmd) → σ → Ans c × σ) (p : Program Cmd Ans α)
    (f : α → Program Cmd Ans β) (s : σ) :
    (p.andThen f).run perform s =
      (f (p.run perform s).1).run perform (p.run perform s).2 := by
  induction p generalizing s with
  | done a => rfl
  | step c next ih => simp only [andThen, run, ih]

theorem run_bind (perform : (c : Cmd) → σ → Ans c × σ) (p : Program Cmd Ans α)
    (f : α → Program Cmd Ans β) (s : σ) :
    (p >>= f).run perform s = (f (p.run perform s).1).run perform (p.run perform s).2 :=
  run_andThen perform p f s

end Program

end Testbed
