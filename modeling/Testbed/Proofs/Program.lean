import Testbed.Program

/-!
# Runs of programs

A run is observed by the commands it issues (`Program.issued`), in order, or by these with
their answers (`Program.exchanges`). A part of the environment that each command changes in a
way of its own is changed by a run as by its commands one after the other (`view_run`). What a
program yields whatever it is answered (`Yields`) every run of it yields; more generally, what
holds of its exchanges and its result whatever it is answered (`Ensures`) holds of every run.

A view of the environment that certain commands leave alone is left alone by a program that
issues no others whatever it is answered (`Issues`). What a run makes of an environment of a
certain kind is told by an invariant and by what the run yields there (`Keeps`).
-/

namespace Testbed.Program

variable {Cmd : Type} {Ans : Cmd → Type} {α β σ τ : Type}
  (perform : (c : Cmd) → σ → Ans c × σ)

/-- The commands that a run issues, in order. -/
def issued : Program Cmd Ans α → σ → List Cmd
  | done _, _ => []
  | step c next, s => c :: issued (next (perform c s).1) (perform c s).2

variable {perform}

/-- A view of the environment that follows the commands one by one follows a run. -/
theorem view_run {view : σ → τ} {act : Cmd → τ → τ}
    (h : ∀ c s, view (perform c s).2 = act c (view s)) (p : Program Cmd Ans α) (s : σ) :
    view (p.run perform s).2 = (p.issued perform s).foldl (fun t c => act c t) (view s) := by
  induction p generalizing s with
  | done a => rfl
  | step c next ih => rw [run, ih, h, issued, List.foldl_cons]

/-- Whatever the environment answers, the result has the property. -/
def Yields (P : α → Prop) : Program Cmd Ans α → Prop
  | done a => P a
  | step _ next => ∀ r, (next r).Yields P

variable {P : α → Prop} {Q : β → Prop}

theorem Yields.run {p : Program Cmd Ans α} (h : p.Yields P) (s : σ) : P (p.run perform s).1 := by
  induction p generalizing s with
  | done a => exact h
  | step c next ih => exact ih _ (h _) _

theorem yields_bind_of (p : Program Cmd Ans α) {f : α → Program Cmd Ans β}
    (h : ∀ a, (f a).Yields Q) : (p >>= f).Yields Q := by
  change (p.andThen f).Yields Q
  induction p with
  | done a => exact h a
  | step c next ih => exact fun r => ih r

theorem Yields.bind {p : Program Cmd Ans α} {f : α → Program Cmd Ans β} (hp : p.Yields P)
    (h : ∀ a, P a → (f a).Yields Q) : (p >>= f).Yields Q := by
  change (p.andThen f).Yields Q
  induction p with
  | done a => exact h a hp
  | step c next ih => exact fun r => ih r (hp r)

/-! ## Exchanges -/

variable (perform) in
/-- The commands that a run issues and what they are answered, in order. -/
def exchanges : Program Cmd Ans α → σ → List (Σ c, Ans c)
  | done _, _ => []
  | step c next, s =>
    ⟨c, (perform c s).1⟩ :: exchanges (next (perform c s).1) (perform c s).2

theorem exchanges_andThen (p : Program Cmd Ans α) (f : α → Program Cmd Ans β) (s : σ) :
    (p.andThen f).exchanges perform s = p.exchanges perform s ++
      (f (p.run perform s).1).exchanges perform (p.run perform s).2 := by
  induction p generalizing s with
  | done a => rfl
  | step c next ih => simp only [andThen, exchanges, run, ih, List.cons_append]

theorem exchanges_bind (p : Program Cmd Ans α) (f : α → Program Cmd Ans β) (s : σ) :
    (p >>= f).exchanges perform s = p.exchanges perform s ++
      (f (p.run perform s).1).exchanges perform (p.run perform s).2 :=
  exchanges_andThen p f s

/-- A run leaves a view of the environment as it is when each of its commands does. -/
theorem view_run_of_keeps {view : σ → τ} {keeps : Cmd → Prop}
    (h : ∀ c s, keeps c → view (perform c s).2 = view s) (p : Program Cmd Ans α) (s : σ)
    (hp : ∀ x ∈ p.exchanges perform s, keeps x.1) : view (p.run perform s).2 = view s := by
  induction p generalizing s with
  | done a => rfl
  | step c next ih =>
    rw [exchanges, List.forall_mem_cons] at hp
    rw [run, ih _ _ hp.2, h c s hp.1]

/-- Whatever the environment answers, what is exchanged and the result are so related. -/
def Ensures : (List (Σ c, Ans c) → α → Prop) → Program Cmd Ans α → Prop
  | Q, done a => Q [] a
  | Q, step c next => ∀ r, (next r).Ensures fun t a => Q (⟨c, r⟩ :: t) a

section Ensures

variable {Q : List (Σ c, Ans c) → α → Prop} {R : List (Σ c, Ans c) → β → Prop}

@[simp] theorem ensures_pure_iff {a : α} : (pure a : Program Cmd Ans α).Ensures Q ↔ Q [] a :=
  Iff.rfl

theorem Ensures.run {p : Program Cmd Ans α} (h : p.Ensures Q) (s : σ) :
    Q (p.exchanges perform s) (p.run perform s).1 := by
  induction p generalizing Q s with
  | done a => exact h
  | step c next ih => exact ih _ (h _) _

theorem Ensures.mono {Q' : List (Σ c, Ans c) → α → Prop} {p : Program Cmd Ans α}
    (h : p.Ensures Q) (hQ : ∀ t a, Q t a → Q' t a) : p.Ensures Q' := by
  induction p generalizing Q Q' with
  | done a => exact hQ _ _ h
  | step c next ih => exact fun r => ih r (h r) fun t a => hQ _ a

theorem Ensures.bind {p : Program Cmd Ans α} {f : α → Program Cmd Ans β} (hp : p.Ensures Q)
    (h : ∀ t a, Q t a → (f a).Ensures fun t' b => R (t ++ t') b) : (p >>= f).Ensures R := by
  change (p.andThen f).Ensures R
  induction p generalizing Q R with
  | done a => exact h [] a hp
  | step c next ih => exact fun r => ih r (hp r) fun t a ha => h (⟨c, r⟩ :: t) a ha

theorem Ensures.yields {p : Program Cmd Ans α} (h : p.Ensures Q) (hQ : ∀ t a, Q t a → P a) :
    p.Yields P := by
  induction p generalizing Q with
  | done a => exact hQ _ _ h
  | step c next ih => exact fun r => ih r (h r) fun t a => hQ _ a

/-- What holds after a command whatever it is answered holds of the command and what
    follows. -/
theorem ensures_issue_bind {c : Cmd} {f : Ans c → Program Cmd Ans β}
    (h : ∀ r, (f r).Ensures fun t b => R (⟨c, r⟩ :: t) b) : (issue c >>= f).Ensures R := h

end Ensures

/-! ## What is issued and what is kept -/

/-- Whatever the environment answers, only such commands are issued. -/
def Issues (C : Cmd → Prop) : Program Cmd Ans α → Prop
  | done _ => True
  | step c next => C c ∧ ∀ r, (next r).Issues C

section Issues

variable {C : Cmd → Prop}

theorem issues_issue {c : Cmd} (h : C c) : (issue c : Program Cmd Ans (Ans c)).Issues C :=
  ⟨h, fun _ => trivial⟩

theorem Issues.bind {p : Program Cmd Ans α} {f : α → Program Cmd Ans β} (hp : p.Issues C)
    (h : ∀ a, (f a).Issues C) : (p >>= f).Issues C := by
  change (p.andThen f).Issues C
  induction p with
  | done a => exact h a
  | step c next ih => exact ⟨hp.1, fun r => ih r (hp.2 r)⟩

/-- A view of the environment that the commands leave alone is the same after a run. -/
theorem Issues.view_run {view : σ → τ} (h : ∀ c s, C c → view (perform c s).2 = view s)
    {p : Program Cmd Ans α} (hp : p.Issues C) (s : σ) :
    view (p.run perform s).2 = view s := by
  induction p generalizing s with
  | done a => rfl
  | step c next ih => rw [run, ih _ (hp.2 _), h c s hp.1]

end Issues

variable (perform) in
/-- Run where the invariant holds, the program keeps it and yields what has the property. -/
def Keeps (I : σ → Prop) (p : Program Cmd Ans α) (P : α → Prop) : Prop :=
  ∀ s, I s → I (p.run perform s).2 ∧ P (p.run perform s).1

section Keeps

variable {I : σ → Prop}

theorem keeps_pure {a : α} (h : P a) : (pure a : Program Cmd Ans α).Keeps perform I P :=
  fun _ hs => ⟨hs, h⟩

theorem Keeps.bind {p : Program Cmd Ans α} {f : α → Program Cmd Ans β}
    (hp : p.Keeps perform I P) (h : ∀ a, P a → (f a).Keeps perform I Q) :
    (p >>= f).Keeps perform I Q := by
  intro s hs
  rw [run_bind]
  exact h _ (hp s hs).2 _ (hp s hs).1

theorem Keeps.mono {P' : α → Prop} {p : Program Cmd Ans α} (hp : p.Keeps perform I P)
    (h : ∀ a, P a → P' a) : p.Keeps perform I P' :=
  fun s hs => (hp s hs).imp_right (h _)

end Keeps

end Testbed.Program
