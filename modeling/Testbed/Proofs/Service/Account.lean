import Testbed.Proofs.Service.Change

/-!
# What has become of the children of a service

A slot of a service accounts for all that was exchanged (`Slot.Accounts`): its phase tells
whether a process is tracked and whether there ever was a launch, the process that is tracked
is a child that was spawned, and each other child has parted (`Child.Parted`).

* `Slot.Accounts.change`: what a call changes keeps the account.
-/

namespace Testbed.Service

open Os Exchange

namespace Child

/-- The child was found to have ended, and without more ado its service was launched
    again. -/
def Replaced (c : Child) : Prop :=
  ∃ before l answer after, c.since = before ++ spawned l answer :: after ∧
    l.service = c.service ∧ FoundEnded c.pid before ∧ ¬Launched c.service before

/-- What becomes of a child that is tracked no more. -/
inductive Parted (c : Child) : Prop
  /-- It was ended. -/
  | stopped (hr : Reaped c.pid c.since) (hk : Killed c.pid c.since)
  /-- It did not become ready. -/
  | discarded (h : Discarded c.pid c.since)
  /-- It was found to have ended, and replaced. -/
  | replaced (h : c.Replaced)

variable {c : Child} {t : Transcript}

theorem Parted.later (h : c.Parted) (t : Transcript) : (c.later t).Parted := by
  cases h with
  | stopped hr hk => exact .stopped (hr.append_right t) (hk.append_right t)
  | discarded h => exact .discarded (h.mono (List.subset_append_left _ t))
  | replaced h =>
    obtain ⟨before, l, answer, after, hs, hl, hfound, hbefore⟩ := h
    exact .replaced ⟨before, l, answer, after ++ t, by simp [Child.later, hs], hl, hfound, hbefore⟩

end Child

/-- A slot accounts for what was exchanged about its service. -/
structure Slot.Accounts (service : String) (slot : Slot) (t : Transcript) : Prop where
  ready_iff : slot.phase = .ready ↔ slot.process.isSome
  absent_iff : slot.phase = .absent ↔ ¬Launched service t
  /-- The service is not left starting or stopping. -/
  at_rest : slot.phase ∈ [.absent, .ready, .stopped]
  /-- The process that is tracked is a child that was spawned. -/
  process_child : ∀ info, slot.process = some info →
    ∃ c : Child, c.In t ∧ c.service = service ∧ c.Tracked slot
  children : ∀ c : Child, c.In t → c.service = service → c.Tracked slot ∨ c.Parted

namespace Slot.Accounts

variable {service : String} {slot slot' : Slot} {t t' : Transcript}

/-- A service that was never started has nothing to account for. -/
theorem empty (service : String) : Accounts service {} [] where
  ready_iff := by simp
  absent_iff := by simp [Launched]
  at_rest := by simp
  process_child := by simp
  children c hc _ := by simp [Child.In] at hc

/-- The account is kept while the service is not launched and its slot stays the same. -/
theorem idle (h : slot.Accounts service t) (ht : ¬Launched service t') :
    slot.Accounts service (t ++ t') where
  ready_iff := h.ready_iff
  absent_iff := by rw [h.absent_iff, launched_append_iff, or_iff_left ht]
  at_rest := h.at_rest
  process_child info hi := by
    obtain ⟨c, hc, hs, htracked⟩ := h.process_child info hi
    exact ⟨c.later t', hc.later t', hs, htracked.later (hs ▸ ht)⟩
  children c hc hs := by
    obtain ⟨d, hd, hds, rfl⟩ := hc.exists_later hs ht
    exact (h.children d hd hds).imp (fun hd' => hd'.later (hds ▸ ht)) fun hd' => hd'.later t'

/-- The account is kept when the process is ended. -/
theorem ended {info : ProcessInfo} (h : slot.Accounts service t)
    (hslot : slot.process = some info) (ht : ¬Launched service t') (hr : Reaped info.pid t')
    (hk : Killed info.pid t') : Accounts service ⟨.stopped, none⟩ (t ++ t') where
  ready_iff := by simp
  absent_iff := by
    obtain ⟨c, hc, rfl, -⟩ := h.process_child info hslot
    simp [launched_append_iff, hc.launched]
  at_rest := by simp
  process_child := by simp
  children c hc hs := by
    obtain ⟨d, hd, hds, rfl⟩ := hc.exists_later hs ht
    refine .inr ?_
    rcases h.children d hd hds with ⟨hd', -⟩ | hd'
    · obtain rfl := Option.some.inj (hslot.symm.trans hd')
      exact .stopped (hr.append_left _) (hk.append_left _)
    · exact hd'.later t'

/-- After a launch, the children of the service are that which was spawned for it, if one
    was, and those that have parted. -/
theorem parted_or_eq {l : Launch} {answer : Except Trouble Nat} {before since : Transcript}
    {c : Child} (h : slot.Accounts l.service t)
    (hslot : ∀ info, slot.process = some info → FoundEnded info.pid before)
    (hbefore : ¬Launched l.service before) (hsince : ¬Launched l.service since)
    (hc : c.In (t ++ (before ++ spawned l answer :: since))) (hs : c.service = l.service) :
    c.Parted ∨ (answer = .ok c.pid ∧ c = ⟨t ++ before, l, c.pid, since⟩) := by
  rcases Child.in_append_iff.1 hc with ⟨d, hd, rfl⟩ | ⟨d, hd, rfl⟩
  · refine .inl ?_
    have hds : d.service = l.service := hs
    rcases h.children d hd hds with ⟨hprocess, hlast⟩ | hparted
    · refine .replaced ⟨d.since ++ before, l, answer, since, ?_, hs.symm,
        (hslot _ hprocess).append_left _, fun hl => ?_⟩
      · rw [Child.later, List.append_assoc]
      · exact (launched_append_iff.1 hl).elim hlast (hds ▸ hbefore)
    · exact hparted.later _
  · have hds : d.service = l.service := hs
    obtain ⟨ha, hd'⟩ := Child.eq_of_launched_once hd (hds ▸ hbefore) (hds ▸ hsince)
    exact .inr ⟨ha, by rw [hd']; rfl⟩

/-- The account is kept when the program is run, whatever comes of it. -/
theorem launched {l : Launch} {before mid after : Transcript} {r : Except Error ProcessInfo}
    (h : slot.Accounts l.service t)
    (hslot : ∀ info, slot.process = some info → FoundEnded info.pid before)
    (hbefore : ¬Launched l.service before) (hmid : LaunchEnd l mid r) (hafter : Inward after) :
    (Slot.ofLaunch r).Accounts l.service (t ++ (before ++ (mid ++ after))) := by
  have hlaunched : ∀ answer rest, Launched l.service (t ++ (before ++ spawned l answer :: rest)) :=
    fun answer _ => ⟨l, answer, rfl, by simp⟩
  have hlast : ∀ {rest}, Passive rest → ¬Launched l.service (rest ++ after) := fun ht hl =>
    (launched_append_iff.1 hl).elim (ht.not_launched _) (hafter.not_launched _)
  cases hmid with
  | notSpawned cause e =>
    refine ⟨by simp [ofLaunch], by simp [ofLaunch, hlaunched], by simp [ofLaunch],
      by simp [ofLaunch], fun c hc hs => .inr ?_⟩
    rcases h.parted_or_eq hslot hbefore (hlast passive_nil) hc hs with hparted | ⟨ha, -⟩
    · exact hparted
    · exact absurd ha (by simp)
  | @ready pid rest ht =>
    refine ⟨by simp [ofLaunch], by simp [ofLaunch, hlaunched], by simp [ofLaunch],
      fun info hi => ?_, fun c hc hs => ?_⟩
    · exact ⟨⟨t ++ before, l, pid, rest ++ after⟩, by simp [Child.In], rfl, rfl, hlast ht⟩
    · rcases h.parted_or_eq hslot hbefore (hlast ht) hc hs with hparted | ⟨ha, hc'⟩
      · exact .inr hparted
      · obtain rfl := Except.ok.inj ha
        exact .inl (hc' ▸ ⟨rfl, hlast ht⟩)
  | @discarded pid rest e _ ht hd =>
    refine ⟨by simp [ofLaunch], by simp [ofLaunch, hlaunched], by simp [ofLaunch],
      by simp [ofLaunch], fun c hc hs => .inr ?_⟩
    rcases h.parted_or_eq hslot hbefore (hlast ht) hc hs with hparted | ⟨ha, hc'⟩
    · exact hparted
    · obtain rfl := Except.ok.inj ha
      rw [hc']
      exact .discarded (hd.mono (List.subset_append_left rest after))

/-- What a call changes keeps the account. -/
theorem change (h : slot.Accounts service t) (hc : Change service slot t' slot') :
    slot'.Accounts service (t ++ t') := by
  cases hc with
  | idle ht => exact h.idle ht
  | ended hslot ht hr hk => exact h.ended hslot ht hr hk
  | launched hl hslot hbefore hmid hafter =>
    subst hl
    exact h.launched hslot hbefore hmid hafter

end Slot.Accounts

end Testbed.Service
