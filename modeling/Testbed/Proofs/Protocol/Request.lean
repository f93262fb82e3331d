import Testbed.Proofs.Connection.Padding
import Testbed.Proofs.Json.Repeated

/-!
# The language of requests

Which lines are requests, and for what, told of what is written on a line, repeated keys
included. Whitespace at the end of the line apart, it must be the text of an object. Of what
is written under a key the last value counts. The one under `method` must be a text, the one
under `args` an object, if there is one (`Asks`). Of two values of the wrong type the driver is
told of the one whose key comes first (`Refuses`).

* `ofObject_eq_ok_iff`, `ofObject_eq_error_iff`: what an object asks for, and why it is refused;
* `parse_eq_ok_iff`, `parse_eq_error_iff`: the same of a line;
* `language_of_requests`: the kinds of failure, and what is dispatched.
-/

namespace Testbed

/-! ## Names without whitespace -/

namespace Text.Blank

/-- The second text is the first one without the whitespace at its ends. -/
structure IsTrimmed (s t : String) : Prop where
  blanks : ∃ before after, s.toList = before ++ t.toList ++ after ∧
    ∀ c ∈ before ++ after, isBlank c = true
  starts : ∀ c ∈ t.toList.head?, isBlank c = false
  ends : ∀ c ∈ t.toList.getLast?, isBlank c = false

theorem isTrimmed_trim (s : String) : IsTrimmed s (trim s) := by
  have htrim : (trim s).toList = (s.toList.dropWhile isBlank).rdropWhile isBlank :=
    String.toList_ofList
  have hrest := List.rdropWhile_append_rtakeWhile (p := isBlank) (l := s.toList.dropWhile isBlank)
  constructor
  case blanks =>
    refine ⟨s.toList.takeWhile isBlank, (s.toList.dropWhile isBlank).rtakeWhile isBlank, ?_, ?_⟩
    · rw [htrim, List.append_assoc, hrest, List.takeWhile_append_dropWhile]
    · intro c hc
      rcases List.mem_append.1 hc with hc | hc
      · exact List.mem_takeWhile_imp hc
      · exact List.mem_rtakeWhile_imp hc
  case starts =>
    intro c hc
    rw [htrim] at hc
    -- It starts as what is left of the front does, of which it is the beginning.
    have hhead : c ∈ (s.toList.dropWhile isBlank).head? := by
      rw [← hrest]
      exact List.mem_head?_append_of_mem_head? hc
    have hfirst := List.head?_dropWhile_not isBlank s.toList
    rw [Option.mem_def.1 hhead] at hfirst
    simpa using hfirst
  case ends =>
    intro c hc
    rw [htrim] at hc
    exact eq_false_of_mem_getLast?_rdropWhile hc

end Text.Blank

namespace Protocol.Request

open Json

/-! ## Objects -/

/-- The value is of the wrong type for what a request has under the key; the message tells so. -/
inductive IsMisfit : (key : String) → Value → (message : String) → Prop
  | name {v : Value} : (∀ text, v ≠ .string text) →
    IsMisfit "method" v (Unexpected.complaint v "a string")
  | arguments {v : Value} : (∀ entries, v ≠ .object entries) →
    IsMisfit "args" v (Unexpected.complaint v "a map")

/-- What counts under the key is of the wrong type; the message tells so. -/
def Misfit (members : Json.Object) (key message : String) : Prop :=
  ∃ v, Counts key v members ∧ IsMisfit key v message

/-- The object is no request, and the message tells why: of the values that are of the wrong
    type, the one whose key comes first; if there are none, that no method is named. -/
inductive Refuses (members : Json.Object) (message : String) : Prop
  | misfit {key : String} (h : Misfit members key message)
    (hfirst : ∀ other m, Misfit members other m → other ≠ key →
      (Entries.keys members).idxOf key < (Entries.keys members).idxOf other)
  | nameless (hfits : ∀ key m, ¬Misfit members key m)
    (hname : "method" ∉ Entries.keys members)
    (hmessage : message = Unexpected.missingField "method")

/-- The object asks for the method whose name counts, with the arguments that count, or with
    none. -/
structure Asks (members : Json.Object) (request : Request) : Prop where
  name : Counts "method" (.string request.name) members
  arguments : ("args" ∉ Entries.keys members ∧ request.arguments = []) ∨
    ∃ entries, Counts "args" (.object entries) members ∧ IsCondensed entries request.arguments

variable {members m : Json.Object} {key message : String} {v w : Value} {request : Request}

theorem isMisfit_iff : IsMisfit key v message ↔
    (key = "method" ∧ (∀ text, v ≠ .string text) ∧
      message = Unexpected.complaint v "a string") ∨
    (key = "args" ∧ (∀ entries, v ≠ .object entries) ∧
      message = Unexpected.complaint v "a map") := by
  constructor
  · rintro (h | h)
    · exact .inl ⟨rfl, h, rfl⟩
    · exact .inr ⟨rfl, h, rfl⟩
  · rintro (⟨rfl, h, rfl⟩ | ⟨rfl, h, rfl⟩)
    · exact .name h
    · exact .arguments h

/-- Repeated keys inside a value do not change its type. -/
theorem isMisfit_latest_iff : IsMisfit key v.latest message ↔ IsMisfit key v message := by
  have hcomplaint : ∀ expected, Unexpected.complaint v.latest expected =
      Unexpected.complaint v expected := fun expected => by cases v <;> rfl
  rw [isMisfit_iff, isMisfit_iff, hcomplaint, hcomplaint]
  cases v <;> simp [Value.latest]

theorem complaint?_cons_eq_some_iff :
    complaint? ((key, v) :: m) = some message ↔
      IsMisfit key v message ∨ (∀ m, ¬IsMisfit key v m) ∧ complaint? m = some message := by
  simp only [isMisfit_iff]
  by_cases hname : key = "method"
  · subst hname
    cases v <;> simp [complaint?, eq_comm]
  by_cases harguments : key = "args"
  · subst harguments
    cases v <;> simp [complaint?, eq_comm]
  · simp [complaint?, hname, harguments]

/-- The first entry that is of the wrong type. -/
theorem complaint?_eq_some_iff :
    complaint? m = some message ↔ ∃ earlier key v later, m = earlier ++ (key, v) :: later ∧
      IsMisfit key v message ∧ ∀ e ∈ earlier, ∀ m, ¬IsMisfit e.1 e.2 m := by
  induction m with
  | nil => simp [complaint?]
  | cons e m ih =>
    obtain ⟨key, v⟩ := e
    rw [complaint?_cons_eq_some_iff, ih]
    constructor
    · rintro (h | ⟨hfits, earlier, key', v', later, rfl, h, hearlier⟩)
      · exact ⟨[], key, v, m, rfl, h, fun _ h => absurd h List.not_mem_nil⟩
      · exact ⟨(key, v) :: earlier, key', v', later, rfl, h,
          List.forall_mem_cons.2 ⟨hfits, hearlier⟩⟩
    · rintro ⟨earlier, key', v', later, heq, h, hearlier⟩
      cases earlier with
      | nil =>
        obtain ⟨he, rfl⟩ := List.cons_eq_cons.1 heq
        obtain ⟨rfl, rfl⟩ := Prod.mk.inj he
        exact .inl h
      | cons e earlier =>
        obtain ⟨rfl, rfl⟩ := List.cons_eq_cons.1 heq
        obtain ⟨hfits, hearlier⟩ := List.forall_mem_cons.1 hearlier
        exact .inr ⟨hfits, earlier, key', v', later, rfl, h, hearlier⟩

theorem complaint?_eq_none_iff :
    complaint? m = none ↔ ∀ e ∈ m, ∀ message, ¬IsMisfit e.1 e.2 message := by
  induction m with
  | nil => simp [complaint?]
  | cons e m ih =>
    obtain ⟨key, v⟩ := e
    rw [List.forall_mem_cons, ← ih, Option.eq_none_iff_forall_ne_some,
      Option.eq_none_iff_forall_ne_some]
    simp only [ne_eq, complaint?_cons_eq_some_iff, not_or, not_and, forall_and]
    exact and_congr_right fun hfits => forall_congr' fun m => ⟨fun h => h hfits, fun h _ => h⟩

/-! ## What was read -/

theorem IsMisfit.unique {message' : String} (h : IsMisfit key v message)
    (h' : IsMisfit key v message') : message = message' := by
  obtain ⟨hname, -, rfl⟩ | ⟨harguments, -, rfl⟩ := isMisfit_iff.1 h <;>
    obtain ⟨hname', -, rfl⟩ | ⟨harguments', -, rfl⟩ := isMisfit_iff.1 h' <;> simp_all

theorem Misfit.unique {message' : String} (h : Misfit members key message)
    (h' : Misfit members key message') : message = message' := by
  obtain ⟨v, hv, h⟩ := h
  obtain ⟨w, hw, h'⟩ := h'
  obtain rfl := hv.eq hw
  exact h.unique h'

theorem Misfit.mem_keys (h : Misfit members key message) : key ∈ Entries.keys members :=
  exists_counts_iff.1 (h.imp fun _ h => h.1)

/-- The object is refused for one reason. -/
theorem Refuses.unique {message' : String} (h : Refuses members message)
    (h' : Refuses members message') : message = message' := by
  cases h with
  | misfit h hfirst =>
    cases h' with
    | misfit h' hfirst' =>
      rename_i key key'
      by_cases hkey : key' = key
      · subst hkey
        exact h.unique h'
      · exact absurd (hfirst key' _ h' hkey) (hfirst' key _ h (Ne.symm hkey)).asymm
    | nameless hfits => exact absurd h (hfits _ _)
  | nameless hfits _ hmessage =>
    cases h' with
    | misfit h' => exact absurd h' (hfits _ _)
    | nameless _ _ hmessage' => exact hmessage.trans hmessage'.symm

section Condensed

variable (hm : IsCondensed members m)
include hm

theorem misfit_iff : Misfit members key message ↔ ∃ v, (key, v) ∈ m ∧ IsMisfit key v message := by
  simp only [hm.mem_iff, Misfit]
  constructor
  · rintro ⟨w, hw, h⟩
    exact ⟨w.latest, ⟨w, hw, rfl⟩, isMisfit_latest_iff.2 h⟩
  · rintro ⟨_, ⟨w, hw, rfl⟩, h⟩
    exact ⟨w, hw, isMisfit_latest_iff.1 h⟩

theorem complaint?_eq_none_iff_fits :
    complaint? m = none ↔ ∀ key message, ¬Misfit members key message := by
  simp only [complaint?_eq_none_iff, misfit_iff hm, not_exists, not_and, Prod.forall]
  exact ⟨fun h key message v hv => h key v hv message, fun h key v hv message => h key message v hv⟩

/-- What is complained about is the first key with a value of the wrong type. -/
theorem refuses_of_complaint? (h : complaint? m = some message) : Refuses members message := by
  obtain ⟨earlier, key, v, later, hsplit, h, hearlier⟩ := complaint?_eq_some_iff.1 h
  have hmisfit : Misfit members key message := (misfit_iff hm).2 ⟨v, by simp [hsplit], h⟩
  refine .misfit hmisfit fun other m' h' hne => ?_
  obtain ⟨w, hw, h'⟩ := (misfit_iff hm).1 h'
  -- The other key is not among the earlier ones, none of which has such a value.
  have hother : other ∉ Entries.keys earlier := by
    intro hmem
    obtain ⟨⟨_, w'⟩, he, rfl⟩ := List.mem_map.1 hmem
    have hw' := Entries.get?_of_mem hm.nodup (hsplit ▸ List.mem_append_left _ he)
    rw [Entries.get?_of_mem hm.nodup hw] at hw'
    obtain rfl := Option.some.inj hw'
    exact hearlier _ he m' h'
  have hkeys : Entries.keys m = Entries.keys earlier ++ key :: Entries.keys later := by
    rw [hsplit, Entries.keys_append]
    rfl
  rw [← hm.idxOf_lt_iff hmisfit.mem_keys, hkeys]
  grind

theorem exists_name (hfits : ∀ key message, ¬Misfit members key message)
    (h : Entries.get? "method" m = some v) :
    ∃ name, Counts "method" (.string name) members ∧ v = .string name := by
  obtain ⟨w, hw, rfl⟩ := (hm.value _ _).1 h
  obtain ⟨name, rfl⟩ : ∃ name, w = .string name := by
    by_contra hno
    exact hfits _ _ ⟨w, hw, .name (not_exists.1 hno)⟩
  exact ⟨name, hw, rfl⟩

theorem exists_arguments (hfits : ∀ key message, ¬Misfit members key message)
    (h : Entries.get? "args" m = some v) :
    ∃ entries, Counts "args" (.object entries) members ∧
      v = .object (Entries.ofList (Value.latestEntries entries)) := by
  obtain ⟨w, hw, rfl⟩ := (hm.value _ _).1 h
  obtain ⟨entries, rfl⟩ : ∃ entries, w = .object entries := by
    by_contra hno
    exact hfits _ _ ⟨w, hw, .arguments (not_exists.1 hno)⟩
  exact ⟨entries, hw, rfl⟩

/-- What an object asks for. -/
theorem ofObject_eq_ok_iff : ofObject m = .ok request ↔ Asks members request := by
  constructor
  · intro h
    rw [ofObject] at h
    cases hc : complaint? m with
    | some message => simp [hc] at h
    | none =>
      have hfits := (complaint?_eq_none_iff_fits hm).1 hc
      simp only [hc] at h
      cases hn : Entries.get? "method" m with
      | none => simp [hn] at h
      | some v =>
        obtain ⟨name, hname, rfl⟩ := exists_name hm hfits hn
        cases ha : Entries.get? "args" m with
        | none =>
          simp only [hn, ha, Except.ok.injEq] at h
          subst h
          exact ⟨hname, .inl ⟨hm.get?_eq_none_iff.1 ha, rfl⟩⟩
        | some v =>
          obtain ⟨entries, hentries, rfl⟩ := exists_arguments hm hfits ha
          simp only [hn, ha, Except.ok.injEq] at h
          subst h
          exact ⟨hname, .inr ⟨entries, hentries, isCondensed_latest entries⟩⟩
  · rintro ⟨hname, harguments⟩
    have hget : Entries.get? "method" m = some (.string request.name) :=
      (hm.value _ _).2 ⟨_, hname, rfl⟩
    have hc : complaint? m = none := by
      refine (complaint?_eq_none_iff_fits hm).2 fun key message hmisfit => ?_
      obtain ⟨v, hv, h⟩ := hmisfit
      cases h with
      | name h => exact h _ (hv.eq hname)
      | arguments h =>
        rcases harguments with ⟨hnone, -⟩ | ⟨entries, hentries, -⟩
        · exact hnone (exists_counts_iff.1 ⟨v, hv⟩)
        · exact h _ (hv.eq hentries)
    rcases harguments with ⟨hnone, hnil⟩ | ⟨entries, hentries, hcondensed⟩
    · rw [ofObject, hc, hget, hm.get?_eq_none_iff.2 hnone, ← hnil]
    · have hargs : Entries.get? "args" m = some (.object request.arguments) :=
        (hm.value _ _).2 ⟨_, hentries, by rw [Value.latest, isCondensed_iff.1 hcondensed]⟩
      rw [ofObject, hc, hget, hargs]

/-- Why an object is refused. -/
theorem ofObject_eq_error_iff {e : Failure} :
    ofObject m = .error e ↔ ∃ message, e = .invalid message ∧ Refuses members message := by
  constructor
  · intro h
    rw [ofObject] at h
    cases hc : complaint? m with
    | some message =>
      simp only [hc, Except.error.injEq] at h
      exact ⟨message, h.symm, refuses_of_complaint? hm hc⟩
    | none =>
      have hfits := (complaint?_eq_none_iff_fits hm).1 hc
      simp only [hc] at h
      cases hn : Entries.get? "method" m with
      | none =>
        simp only [hn, Except.error.injEq] at h
        exact ⟨_, h.symm, .nameless hfits (hm.get?_eq_none_iff.1 hn) rfl⟩
      | some v =>
        obtain ⟨name, -, rfl⟩ := exists_name hm hfits hn
        simp only [hn] at h
        split at h <;> simp_all
  · rintro ⟨message, rfl, h⟩
    cases hc : complaint? m with
    | some message' =>
      obtain rfl := h.unique (refuses_of_complaint? hm hc)
      rw [ofObject, hc]
    | none =>
      cases h with
      | misfit h => exact absurd h ((complaint?_eq_none_iff_fits hm).1 hc _ _)
      | nameless _ hname hmessage =>
        rw [ofObject, hc, hm.get?_eq_none_iff.2 hname, hmessage]

end Condensed

/-- An object is refused if it does not name a method, or if what it has for arguments is no
    object. -/
theorem exists_refuses_iff : (∃ message, Refuses members message) ↔
    (∀ name, ¬Counts "method" (.string name) members) ∨
      ∃ v, Counts "args" v members ∧ ∀ entries, v ≠ .object entries := by
  constructor
  · rintro ⟨message, h⟩
    cases h with
    | misfit h =>
      obtain ⟨v, hv, h⟩ := h
      cases h with
      | name h => exact .inl fun name hname => h name (hv.eq hname)
      | arguments h => exact .inr ⟨v, hv, h⟩
    | nameless _ hname => exact .inl fun name h => hname (exists_counts_iff.1 ⟨_, h⟩)
  · intro h
    have hm := isCondensed_latest members
    cases ho : ofObject (Entries.ofList (Value.latestEntries members)) with
    | error e =>
      obtain ⟨message, -, h⟩ := (ofObject_eq_error_iff hm).1 ho
      exact ⟨message, h⟩
    | ok request =>
      obtain ⟨hname, harguments⟩ := (ofObject_eq_ok_iff hm).1 ho
      obtain h | ⟨v, hv, h⟩ := h
      · exact absurd hname (h _)
      · rcases harguments with ⟨hnone, -⟩ | ⟨entries, hentries, -⟩
        · exact absurd (exists_counts_iff.1 ⟨v, hv⟩) hnone
        · exact absurd (hv.eq hentries) (h entries)

/-! ## Lines -/

variable {line : Bytes}

theorem parse_of_isWritten (hw : w.IsWritten (Bytes.trimEnd line)) :
    parse line = match w.latest with
      | .object m => ofObject m
      | _ => .error (.invalid "request must be a JSON object") := by
  rw [parse, if_neg (by simpa using hw.ne_nil), read_eq_ok_iff.2 ⟨w, hw, rfl⟩]
  cases w <;> rfl

theorem parse_of_object (hw : (Value.object members).IsWritten (Bytes.trimEnd line)) :
    parse line = ofObject (Entries.ofList (Value.latestEntries members)) := parse_of_isWritten hw

theorem parse_of_not_object (hw : w.IsWritten (Bytes.trimEnd line))
    (hno : ∀ members, w ≠ .object members) :
    parse line = .error (.invalid "request must be a JSON object") := by
  rw [parse_of_isWritten hw]
  cases w with
  | object members => exact absurd rfl (hno members)
  | _ => rfl

theorem parse_of_not_isWritten (hnone : ∀ v : Value, ¬v.IsWritten (Bytes.trimEnd line)) :
    ∃ e, parse line = .error e ∧ e.code = .malformedRequest := by
  rw [parse]
  split
  case isTrue => exact ⟨_, rfl, rfl⟩
  case isFalse =>
    cases hread : Value.read (Bytes.trimEnd line) with
    | error f => exact ⟨_, rfl, rfl⟩
    | ok v =>
      obtain ⟨w, hw, -⟩ := read_eq_ok_iff.1 hread
      exact absurd hw (hnone w)

/-- A line is the text of an object, of another value or of none. -/
theorem isWritten_cases (text : Bytes) :
    (∃ members, (Value.object members).IsWritten text) ∨
    (∃ v : Value, v.IsWritten text ∧ ∀ members, v ≠ .object members) ∨
    ∀ v : Value, ¬v.IsWritten text := by
  by_cases hw : ∃ w : Value, w.IsWritten text
  · obtain ⟨w, hw⟩ := hw
    cases w with
    | object members => exact .inl ⟨members, hw⟩
    | _ => exact .inr (.inl ⟨_, hw, fun members => by simp⟩)
  · exact .inr (.inr (not_exists.1 hw))

/-- What a line asks for. -/
theorem parse_eq_ok_iff : parse line = .ok request ↔
    ∃ members, (Value.object members).IsWritten (Bytes.trimEnd line) ∧ Asks members request := by
  have hobject : ∀ members, ofObject (Entries.ofList (Value.latestEntries members)) =
      .ok request ↔ Asks members request := fun members =>
    ofObject_eq_ok_iff (isCondensed_latest members)
  constructor
  · intro h
    obtain ⟨members, hw⟩ | ⟨v, hw, hno⟩ | hnone := isWritten_cases (Bytes.trimEnd line)
    · exact ⟨members, hw, (hobject members).1 (parse_of_object hw ▸ h)⟩
    · exact absurd ((parse_of_not_object hw hno).symm.trans h) (by simp)
    · obtain ⟨e, he, -⟩ := parse_of_not_isWritten hnone
      exact absurd (he.symm.trans h) (by simp)
  · rintro ⟨members, hw, h⟩
    exact (parse_of_object hw).trans ((hobject members).2 h)

/-- Why a line that is JSON is refused. -/
theorem parse_eq_invalid_iff : parse line = .error (.invalid message) ↔
    (∃ v : Value, v.IsWritten (Bytes.trimEnd line) ∧ (∀ members, v ≠ .object members) ∧
      message = "request must be a JSON object") ∨
    ∃ members, (Value.object members).IsWritten (Bytes.trimEnd line) ∧
      Refuses members message := by
  have hobject : ∀ members, ofObject (Entries.ofList (Value.latestEntries members)) =
      .error (.invalid message) ↔ Refuses members message := by
    intro members
    rw [ofObject_eq_error_iff (isCondensed_latest members)]
    simp
  constructor
  · intro h
    obtain ⟨members, hw⟩ | ⟨v, hw, hno⟩ | hnone := isWritten_cases (Bytes.trimEnd line)
    · exact .inr ⟨members, hw, (hobject members).1 (parse_of_object hw ▸ h)⟩
    · rw [parse_of_not_object hw hno] at h
      exact .inl ⟨v, hw, hno, by simpa [eq_comm] using h⟩
    · obtain ⟨e, he, hcode⟩ := parse_of_not_isWritten hnone
      obtain rfl := Except.error.inj (he.symm.trans h)
      exact absurd hcode (by simp [Failure.code])
  · rintro (⟨v, hw, hno, rfl⟩ | ⟨members, hw, h⟩)
    · exact parse_of_not_object hw hno
    · exact (parse_of_object hw).trans ((hobject members).2 h)

/-- A line that is no JSON is malformed, and only that. -/
theorem parse_eq_malformed_iff : (∃ e, parse line = .error e ∧ e.code = .malformedRequest) ↔
    ∀ v : Value, ¬v.IsWritten (Bytes.trimEnd line) := by
  refine ⟨?_, parse_of_not_isWritten⟩
  rintro ⟨e, he, hcode⟩ v hw
  obtain ⟨members, hw⟩ | ⟨v, hw, hno⟩ | hnone := isWritten_cases (Bytes.trimEnd line)
  · rw [parse_of_object hw] at he
    obtain ⟨message, rfl, -⟩ := (ofObject_eq_error_iff (isCondensed_latest members)).1 he
    exact absurd hcode (by simp [Failure.code])
  · obtain rfl := Except.error.inj ((parse_of_not_object hw hno).symm.trans he)
    exact absurd hcode (by simp [Failure.code])
  · exact hnone v hw

theorem code_eq_invalidRequest_iff {e : Failure} :
    e.code = .invalidRequest ↔ ∃ message, e = .invalid message := by
  cases e with
  | argument e => cases e <;> simp [Failure.code, Failure.argumentCode]
  | handle e => cases e <;> simp [Failure.code, Failure.handleCode]
  | service e => cases e <;> simp [Failure.code, Failure.serviceCode]
  | _ => simp [Failure.code]

/-! ## Dispatch -/

theorem validate_eq (request : Request) : request.validate =
    if request.method = "" then .error (.invalid "method field is empty") else .ok () := by
  simp [validate]

/-- A request is dispatched by its trimmed name, and told of. -/
theorem serveLine_of_parse_eq_ok {σ : Type} (d : Dispatcher σ) (h : parse line = .ok request) :
    Connection.serveLine line d =
      if request.method = "" then (.error (.invalid "method field is empty"), d)
      else
        let (response, d) := d.dispatch request.method request.arguments
        (response,
          { d with world := d.world.tell (Connection.summary request.method response) }) := by
  rw [Connection.serveLine, h]
  dsimp only
  rw [validate_eq]
  by_cases hempty : request.method = ""
  · rw [if_pos hempty, if_pos hempty]
  · rw [if_neg hempty, if_neg hempty]

/-- A line of octets is malformed if, without the whitespace at its end, it is empty or no JSON
    text. It is invalid if it is the text of something else than an object, or of one whose
    `method` is missing or no text, or whose `args` is there and no object; of repeated keys the
    last counts, and of two values of the wrong type the one whose key comes first is reported.
    Any other line asks for the method and the arguments in it. The name that is dispatched has
    no whitespace at its ends, and a request is refused if nothing is left of it. -/
theorem language_of_requests (line : Bytes) :
    let text := Bytes.trimEnd line
    ((∃ blank, line = text ++ blank ∧ Bytes.isBlank blank = true) ∧
      ∀ x ∈ text.getLast?, Bytes.isAsciiSpace x = false) ∧
    ((∃ e, parse line = .error e ∧ e.code = .malformedRequest) ↔
      text = [] ∨ ∀ v : Value, ¬v.IsWritten text) ∧
    ((∃ e, parse line = .error e ∧ e.code = .invalidRequest) ↔
      (∃ v : Value, v.IsWritten text ∧ ∀ members, v ≠ .object members) ∨
      ∃ members, (Value.object members).IsWritten text ∧
        ((∀ name, ¬Counts "method" (.string name) members) ∨
          ∃ v, Counts "args" v members ∧ ∀ entries, v ≠ .object entries)) ∧
    (∀ message, parse line = .error (.invalid message) ↔
      (∃ v : Value, v.IsWritten text ∧ (∀ members, v ≠ .object members) ∧
        message = "request must be a JSON object") ∨
      ∃ members, (Value.object members).IsWritten text ∧ Refuses members message) ∧
    (∀ request, parse line = .ok request ↔
      ∃ members, (Value.object members).IsWritten text ∧ Asks members request) ∧
    ∀ request, parse line = .ok request →
      Text.Blank.IsTrimmed request.name request.method ∧
      ((∃ e, request.validate = .error e) ↔ request.method = "") ∧
      ∀ (σ : Type) (d : Dispatcher σ), Connection.serveLine line d =
        if request.method = "" then (.error (.invalid "method field is empty"), d)
        else
          let (response, d) := d.dispatch request.method request.arguments
          (response,
            { d with world := d.world.tell (Connection.summary request.method response) }) := by
  intro text
  refine ⟨⟨Bytes.exists_eq_trimEnd_append line,
      fun x hx => eq_false_of_mem_getLast?_rdropWhile hx⟩,
    ?malformed, ?invalid, fun message => parse_eq_invalid_iff, fun request => parse_eq_ok_iff,
    fun request h => ⟨Text.Blank.isTrimmed_trim request.name, ?validate,
      fun σ d => serveLine_of_parse_eq_ok d h⟩⟩
  case malformed =>
    refine parse_eq_malformed_iff.trans ⟨.inr, ?_⟩
    rintro (hnil | hnone)
    · exact fun v hv => hv.ne_nil hnil
    · exact hnone
  case invalid =>
    have hmessage : (∃ e, parse line = .error e ∧ e.code = .invalidRequest) ↔
        ∃ message, parse line = .error (.invalid message) := by
      simp only [code_eq_invalidRequest_iff]
      constructor
      · rintro ⟨_, he, message, rfl⟩
        exact ⟨message, he⟩
      · rintro ⟨message, he⟩
        exact ⟨_, he, message, rfl⟩
    simp only [hmessage, ← exists_refuses_iff, parse_eq_invalid_iff]
    constructor
    · rintro ⟨message, ⟨v, hv, hno, -⟩ | ⟨members, hw, h⟩⟩
      · exact .inl ⟨v, hv, hno⟩
      · exact .inr ⟨members, hw, message, h⟩
    · rintro (⟨v, hv, hno⟩ | ⟨members, hw, message, h⟩)
      · exact ⟨_, .inl ⟨v, hv, hno, rfl⟩⟩
      · exact ⟨message, .inr ⟨members, hw, h⟩⟩
  case validate =>
    rw [validate_eq]
    split <;> simp_all

/-- The last `method` is a text, and stands where the first one did. -/
example : parse (Bytes.ofString "\x7b\"method\":1,\"args\":null,\"method\":\"m\"\x7d\r\n") =
    .error (.invalid "invalid type: null, expected a map") := by
  rfl

end Protocol.Request

end Testbed
