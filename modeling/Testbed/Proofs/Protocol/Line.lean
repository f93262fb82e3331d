import Testbed.Protocol.Reply
import Testbed.Proofs.Handle
import Testbed.Proofs.Json.Reading

/-!
# Response lines

A response is told on one line, which holds the JSON text of one object and no other line feed.
From the line of a reply without floating-point numbers the reply can be told
(`Reply.ofJson?`): that there was no result, the value, or the handle and the tag.
-/

namespace Testbed

namespace Protocol

open Json

namespace Reply

/-- The value in a reply, if there is one. -/
def value? : Reply → Option Value
  | value v => some v
  | _ => none

/-- What a reply tells besides its type. -/
def result : Reply → Json.Object
  | void => []
  | value v => [("value", v)]
  | handle h _ => [("handle", .string h.marker)]

/-- The reply that an object tells. -/
def ofObject? (entries : Json.Object) : Option Reply :=
  match Entries.get? "kind" entries, Entries.get? "type" entries with
  | some (.string "ok"), some (.string type) =>
    match Entries.get? "value" entries, Entries.get? "handle" entries with
    | none, none => some .void
    | some v, none => some (.value v)
    | none, some (.string marker) => (Handle.ofMarker? marker).map fun h => .handle h ⟨type⟩
    | _, _ => none
  | _, _ => none

end Reply

namespace Response

/-- What is told of a response: that it is a reply, with its type and result, or a failure,
    with its code and message. -/
def entries : Response → Json.Object
  | .ok r => ("kind", .string "ok") :: ("type", .string r.type) :: r.result
  | .error e =>
    [("kind", .string "error"), ("code", .string e.code.text), ("message", .string e.message)]

theorem json_eq_object (r : Response) : json r = .object r.entries := by
  rcases r with e | r
  · rfl
  · cases r <;> rfl

end Response

theorem Reply.ofObject?_entries (r : Reply) : ofObject? (Response.entries (.ok r)) = some r := by
  cases r with
  | void => rfl
  | value v => rfl
  | handle h tag =>
    have hmarker := Handle.ofMarker?_eq_some_iff.2 h.isMarker_marker
    change (Handle.ofMarker? h.marker).map _ = _
    rw [hmarker]
    rfl

/-! ## One object on one line -/

namespace Response

/-- The line that tells a response, without its line feed. -/
def text (r : Response) : Bytes := (json r).print

theorem line_eq (r : Response) : r.line = r.text ++ [Bytes.lineFeed] := rfl

theorem text_eq (r : Response) : r.text = (Value.object r.entries).print := by
  rw [text, json_eq_object]

theorem lineFeed_not_mem_text (r : Response) : Bytes.lineFeed ∉ r.text :=
  (isPrintable_print (json r)).lineFeed_not_mem

end Response

/-! ## The reply that a line tells -/

namespace Reply

variable {r r' : Reply}

/-- Whether there is no floating-point number in a reply. -/
def IsFloatFree (r : Reply) : Prop := ∀ v ∈ r.value?, v.IsFloatFree

theorem numbers_entries (r : Reply) :
    (Value.object (Response.entries (.ok r))).numbers = (r.value?.map Value.numbers).getD [] := by
  cases r with
  | void => rfl
  | handle h tag => rfl
  | value v => exact List.append_nil v.numbers

theorem depth_entries (r : Reply) :
    (Value.object (Response.entries (.ok r))).depth = (r.value?.map Value.depth).getD 0 + 1 := by
  cases r with
  | void => rfl
  | handle h tag => rfl
  | value v =>
    change max 0 (max 0 (max v.depth 0)) + 1 = v.depth + 1
    rw [Nat.max_zero, Nat.zero_max, Nat.zero_max]

theorem IsFloatFree.entries (h : r.IsFloatFree) :
    (Value.object (Response.entries (.ok r))).IsFloatFree := by
  rw [Value.IsFloatFree, numbers_entries]
  cases r with
  | void | handle _ _ => exact fun x hx => absurd hx List.not_mem_nil
  | value v => exact h v rfl

theorem hasDistinctKeys_entries (h : ∀ v ∈ r.value?, v.HasDistinctKeys) :
    (Value.object (Response.entries (.ok r))).HasDistinctKeys := by
  cases r with
  | void => exact ⟨by decide, trivial, trivial, trivial⟩
  | handle _ _ =>
    have hkeys : ["kind", "type", "handle"].Nodup := by decide
    exact ⟨hkeys, trivial, trivial, trivial, trivial⟩
  | value v =>
    have hkeys : ["kind", "type", "value"].Nodup := by decide
    exact ⟨hkeys, trivial, trivial, h v rfl, trivial⟩

/-- Replies without floating-point numbers that are told alike are the same. -/
theorem text_inj (hr : r.IsFloatFree) (hr' : r'.IsFloatFree)
    (h : Response.text (.ok r) = Response.text (.ok r')) : r = r' := by
  rw [Response.text_eq, Response.text_eq] at h
  have hentries := Value.object.inj (print_inj hr.entries hr'.entries h)
  have hread := ofObject?_entries r
  rw [hentries, ofObject?_entries] at hread
  exact (Option.some.inj hread).symm

end Reply

/-- Every response is told on one line, which holds no line feed but the one at its end. Before
    it stands the JSON text of one object: of a reply, that it is one, its type, and at most one
    of a value and a handle; of a failure, that it is one, its code and its message. A reply
    whose value holds no floating-point number is recovered from this text if the value nests
    less deep than a text may, the object around it counting as one; otherwise the text is
    refused for its depth, and for nothing else. In any case different such replies have
    different lines. (The keys of an object are distinct, it being a map.) -/
theorem line_loses_nothing :
    (∀ r : Response, r.line = r.text ++ [Bytes.lineFeed] ∧ Bytes.lineFeed ∉ r.text) ∧
    (∀ r : Reply, r.result.length ≤ 1 ∧ Response.text (.ok r) = (Value.object
      (("kind", .string "ok") :: ("type", .string r.type) :: r.result)).print) ∧
    (∀ e : Failure, Response.text (.error e) = (Value.object [("kind", .string "error"),
      ("code", .string e.code.text), ("message", .string e.message)]).print) ∧
    (∀ r : Reply, r.IsFloatFree → (∀ v ∈ r.value?, v.HasDistinctKeys) →
      ((∀ v ∈ r.value?, v.depth < nestingLimit) →
        ∃ m, Value.read (Response.text (.ok r)) = .ok (.object m) ∧
          Reply.ofObject? m = some r) ∧
      ((∃ v ∈ r.value?, nestingLimit ≤ v.depth) →
        ∃ f, Value.read (Response.text (.ok r)) = .error f ∧ f.reason = .recursionLimit)) ∧
    ∀ r r' : Reply, r.IsFloatFree → r'.IsFloatFree →
      Response.line (.ok r) = Response.line (.ok r') → r = r' := by
  refine ⟨fun r => ⟨r.line_eq, r.lineFeed_not_mem_text⟩, fun r => ⟨?_, Response.text_eq (.ok r)⟩,
    fun e => Response.text_eq (.error e), fun r hfree hkeys => ⟨fun hdepth => ?_, ?_⟩,
    fun r r' hfree hfree' h => ?_⟩
  · cases r with
    | void => exact Nat.zero_le 1
    | value _ | handle _ _ => exact Nat.le_refl 1
  · have hfits : (Value.object (Response.entries (.ok r))).depth ≤ nestingLimit := by
      rw [Reply.depth_entries]
      cases hv : r.value? with
      | none => decide
      | some v => exact hdepth v hv
    rw [Response.text_eq]
    exact ⟨_, read_print hfits hfree.entries (Reply.hasDistinctKeys_entries hkeys),
      r.ofObject?_entries⟩
  · rintro ⟨v, hv, hdeep⟩
    have hlimit : nestingLimit < (Value.object (Response.entries (.ok r))).depth := by
      rw [Reply.depth_entries, hv]
      exact Nat.lt_succ_of_le hdeep
    rw [Response.text_eq]
    exact read_print_of_deep hlimit (rereads_of_isFloatFree hfree.entries)
  · rw [Response.line_eq, Response.line_eq] at h
    exact Reply.text_inj hfree hfree' (List.append_cancel_right h)

/-- A reply of a map with a quote, a line feed and a control character in it, and `null`, is
    recovered from its line; and the line is that of no other reply. -/
theorem awkward_reply_is_recovered :
    let v : Value := .object [("\"\n\u0001\\", .array [.null, .ofNat 18446744073709551615]),
      ("é𝄞", .string "@1")]
    let r : Reply := .value v
    r.IsFloatFree ∧ (∀ v ∈ r.value?, v.HasDistinctKeys) ∧ (∀ v ∈ r.value?, v.depth < nestingLimit) ∧
      (∃ m, Value.read (Response.text (.ok r)) = .ok (.object m) ∧ Reply.ofObject? m = some r) ∧
      r = r := by
  intro v r
  have hfree : r.IsFloatFree := by
    rintro _ ⟨rfl⟩ x hx
    obtain rfl : x = .ofNat 18446744073709551615 := List.mem_singleton.1 hx
    decide
  have hkeys : ∀ v ∈ r.value?, v.HasDistinctKeys := by
    rintro _ ⟨rfl⟩
    have hdistinct : ["\"\n\u0001\\", "é𝄞"].Nodup := by decide
    exact ⟨hdistinct, ⟨trivial, trivial, trivial⟩, trivial, trivial⟩
  have hdepth : ∀ v ∈ r.value?, v.depth < nestingLimit := by
    rintro _ ⟨rfl⟩
    decide
  exact ⟨hfree, hkeys, hdepth, (line_loses_nothing.2.2.2.1 r hfree hkeys).1 hdepth,
    line_loses_nothing.2.2.2.2 r r hfree hfree rfl⟩

/-- Arrays in one another. -/
def nested : Nat → Value
  | 0 => .array []
  | n + 1 => .array [nested n]

theorem depth_nested (n : Nat) : (nested n).depth = n + 1 := by
  induction n with
  | zero => rfl
  | succ n ih =>
    change max (nested n).depth 0 + 1 = n + 1 + 1
    rw [Nat.max_zero, ih]

theorem numbers_nested (n : Nat) : (nested n).numbers = [] := by
  induction n with
  | zero => rfl
  | succ n ih =>
    change (nested n).numbers ++ [] = []
    rw [ih, List.append_nil]

theorem hasDistinctKeys_nested (n : Nat) : (nested n).HasDistinctKeys := by
  induction n with
  | zero => trivial
  | succ n ih => exact ⟨ih, trivial⟩

/-- Not every reply without floating-point numbers can be read back: one of 127 arrays in one
    another is not, because with the object around it the line nests too deep. -/
theorem deepest_reply_is_not_read_back :
    ¬∀ r : Reply, r.IsFloatFree → (∀ v ∈ r.value?, v.HasDistinctKeys) →
      ∃ m, Value.read (Response.text (.ok r)) = .ok (.object m) ∧ Reply.ofObject? m = some r := by
  intro h
  let r : Reply := .value (nested 126)
  have hfree : r.IsFloatFree := by
    rintro _ ⟨rfl⟩
    rw [Value.IsFloatFree, numbers_nested]
    exact fun x hx => absurd hx List.not_mem_nil
  have hkeys : ∀ v ∈ r.value?, v.HasDistinctKeys := by
    rintro _ ⟨rfl⟩
    exact hasDistinctKeys_nested 126
  have hlimit : nestingLimit < (Value.object (Response.entries (.ok r))).depth := by
    rw [Reply.depth_entries]
    exact Nat.lt_succ_of_le (Nat.le_of_eq (depth_nested 126).symm)
  obtain ⟨m, hm, _⟩ := h r hfree hkeys
  obtain ⟨f, hf, _⟩ := read_print_of_deep hlimit (rereads_of_isFloatFree hfree.entries)
  rw [Response.text_eq, hf] at hm
  exact absurd hm (by simp)

end Protocol

end Testbed
