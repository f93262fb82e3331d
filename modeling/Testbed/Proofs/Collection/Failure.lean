import Testbed.Proofs.Collection.Calls
import Testbed.Proofs.Collection.Store
import Testbed.Proofs.Method.Refusal
import Testbed.Proofs.Registry.Account

/-!
# When the methods of collections fail

The signatures of these methods ask for all that the handlers read, as long as what is kept as a
dictionary or as an array is one. A signature cannot tell that an index is negative or too great,
and so this is the one thing that a handler refuses (`Collections.Fails`).

* `dispatch_arrayGetValue`: what the request for an item is answered;
* `collections_fail_for_arguments_or_index`: with which errors the methods fail.
-/

namespace Testbed

open Argument Protocol Json Method

variable {σ : Type}

/-- What is registered with the tag of dictionaries or of arrays is a dictionary or an array. -/
def Registry.NativeCollections (history : List Registry.Operation) : Prop :=
  ∀ o : Object, .register o ∈ history →
    ∀ type ∈ [ObjectType.dictionary, .array], o.tag = type.tag → o.type = type

/-- What is live with the tag of dictionaries or of arrays is a dictionary or an array. -/
def Registry.KeepsNative (r : Registry) : Prop :=
  ∀ ⦃h o⦄, r.resolve h = .ok o →
    ∀ type ∈ [ObjectType.dictionary, .array], o.tag = type.tag → o.object.type = type

theorem Registry.NativeCollections.keepsNative {history : List Registry.Operation}
    (hn : Registry.NativeCollections history) : (({} : Registry).after history).KeepsNative :=
  fun _ _ hr => hn _ (register_mem_of_live (resolve_eq_ok_iff.1 hr))

namespace Method.Collections

/-- A request for a method of collections fails. Its arguments do not resolve; or they do, and
    it asks for an item of an array, under a negative index or under one that is not below the
    number of items, as the array itself tells it. -/
inductive Fails (d : Dispatcher σ) (m : Method σ) (bag : Bag) : Failure → Prop
  | unresolved {e : Argument.Error}
    (he : Argument.resolve d.world.registry m.signature bag = .error e) :
    Fails d m bag (.argument e)
  | negative {a : Arguments} {n : Int} {fits : -9223372036854775808 ≤ n ∧ n < 18446744073709551616}
    (hm : m.name = "array_getValue")
    (ha : Argument.resolve d.world.registry m.signature bag = .ok a)
    (hi : Entries.get? "index" bag = some (.number (.integer n fits))) (hn : n < 0) :
    Fails d m bag (.argument (.typeMismatch "index" "non-negative integer" "number"))
  | beyond {a : Arguments} {n length : Nat}
    {fits : -9223372036854775808 ≤ (n : Int) ∧ (n : Int) < 18446744073709551616} {array : String}
    (hm : m.name = "array_getValue")
    (ha : Argument.resolve d.world.registry m.signature bag = .ok a)
    (hi : Entries.get? "index" bag = some (.number (.integer n fits)))
    (hv : Entries.get? "array" bag = some (.string array))
    (hl : (d.dispatch "array_count" [("array", .string array)]).1 =
      .ok (.value (.ofNat length))) (hn : length ≤ n) :
    Fails d m bag (outOfRange n length)

/-! ## Handlers -/

section Handlers

variable {m : Method σ} {r : Registry} {bag : Bag} (hr : r.KeepsNative)
include hr

/-- A collection that is asked for is found. -/
theorem object_of_complaint {type : ObjectType} (htype : type ∈ [ObjectType.dictionary, .array])
    (name : String) {signature : Signature} (hc : r.directory.complaint? signature bag = none)
    (hp : signature.param? name = some ⟨name, .object type.tag, true⟩) :
    ∃ o, bag.Names name o r ∧ o.object.type = type ∧
      (arguments r bag).object type name = .ok o.object := by
  obtain ⟨o, ho, ht⟩ := exists_names_of_complaint name hc hp
  have hnative : o.object.type = type := by
    obtain ⟨_, _, _, _, hlive⟩ := ho
    exact hr hlive type htype ht
  exact ⟨o, ho, hnative, object_of_names ho hnative⟩

/-- A handler that reads no index yields an outcome. -/
theorem run_ok_of_no_complaint (hm : m ∈ table) (hne : m.name ≠ "array_getValue")
    (hc : r.directory.complaint? m.signature bag = none) (w : World σ) :
    ∃ outcome, ((m.handler (arguments r bag)).run w).1 = .ok outcome := by
  have hdictionary := fun hp => object_of_complaint hr (.head _) "dictionary" hc hp
  have harray := fun hp => object_of_complaint hr (.tail _ (.head _)) "array" hc hp
  simp only [table, List.mem_cons, List.not_mem_nil, or_false] at hm
  rcases hm with rfl | rfl | rfl | rfl | rfl | rfl | rfl | rfl | rfl
  · obtain ⟨content, hcontent⟩ :
        ∃ content, (arguments r bag).mapping? "content" = .ok content := by
      rcases mapping?_arguments "content" hc rfl with ⟨_, _, h⟩ | ⟨_, h⟩ <;> exact ⟨_, h⟩
    exact ⟨_, by rw [run_dictionaryCreate w hcontent]⟩
  · obtain ⟨o, _, _, ho⟩ := hdictionary rfl
    obtain ⟨key, _, hk⟩ := string_arguments "key" hc rfl
    exact ⟨_, by rw [run_dictionarySetValue w ho hk]⟩
  · obtain ⟨o, _, _, ho⟩ := hdictionary rfl
    obtain ⟨key, _, hk⟩ := string_arguments "key" hc rfl
    exact ⟨_, by rw [run_dictionaryGetValue w ho hk]⟩
  · obtain ⟨o, _, _, ho⟩ := hdictionary rfl
    exact ⟨_, by rw [run_dictionaryCount w ho]⟩
  · obtain ⟨o, _, _, ho⟩ := hdictionary rfl
    exact ⟨_, by rw [run_dictionaryToMap w ho]⟩
  · obtain ⟨content, hcontent⟩ :
        ∃ content, (arguments r bag).sequence? "content" = .ok content := by
      rcases sequence?_arguments "content" hc rfl with ⟨_, _, h⟩ | ⟨_, h⟩ <;> exact ⟨_, h⟩
    exact ⟨_, by rw [run_arrayCreate w hcontent]⟩
  · obtain ⟨o, _, _, ho⟩ := harray rfl
    exact ⟨_, by rw [run_arrayAddValue w ho]⟩
  · exact absurd rfl hne
  · obtain ⟨o, _, _, ho⟩ := harray rfl
    exact ⟨_, by rw [run_arrayCount w ho]⟩

end Handlers

/-- When an item is refused, and why. -/
theorem itemReply_eq_error_iff {items : List Value} {n : Int} {e : Failure} :
    Store.itemReply items n = .error e ↔
      (n < 0 ∧ e = .argument (.typeMismatch "index" "non-negative integer" "number")) ∨
      (0 ≤ n ∧ items.length ≤ n.toNat ∧ e = outOfRange n.toNat items.length) := by
  rw [Store.itemReply]
  by_cases hn : n < 0
  · simp [hn, Int.not_le.2 hn, eq_comm]
  · by_cases hlt : n.toNat < items.length
    · simp [hn, hlt, Nat.not_le.2 hlt]
    · have hle := Nat.not_lt.1 hlt
      simp [hn, Int.not_lt.1 hn, hle, List.getElem?_eq_none hle, eq_comm]

theorem itemReply_eq_ok_iff {items : List Value} {n : Int} {reply : Reply} :
    Store.itemReply items n = .ok reply ↔
      0 ≤ n ∧ ∃ v, items[n.toNat]? = some v ∧ reply = .value v := by
  rw [Store.itemReply]
  by_cases hn : n < 0
  · simp [hn, Int.not_le.2 hn]
  · cases items[n.toNat]? <;> simp [hn, Int.not_lt.1 hn, eq_comm]

/-- A count that an index reaches is told exactly. -/
theorem length_eq_of_ofNat_eq {count length n : Nat} (h : Value.ofNat count = .ofNat length)
    (hn : length ≤ n) (fits : (n : Int) < 18446744073709551616) : count = length := by
  have hlength : -9223372036854775808 ≤ (length : Int) ∧
      (length : Int) < 18446744073709551616 := by omega
  rw [Value.ofNat, Value.ofNat, Value.number.injEq, Number.ofNat, Number.ofNat, Number.ofInt,
    Number.ofInt, dif_pos hlength] at h
  split at h
  case isTrue => exact Int.ofNat_inj.1 (Number.integer.inj h)
  case isFalse => exact absurd h (by simp)

end Method.Collections

namespace Dispatcher

open Collections

/-! ## Requests -/

section Requests

variable {d : Dispatcher σ} {bag : Bag} {m : Method σ} (hd : d.router.ServesCollections)
include hd

/-- An array tells how many items it has. -/
theorem dispatch_arrayCount {text : String} {h : Handle} {o : LiveObject} (hm : h.IsMarker text)
    (hr : d.world.registry.resolve h = .ok o) (ht : o.object.type = .array) :
    (d.dispatch "array_count" [("array", .string text)]).1 =
      .ok (.value (.ofNat (d.world.heap.contents o.object).items.length)) := by
  have hc := complaint?_of_object hm hr (congrArg ObjectType.tag ht) "array"
  obtain ⟨journal, hx⟩ := dispatch_of_no_complaint hd mem_arrayCount hc
  have ho := object_of_names (names_singleton "array" hm hr) ht
  rw [hx, Action.run_bind, run_arrayCount _ ho]
  rfl

/-- What the request for an item is answered, if its arguments resolve. -/
theorem dispatch_arrayGetValue (hr : d.world.registry.KeepsNative)
    (hc : d.world.registry.directory.complaint? [arrayParam, ⟨"index", .integer, true⟩] bag =
      none) :
    ∃ o n fits, bag.Names "array" o d.world.registry ∧ o.object.type = .array ∧
      Entries.get? "index" bag = some (.number (.integer n fits)) ∧
      (d.dispatch "array_getValue" bag).1 =
        Store.itemReply (d.world.heap.contents o.object).items n := by
  obtain ⟨journal, hx⟩ := dispatch_of_no_complaint hd mem_arrayGetValue hc
  obtain ⟨o, hnames, ht, ho⟩ := object_of_complaint hr (.tail _ (.head _)) "array" hc rfl
  obtain ⟨n, fits, hi, hn⟩ := natural_arguments "index" hc rfl
  refine ⟨o, n, fits, hnames, ht, hi, ?_⟩
  rw [hx, Action.run_bind, Store.itemReply]
  by_cases hneg : n < 0
  · rw [if_neg (Int.not_le.2 hneg)] at hn
    rw [run_arrayGetValue_of_negative _ ho hn, if_pos hneg]
    rfl
  · rw [if_pos (Int.not_lt.1 hneg)] at hn
    rw [run_arrayGetValue _ ho hn, if_neg hneg]
    cases (d.world.heap.contents o.object).items[n.toNat]? <;> rfl

/-- With which errors the request for an item fails. -/
theorem arrayGetValue_eq_error_iff (hr : d.world.registry.KeepsNative) (hm : m ∈ table)
    (hname : m.name = "array_getValue")
    (hc : d.world.registry.directory.complaint? m.signature bag = none) {e : Failure} :
    (d.dispatch m.name bag).1 = .error e ↔ Fails d m bag e := by
  have hresolve := resolve_eq_ok_arguments_iff.2 ⟨hc, rfl⟩
  obtain rfl : m = ⟨"array_getValue", [arrayParam, ⟨"index", .integer, true⟩], arrayGetValue⟩ := by
    simp only [table, List.mem_cons, List.not_mem_nil, or_false] at hm
    rcases hm with rfl | rfl | rfl | rfl | rfl | rfl | rfl | rfl | rfl <;>
      first | rfl | simp at hname
  obtain ⟨o, n, fits, ⟨text, h, hv, hmark, hlive⟩, ht, hi, hx⟩ := dispatch_arrayGetValue hd hr hc
  have hcount := dispatch_arrayCount hd hmark hlive ht
  rw [hx, itemReply_eq_error_iff]
  constructor
  · rintro (⟨hn, rfl⟩ | ⟨hn, hle, rfl⟩)
    · exact .negative rfl hresolve hi hn
    · obtain ⟨k, rfl⟩ := Int.eq_ofNat_of_zero_le hn
      exact .beyond rfl hresolve hi hv hcount hle
  · rintro (he | ⟨_, _, hi', hn⟩ | ⟨_, _, hi', hv', hl, hn⟩)
    · exact absurd (he.symm.trans hresolve) (by simp)
    · rw [hi] at hi'
      obtain rfl := Number.integer.inj (Value.number.inj (Option.some.inj hi'))
      exact .inl ⟨hn, rfl⟩
    · rw [hi] at hi'
      obtain rfl := Number.integer.inj (Value.number.inj (Option.some.inj hi'))
      -- The array that is counted is the one whose item is asked for.
      rw [hv] at hv'
      obtain rfl := Value.string.inj (Option.some.inj hv')
      rw [hcount] at hl
      have hlength := length_eq_of_ofNat_eq (Reply.value.inj (Except.ok.inj hl)) hn fits.2
      exact .inr ⟨Int.natCast_nonneg _, hlength ▸ hn, by rw [hlength, Int.toNat_natCast]⟩

/-- With which errors a method of collections fails. -/
theorem dispatch_eq_error_iff (hr : d.world.registry.KeepsNative) (hm : m ∈ table) {e : Failure} :
    (d.dispatch m.name bag).1 = .error e ↔ Fails d m bag e := by
  cases hc : d.world.registry.directory.complaint? m.signature bag with
  | some complaint =>
    have hresolve := resolve_eq_error_complaint_iff.2 hc
    rw [dispatch_of_complaint hd hm hc]
    constructor
    · rintro ⟨⟩
      exact .unresolved hresolve
    · rintro (he | ⟨_, ha, _⟩ | ⟨_, ha, _⟩)
      · rw [Except.error.inj (he.symm.trans hresolve)]
      · exact absurd (ha.symm.trans hresolve) (by simp)
      · exact absurd (ha.symm.trans hresolve) (by simp)
  | none =>
    by_cases hname : m.name = "array_getValue"
    · exact arrayGetValue_eq_error_iff hd hr hm hname hc
    · -- No other handler fails, and none of the reasons to fail applies.
      obtain ⟨journal, hx⟩ := dispatch_of_no_complaint hd hm hc
      obtain ⟨outcome, houtcome⟩ := run_ok_of_no_complaint hr hm hname hc { d.world with journal }
      obtain ⟨reply, hreply⟩ := respond_ok outcome
        ((m.handler (arguments d.world.registry bag)).run { d.world with journal }).2
      have hok : (d.dispatch m.name bag).1 = .ok reply := by
        rw [hx, Action.run_bind, houtcome, hreply]
      rw [hok]
      constructor
      · exact fun h => absurd h (by simp)
      · rintro (he | ⟨hname', _⟩ | ⟨hname', _⟩)
        · exact absurd (he.symm.trans (resolve_eq_ok_arguments_iff.2 ⟨hc, rfl⟩)) (by simp)
        · exact absurd hname' hname
        · exact absurd hname' hname

/-- A floating-point index is refused with the arguments, whatever its value. -/
theorem dispatch_arrayGetValue_of_float {x : Decimal.Double}
    (hx : Entries.get? "index" bag = some (.number (.float x))) :
    ∃ e, d.dispatch "array_getValue" bag = (.error (.argument e), d) := by
  cases hc : d.world.registry.directory.complaint? [arrayParam, ⟨"index", .integer, true⟩] bag with
  | some e => exact ⟨e, dispatch_of_complaint hd mem_arrayGetValue hc⟩
  | none =>
    obtain ⟨n, fits, hi, _⟩ := natural_arguments "index" hc rfl
    exact absurd (hi.symm.trans hx) (by simp)

/-- An item that is yielded is the one at the index. -/
theorem arrayGetValue_eq_ok (hr : d.world.registry.KeepsNative) {reply : Reply}
    (hreply : (d.dispatch "array_getValue" bag).1 = .ok reply) :
    ∃ o n fits v, bag.Names "array" o d.world.registry ∧
      Entries.get? "index" bag = some (.number (.integer n fits)) ∧ 0 ≤ n ∧
      (d.world.heap.contents o.object).items[n.toNat]? = some v ∧ reply = .value v := by
  cases hc : d.world.registry.directory.complaint? [arrayParam, ⟨"index", .integer, true⟩] bag with
  | some e =>
    have hrefused : d.dispatch "array_getValue" bag = (.error (.argument e), d) :=
      dispatch_of_complaint hd mem_arrayGetValue hc
    rw [hrefused] at hreply
    exact absurd hreply (by simp)
  | none =>
    obtain ⟨o, n, fits, hnames, _, hi, hx⟩ := dispatch_arrayGetValue hd hr hc
    obtain ⟨hn, v, hv, rfl⟩ := itemReply_eq_ok_iff.1 (hx.symm.trans hreply)
    exact ⟨o, n, fits, v, hnames, hi, hn, hv, rfl⟩

end Requests

/-- Consider any state of a dispatcher that has collections among its features, none of the later
    ones with methods of their names, and in which all that was ever registered with the tag of
    dictionaries or of arrays is one. A request for a method of collections fails in two cases
    only: its arguments do not resolve, or it asks for an item of an array by an index that is
    negative or not below the number of items. So a floating-point index is refused, even where
    it is a whole number, and an item that is yielded is the one at the index. -/
theorem collections_fail_for_arguments_or_index (before later : List (Feature σ))
    (hlater : ∀ f ∈ later, f.SparesCollections) (w : World σ)
    (prior : List Registry.Operation) (hw : w.registry = ({} : Registry).after prior)
    (events : List (Event σ)) (hevents : ∀ e ∈ events, e.SparesCollections)
    (hnative : Registry.NativeCollections
      (prior ++ (build (before ++ Collections.feature :: later) w).operations events)) :
    let d := (build (before ++ Collections.feature :: later) w).after events
    (∀ m ∈ table, ∀ bag e, (d.dispatch m.name bag).1 = .error e ↔ Fails d m bag e) ∧
    (∀ bag x, Entries.get? "index" bag = some (.number (.float x)) →
      ∃ e, d.dispatch "array_getValue" bag = (.error (.argument e), d)) ∧
    ∀ bag reply, (d.dispatch "array_getValue" bag).1 = .ok reply →
      ∃ o n fits v, bag.Names "array" o d.world.registry ∧
        Entries.get? "index" bag = some (.number (.integer n fits)) ∧ 0 ≤ n ∧
        (d.world.heap.contents o.object).items[n.toNat]? = some v ∧ reply = .value v := by
  intro d
  have hd : d.router.ServesCollections := servesCollections_after before hlater w hevents
  have hr : d.world.registry.KeepsNative := by
    obtain ⟨journal, hworld⟩ := world_build (before ++ Collections.feature :: later) w
    have hregistry : d.world.registry = ({} : Registry).after
        (prior ++ (build (before ++ Collections.feature :: later) w).operations events) := by
      rw [registry_after, hworld, Registry.after_append, ← hw]
    rw [hregistry]
    exact hnative.keepsNative
  exact ⟨fun m hm bag e => dispatch_eq_error_iff hd hr hm,
    fun bag x hx => dispatch_arrayGetValue_of_float hd hx,
    fun bag reply hreply => arrayGetValue_eq_ok hd hr hreply⟩

/-- Of two items the third is refused, and so is the last one counted from the end. -/
theorem third_of_two_items_is_refused :
    let events : List (Event Unit) :=
      [.request "array_create" [("content", .array [.boolean true, .boolean false])]]
    let start : Dispatcher Unit := build ([] ++ Collections.feature :: []) { state := () }
    Registry.NativeCollections ([] ++ start.operations events) ∧
      ((start.after events).dispatch "array_getValue"
        [("array", .string "@1"), ("index", .number (.integer 2 (by decide)))]).1 =
          .error (outOfRange 2 2) ∧
      ((start.after events).dispatch "array_getValue"
        [("array", .string "@1"), ("index", .number (.integer (-1) (by decide)))]).1 =
          .error (.argument (.typeMismatch "index" "non-negative integer" "number")) := by
  intro events start
  have hops : start.operations events = [.register ⟨0, .array⟩] := rfl
  have hnative : Registry.NativeCollections ([] ++ start.operations events) := by
    intro o ho type htype htag
    rw [hops, List.nil_append, List.mem_singleton] at ho
    obtain rfl := Registry.Operation.register.inj ho
    simp only [List.mem_cons, List.not_mem_nil, or_false] at htype
    rcases htype with rfl | rfl
    · exact absurd htag (by decide)
    · rfl
  obtain ⟨hfails, _⟩ := collections_fail_for_arguments_or_index [] [] (by simp) { state := () } []
    rfl events (by simp [events, Event.SparesCollections]) hnative
  exact ⟨hnative, (hfails _ mem_arrayGetValue _ _).2 (.beyond rfl rfl rfl rfl rfl (Nat.le_refl 2)),
    (hfails _ mem_arrayGetValue _ _).2 (.negative rfl rfl rfl (by decide))⟩

end Dispatcher

end Testbed
