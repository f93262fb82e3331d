import Testbed.Proofs.Argument.Priority
import Testbed.Proofs.Argument.Read

/-!
# Reading declared arguments

What a signature declares about a parameter is what the readers of arguments ask again, so a
method that reads a parameter with a reader of its kind is not refused: a required parameter
is always found, and of an optional one it shows whether something was given. Two questions
are left to the readers, whether an integer is negative and of which concrete type an object
is.

* `Arguments.Reads`: what the readers find under a name, by the kind of the value;
* `reads_of_accepts`: a value of a kind is found by the readers of the kind;
* `declared_arguments_are_read`: what can be read of arguments that resolved.
-/

namespace Testbed.Argument

open Json

/-- The bag gives the name a value other than `null`. -/
def Bag.Gives (name : String) (raw : Value) (bag : Bag) : Prop :=
  Entries.get? name bag = some raw ∧ raw ≠ .null

namespace Arguments

/-- What the readers for a kind find under a name, when it has a value of the kind. -/
def Reads (a : Arguments) (name : String) (v : Resolved) : Kind → Prop
  | .any | .boolean | .number => True
  | .integer => ∃ n fits, v = .number (.integer n fits) ∧
    (0 ≤ n → a.natural? name = .ok (some n.toNat) ∧ a.natural name = .ok n.toNat) ∧
    (n < 0 → (∃ e, a.natural? name = .error e) ∧ ∃ e, a.natural name = .error e)
  | .string => ∃ s, v = .string s ∧ a.string? name = .ok (some s) ∧ a.string name = .ok s
  | .sequence => ∃ items, v = .sequence items ∧ a.sequence? name = .ok (some items)
  | .mapping => ∃ entries, v = .mapping entries ∧ a.mapping? name = .ok (some entries)
  | .object tag => ∃ o, v = .object o ∧ o.tag = tag ∧ a.liveObject name = .ok o ∧
    ∀ type : ObjectType, (∃ e, a.object type name = .error e) ↔ o.object.type ≠ type
  | .anyObject => ∃ o, v = .object o ∧ a.liveObject name = .ok o

variable {a : Arguments} {name : String} {v : Resolved}

theorem reads_integer {n : Int} {fits : -9223372036854775808 ≤ n ∧ n < 18446744073709551616}
    (hv : a.get? name = some (.number (.integer n fits))) :
    a.Reads name (.number (.integer n fits)) .integer := by
  refine ⟨n, fits, rfl, fun hn => ?_, fun hn => ?_⟩
  · rw [natural?_of_get? hv, natural_of_get? hv, if_pos hn, if_pos hn]
    exact ⟨rfl, rfl⟩
  · rw [natural?_of_get? hv, natural_of_get? hv, if_neg (Int.not_le.2 hn), if_neg (Int.not_le.2 hn)]
    exact ⟨⟨_, rfl⟩, _, rfl⟩

theorem reads_object {o : LiveObject} (hv : a.get? name = some (.object o)) :
    a.Reads name (.object o) (.object o.tag) := by
  refine ⟨o, rfl, rfl, liveObject_of_get? hv, fun type => ?_⟩
  rw [object_of_get? hv]
  split <;> simp [*]

/-- A value of a kind is found by the readers for the kind. -/
theorem reads_of_accepts (hv : a.get? name = some v) {kind : Kind}
    (ha : kind.accepts v = true) : a.Reads name v kind := by
  cases kind with
  | any | boolean | number => trivial
  | integer =>
    rcases v with _ | _ | (⟨n, fits⟩ | _) | _ | _ | _ | _
    case number.integer => exact reads_integer hv
    all_goals exact absurd ha nofun
  | string =>
    cases v with
    | string s => exact ⟨s, rfl, string?_of_get? hv, string_of_get? hv⟩
    | null | boolean | number | object | sequence | mapping => exact absurd ha nofun
  | sequence =>
    cases v with
    | sequence items => exact ⟨items, rfl, sequence?_of_get? hv⟩
    | null | boolean | number | string | object | mapping => exact absurd ha nofun
  | mapping =>
    cases v with
    | mapping entries => exact ⟨entries, rfl, mapping?_of_get? hv⟩
    | null | boolean | number | string | object | sequence => exact absurd ha nofun
  | object tag =>
    cases v with
    | object o => exact of_decide_eq_true ha ▸ reads_object hv
    | null | boolean | number | string | sequence | mapping => exact absurd ha nofun
  | anyObject =>
    cases v with
    | object o => exact ⟨o, rfl, liveObject_of_get? hv⟩
    | null | boolean | number | string | sequence | mapping => exact absurd ha nofun

end Arguments

variable {r : Registry} {signature : Signature} {bag : Bag} {a : Arguments} {p : Param}
  {name : String} {raw : Value}

/-- Of distinct names each declares one parameter. -/
theorem param?_of_mem (hn : (signature.map Param.name).Nodup) (hp : p ∈ signature) :
    signature.param? p.name = some p := by
  induction signature with
  | nil => exact absurd hp List.not_mem_nil
  | cons q signature ih =>
    rw [List.map_cons, List.nodup_cons] at hn
    rw [Signature.param?, List.find?_cons]
    rcases List.mem_cons.1 hp with rfl | hp
    · simp
    · have hq : q.name ≠ p.name := fun h => hn.1 (h ▸ List.mem_map_of_mem hp)
      simpa [Signature.param?, hq] using ih hn.2 hp

/-- A name that is not given a value lacks one. -/
theorem lacks_of_not_gives (h : ∀ raw, ¬bag.Gives name raw) : bag.Lacks name := by
  cases hg : Entries.get? name bag with
  | none => exact .inl hg
  | some raw => exact .inr (by rw [hg, not_not.1 fun hnull => h raw ⟨hg, hnull⟩])

section Resolved

variable (ha : resolve r signature bag = .ok a)
include ha

/-- What is given to a declared parameter is found under its name, and has its kind. -/
theorem get?_of_gives (hp : signature.param? name = some p) (hg : bag.Gives name raw) :
    ∃ v, IsImage r raw v ∧ a.get? name = some v ∧ p.kind.accepts v = true := by
  obtain ⟨hc, rfl⟩ := resolve_eq_ok_arguments_iff.1 ha
  have hnull : raw.isNull = false := by
    cases raw with
    | null => exact absurd rfl hg.2
    | boolean | number | string | array | object => rfl
  have hadmits := Directory.admits_of_complaint? hc hp hg.1
  rw [← admits_image, Param.admits, isNull_image, hnull, Bool.false_and, Bool.false_or] at hadmits
  have hd := Directory.dead?_eq_none_of_complaint? hc (Entries.mem_of_get? hg.1)
  have himage : IsImage r raw (image r raw) := (isImage_iff raw _).2 ⟨hd, rfl⟩
  exact ⟨image r raw, himage, get?_arguments_of_present hg.1 hnull, hadmits⟩

/-- Nothing is found under a name that lacks a value. -/
theorem get?_of_lacks (hl : bag.Lacks name) : a.get? name = none := by
  obtain ⟨_, rfl⟩ := resolve_eq_ok_arguments_iff.1 ha
  exact get?_arguments_of_missing (lacks_iff.1 hl)

theorem exists_gives_of_required (hp : p ∈ signature) (hr : p.required = true) :
    ∃ raw, bag.Gives p.name raw :=
  (complaint?_eq_none_iff.1 (resolve_eq_ok_arguments_iff.1 ha).1).1 p hp hr

/-- A reader that finds what is given finds nothing just when nothing is. -/
theorem typed_finds_none_iff {α : Type} {expected : String} {extract : Resolved → Option α}
    (hg : ∀ raw, bag.Gives name raw → ∃ x, a.typed name expected extract = .ok (some x)) :
    ∃ x?, a.typed name expected extract = .ok x? ∧ (x? = none ↔ bag.Lacks name) := by
  by_cases hl : bag.Lacks name
  · exact ⟨none, Arguments.typed_of_get?_eq_none (get?_of_lacks ha hl), by simp [hl]⟩
  · obtain ⟨raw, hraw⟩ := not_forall_not.1 (mt lacks_of_not_gives hl)
    obtain ⟨x, hx⟩ := hg raw hraw
    exact ⟨some x, hx, by simp [hl]⟩

end Resolved

/-- Of arguments that resolved, a parameter that is declared is read as it is declared, when
    the names are distinct. What is required is found, and the readers for its kind find it.
    So they find what is given where it is not required, and with a text, a sequence or a
    mapping they tell that nothing is given. An integer is refused where it is negative and a
    natural number is wanted, and an object where it is of another concrete type than the one
    that is wanted; there is no object where none is given, and this too is refused. -/
theorem declared_arguments_are_read (hn : (signature.map Param.name).Nodup)
    (ha : resolve r signature bag = .ok a) (hp : p ∈ signature) :
    (p.required = true → ∃ raw v, bag.Gives p.name raw ∧ IsImage r raw v ∧
      a.require p.name = .ok v ∧ a.Reads p.name v p.kind) ∧
    (∀ raw, bag.Gives p.name raw → ∃ v, IsImage r raw v ∧ a.require p.name = .ok v ∧
      a.Reads p.name v p.kind) ∧
    (p.kind = .string → ∃ s?, a.string? p.name = .ok s? ∧ (s? = none ↔ bag.Lacks p.name)) ∧
    (p.kind = .sequence → ∃ items?, a.sequence? p.name = .ok items? ∧
      (items? = none ↔ bag.Lacks p.name)) ∧
    (p.kind = .mapping → ∃ entries?, a.mapping? p.name = .ok entries? ∧
      (entries? = none ↔ bag.Lacks p.name)) ∧
    (bag.Lacks p.name → ∀ type, a.object type p.name = .error (.missing p.name)) := by
  have hgiven : ∀ raw, bag.Gives p.name raw → ∃ v, IsImage r raw v ∧ a.require p.name = .ok v ∧
      a.Reads p.name v p.kind := fun raw hg => by
    obtain ⟨v, hv, hget, haccepts⟩ := get?_of_gives ha (param?_of_mem hn hp) hg
    exact ⟨v, hv, Arguments.require_of_get? hget, Arguments.reads_of_accepts hget haccepts⟩
  refine ⟨fun hr => ?required, hgiven, fun hk => ?string, fun hk => ?sequence, fun hk => ?mapping,
    fun hl type => ?absent⟩
  case required =>
    obtain ⟨raw, hg⟩ := exists_gives_of_required ha hp hr
    obtain ⟨v, h⟩ := hgiven raw hg
    exact ⟨raw, v, hg, h⟩
  case string =>
    refine typed_finds_none_iff ha fun raw hg => ?_
    obtain ⟨v, _, _, h⟩ := hgiven raw hg
    rw [hk] at h
    obtain ⟨s, _, hs, _⟩ := h
    exact ⟨s, hs⟩
  case sequence =>
    refine typed_finds_none_iff ha fun raw hg => ?_
    obtain ⟨v, _, _, h⟩ := hgiven raw hg
    rw [hk] at h
    obtain ⟨items, _, hitems⟩ := h
    exact ⟨items, hitems⟩
  case mapping =>
    refine typed_finds_none_iff ha fun raw hg => ?_
    obtain ⟨v, _, _, h⟩ := hgiven raw hg
    rw [hk] at h
    obtain ⟨entries, _, hentries⟩ := h
    exact ⟨entries, hentries⟩
  case absent =>
    rw [Arguments.object, Arguments.liveObject,
      Arguments.typed_of_get?_eq_none (get?_of_lacks ha hl), Arguments.required]

/-- A dictionary is read as what it is and its key as a text, where an array is wanted the
    dictionary is refused, and it shows that no content is given. -/
theorem dictionary_is_read_as_declared :
    let o : LiveObject := ⟨⟨1⟩, ⟨0, .dictionary⟩⟩
    let a : Arguments := ⟨[("key", .string "k"), ("target", .object o), ("content", .null)]⟩
    a.liveObject "target" = .ok o ∧ (∃ e, a.object .array "target" = .error e) ∧
      a.string "key" = .ok "k" ∧ a.mapping? "content" = .ok none := by
  intro o a
  let signature : Signature := [⟨"target", .object ⟨"dictionary"⟩, true⟩,
    ⟨"key", .string, true⟩, ⟨"content", .mapping, false⟩]
  let bag : Bag := [("key", .string "k"), ("target", .string "@1"), ("content", .null)]
  have hn : (signature.map Param.name).Nodup := by decide
  have ha : resolve (({} : Registry).register o.object).2 signature bag = .ok a := rfl
  obtain ⟨htarget, -⟩ := declared_arguments_are_read (p := signature[0]) hn ha (by simp [signature])
  obtain ⟨hkey, -⟩ := declared_arguments_are_read (p := signature[1]) hn ha (by simp [signature])
  obtain ⟨-, -, -, -, hcontent, -⟩ :=
    declared_arguments_are_read (p := signature[2]) hn ha (by simp [signature])
  obtain ⟨_, v, _, _, hv, o', hreads, _, hlive, htype⟩ := htarget rfl
  obtain rfl : v = .object o := (Except.ok.inj hv).symm
  obtain rfl : o = o' := Resolved.object.inj hreads
  obtain ⟨_, v, _, _, hv, s, hreads, _, hs⟩ := hkey rfl
  obtain rfl : v = .string "k" := (Except.ok.inj hv).symm
  obtain rfl : "k" = s := Resolved.string.inj hreads
  obtain ⟨content, hread, hnone⟩ := hcontent rfl
  obtain rfl : content = none := hnone.2 (.inr rfl)
  exact ⟨hlive, (htype .array).2 (by decide), hs, hread⟩

/-- Where an object need not be given and is not, there is none of another type than the one
    that is wanted, and still it is refused to read one. -/
theorem absent_object_is_missing :
    let type : ObjectType := ⟨"widget", ⟨"widget"⟩⟩
    let p : Param := ⟨"x", .object type.tag, false⟩
    resolve {} [p] [] = .ok ⟨[]⟩ ∧ Arguments.object type p.name ⟨[]⟩ = .error (.missing p.name) ∧
      ¬∃ o, Arguments.get? p.name ⟨[]⟩ = some (.object o) ∧ o.object.type ≠ type := by
  intro type p
  refine ⟨rfl, rfl, ?_⟩
  rintro ⟨o, ho, _⟩
  exact absurd ho nofun

end Testbed.Argument
