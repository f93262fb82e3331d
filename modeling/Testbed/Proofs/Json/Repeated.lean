import Testbed.Proofs.Entries
import Testbed.Proofs.Json.Grammar

/-!
# Repeated keys

What a text stands for can be told with all the entries of its objects, each as it is written
(`Value.IsWritten`). The value that is read has one entry for each key, at the place of the first
entry with the key and with the value of the last (`Value.latest`), at any depth.

* `readValue_put`: reading so that the last value counts is reading all entries first;
* `read_eq_ok_iff`: the value of a whole text.
-/

namespace Testbed

namespace Entries

variable {κ ν : Type} [DecidableEq κ]

omit [DecidableEq κ] in
theorem keys_append (l l' : List (κ × ν)) : keys (l ++ l') = keys l ++ keys l' := List.map_append

/-- Building a map keeps the keys, each at its first place. -/
theorem keys_ofList (l : List (κ × ν)) : keys (ofList l) = (keys l).eraseDups := by
  induction l using List.reverseRecOn with
  | nil => rfl
  | append_singleton l e ih =>
    have hmem : e.1 ∈ keys (ofList l) ↔ e.1 ∈ keys l := mem_keys_ofList_iff
    have hkeys : keys [e] = [e.1] := rfl
    rw [ofList_concat, keys_put, keys_append, List.eraseDups_append, hkeys, ih]
    by_cases h : e.1 ∈ keys l
    · rw [if_pos (ih ▸ hmem.2 h)]
      simp [List.removeAll, h]
    · rw [if_neg fun h' => h (hmem.1 (ih ▸ h'))]
      simp [List.removeAll, h, List.eraseDups_cons]

/-- Of two keys, the one that is set first also comes first in the map. -/
theorem idxOf_keys_ofList_lt_iff {l : List (κ × ν)} {a b : κ} (ha : a ∈ keys l) :
    (keys (ofList l)).idxOf a < (keys (ofList l)).idxOf b ↔
      (keys l).idxOf a < (keys l).idxOf b := by
  induction l using List.reverseRecOn with
  | nil => exact absurd ha List.not_mem_nil
  | append_singleton l e ih =>
    have hmem : ∀ {k : κ}, k ∈ keys (ofList l) ↔ k ∈ keys l := mem_keys_ofList_iff
    have hlt : ∀ {k : κ} {l : List κ}, k ∈ l → l.idxOf k < l.length := List.idxOf_lt_length_of_mem
    have hkeys : keys (l ++ [e]) = keys l ++ [e.1] := keys_append l [e]
    have hone : ∀ k : κ, [e.1].idxOf k = if e.1 = k then 0 else 1 := fun k => by
      simp [List.idxOf_cons]
    rw [hkeys, List.mem_append, List.mem_singleton] at ha
    rw [ofList_concat, keys_put, hkeys]
    -- A key that is there already is not added again; a new one goes to the end of both.
    split
    case isTrue he =>
      have ha : a ∈ keys l := ha.elim id fun h => h ▸ hmem.1 he
      grind
    case isFalse he => grind

/-- A map is known by its keys, in order, and the value of each. -/
theorem ext {m m' : Entries κ ν} (hkeys : keys m = keys m') (hm : (keys m').Nodup)
    (hget : ∀ k, get? k m = get? k m') : m = m' := by
  induction m' generalizing m with
  | nil => exact List.map_eq_nil_iff.1 hkeys
  | cons e' r' ih =>
    cases m with
    | nil => exact absurd hkeys (List.cons_ne_nil _ _).symm
    | cons e r =>
      obtain ⟨k, v⟩ := e
      obtain ⟨k', v'⟩ := e'
      obtain ⟨rfl, hr : keys r = keys r'⟩ := List.cons_eq_cons.1 hkeys
      have hm := List.nodup_cons.1 hm
      have hv := hget k
      rw [get?_cons, get?_cons, if_pos rfl, if_pos rfl] at hv
      obtain rfl := Option.some.inj hv
      -- The first key does not occur again, and the others are looked up behind it.
      have hnone : get? k r' = none := get?_eq_none_iff.2 hm.1
      have hnone' : get? k r = none := get?_eq_none_iff.2 (hr ▸ hm.1)
      have htail : ∀ l, get? l r = get? l r' := by
        intro l
        by_cases hl : k = l
        · rw [← hl, hnone, hnone']
        · simpa [get?_cons, hl] using hget l
      rw [ih hr hm.2 htail]

omit [DecidableEq κ] in
theorem keys_mapValues {μ : Type} (f : ν → μ) (m : Entries κ ν) :
    keys (mapValues f m) = keys m := by
  rw [keys, mapValues, List.map_map]
  rfl

theorem ofList_mapValues {μ : Type} (f : ν → μ) (l : List (κ × ν)) :
    ofList (mapValues f l) = mapValues f (ofList l) := by
  induction l using List.reverseRecOn with
  | nil => rfl
  | append_singleton l e ih =>
    have hconcat : mapValues f (l ++ [e]) = mapValues f l ++ [(e.1, f e.2)] := List.map_append
    rw [hconcat, ofList_concat, ofList_concat, ih]
    exact put_mapValues f e.1 e.2 (ofList l)

end Entries

namespace Json

namespace Value

mutual

/-- A value with one entry for each key of an object, at the place of the first entry with the
    key and with the value of the last one. -/
def latest : Value → Value
  | .array items => .array (latestItems items)
  | .object entries => .object (Entries.ofList (latestEntries entries))
  | v => v

/-- The same of items. -/
def latestItems : List Value → List Value
  | [] => []
  | v :: r => latest v :: latestItems r

/-- The same of the values of entries, which are all kept. -/
def latestEntries : List (String × Value) → List (String × Value)
  | [] => []
  | (k, v) :: r => (k, latest v) :: latestEntries r

end

theorem latestItems_eq (items : List Value) : latestItems items = items.map latest := by
  induction items with
  | nil => rfl
  | cons v items ih => rw [latestItems, ih, List.map_cons]

theorem latestEntries_eq (entries : List (String × Value)) :
    latestEntries entries = Entries.mapValues latest entries := by
  induction entries with
  | nil => rfl
  | cons e entries ih =>
    rw [latestEntries, ih]
    rfl

theorem latestEntries_concat (entries : List (String × Value)) (key : String) (v : Value) :
    latestEntries (entries ++ [(key, v)]) = latestEntries entries ++ [(key, v.latest)] := by
  rw [latestEntries_eq, Entries.mapValues, List.map_append, latestEntries_eq]
  rfl

end Value

/-! ## Entries that count -/

/-- The value is the last one that the entries give the key: it is the one that counts. -/
def Counts (key : String) (v : Value) (entries : Object) : Prop :=
  ∃ earlier later, entries = earlier ++ (key, v) :: later ∧ key ∉ Entries.keys later

variable {entries : Object} {key : String} {v w : Value}

theorem Counts.eq (hv : Counts key v entries) (hw : Counts key w entries) : v = w := by
  have hv := Entries.get?_ofList_eq_some_iff.2 hv
  rw [Entries.get?_ofList_eq_some_iff.2 hw] at hv
  exact (Option.some.inj hv).symm

theorem exists_counts_iff : (∃ v, Counts key v entries) ↔ key ∈ Entries.keys entries := by
  rw [← Entries.mem_keys_ofList_iff, ← not_iff_not, ← Entries.get?_eq_none_iff,
    Option.eq_none_iff_forall_ne_some, not_exists]
  exact forall_congr' fun v => not_congr Entries.get?_ofList_eq_some_iff.symm

/-- The map has the keys of the entries, each at its first place and with the value that
    counts. -/
structure IsCondensed (entries m : Object) : Prop where
  keys : Entries.keys m = (Entries.keys entries).eraseDups
  value : ∀ key v, Entries.get? key m = some v ↔ ∃ w, Counts key w entries ∧ v = w.latest

theorem isCondensed_latest (entries : Object) :
    IsCondensed entries (Entries.ofList (Value.latestEntries entries)) where
  keys := by rw [Entries.keys_ofList, Value.latestEntries_eq, Entries.keys_mapValues]
  value key v := by
    rw [Value.latestEntries_eq, Entries.ofList_mapValues, Entries.get?_mapValues,
      Option.map_eq_some_iff]
    exact exists_congr fun w => and_congr Entries.get?_ofList_eq_some_iff eq_comm

/-- An object that is read is so condensed, and this says what it is. -/
theorem isCondensed_iff {m : Object} :
    IsCondensed entries m ↔ m = Entries.ofList (Value.latestEntries entries) := by
  have hlatest := isCondensed_latest entries
  constructor
  · intro h
    refine Entries.ext (h.keys.trans hlatest.keys.symm) (Entries.nodup_keys_ofList _) fun key => ?_
    exact Option.ext fun v => (h.value key v).trans (hlatest.value key v).symm
  · rintro rfl
    exact hlatest

section IsCondensed

variable {m : Object} (hm : IsCondensed entries m)
include hm

theorem IsCondensed.nodup : (Entries.keys m).Nodup :=
  isCondensed_iff.1 hm ▸ Entries.nodup_keys_ofList (Value.latestEntries entries)

theorem IsCondensed.mem_iff : (key, v) ∈ m ↔ ∃ w, Counts key w entries ∧ v = w.latest := by
  rw [← hm.value]
  exact ⟨Entries.get?_of_mem hm.nodup, Entries.mem_of_get?⟩

theorem IsCondensed.get?_eq_none_iff : Entries.get? key m = none ↔ key ∉ Entries.keys entries := by
  rw [Entries.get?_eq_none_iff, hm.keys, List.mem_eraseDups]

/-- The keys come in the order in which they first occur. -/
theorem IsCondensed.idxOf_lt_iff {a b : String} (ha : a ∈ Entries.keys entries) :
    (Entries.keys m).idxOf a < (Entries.keys m).idxOf b ↔
      (Entries.keys entries).idxOf a < (Entries.keys entries).idxOf b := by
  have hkeys : Entries.keys (Value.latestEntries entries) = Entries.keys entries := by
    rw [Value.latestEntries_eq, Entries.keys_mapValues]
  rw [isCondensed_iff.1 hm, Entries.idxOf_keys_ofList_lt_iff (hkeys ▸ ha), hkeys]

end IsCondensed

/-! ## Reading -/

/-- What is left is left alone when what was read is changed. -/
def Scan.onRead {α β : Type} (f : α → β) (r : Scan α) : Scan β := r.map (Prod.map f id)

section Parts

variable {item : Bytes → Scan Value} {item' : Bytes → Scan Value}
  (hitem : ∀ s, item' s = (item s).onRead Value.latest)
include hitem

theorem readItems_latest (fuel : Nat) (first : Bool) (read : List Value) (s : Bytes) :
    readItems item' fuel first (read.map Value.latest) s =
      (readItems item fuel first read s).onRead Value.latestItems := by
  induction fuel generalizing first read s with
  | zero => rfl
  | succ fuel ih =>
    rw [readItems, readItems]
    rcases nextItem first s with f | ⟨s⟩ | ⟨s⟩
    · rfl
    · dsimp only
      rw [hitem]
      rcases item s with f | ⟨v, s⟩
      · rfl
      · exact ih false (v :: read) s
    · dsimp only [Scan.onRead, Except.map, Prod.map]
      rw [Value.latestItems_eq, List.map_reverse, id]

theorem readEntries_latest (fuel : Nat) (first : Bool) (read : Object) (s : Bytes) :
    readEntries Entries.put item' fuel first (Entries.ofList (Value.latestEntries read)) s =
      (readEntries keepAll item fuel first read s).onRead
        fun m => Entries.ofList (Value.latestEntries m) := by
  induction fuel generalizing first read s with
  | zero => rfl
  | succ fuel ih =>
    rw [readEntries, readEntries]
    rcases nextKey first s with f | ⟨s⟩ | ⟨s⟩
    · rfl
    · dsimp only
      rcases scanString s with f | ⟨key, s⟩
      · rfl
      dsimp only
      rcases skipColon s with f | s
      · rfl
      dsimp only
      rw [hitem]
      rcases item s with f | ⟨v, s⟩
      · rfl
      -- What is put into the map is added at the end of the entries that are kept.
      have hput : Entries.put key v.latest (Entries.ofList (Value.latestEntries read)) =
          Entries.ofList (Value.latestEntries (keepAll key v read)) := by
        rw [keepAll, Value.latestEntries_concat, Entries.ofList_concat]
      dsimp only [Scan.onRead, Except.map, Prod.map]
      rw [hput]
      exact ih false _ s
    · rfl

end Parts

theorem onRead_map {α β γ : Type} (r : Scan α) (f : α → β) (g : β → γ) :
    Scan.onRead g (r.map fun (x, s) => (f x, s)) = Scan.onRead (fun x => g (f x)) r := by
  rcases r with e | ⟨x, s⟩
  · rfl
  · rfl

theorem onRead_ite {α β : Type} {c : Prop} [Decidable c] {f : α → β} {r r' : Scan α}
    {t t' : Scan β} (ht : t = r.onRead f) (ht' : t' = r'.onRead f) :
    (if c then t else t') = (if c then r else r').onRead f := by
  rw [ht, ht', ← apply_ite]

/-- What is read is so related, if this is so of the parts. -/
theorem readValue_put_of_parts {depth : Nat}
    (hparts : ∀ inner, depth = inner + 1 → ∀ s,
      readValue Entries.put inner s = (readValue keepAll inner s).onRead Value.latest) (s : Bytes) :
    readValue Entries.put depth s = (readValue keepAll depth s).onRead Value.latest := by
  rw [readValue, readValue]
  rcases skipBlanks s with _ | ⟨b, s⟩
  · rfl
  refine onRead_ite ?null (onRead_ite ?true (onRead_ite ?false (onRead_ite ?negative
    (onRead_ite ?number (onRead_ite ?string (onRead_ite ?array (onRead_ite ?object rfl)))))))
  case null => cases scanWord [117, 108, 108] s <;> rfl
  case true => cases scanWord [114, 117, 101] s <;> rfl
  case false => cases scanWord [97, 108, 115, 101] s <;> rfl
  case negative =>
    rw [onRead_map]
    cases scanNumber true s <;> rfl
  case number =>
    rw [onRead_map]
    cases scanNumber false (b :: s) <;> rfl
  case string =>
    rw [onRead_map]
    cases scanString s <;> rfl
  case array =>
    cases depth with
    | zero => rfl
    | succ inner =>
      have hitems := readItems_latest (hparts inner rfl) (s.length + 1) true [] s
      rw [List.map_nil] at hitems
      dsimp only
      rw [onRead_map, hitems]
      cases readItems (readValue keepAll inner) (s.length + 1) true [] s <;> rfl
  case object =>
    cases depth with
    | zero => rfl
    | succ inner =>
      have hentries : readEntries Entries.put (readValue Entries.put inner) (s.length + 1) true
          [] s = _ := readEntries_latest (hparts inner rfl) (s.length + 1) true [] s
      dsimp only
      rw [onRead_map, hentries]
      cases readEntries keepAll (readValue keepAll inner) (s.length + 1) true [] s <;> rfl

/-- To read with the last value of each key is to read all entries, and then to keep the last
    value of each key. -/
theorem readValue_put (depth : Nat) (s : Bytes) :
    readValue Entries.put depth s = (readValue keepAll depth s).onRead Value.latest := by
  -- On the levels that are left; on the last one there are no parts.
  induction depth generalizing s with
  | zero => exact readValue_put_of_parts (fun _ h => absurd h (Nat.succ_ne_zero _).symm) s
  | succ depth ih =>
    refine readValue_put_of_parts (fun inner h => ?_) s
    obtain rfl := Nat.succ.inj h
    exact ih

/-! ## Whole texts -/

theorem Value.IsWritten.ne_nil {text : Bytes} {v : Value} (h : v.IsWritten text) : text ≠ [] := by
  rintro rfl
  obtain ⟨s, hread, -⟩ := Value.isWritten_iff.1 h
  rw [readValue, skipBlanks] at hread
  exact absurd hread (by simp)

/-- The value that is read of a text is what is written, with the last value of each key. -/
theorem read_eq_ok_iff {text : Bytes} {v : Value} :
    Value.read text = .ok v ↔ ∃ w : Value, w.IsWritten text ∧ v = w.latest := by
  rw [Value.read, readValue_put]
  simp only [Value.isWritten_iff]
  generalize readValue keepAll nestingLimit text = r
  rcases r with f | ⟨w, s⟩
  · simp [Scan.onRead, Except.map]
  · dsimp only [Scan.onRead, Except.map, Prod.map, id]
    cases hfinish : finish s with
    | error f => simp [hfinish]
    | ok => simp [hfinish, eq_comm]

end Json

end Testbed
