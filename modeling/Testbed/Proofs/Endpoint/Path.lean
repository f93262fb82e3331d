import Testbed.Proofs.Endpoint.Encoding
import Mathlib.Data.List.TakeWhile

/-!
# Paths

A path that starts with a slash and has been read is settled: its segments stand for themselves, and
none of them is a dot segment. Read again it is itself.

* `isPath_rootedPath`: what is read is settled;
* `rootedPath_of_isPath`: a settled path is read as itself.
-/

namespace Testbed.Endpoint.Url

variable {s : List Char} {segs : List (List Char)} {above : Above}

/-! ## Segments -/

/-- A segment that stands for itself. -/
structure IsSegment (s : List Char) : Prop where
  /-- Its characters stay as they are. -/
  kept : ∀ c ∈ s, IsKept pathSet c ∧ c ≠ '/'
  /-- It does not stand for the segment above. -/
  notDouble : isDoubleDot s = false
  /-- It does not stand for nothing. -/
  notSingle : isSingleDot s = false

theorem segments_ne_nil (s : List Char) : segments s ≠ [] := by
  fun_cases segments s <;> exact List.cons_ne_nil _ _

/-- A slash ends a segment, and any other character belongs to one. -/
theorem segments_cons {c : Char} {seg : List Char} (h : segments s = seg :: segs) :
    segments (c :: s) = if c = '/' then [] :: seg :: segs else (c :: seg) :: segs := by
  rw [segments, h]

/-- The characters of a segment are those of the text, and none is a slash. -/
theorem mem_segments : ∀ seg ∈ segments s, ∀ c ∈ seg, c ∈ s ∧ c ≠ '/' := by
  induction s with
  | nil => simp [segments]
  | cons d s ih =>
    obtain ⟨first, segs, hs⟩ := List.exists_cons_of_ne_nil (segments_ne_nil s)
    rw [hs, List.forall_mem_cons] at ih
    rw [segments_cons hs]
    have hlater : ∀ seg ∈ segs, ∀ c ∈ seg, c ∈ d :: s ∧ c ≠ '/' := fun seg hseg c hc =>
      ⟨List.mem_cons_of_mem d (ih.2 seg hseg c hc).1, (ih.2 seg hseg c hc).2⟩
    have hfirst : ∀ c ∈ first, c ∈ d :: s ∧ c ≠ '/' := fun c hc =>
      ⟨List.mem_cons_of_mem d (ih.1 c hc).1, (ih.1 c hc).2⟩
    split
    · exact List.forall_mem_cons.2 ⟨List.forall_mem_nil _, List.forall_mem_cons.2 ⟨hfirst, hlater⟩⟩
    · next hd =>
      have hd' : d ∈ d :: s ∧ d ≠ '/' := ⟨List.mem_cons_self, hd⟩
      exact List.forall_mem_cons.2 ⟨List.forall_mem_cons.2 ⟨hd', hfirst⟩, hlater⟩

/-- A segment is told by the slash behind it. -/
theorem segments_append {seg : List Char} (hseg : ∀ c ∈ seg, c ≠ '/') :
    segments (seg ++ '/' :: s) = seg :: segments s := by
  induction seg with
  | nil =>
    obtain ⟨first, segs, hs⟩ := List.exists_cons_of_ne_nil (segments_ne_nil s)
    rw [List.nil_append, segments_cons hs, if_pos rfl, hs]
  | cons c seg ih =>
    rw [List.forall_mem_cons] at hseg
    rw [List.cons_append, segments_cons (ih hseg.2), if_neg hseg.1]

theorem segments_eq_singleton (hs : ∀ c ∈ s, c ≠ '/') : segments s = [s] := by
  induction s with
  | nil => rfl
  | cons c s ih =>
    rw [List.forall_mem_cons] at hs
    rw [segments_cons (ih hs.2), if_neg hs.1]

theorem segments_intercalate (hne : segs ≠ []) (hsegs : ∀ seg ∈ segs, ∀ c ∈ seg, c ≠ '/') :
    segments (List.intercalate ['/'] segs) = segs := by
  induction segs with
  | nil => exact absurd rfl hne
  | cons seg segs ih =>
    rw [List.forall_mem_cons] at hsegs
    by_cases hne : segs = []
    · rw [hne, List.intercalate_singleton, segments_eq_singleton hsegs.1]
    · rw [List.intercalate_cons_of_ne_nil hne, List.append_assoc, List.singleton_append,
        segments_append hsegs.1, ih hne hsegs.2]

theorem mem_intercalate {c : Char} (hc : c ∈ List.intercalate ['/'] segs) :
    c = '/' ∨ ∃ seg ∈ segs, c ∈ seg := by
  induction segs with
  | nil => cases hc
  | cons seg segs ih =>
    by_cases hne : segs = []
    · rw [hne, List.intercalate_singleton] at hc
      exact .inr ⟨seg, List.mem_cons_self, hc⟩
    · rw [List.intercalate_cons_of_ne_nil hne, List.mem_append, List.mem_append,
        List.mem_singleton] at hc
      obtain (hc | hc) | hc := hc
      · exact .inr ⟨seg, List.mem_cons_self, hc⟩
      · exact .inl hc
      · obtain hc | ⟨seg', hmem, hc⟩ := ih hc
        · exact .inl hc
        · exact .inr ⟨seg', List.mem_cons_of_mem seg hmem, hc⟩

/-! ## Dot segments -/

/-- Where no segment is a dot segment nothing is resolved. -/
theorem resolveSegments_eq
    (hsegs : ∀ seg ∈ segs, isDoubleDot seg = false ∧ isSingleDot seg = false) :
    resolveSegments above segs = above.reverse ++ segs := by
  fun_induction resolveSegments above segs with
  | case1 above => exact (List.append_nil _).symm
  | case2 above last hdouble => simp [hdouble] at hsegs
  | case3 above last _ hsingle => simp [hsingle] at hsegs
  | case4 above last => exact List.reverse_cons
  | case5 above seg rest _ hdouble => simp [hdouble] at hsegs
  | case6 above seg rest _ _ hsingle => simp [hsingle] at hsegs
  | case7 above seg rest _ _ _ ih =>
    rw [ih (List.forall_mem_cons.1 hsegs).2, List.reverse_cons, List.append_assoc,
      List.singleton_append]

/-- Complete segments that stand for themselves, above the root. -/
def Above.IsSettled (above : Above) : Prop :=
  ∃ segs, above = segs ++ [[]] ∧ ∀ seg ∈ segs, IsSegment seg

theorem isSegment_nil : IsSegment [] := ⟨List.forall_mem_nil _, rfl, rfl⟩

namespace Above.IsSettled

variable {seg : List Char}

theorem cons (h : above.IsSettled) (hseg : IsSegment seg) : IsSettled (seg :: above) := by
  obtain ⟨segs, rfl, hsegs⟩ := h
  exact ⟨seg :: segs, rfl, List.forall_mem_cons.2 ⟨hseg, hsegs⟩⟩

theorem shorten (h : above.IsSettled) : above.shorten.IsSettled := by
  obtain ⟨segs, rfl, hsegs⟩ := h
  -- Nothing is above the root, and a drive stays where it is.
  cases segs with
  | nil => exact ⟨[], rfl, hsegs⟩
  | cons seg segs =>
    have hshorten : Above.shorten (seg :: segs ++ [[]]) =
        if isDrive seg then seg :: segs ++ [[]] else segs ++ [[]] := by cases segs <;> rfl
    rw [hshorten]
    split
    · exact ⟨seg :: segs, rfl, hsegs⟩
    · exact ⟨segs, rfl, (List.forall_mem_cons.1 hsegs).2⟩

/-- With a last segment, the segments start at the root. -/
theorem exists_reverse_eq (h : above.IsSettled) (hseg : IsSegment seg) :
    ∃ rest ≠ [], List.reverse (seg :: above) = [] :: rest ∧ ∀ seg ∈ rest, IsSegment seg := by
  obtain ⟨segs, rfl, hsegs⟩ := h
  refine ⟨(seg :: segs).reverse, List.reverse_ne_nil_iff.2 (List.cons_ne_nil _ _), ?_, ?_⟩
  · rw [← List.cons_append, List.reverse_append]
    rfl
  · exact fun seg' hmem => List.forall_mem_cons.2 ⟨hseg, hsegs⟩ seg' (List.mem_reverse.1 hmem)

end Above.IsSettled

/-- What is resolved starts at the root, and all segments stand for themselves. -/
theorem exists_resolveSegments_eq (habove : above.IsSettled) (hne : segs ≠ [])
    (hsegs : ∀ seg ∈ segs, ∀ c ∈ seg, IsKept pathSet c ∧ c ≠ '/') :
    ∃ rest ≠ [], resolveSegments above segs = [] :: rest ∧ ∀ seg ∈ rest, IsSegment seg := by
  fun_induction resolveSegments above segs with
  | case1 => exact absurd rfl hne
  | case2 => exact habove.shorten.exists_reverse_eq isSegment_nil
  | case3 => exact habove.exists_reverse_eq isSegment_nil
  | case4 above last hdouble hsingle =>
    have hlast := List.forall_mem_singleton.1 hsegs
    exact habove.exists_reverse_eq
      ⟨hlast, eq_false_of_ne_true hdouble, eq_false_of_ne_true hsingle⟩
  | case5 _ _ _ hrest _ ih => exact ih habove.shorten hrest (List.forall_mem_cons.1 hsegs).2
  | case6 _ _ _ hrest _ _ ih => exact ih habove hrest (List.forall_mem_cons.1 hsegs).2
  | case7 above seg rest hrest hdouble hsingle ih =>
    have hcons := List.forall_mem_cons.1 hsegs
    exact ih (habove.cons ⟨hcons.1, eq_false_of_ne_true hdouble,
      eq_false_of_ne_true hsingle⟩) hrest hcons.2

/-! ## Settled paths -/

/-- A path in the form that is kept: segments that stand for themselves, each behind a slash. -/
def IsPath (p : List Char) : Prop :=
  ∃ rest ≠ [], p = List.intercalate ['/'] ([] :: rest) ∧ ∀ seg ∈ rest, IsSegment seg

variable {p : List Char}

theorem IsPath.head? (hp : IsPath p) : p.head? = some '/' := by
  obtain ⟨rest, hne, rfl, -⟩ := hp
  rw [List.intercalate_cons_of_ne_nil hne]
  rfl

theorem IsPath.isKept (hp : IsPath p) : ∀ c ∈ p, IsKept pathSet c := by
  obtain ⟨rest, hne, rfl, hrest⟩ := hp
  intro c hc
  obtain rfl | ⟨seg, hseg, hc⟩ := mem_intercalate hc
  · decide
  · obtain rfl | hseg := List.mem_cons.1 hseg
    · cases hc
    · exact ((hrest seg hseg).kept c hc).1

/-- What begins a query or a fragment is encoded in a path. -/
theorem beforeQuery_eq (hs : ∀ c ∈ s, IsKept pathSet c) : beforeQuery s = s := by
  have hne (d : Char) (hd : d ∈ pathSet) (c : Char) (hc : c ∈ s) : (c != d) = true :=
    bne_iff_ne.2 fun heq => (hs c hc).2.2 (heq ▸ hd)
  rw [beforeQuery, List.takeWhile_eq_self_iff]
  intro c hc
  rw [hne '?' (by decide) c hc, hne '#' (by decide) c hc, Bool.and_true]

/-- What is read as a path is settled. -/
theorem isPath_rootedPath (s : List Char) : IsPath (rootedPath ('/' :: s)) := by
  have hencoded : (beforeQuery ('/' :: s)).flatMap (encode pathSet) =
      '/' :: (beforeQuery s).flatMap (encode pathSet) := rfl
  have hkept : ∀ c ∈ (beforeQuery s).flatMap (encode pathSet), IsKept pathSet c :=
    forall_mem_flatMap_encode (fun c _ hc => hc) (by decide) (by decide)
  -- The first segment, before the leading slash, is the root.
  have hroot : Above.IsSettled [[]] := ⟨[], rfl, List.forall_mem_nil _⟩
  generalize (beforeQuery s).flatMap (encode pathSet) = t at hencoded hkept
  have hne := segments_ne_nil t
  obtain ⟨rest, hrest, hresolved, hsegments⟩ := exists_resolveSegments_eq hroot hne
    fun seg hseg c hc => ⟨hkept c (mem_segments seg hseg c hc).1, (mem_segments seg hseg c hc).2⟩
  have hsegs : segments ('/' :: t) = [] :: segments t := segments_append (List.forall_mem_nil _)
  have hfirst : resolveSegments [] ([] :: segments t) = resolveSegments [[]] (segments t) := by
    obtain ⟨seg, segs, hcons⟩ := List.exists_cons_of_ne_nil hne
    rw [hcons]
    rfl
  exact ⟨rest, hrest, by rw [rootedPath, hencoded, hsegs, hfirst, hresolved], hsegments⟩

/-- A settled path is read as itself. -/
theorem rootedPath_of_isPath (hp : IsPath p) : rootedPath p = p := by
  rw [rootedPath, beforeQuery_eq hp.isKept, flatMap_encode_of_isKept hp.isKept]
  obtain ⟨rest, hne, rfl, hrest⟩ := hp
  have hall : ∀ seg ∈ [] :: rest, IsSegment seg := List.forall_mem_cons.2 ⟨isSegment_nil, hrest⟩
  rw [segments_intercalate (List.cons_ne_nil _ _)
      fun seg hseg c hc => ((hall seg hseg).kept c hc).2,
    resolveSegments_eq fun seg hseg => ⟨(hall seg hseg).notDouble, (hall seg hseg).notSingle⟩]
  rfl

end Testbed.Endpoint.Url
