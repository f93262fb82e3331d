import Testbed.Bytes
import Mathlib.Data.List.Basic

/-!
# The order of octets

Where texts are listed they stand in the order of their octets, which is the lexicographic
one.

* `le_iff`: the decision is that of the order on lists;
* `pairwise_lt_mergeSort`: distinct texts, once sorted, are strictly increasing.
-/

namespace Testbed.Bytes

theorem le_iff {a b : Bytes} : le a b = true ↔ a ≤ b := by
  induction a generalizing b with
  | nil => simp [le]
  | cons x a ih =>
    cases b with
    | nil => simp [le]
    | cons y b => simp [le, ih, List.cons_le_cons_iff]

theorem lt_of_le_of_ne {a b : Bytes} (h : a ≤ b) (hne : a ≠ b) : a < b := by
  by_contra hlt
  exact hne (List.le_antisymm h hlt)

/-- Distinct texts that are sorted by their octets are strictly increasing. -/
theorem pairwise_lt_mergeSort {l : List String} (hl : l.Nodup) :
    (l.mergeSort fun a b => le (ofString a) (ofString b)).Pairwise fun a b =>
      ofString a < ofString b := by
  have hsorted : (l.mergeSort fun a b => le (ofString a) (ofString b)).Pairwise fun a b =>
      le (ofString a) (ofString b) = true := by
    refine List.pairwise_mergeSort (fun a b c hab hbc => ?_) (fun a b => ?_) l
    · exact le_iff.2 (List.le_trans (le_iff.1 hab) (le_iff.1 hbc))
    · simpa [le_iff] using List.le_total (ofString a) (ofString b)
  have hdistinct := (List.mergeSort_perm l fun a b => le (ofString a) (ofString b)).nodup_iff.2 hl
  refine hsorted.imp₂ (fun a b hab hne => ?_) hdistinct
  exact lt_of_le_of_ne (le_iff.1 hab) fun h => hne (ofString_inj h)

end Testbed.Bytes
