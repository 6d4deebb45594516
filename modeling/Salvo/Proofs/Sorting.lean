/-!
# Stable sorting

Merge sort does not move entries past each other that it takes for alike. So where it sorts by a part
of what a list is in order of, the rest of that order is kept among entries that are alike
(`pairwise_mergeSort_of_pairwise`).
-/

namespace Salvo

section

variable {α : Type} {le : α → α → Bool}
  (trans : ∀ a b c, le a b = true → le b c = true → le a c = true)
  (total : ∀ a b, (le a b || le b a) = true)

include trans total

/-- Entries that may stand in any order stay in the order that they are in. -/
theorem filter_mergeSort {l : List α} {p : α → Bool}
    (h : ∀ a ∈ l.filter p, ∀ b ∈ l.filter p, le a b = true) :
    (l.mergeSort le).filter p = l.filter p := by
  have hsublist : (l.filter p).Sublist (l.mergeSort le) :=
    List.sublist_mergeSort trans total (List.pairwise_of_forall_mem_list h) List.filter_sublist
  have hfilter := hsublist.filter p
  rw [List.filter_filter] at hfilter
  simp only [Bool.and_self] at hfilter
  refine (hfilter.eq_of_length ?_).symm
  rw [← List.countP_eq_length_filter, ← List.countP_eq_length_filter,
    (List.mergeSort_perm l le).countP_eq]

/-- A list that is in some order is sorted by another one, with the first order among entries that
are alike in the other one. -/
theorem pairwise_mergeSort_of_pairwise {R : α → α → Prop} {l : List α} (h : l.Pairwise R) :
    (l.mergeSort le).Pairwise fun a b => le a b = true ∧ (le b a = true → R a b) := by
  have hsorted : (l.mergeSort le).Pairwise fun a b => le a b = true :=
    List.pairwise_mergeSort trans total l
  rw [List.pairwise_iff_forall_sublist]
  intro a b hab
  have hle : le a b = true := List.pairwise_iff_forall_sublist.1 hsorted hab
  refine ⟨hle, fun hge => ?_⟩
  have hrefl : le a a = true := trans a b a hle hge
  -- The entries that are alike with `a`, among them `b`, are the same ones before and after sorting.
  have halike : (l.mergeSort le).filter (fun c => le a c && le c a) =
      l.filter fun c => le a c && le c a := by
    refine filter_mergeSort trans total fun c hc d hd => ?_
    have hc := Bool.and_eq_true_iff.1 (List.mem_filter.1 hc).2
    have hd := Bool.and_eq_true_iff.1 (List.mem_filter.1 hd).2
    exact trans c a d hc.2 hd.1
  have hpair : [a, b].filter (fun c => le a c && le c a) = [a, b] := by
    simp [hrefl, hle, hge]
  have hfilter := hab.filter fun c => le a c && le c a
  rw [hpair, halike] at hfilter
  exact List.pairwise_iff_forall_sublist.1 h (hfilter.trans List.filter_sublist)

end

end Salvo
