import Mathlib.Data.List.Sort

/-!
# Sorting that keeps the order of equals

Diagnostics are sorted by position only, so what is known of a listing has to survive a sort that
does not tell all its elements apart. Sorting is stable: selecting and sorting commute, and a part
of a list is sorted to a part of the sorted list. Both are proved for insertion, which does the
same as merging.
-/

namespace YiiNavigator
namespace StableSort

variable {α : Type} {le : α → α → Bool}

/-- Merge sort puts the head of a list where insertion puts it. -/
lemma mergeSort_eq_insertionSort (trans : ∀ a b c, le a b → le b c → le a c)
    (total : ∀ a b, le a b || le b a) (l : List α) :
    l.mergeSort le = l.insertionSort (le · · = true) := by
  induction l with
  | nil => simp
  | cons a l ih =>
    obtain ⟨before, after, hsorted, htail, hbefore⟩ := List.mergeSort_cons trans total a l
    have hpairwise : (before ++ a :: after).Pairwise (le · · = true) :=
      hsorted ▸ List.pairwise_mergeSort trans total (a :: l)
    obtain ⟨-, hafter, -⟩ := List.pairwise_append.1 hpairwise
    have htake : ∀ b ∈ before, decide (¬le a b = true) = true := by simpa using hbefore
    rw [hsorted, List.insertionSort_cons, ← ih, htail, List.orderedInsert_eq_take_drop]
    rw [List.takeWhile_append_of_pos htake, List.dropWhile_append_of_pos htake]
    rcases after with - | ⟨c, after⟩
    · simp
    · have hac : le a c = true := (List.pairwise_cons.1 hafter).1 c List.mem_cons_self
      simp [hac]

lemma filter_orderedInsert (trans : ∀ a b c, le a b → le b c → le a c) (p : α → Bool) (a : α)
    {l : List α} (hl : l.Pairwise (le · · = true)) :
    (l.orderedInsert (le · · = true) a).filter p
      = if p a then (l.filter p).orderedInsert (le · · = true) a else l.filter p := by
  induction l with
  | nil => cases hp : p a <;> simp [hp]
  | cons b l ih =>
    obtain ⟨hb, hl'⟩ := List.pairwise_cons.1 hl
    by_cases hab : le a b = true
    · rw [List.orderedInsert_cons, if_pos hab]
      rcases hp : p a with - | -
      · simp [List.filter_cons, hp]
      · have hfirst : ∀ c ∈ (b :: l).filter p, le a c = true := by
          intro c hc
          rcases List.mem_cons.1 (List.mem_filter.1 hc).1 with rfl | hc
          · exact hab
          · exact trans a b c hab (hb c hc)
        rw [List.filter_cons_of_pos hp, if_pos rfl]
        cases hrest : (b :: l).filter p with
        | nil => rfl
        | cons c rest =>
          rw [List.orderedInsert_cons, if_pos (hfirst c (hrest ▸ List.mem_cons_self))]
    · rw [List.orderedInsert_cons, if_neg hab]
      by_cases hp : p b = true
      · rw [List.filter_cons_of_pos hp, ih hl', List.filter_cons_of_pos hp]
        rcases p a with - | -
        · rfl
        · rw [if_pos rfl, if_pos rfl, List.orderedInsert_cons, if_neg hab]
      · rw [List.filter_cons_of_neg hp, ih hl', List.filter_cons_of_neg hp]

variable (trans : ∀ a b c, le a b → le b c → le a c) (total : ∀ a b, le a b || le b a)

include trans total

/-- The elements of a class stand in the sorted list as they do when they are sorted alone. -/
theorem filter_mergeSort (p : α → Bool) (l : List α) :
    (l.mergeSort le).filter p = (l.filter p).mergeSort le := by
  induction l with
  | nil => simp
  | cons a l ih =>
    have hpairwise := List.pairwise_mergeSort trans total l
    rw [mergeSort_eq_insertionSort trans total, List.insertionSort_cons,
      ← mergeSort_eq_insertionSort trans total, filter_orderedInsert trans p a hpairwise, ih]
    by_cases hp : p a = true
    · rw [if_pos hp, List.filter_cons_of_pos hp, mergeSort_eq_insertionSort trans total,
        mergeSort_eq_insertionSort trans total, List.insertionSort_cons]
    · rw [if_neg hp, List.filter_cons_of_neg hp]

/-- Elements that the order does not tell apart keep their order. -/
theorem filter_mergeSort_of_ties {p : α → Bool} {l : List α}
    (h : ∀ a ∈ l, ∀ b ∈ l, p a = true → p b = true → le a b = true) :
    (l.mergeSort le).filter p = l.filter p := by
  rw [filter_mergeSort trans total]
  -- sorted alone, the class is in order as it stands
  apply List.mergeSort_of_pairwise
  refine List.pairwise_of_forall_mem_list fun a ha b hb => ?_
  rw [List.mem_filter] at ha hb
  exact h a ha.1 b hb.1 ha.2 hb.2

/-- A part of a list is sorted to a part of the sorted list. -/
theorem mergeSort_sublist {l₁ l₂ : List α} (h : l₁.Sublist l₂) :
    (l₁.mergeSort le).Sublist (l₂.mergeSort le) := by
  have : IsTrans α (le · · = true) := ⟨trans⟩
  rw [mergeSort_eq_insertionSort trans total, mergeSort_eq_insertionSort trans total]
  induction h with
  | slnil => exact List.Sublist.refl _
  | cons a _ ih => exact ih.trans (List.sublist_orderedInsert _ _)
  | @cons_cons _ l₂ a _ ih =>
    refine ih.orderedInsert_sublist a ?_
    rw [← mergeSort_eq_insertionSort trans total]
    exact List.pairwise_mergeSort trans total l₂

end StableSort
end YiiNavigator
