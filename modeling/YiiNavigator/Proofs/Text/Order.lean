import Mathlib.Data.List.Basic
import Mathlib.Data.List.Nodup
import YiiNavigator.Text.Basic

/-!
# Sorted texts

The order by code points is total, so that a list of texts can be told to be sorted from each two of
them. Sorting and leaving out repetitions keep the texts of a list.
-/

namespace YiiNavigator
namespace Text

/-! ## The order by code points -/

lemma precedes_refl (a : Text) : precedes a a = true := by
  induction a with
  | nil => rfl
  | cons x a ih => rwa [precedes, if_pos rfl]

lemma precedes_trans (a b c : Text) (hab : precedes a b = true) (hbc : precedes b c = true) :
    precedes a c = true := by
  induction a generalizing b c with
  | nil => rfl
  | cons x a ih =>
    rcases b with - | ⟨y, b⟩
    · cases hab
    rcases c with - | ⟨z, c⟩
    · cases hbc
    rw [precedes] at hab hbc ⊢
    -- the first characters decide, unless they are the same all through
    by_cases hxy : x = y
    · rw [if_pos hxy] at hab
      rw [hxy]
      by_cases hyz : y = z
      · rw [if_pos hyz] at hbc ⊢
        exact ih b c hab hbc
      · rwa [if_neg hyz] at hbc ⊢
    · rw [if_neg hxy] at hab
      by_cases hyz : y = z
      · rwa [← hyz, if_neg hxy]
      · rw [if_neg hyz, decide_eq_true_eq] at hbc
        rw [decide_eq_true_eq] at hab
        have hxz : x.toNat < z.toNat := Nat.lt_trans hab hbc
        have hne : x ≠ z := fun heq => Nat.lt_irrefl _ (heq ▸ hxz)
        rw [if_neg hne, decide_eq_true_eq]
        exact hxz

lemma precedes_total (a b : Text) : (precedes a b || precedes b a) = true := by
  induction a generalizing b with
  | nil => rfl
  | cons x a ih =>
    rcases b with - | ⟨y, b⟩
    · rfl
    rw [precedes, precedes]
    by_cases hxy : x = y
    · rw [if_pos hxy, if_pos hxy.symm]
      exact ih b
    · have hne : x.toNat ≠ y.toNat := fun heq => hxy (Char.toNat_inj.1 heq)
      rw [if_neg hxy, if_neg (Ne.symm hxy), Bool.or_eq_true, decide_eq_true_eq, decide_eq_true_eq]
      exact Nat.lt_or_gt_of_ne hne

/-! ## Sorting -/

lemma sorted_perm (texts : List Text) : (sorted texts).Perm texts :=
  List.mergeSort_perm _ _

lemma pairwise_sorted (texts : List Text) :
    (sorted texts).Pairwise fun a b => precedes a b = true :=
  List.pairwise_mergeSort precedes_trans precedes_total texts

/-! ## Leaving out repetitions -/

lemma nodup_eraseDups (texts : List Text) : texts.eraseDups.Nodup := by
  rcases texts with - | ⟨first, rest⟩
  · exact List.nodup_nil
  · -- the texts that equal the one that is kept are taken out of the rest
    rw [List.eraseDups_cons, List.nodup_cons, List.mem_eraseDups, List.mem_filter]
    exact ⟨fun hfirst => by simp at hfirst, nodup_eraseDups _⟩
termination_by texts.length
decreasing_by exact Nat.lt_succ_of_le (List.length_filter_le _ _)

end Text
end YiiNavigator
