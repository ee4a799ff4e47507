import Mathlib.Data.Int.Notation
import Mathlib.Data.List.Induction
import Mathlib.Data.List.TakeWhile
import YiiNavigator.Proofs.Text.Basic
import YiiNavigator.Text.Position

/-!
# Offsets and positions

The position of an offset counts the line feeds before it and the characters after the last of
them (`positionAt_eq`), and it leads back to the offset (`offsetAt_positionAt`).
-/

namespace YiiNavigator
namespace Text

/-- The number of characters after the last line feed. -/
def lastColumn (text : Text) : ℕ :=
  (text.reverse.takeWhile (· ≠ '\n')).length

lemma lastColumn_append_singleton (text : Text) (c : Char) :
    lastColumn (text ++ [c]) = if c = '\n' then 0 else lastColumn text + 1 := by
  by_cases h : c = '\n' <;> simp [lastColumn, h]

lemma lastColumn_eq_length {text : Text} (h : '\n' ∉ text) : lastColumn text = text.length := by
  have hreverse : '\n' ∉ text.reverse := fun hc => h (List.mem_reverse.1 hc)
  rw [lastColumn, List.takeWhile_eq_self_iff.2 (forall_ne_of_notMem hreverse),
    List.length_reverse]

/-- A character in front of a text with a line feed at or behind it does not move the column. -/
lemma lastColumn_cons {text : Text} {c : Char} (h : '\n' ∈ c :: text) :
    lastColumn (c :: text) = lastColumn text := by
  induction text using List.reverseRecOn with
  | nil =>
    have hc : c = '\n' := by simpa [eq_comm] using h
    rw [hc]
    rfl
  | append_singleton text d ih =>
    rw [← List.cons_append, lastColumn_append_singleton, lastColumn_append_singleton]
    by_cases hd : d = '\n'
    · rw [if_pos hd, if_pos hd]
    · rw [if_neg hd, if_neg hd, ih]
      simpa [hd, eq_comm] using h

/-! ## From an offset to its position -/

lemma foldl_advance (text : Text) :
    text.foldl Position.advance .origin = ⟨text.count '\n', lastColumn text⟩ := by
  induction text using List.reverseRecOn with
  | nil => rfl
  | append_singleton text c ih =>
    rw [List.foldl_append, ih, lastColumn_append_singleton, List.count_append]
    by_cases h : c = '\n'
    · simp [Position.advance, h]
    · simp [Position.advance, h]

/-- The row of an offset is the number of line feeds before it, and its column the number of
characters after the last of these. -/
lemma positionAt_eq (text : Text) (offset : ℤ) :
    text.positionAt offset
      = ⟨(text.take (text.clamp offset)).count '\n', lastColumn (text.take (text.clamp offset))⟩ :=
  foldl_advance _

/-! ## Back to the offset -/

lemma offsetOnLine_append (before after : Text) :
    offsetOnLine (lastColumn before) (before.count '\n') (before ++ after) = before.length := by
  induction before with
  | nil => simp [lastColumn, offsetOnLine]
  | cons c before ih =>
    by_cases h : '\n' ∈ c :: before
    · rw [lastColumn_cons h]
      by_cases hc : c = '\n'
      · subst hc
        rw [List.count_cons_self, List.cons_append, offsetOnLine, if_pos rfl, ih,
          List.length_cons, Nat.add_comm]
      · obtain ⟨rows, hrows⟩ : ∃ rows, before.count '\n' = rows + 1 := by
          refine Nat.exists_eq_add_one.2 (List.count_pos_iff.2 ?_)
          exact (List.mem_cons.1 h).resolve_left (Ne.symm hc)
        rw [List.count_cons_of_ne hc, hrows, List.cons_append, offsetOnLine, if_neg hc, ← hrows,
          ih, List.length_cons, Nat.add_comm]
    · -- the whole front is on the first line, which may go on behind it
      rw [lastColumn_eq_length h, List.count_eq_zero.2 h, offsetOnLine,
        List.takeWhile_append_of_pos (forall_ne_of_notMem h), List.length_append]
      omega

/-- The position of an offset leads back to it, or to the end of the text that it lies beyond. -/
lemma offsetAt_positionAt (text : Text) (offset : ℤ) :
    text.offsetAt (text.positionAt offset) = text.clamp offset := by
  have hclamp : text.clamp offset ≤ text.length := Nat.min_le_right _ _
  have h := offsetOnLine_append (text.take (text.clamp offset)) (text.drop (text.clamp offset))
  rw [List.take_append_drop, List.length_take, Nat.min_eq_left hclamp] at h
  rw [positionAt_eq, offsetAt, if_neg (by simp)]
  exact h

lemma clamp_natCast {text : Text} {n : ℕ} (h : n ≤ text.length) : text.clamp n = n :=
  Nat.min_eq_left h

/-! ## In front of more text -/

/-- The position of an offset depends on the text before the offset alone. -/
lemma positionAt_append {text : Text} {n : ℕ} (h : n ≤ text.length) (after : Text) :
    (text ++ after).positionAt n = text.positionAt n := by
  have hle : n ≤ (text ++ after).length := by
    rw [List.length_append]
    exact Nat.le_add_right_of_le h
  unfold positionAt
  rw [clamp_natCast hle, clamp_natCast h, List.take_append_of_le_length h]

end Text
end YiiNavigator
