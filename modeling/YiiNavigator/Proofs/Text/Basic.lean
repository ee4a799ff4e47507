import Mathlib.Data.List.Basic
import YiiNavigator.Text.Basic

/-!
# Cuts of a text at a character

What follows the last occurrence of a character, and a text from whose end a character is trimmed.
-/

namespace YiiNavigator
namespace Text

variable {c : Char} {text front last : Text}

/-- No character of a text is one that the text does not have. -/
lemma forall_ne_of_notMem (h : c ∉ text) : ∀ d ∈ text, decide (d ≠ c) = true := by
  intro d hd
  rw [decide_eq_true_eq]
  rintro rfl
  exact h hd

/-- A list with an element is cut at its last occurrence. -/
lemma exists_last {α : Type} {a : α} {elements : List α} (h : a ∈ elements) :
    ∃ front last, elements = front ++ a :: last ∧ a ∉ last := by
  obtain ⟨last, front, hreverse, hlast⟩ := List.eq_append_cons_of_mem (List.mem_reverse.2 h)
  refine ⟨front.reverse, last.reverse, ?_, fun h => hlast (List.mem_reverse.1 h)⟩
  rw [← List.reverse_reverse elements, hreverse]
  simp

/-- What follows the last occurrence of a character. -/
lemma takeWhile_reverse_ne (h : c ∉ last) :
    ((front ++ c :: last).reverse.takeWhile (· ≠ c)).reverse = last := by
  have hlast : c ∉ last.reverse := fun hc => h (List.mem_reverse.1 hc)
  rw [List.reverse_append, List.reverse_cons, List.append_assoc,
    List.takeWhile_append_of_pos (forall_ne_of_notMem hlast)]
  simp

/-- Trimming changes nothing of a text that does not end in the character. -/
lemma trimEnd_eq_self (h : text.getLast? ≠ some c) : Text.trimEnd text c = text := by
  unfold Text.trimEnd
  rcases List.eq_nil_or_concat' text with rfl | ⟨init, d, rfl⟩
  · rfl
  · rw [List.getLast?_concat] at h
    have hd : ¬(d == c) = true := fun heq => h (by rw [eq_of_beq heq])
    rw [List.reverse_append, List.reverse_singleton, List.singleton_append,
      List.dropWhile_cons_of_neg (p := (· == c)) hd]
    simp

/-- A text that does not end in a character, trimmed after that character is put to its end. -/
lemma trimEnd_concat (h : text.getLast? ≠ some c) : Text.trimEnd (text ++ [c]) c = text := by
  have htrim : Text.trimEnd (text ++ [c]) c = Text.trimEnd text c := by
    unfold Text.trimEnd
    rw [List.reverse_append, List.reverse_singleton, List.singleton_append,
      List.dropWhile_cons_of_pos (p := (· == c)) (beq_self_eq_true c)]
  rw [htrim, trimEnd_eq_self h]

end Text
end YiiNavigator
